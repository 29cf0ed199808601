import PromptRules.Journal.Shorten
import PromptRules.Proofs.Decimal.Written

/-!
# What shortening leaves of a value

A shortened value is bounded whatever it was made from: in its depth, in the items of its lists and
the entries of its maps, and in the characters of its texts. A value that is small in all of these
is left as it is. Both are shown level by level, from the deepest one that is kept upwards.

Results:
* `shorten_list`, `shorten_map`: what shortening makes of a container, without the recursion over
  its items and entries.
* `fits_of_lies_shorten`: the bounds, for a value at any depth.
* `shorten_eq_self`: a value with room below it is left as it is.
* `shorten_bounds`: both for a value on the top level.
-/

namespace PromptRules.Journal

open Data Decimal

/-! ## Values in values -/

/-- The value lies in the other one, with so many containers around it. -/
inductive Lies (v : Tree) : Nat → Tree → Prop
  | here : Lies v 0 v
  | item {depth : Nat} {items : List Tree} {t : Tree} :
      t ∈ items → Lies v depth t → Lies v (depth + 1) (.list items)
  | entry {depth : Nat} {entries : Record} {key : String} {t : Tree} :
      (key, t) ∈ entries → Lies v depth t → Lies v (depth + 1) (.map entries)

/-- How many items or entries a value has; none if it is no container. -/
def width : Tree → Nat
  | .list items => items.length
  | .map entries => entries.length
  | _ => 0

/-- A value that shortening has nothing to cut off from; what lies in it does not count. -/
def IsSmall : Tree → Prop
  | .text s => s.length ≤ maxText
  | .list items => items.length ≤ maxItems
  | .map entries => entries.length ≤ maxEntries
  | _ => True

/-- A long text cut off, with the note of its length. -/
def cutOff (s : String) : String :=
  String.ofList (s.toList.take maxText) ++ s!"... ({s.length} chars)"

/-- The note about the items that were left out of a list. -/
def itemsNote (n : Nat) : String := s!"... +{n} more"

/-- The note about the entries that were left out of a map. -/
def entriesNote (n : Nat) : String := s!"+{n} keys"

/-- A count with so many digits that a note about it would be longer than a text may be. -/
def vast : Nat := 10 ^ 190

/-- A text that may stand in a value shortened from `t`. It is not long, or a long text of `t` that
    was cut off. Only the note about a container of a size that no memory holds would be another
    one. -/
def TextFits (t : Tree) (s : String) : Prop :=
  s.length ≤ maxText ∨
  (∃ depth u, Lies (.text u) depth t ∧ maxText < u.length ∧ s = cutOff u) ∨
  ∃ depth v, Lies v depth t ∧ vast ≤ width v ∧
    (s = itemsNote (width v - maxItems) ∨ s = entriesNote (width v - maxEntries))

/-- A value that may lie at a depth in a value shortened from `t`: a container lies no deeper than
    what is kept and has at most one item or entry more than what is kept whole, and any other
    value lies no deeper than a container may have its items. -/
def Fits (t : Tree) (depth : Int) : Tree → Prop
  | .list items => depth ≤ maxDepth ∧ items.length ≤ maxItems + 1
  | .map entries => depth ≤ maxDepth ∧ entries.length ≤ maxEntries + 1
  | .text s => depth ≤ maxDepth + 1 ∧ TextFits t s
  | _ => depth ≤ maxDepth + 1

variable {t u v : Tree} {k : Nat} {depth : Int} {items : List Tree} {entries : Record} {s : String}

/-! ## One level -/

theorem shortenItems_eq (room : Nat) (depth : Int) (items : List Tree) :
    shortenItems room depth items = (items.take room).map (shorten depth) := by
  induction items generalizing room with
  | nil => cases room <;> rfl
  | cons t ts ih =>
    cases room with
    | zero => rfl
    | succ room => rw [shortenItems, ih, List.take_succ_cons, List.map_cons]

theorem shortenEntries_eq (room : Nat) (depth : Int) (entries : Record) :
    shortenEntries room depth entries =
      (entries.take room).map fun e => (e.1, shorten depth e.2) := by
  induction entries generalizing room with
  | nil => cases room <;> rfl
  | cons e es ih =>
    obtain ⟨key, t⟩ := e
    cases room with
    | zero => rfl
    | succ room => rw [shortenEntries, ih, List.take_succ_cons, List.map_cons]

theorem shorten_list (hd : depth ≤ maxDepth) (items : List Tree) :
    shorten depth (.list items) =
      .list ((items.take maxItems).map (shorten (depth + 1)) ++ itemsLeftOut items.length) := by
  rw [shorten, if_neg (Int.not_lt.2 hd), shortenItems_eq]

theorem shorten_map (hd : depth ≤ maxDepth) (entries : Record) :
    shorten depth (.map entries) = .map (noteLeftOut entries.length
      ((entries.take maxEntries).map fun e => (e.1, shorten (depth + 1) e.2))) := by
  rw [shorten, if_neg (Int.not_lt.2 hd), shortenEntries_eq]

theorem shorten_text (hd : depth ≤ maxDepth) (s : String) :
    shorten depth (.text s) = .text (shortText s) := by
  rw [shorten, if_neg (Int.not_lt.2 hd)]

theorem shortText_of_long (h : maxText < s.length) : shortText s = cutOff s := by
  rw [shortText, if_neg (Nat.not_le.2 h)]
  rfl

theorem itemsLeftOut_of_long {n : Nat} (h : maxItems < n) :
    itemsLeftOut n = [.text (itemsNote (n - maxItems))] := by
  rw [itemsLeftOut, if_neg (Nat.not_le.2 h)]
  rfl

theorem noteLeftOut_of_long {n : Nat} (h : maxEntries < n) (kept : Record) :
    noteLeftOut n kept = Assoc.put kept "_truncated" (.text (entriesNote (n - maxEntries))) := by
  rw [noteLeftOut, if_neg (Nat.not_le.2 h)]
  rfl

/-! ## Notes -/

theorem length_toString_le {n : Nat} (h : n < vast) : (toString n).length ≤ 190 := by
  rw [← String.length_toList, toList_toString]
  exact (Nat.length_toDigits_le_iff (by decide) (by decide)).2 h

theorem length_itemsNote_le {n : Nat} (h : n < vast) : (itemsNote n).length ≤ maxText := by
  have hdigits := length_toString_le h
  have hlength : (itemsNote n).length = 5 + (toString n).length + 5 := by
    rw [itemsNote, String.length_append, String.length_append]
    rfl
  rw [hlength, maxText]
  omega

theorem length_entriesNote_le {n : Nat} (h : n < vast) : (entriesNote n).length ≤ maxText := by
  have hdigits := length_toString_le h
  have hlength : (entriesNote n).length = 1 + (toString n).length + 5 := by
    rw [entriesNote, String.length_append, String.length_append]
    rfl
  rw [hlength, maxText]
  omega

theorem textFits_itemsNote (items : List Tree) :
    TextFits (.list items) (itemsNote (items.length - maxItems)) := by
  by_cases h : vast ≤ items.length
  · exact .inr (.inr ⟨0, .list items, .here, h, .inl rfl⟩)
  · exact .inl (length_itemsNote_le (by omega))

theorem textFits_entriesNote (entries : Record) :
    TextFits (.map entries) (entriesNote (entries.length - maxEntries)) := by
  by_cases h : vast ≤ entries.length
  · exact .inr (.inr ⟨0, .map entries, .here, h, .inr rfl⟩)
  · exact .inl (length_entriesNote_le (by omega))

theorem mem_itemsLeftOut {n : Nat} (h : u ∈ itemsLeftOut n) :
    u = .text (itemsNote (n - maxItems)) := by
  by_cases hn : maxItems < n
  · rw [itemsLeftOut_of_long hn] at h
    exact List.mem_singleton.1 h
  · rw [itemsLeftOut, if_pos (Nat.not_lt.1 hn)] at h
    cases h

theorem length_itemsLeftOut (n : Nat) : (itemsLeftOut n).length ≤ 1 := by
  unfold itemsLeftOut
  split
  · exact Nat.zero_le 1
  · exact Nat.le_refl 1

theorem mem_put {m : Record} {key : String} {e : String × Tree} (h : e ∈ Assoc.put m key u) :
    e ∈ m ∨ e = (key, u) := by
  induction m with
  | nil => exact .inr (List.mem_singleton.1 h)
  | cons first m ih =>
    rw [Assoc.put] at h
    split at h
    · exact (List.mem_cons.1 h).symm.imp_left (List.mem_cons_of_mem first)
    · rcases List.mem_cons.1 h with rfl | h
      · exact .inl List.mem_cons_self
      · exact (ih h).imp_left (List.mem_cons_of_mem first)

theorem length_put_le (m : Record) (key : String) (u : Tree) :
    (Assoc.put m key u).length ≤ m.length + 1 := by
  induction m with
  | nil => exact Nat.le_refl 1
  | cons first m ih =>
    rw [Assoc.put]
    split
    · exact Nat.le_succ _
    · exact Nat.succ_le_succ ih

theorem mem_noteLeftOut {n : Nat} {kept : Record} {e : String × Tree}
    (h : e ∈ noteLeftOut n kept) : e ∈ kept ∨ e.2 = .text (entriesNote (n - maxEntries)) := by
  by_cases hn : maxEntries < n
  · rw [noteLeftOut_of_long hn] at h
    exact (mem_put h).imp_right fun he => congrArg Prod.snd he
  · rw [noteLeftOut, if_pos (Nat.not_lt.1 hn)] at h
    exact .inl h

theorem length_noteLeftOut_le (n : Nat) (kept : Record) :
    (noteLeftOut n kept).length ≤ kept.length + 1 := by
  unfold noteLeftOut
  split
  · exact Nat.le_succ _
  · exact length_put_le _ _ _

theorem length_shortened_items (f : Tree → Tree) (items : List Tree) :
    ((items.take maxItems).map f ++ itemsLeftOut items.length).length ≤ maxItems + 1 := by
  rw [List.length_append, List.length_map]
  exact Nat.add_le_add (List.length_take_le _ _) (length_itemsLeftOut _)

theorem length_shortened_entries (f : String × Tree → String × Tree) (entries : Record) :
    (noteLeftOut entries.length ((entries.take maxEntries).map f)).length ≤ maxEntries + 1 := by
  refine Nat.le_trans (length_noteLeftOut_le _ _) (Nat.succ_le_succ ?_)
  rw [List.length_map]
  exact List.length_take_le _ _

/-! ## What is left is bounded -/

/-- What may stand in a part of a value may stand in the value. -/
theorem Fits.of_part (hpart : ∀ w k, Lies w k u → ∃ k', Lies w k' t) (h : Fits u depth v) :
    Fits t depth v := by
  cases v with
  | text s =>
    refine ⟨h.1, ?_⟩
    rcases h.2 with hshort | ⟨k, w, hw, hlong, hs⟩ | ⟨k, w, hw, hvast, hs⟩
    · exact .inl hshort
    · obtain ⟨k', hk'⟩ := hpart _ _ hw
      exact .inr (.inl ⟨k', w, hk', hlong, hs⟩)
    · obtain ⟨k', hk'⟩ := hpart _ _ hw
      exact .inr (.inr ⟨k', w, hk', hvast, hs⟩)
  | null | bool b | int n | float x | list items | map entries => exact h

theorem fits_text (hd : depth ≤ maxDepth + 1) (hs : TextFits t s) (h : Lies v k (.text s)) :
    Fits t (depth + k) v := by
  cases h
  exact ⟨by omega, hs⟩

theorem textFits_shortText (s : String) : TextFits (.text s) (shortText s) := by
  by_cases h : maxText < s.length
  · rw [shortText_of_long h]
    exact .inr (.inl ⟨0, s, .here, h, rfl⟩)
  · rw [shortText_of_short (Nat.not_lt.1 h)]
    exact .inl (Nat.not_lt.1 h)

/-- **What lies in a shortened value is within the bounds.** The induction is on the levels that
    are left below the depth; on the last of them nothing but a short text is left. -/
theorem fits_of_lies_shorten (hd : depth ≤ maxDepth + 1) (h : Lies v k (shorten depth t)) :
    Fits t (depth + k) v := by
  induction hn : (maxDepth + 1 - depth).toNat generalizing depth t k with
  | zero =>
    rw [shorten_of_deep (by omega)] at h
    exact fits_text hd (.inl (by decide)) h
  | succ n ih =>
    have hkept : depth ≤ maxDepth := by omega
    have hnext : depth + 1 ≤ maxDepth + 1 := by omega
    have hlevel : ∀ k : Nat, depth + ((k + 1 : Nat) : Int) = depth + 1 + k := fun k => by omega
    cases t with
    | null | bool b | int n | float x =>
      simp only [shorten, if_neg (Int.not_lt.2 hkept)] at h
      cases h
      show depth + 0 ≤ maxDepth + 1
      omega
    | text s =>
      rw [shorten_text hkept] at h
      exact fits_text hd (textFits_shortText s) h
    | list items =>
      rw [shorten_list hkept] at h
      cases h with
      | here => exact ⟨by omega, length_shortened_items _ items⟩
      | @item k _ u hu h =>
        rw [hlevel]
        rcases List.mem_append.1 hu with hu | hu
        · obtain ⟨item, hitem, rfl⟩ := List.mem_map.1 hu
          refine (ih hnext h (by omega)).of_part fun w k hw => ⟨k + 1, ?_⟩
          exact .item (List.mem_of_mem_take hitem) hw
        · rw [mem_itemsLeftOut hu] at h
          exact fits_text hnext (textFits_itemsNote items) h
    | map entries =>
      rw [shorten_map hkept] at h
      cases h with
      | here => exact ⟨by omega, length_shortened_entries _ entries⟩
      | @entry k _ key u hu h =>
        rw [hlevel]
        rcases mem_noteLeftOut hu with hu | hu
        · obtain ⟨e, he, heq⟩ := List.mem_map.1 hu
          obtain ⟨rfl, rfl⟩ := Prod.mk.inj heq
          refine (ih hnext h (by omega)).of_part fun w k hw => ⟨k + 1, ?_⟩
          exact .entry (List.mem_of_mem_take he) hw
        · obtain rfl : u = _ := hu
          exact fits_text hnext (textFits_entriesNote entries) h

/-! ## What is small stays -/

/-- **A value that is small and has room below it is left as it is.** -/
theorem shorten_eq_self
    (h : ∀ k v, Lies v k t → depth + k ≤ maxDepth ∧ IsSmall v) : shorten depth t = t := by
  induction hn : (maxDepth + 1 - depth).toNat generalizing depth t with
  | zero =>
    have hroom := (h 0 t .here).1
    omega
  | succ n ih =>
    obtain ⟨hroom, hsmall⟩ := h 0 t .here
    have hkept : depth ≤ maxDepth := by omega
    cases t with
    | null | bool b | int n | float x => simp only [shorten, if_neg (Int.not_lt.2 hkept)]
    | text s => rw [shorten_text hkept, shortText_of_short hsmall]
    | list items =>
      have hitems : ∀ t ∈ items, shorten (depth + 1) t = t := by
        refine fun t ht => ih (fun k v hv => ?_) (by omega)
        obtain ⟨hbelow, hv⟩ := h (k + 1) v (.item ht hv)
        exact ⟨by omega, hv⟩
      have hlength : items.length ≤ maxItems := hsmall
      rw [shorten_list hkept, List.take_of_length_le hlength, List.map_congr_left hitems,
        itemsLeftOut, if_pos hlength, List.append_nil, List.map_id']
    | map entries =>
      have hentries : ∀ e ∈ entries, (e.1, shorten (depth + 1) e.2) = e := by
        refine fun e he => Prod.ext rfl (ih (fun k v hv => ?_) (by omega))
        obtain ⟨hbelow, hv⟩ := h (k + 1) v (.entry he hv)
        exact ⟨by omega, hv⟩
      have hlength : entries.length ≤ maxEntries := hsmall
      rw [shorten_map hkept, List.take_of_length_le hlength, List.map_congr_left hentries,
        noteLeftOut, if_pos hlength, List.map_id']

/-- **A shortened value is bounded, and a small one is left as it is.** In the result every
    container has at most `maxDepth` containers around it and every other value at most one more;
    lists and maps have at most one item or entry more than is kept whole, and texts are not long
    but for the note behind one that was cut off. A value is left as it is if no text in it is long
    and no list or map large, and if nothing lies deeper in it than `maxDepth`. -/
theorem shorten_bounds (t : Tree) :
    (∀ depth v, Lies v depth (shorten 0 t) → Fits t depth v) ∧
    ((∀ depth v, Lies v depth t → depth ≤ maxDepth ∧ IsSmall v) → shorten 0 t = t) := by
  constructor
  · intro depth v h
    have hfits := fits_of_lies_shorten (by decide) h
    rwa [Int.zero_add] at hfits
  · intro h
    refine shorten_eq_self fun depth v hv => ?_
    rw [Int.zero_add]
    exact h depth v hv

/-- A value that reaches every limit: ten maps of twenty entries, each a list with a text of two
    hundred characters. -/
def brimful : Tree :=
  .list (List.replicate maxItems (.map ((List.range maxEntries).map fun n =>
    (toString n, .list [.text (String.ofList (List.replicate maxText 'x'))]))))

theorem small_of_lies_brimful (h : Lies v k brimful) : k ≤ maxDepth ∧ IsSmall v := by
  cases h with
  | here => exact ⟨by decide, Nat.le_of_eq List.length_replicate⟩
  | item hu h =>
    rw [List.eq_of_mem_replicate hu] at h
    cases h with
    | here => exact ⟨by decide, by simp [IsSmall]⟩
    | entry he h =>
      obtain ⟨n, -, heq⟩ := List.mem_map.1 he
      obtain ⟨-, rfl⟩ := Prod.mk.inj heq
      cases h with
      | here => exact ⟨by decide, by simp [IsSmall, maxItems]⟩
      | item hu h =>
        rw [List.mem_singleton.1 hu] at h
        cases h
        exact ⟨by decide, by simp [IsSmall, String.length_ofList]⟩

theorem shorten_bounds_brimful :
    (∀ depth v, Lies v depth brimful → depth ≤ maxDepth ∧ IsSmall v) ∧
      shorten 0 brimful = brimful :=
  ⟨fun _ _ => small_of_lies_brimful, (shorten_bounds brimful).2 fun _ _ => small_of_lies_brimful⟩

/-- Five lists in each other lose the innermost one, and the number beside it. -/
example : shorten 0 (.list [.list [.list [.list [.list [], .int 7]]]]) =
    .list [.list [.list [.list [.text "<nested>", .text "<nested>"]]]] := rfl

end PromptRules.Journal
