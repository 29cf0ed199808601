import PromptRules.Proofs.PresetFile.Noting
import PromptRules.Proofs.PresetFile.Persistence

/-!
# What toggles leave alone

A preset may hold much that no toggle is about: other characters, settings, fields that no one here
knows. In a preset without links all of that stays, value by value and in its order. Links break
this, since what is held at the place of the order list can be held at other places too.

Results:
* `sameBut_putField`, `sameBut_append`: a write below a field keeps all other fields, in order.
* `onlyAt_items_of_applies`, `onlyAt_order_of_applies`: toggles in a row, without and with an order
  list.
* `touched_of_applies`: what any toggles leave of a preset without links.
* `shared_backup`: the same fails for an order list that is held twice.
-/

namespace PromptRules.PresetFile

open Data Text

/-! ## Fields but one -/

/-- The second fields are the first, in the same order, but for the value under one key. -/
structure SameBut (key : String) (fields fields' : Fields) : Prop where
  keys : Assoc.keys fields' = Assoc.keys fields
  others : fields'.filter (fun e => e.1 ≠ .text key) = fields.filter fun e => e.1 ≠ .text key

namespace SameBut

variable {key : String} {fields fields' fields'' : Fields}

theorem refl (key : String) (fields : Fields) : SameBut key fields fields := ⟨rfl, rfl⟩

theorem trans (h : SameBut key fields fields') (h' : SameBut key fields' fields'') :
    SameBut key fields fields'' :=
  ⟨h'.keys.trans h.keys, h'.others.trans h.others⟩

/-- Values under the key are changed. -/
theorem map_at (key : String) (g : Node → Node) (fields : Fields) :
    SameBut key fields (fields.map fun e => if e.1 = .text key then (e.1, g e.2) else e) := by
  induction fields with
  | nil => exact refl key []
  | cons e fields ih =>
    obtain ⟨hkeys, hothers⟩ := ih
    rw [List.map_cons]
    by_cases he : e.1 = .text key
    · constructor
      · simpa [Assoc.keys, he] using hkeys
      · rw [if_pos he, List.filter_cons_of_neg (by simpa using he),
          List.filter_cons_of_neg (by simpa using he)]
        exact hothers
    · constructor
      · simpa [Assoc.keys, he] using hkeys
      · rw [if_neg he, List.filter_cons_of_pos (by simpa using he),
          List.filter_cons_of_pos (by simpa using he), hothers]

end SameBut

/-- A write below a field of a map keeps the other fields. -/
theorem sameBut_setAt (fields : Fields) (key : String) (p : Path) (v : Node) :
    ∃ fields', Node.setAt (.key key :: p) v (.map fields) = .map fields' ∧
      SameBut key fields fields' :=
  ⟨_, by rw [Node.setAt], SameBut.map_at key _ fields⟩

variable {d d' : Document} {key : String}

theorem sameBut_root (d : Document) (key : String) (p : Path) (v : Node) :
    SameBut key d.fields
      (Document.fields { root := Node.setAt (.key key :: p) v d.root }) := by
  obtain ⟨root, links⟩ := d
  cases root with
  | map fields =>
    obtain ⟨fields', hset, hsame⟩ := sameBut_setAt fields key p v
    rw [hset]
    exact hsame
  | _ => exact SameBut.refl key []

theorem sameBut_putField (hl : d.links = []) (key : String) (p : Path) (name : String) (v : Node) :
    SameBut key d.fields (d.putField (.key key :: p) name v).fields := by
  unfold Document.putField
  split
  · rw [Document.put_of_links (by simp [hl])]
    exact sameBut_root d key p _
  · exact SameBut.refl key _

theorem sameBut_append (hl : d.links = []) (key : String) (p : Path) (v : Node) :
    SameBut key d.fields (d.append (.key key :: p) v).fields := by
  unfold Document.append
  split
  · rw [Document.put_of_links hl]
    exact sameBut_root d key p _
  · exact SameBut.refl key _

theorem sameBut_markPrompts (e : String) (b : Bool) (i : Nat) (items : List Node)
    (hl : d.links = []) : SameBut "prompts" d.fields (markPrompts e b i items d).fields := by
  induction items generalizing i d with
  | nil => exact SameBut.refl _ _
  | cons item items ih =>
    rw [markPrompts]
    split
    · have hone := sameBut_putField hl "prompts" [.index i] "enabled" (.bool b)
      exact hone.trans (ih (i + 1) (Document.links_putField hl _ _ _))
    · exact ih (i + 1) hl

/-- The second document has no links and this value under the key; all else is as in the first, and
    in the same order. -/
structure OnlyAt (key : String) (v : Node) (d d' : Document) : Prop where
  links : d'.links = []
  self : field d'.fields key = v
  rest : SameBut key d.fields d'.fields

theorem OnlyAt.trans {v w : Node} {d'' : Document} (h : OnlyAt key v d d')
    (h' : OnlyAt key w d' d'') : OnlyAt key w d d'' where
  links := h'.links
  self := h'.self
  rest := h.rest.trans h'.rest

theorem OnlyAt.of_onlyField {v : Node} (h : OnlyField key v d d')
    (hrest : SameBut key d.fields d'.fields) : OnlyAt key v d d' :=
  ⟨h.links, h.self, hrest⟩

/-! ## One toggle -/

variable {e : String} {b : Bool} {entries items : List Node} {k : Nat} {entry : Fields}

theorem set_of_getElem? {l : List Node} {i : Nat} {t : Node} (h : l[i]? = some t) :
    l.set i t = l := by
  obtain ⟨hlt, rfl⟩ := List.getElem?_eq_some_iff.1 h
  exact List.set_getElem_self hlt

theorem onlyAt_write_items (hl : d.links = []) (hi : field d.fields "prompts" = .list items)
    (h : write none e b d = .ok d') :
    OnlyAt "prompts" (.list (items.map (markItem e b))) d d' := by
  rw [write, promptItems, hi] at h
  cases h
  exact .of_onlyField (onlyField_markPrompts [] items hl hi) (sameBut_markPrompts e b 0 items hl)

/-- The entry at a place after a write below its order list. -/
theorem onlyAt_entry {p : Path} {v order : Node} (hk : entries[k]? = some (.map entry))
    (ho : Assoc.get? entry (.text "order") = some order)
    (hd : OnlyField "prompt_order"
      (Node.setAt (.index k :: .key "order" :: p) v (.list entries)) d d')
    (hrest : SameBut "prompt_order" d.fields d'.fields) :
    ∃ entry', SameBut "order" entry entry' ∧ field entry' "order" = Node.setAt p v order ∧
      OnlyAt "prompt_order" (.list (entries.set k (.map entry'))) d d' := by
  obtain ⟨entry', hset, hself, _⟩ := exists_setAt_key ho p v
  obtain ⟨entry'', hset', hsame⟩ := sameBut_setAt entry "order" p v
  cases hset.symm.trans hset'
  rw [setAt_index hk, hset] at hd
  exact ⟨entry', hsame, hself, .of_onlyField hd hrest⟩

theorem sameBut_write_order (hl : d.links = []) (h : write (some k) e b d = .ok d') :
    SameBut "prompt_order" d.fields d'.fields := by
  obtain ⟨_, _, ⟨_, _, rfl⟩ | ⟨_, rfl⟩⟩ := mark_eq_ok h
  · exact sameBut_putField hl _ _ _ _
  · exact sameBut_append hl _ _ _

theorem onlyAt_write_order (hl : d.links = [])
    (he : field d.fields "prompt_order" = .list entries) (hk : entries[k]? = some (.map entry))
    (ho : field entry "order" = .list items) (h : write (some k) e b d = .ok d') :
    ∃ items' entry', Recorded e b items items' ∧ SameBut "order" entry entry' ∧
      field entry' "order" = .list items' ∧
      OnlyAt "prompt_order" (.list (entries.set k (.map entry'))) d d' := by
  have hget := get?_of_field ho rfl
  obtain ⟨_, items', p, v, hi, hrec, hset, hd⟩ := exists_recorded hl he hk hget h
  cases hi
  obtain ⟨entry', hsame, hself, hat⟩ := onlyAt_entry hk hget hd (sameBut_write_order hl h)
  exact ⟨items', entry', hrec, hsame, hself.trans hset, hat⟩

/-! ## Toggles in a row -/

variable {f f' : Loaded} {ts : List (String × Bool)}

theorem data_of_set_ok (h : (Loaded.set e b f).answer = .ok ()) :
    write f.place e b f.data = .ok (Loaded.set e b f).world.data ∧
      (Loaded.set e b f).world.place = f.place := by
  obtain ⟨store, data, text, _, hwrite, hworld⟩ := exists_of_set_ok h
  rw [hworld]
  exact ⟨hwrite, rfl⟩

/-- The induction is on the toggles; each makes the rest about a list that it has written. -/
theorem onlyAt_items_of_applies (hts : Applies Loaded.set ts f f') (hplace : f.place = none)
    (hl : f.data.links = []) (hi : field f.data.fields "prompts" = .list items) :
    OnlyAt "prompts" (.list (items.map (restate ts))) f.data f'.data := by
  induction hts generalizing items with
  | nil f =>
    have hid : restate [] = id := funext restate_nil
    rw [hid, List.map_id]
    exact ⟨hl, hi, SameBut.refl _ _⟩
  | @cons t ts f f' hok _ ih =>
    obtain ⟨hwrite, hkeep⟩ := data_of_set_ok hok
    rw [hplace] at hwrite hkeep
    have hone := onlyAt_write_items hl hi hwrite
    have hrest := ih hkeep hone.links hone.self
    rw [List.map_map] at hrest
    have hcomp : restate ts ∘ markItem t.1 t.2 = restate (t :: ts) :=
      funext (restate_markItem ts t.1 t.2)
    rw [hcomp] at hrest
    exact hone.trans hrest

theorem onlyAt_order_of_applies (hts : Applies Loaded.set ts f f') (hplace : f.place = some k)
    (hl : f.data.links = []) (he : field f.data.fields "prompt_order" = .list entries)
    (hk : entries[k]? = some (.map entry)) (ho : field entry "order" = .list items) :
    ∃ entry', SameBut "order" entry entry' ∧ field entry' "order" = .list (noted ts items) ∧
      OnlyAt "prompt_order" (.list (entries.set k (.map entry'))) f.data f'.data := by
  induction hts generalizing entries entry items with
  | nil f =>
    refine ⟨entry, SameBut.refl _ _, ?_, hl, ?_, SameBut.refl _ _⟩
    · rw [noted_nil, ho]
    · rw [set_of_getElem? hk, he]
  | @cons t ts f f' hok _ ih =>
    obtain ⟨hwrite, hkeep⟩ := data_of_set_ok hok
    rw [hplace] at hwrite hkeep
    obtain ⟨items₁, entry₁, hrec, hsame₁, ho₁, hone⟩ := onlyAt_write_order hl he hk ho hwrite
    have hlt : k < entries.length := (List.getElem?_eq_some_iff.1 hk).1
    obtain ⟨entry', hsame, ho', hrest⟩ :=
      ih hkeep hone.links hone.self (List.getElem?_set_self hlt) ho₁
    rw [List.set_set] at hrest
    rw [noted_recorded hrec] at ho'
    exact ⟨entry', hsame₁.trans hsame, ho', hone.trans hrest⟩

/-! ## From the file -/

/-- No order list is in use: the preset has no entries, or the order of the selected one is null. -/
def Unordered (character : Option Node) (d : Document) : Prop :=
  orders d = [] ∨ ∃ k entry, placeOf character (orders d) = .ok (some k) ∧
    (orders d)[k]? = some (.map entry) ∧ Assoc.get? entry (.text "order") = some .null

/-- The fields of an entry with an order list, an empty one at the end if it had none. -/
def withList (entry : Fields) : Fields :=
  match Assoc.get? entry (.text "order") with
  | some _ => entry
  | none => entry ++ [(.text "order", .list [])]

/-- What toggles make of the preset that a file holds. -/
inductive Touched (character : Option Node) (ts : List (String × Bool)) (d d' : Document) : Prop
  /-- Without an order list, the items about the prompts have their last states. -/
  | items {items : List Node} (hu : Unordered character d)
      (hi : field d.fields "prompts" = .list items)
      (hd : OnlyAt "prompts" (.list (items.map (restate ts))) d d')
  /-- With one, the selected entry has it and it has the last states of the prompts. -/
  | order {entries items : List Node} {k : Nat} {entry entry' : Fields}
      (he : field d.fields "prompt_order" = .list entries)
      (hk : placeOf character entries = .ok (some k))
      (hf : entries[k]? = some (.map entry))
      (ho : field (withList entry) "order" = .list items)
      (hrest : SameBut "order" (withList entry) entry')
      (ho' : field entry' "order" = .list (noted ts items))
      (hd : OnlyAt "prompt_order" (.list (entries.set k (.map entry'))) d d')
  /-- No toggle goes through where the order in use is something else. -/
  | idle (ht : ts = []) (hd : d' = d)

variable {character : Option Node} {place : Option Nat}

theorem withOrder_of_some {order : Node} (he : field d.fields "prompt_order" = .list entries)
    (hk : entries[k]? = some (.map entry)) (ho : Assoc.get? entry (.text "order") = some order) :
    withOrder k d = d := by
  rw [withOrder, entryAt_eq he hk, ho]

theorem onlyAt_withOrder (hl : d.links = []) (he : field d.fields "prompt_order" = .list entries)
    (hk : entries[k]? = some (.map entry)) :
    OnlyAt "prompt_order" (.list (entries.set k (.map (withList entry)))) d (withOrder k d) := by
  unfold withList
  cases ho : Assoc.get? entry (.text "order") with
  | some order =>
    rw [withOrder_of_some he hk ho, set_of_getElem? hk]
    exact ⟨hl, he, SameBut.refl _ _⟩
  | none =>
    have hd := onlyField_putField_index hl he hk "order" (.list [])
    rw [Assoc.put_eq_append ho] at hd
    rw [withOrder, entryAt_eq he hk, ho]
    exact .of_onlyField hd (sameBut_putField hl _ _ _ _)

theorem list_or_other (entry : Fields) :
    (∃ items, field (withList entry) "order" = .list items) ∨
      ∃ order, Assoc.get? entry (.text "order") = some order ∧ ∀ items, order ≠ .list items := by
  unfold withList
  cases ho : Assoc.get? entry (.text "order") with
  | none =>
    rw [← Assoc.put_eq_append ho]
    exact .inl ⟨[], field_put_self entry "order" (.list [])⟩
  | some order =>
    cases order with
    | list items => exact .inl ⟨items, field_of_get? ho⟩
    | _ => exact .inr ⟨_, rfl, fun items => Node.noConfusion⟩

/-- A toggle that goes through has found a list. -/
theorem eq_nil_of_applies (hts : Applies Loaded.set ts f f') (hplace : f.place = some k)
    (ho : ∀ items, orderAt f.data k ≠ .list items) : ts = [] ∧ f' = f := by
  cases hts with
  | nil => exact ⟨rfl, rfl⟩
  | cons hok _ =>
    obtain ⟨hwrite, _⟩ := data_of_set_ok hok
    rw [hplace] at hwrite
    obtain ⟨items, hitems, _⟩ := mark_eq_ok hwrite
    exact absurd hitems (ho items)

/-- **Toggles leave alone what they are not about.** After any toggles that went through, a preset
    without links is as the file has it but for the last states of the prompts that were toggled: in
    the first entries about them in the selected order list, in new entries at its end for those
    that had none, or, if there is no order list, in the items about them. -/
theorem touched_of_applies {path : PathName} {autosave : Bool} {text : String} {notes : List Note}
    (hl : d.links = []) (h : ofDocument path character autosave text d = .ok (f, notes))
    (hts : Applies Loaded.set ts f f') : Touched character ts d f'.data := by
  obtain ⟨items, read, hi, hs, _, _, _⟩ := ofDocument_eq_ok h
  have hflat : f.data = d → f.place = none →
      OnlyAt "prompts" (.list (items.map (restate ts))) d f'.data := by
    intro hdata hplace
    rw [← hdata] at hl hi ⊢
    exact onlyAt_items_of_applies hts hplace hl hi
  obtain ⟨hno, hdata, hplace⟩ | ⟨entries, k, entry, he, hk, hf, hdata, hplace⟩ := select_eq_ok hs
  · exact .items (.inl hno) hi (hflat hdata hplace)
  · obtain ⟨listed, ho⟩ | ⟨order, ho, hother⟩ := list_or_other entry
    · have hlt : k < entries.length := (List.getElem?_eq_some_iff.1 hf).1
      have hsel := onlyAt_withOrder hl he hf
      rw [← hdata] at hsel
      have hf' := List.getElem?_set_self (a := Node.map (withList entry)) hlt
      rw [orderAt_eq hsel.self hf' (get?_of_field ho rfl)] at hplace
      obtain ⟨entry', hrest, ho', hd⟩ :=
        onlyAt_order_of_applies hts hplace hsel.links hsel.self hf' ho
      rw [List.set_set] at hd
      exact .order he hk hf ho hrest ho' (hsel.trans hd)
    · rw [withOrder_of_some he hf ho] at hdata
      rw [hdata, orderAt_eq he hf ho] at hplace
      cases order with
      | null =>
        have hu : Unordered character d := by
          rw [Unordered, orders_of_field he]
          exact .inr ⟨k, entry, hk, hf, ho⟩
        exact .items hu hi (hflat hdata hplace)
      | _ =>
        have hlist : ∀ items, orderAt f.data k ≠ .list items := by
          rw [hdata, orderAt_eq he hf ho]
          exact hother
        obtain ⟨ht, hf'⟩ := eq_nil_of_applies hts hplace hlist
        exact .idle ht (hf' ▸ hdata)

/-- The second character of `shelfData` lists one of the two prompts that are toggled. -/
theorem touched_of_applies_shelf :
    ∃ notes f, shelfData.links = [] ∧
      ofDocument shelf.path (some (.int 2)) false "" shelfData = .ok (shelf, notes) ∧
      Applies Loaded.set [("tea", false), ("milk", true), ("tea", true)] shelf f ∧
      Touched (some (.int 2)) [("tea", false), ("milk", true), ("tea", true)] shelfData f.data := by
  have hload : ofDocument shelf.path (some (.int 2)) false "" shelfData
      = .ok (shelf, loadNotes shelf.path [none, some { identifier := "tea" },
          some { identifier := "milk" }]) := rfl
  have happ : Applies Loaded.set [("tea", false), ("milk", true), ("tea", true)] shelf _ :=
    .cons rfl (.cons rfl (.cons rfl (.nil _)))
  exact ⟨_, _, rfl, hload, happ, touched_of_applies rfl hload happ⟩

/-- Two characters with one order list, which stands in a field of the preset too. -/
def sharedData (b : Bool) : Document where
  root := .map
    [("prompts", .list [.map [("identifier", .text "a")]]),
     ("prompt_order", .list
      [.map [("character_id", .int 1), ("order", .list [newEntry "a" b])],
       .map [("character_id", .int 2), ("order", .list [newEntry "a" b])]]),
     ("backup", .list [newEntry "a" b])]
  links := [(orderPath 1, orderPath 0), ([.key "backup"], orderPath 0)]

/-- The toggle of a prompt of one character writes the order list of the other and a field that no
    toggle is about. -/
theorem shared_backup :
    ∃ notes f f', ofDocument { root := "", parts := ["p.yaml"] } (some (.int 1)) false ""
        (sharedData false) = .ok (f, notes) ∧
      Applies Loaded.set [("a", true)] f f' ∧
      f'.data = sharedData true ∧
      ¬ Touched (some (.int 1)) [("a", true)] (sharedData false) f'.data := by
  refine ⟨_, _, _, rfl, .cons rfl (.nil _), rfl, fun h => ?_⟩
  -- the field stands beside the prompts and the entries, so no case lets it change
  have hrest : ∀ key : String, key ≠ "backup" →
      ¬ SameBut key (sharedData false).fields (sharedData true).fields := by
    intro key hkey hsame
    have hmem : (Key.text "backup", Node.list [newEntry "a" true])
        ∈ (sharedData true).fields.filter fun e => e.1 ≠ .text key := by
      simp [sharedData, Document.fields, Ne.symm hkey]
    rw [hsame.others] at hmem
    simp [sharedData, Document.fields, newEntry] at hmem
  cases h with
  | items _ _ hd => exact hrest "prompts" (by decide) hd.rest
  | order _ _ _ _ _ _ hd => exact hrest "prompt_order" (by decide) hd.rest
  | idle ht _ => cases ht

end PromptRules.PresetFile
