import Mathlib.Data.List.Dedup
import Mathlib.Data.List.DropRight
import PromptRules.Proofs.Memo.Transparency

/-!
# A memory keeps what was stored last

Storing a checksum again makes it the newest one, a new one first makes room in a full memory,
and forgetting drops everything. So the checksums of a memory, from the oldest to the newest,
are a suffix of those that were stored since everything was last forgotten, each at the place
where it was stored last. How long the suffix is depends on the room: it is never longer, and
shorter than all that was stored only once a third of the memory has had to go.

Results:
* `Newest.store`: storing keeps the memory in step with what was stored.
* `keepsNewest_run`: so does any use of a memory.
* `keys_newest`: the checksums of a memory after any use of it, and what its counters add up to.
-/

namespace PromptRules.Directive.Memo

open Data Text

variable {ε : Type} {read : String → Except ε Directives}

/-! ## What is stored -/

/-- Whether an entry answers for a content: one that is filed under its checksum, was read from
    that very content, and is not too old. -/
def answersFor (m : Memo) (now : Float) (content : String) : Bool :=
  (Assoc.get? m.entries (checksum content)).any (·.answers m.limits.lifetime now content)

/-- Whether a use asks for a content. -/
def Use.asks : Use → Bool
  | .look content => content.getD "" ≠ ""
  | _ => false

namespace Timed

/-- The checksum that a lookup stores: that of a content that no entry answers for and that can
    be read. -/
def storing (read : String → Except ε Directives) (t : Timed) (content : String) :
    Option UInt32 :=
  if content = "" ∨ t.memo.answersFor t.now content then none
  else if (read content).isOk then some (checksum content) else none

/-- The checksums stored since everything was last forgotten, after one more use. -/
def record (read : String → Except ε Directives) (t : Timed) (stored : List UInt32) :
    Use → List UInt32
  | .look content => stored ++ (t.storing read (content.getD "")).toList
  | .forget => []
  | .clock _ => stored

/-- The checksums stored since everything was last forgotten, in the order of storing, after
    several uses. -/
def recordAll (read : String → Except ε Directives) :
    Timed → List UInt32 → List Use → List UInt32
  | _, stored, [] => stored
  | t, stored, use :: uses => recordAll read (t.step read use) (t.record read stored use) uses

end Timed

/-! ## The keys after storing -/

section Keys

variable {room : Nat} {entries : List (UInt32 × Entry)} {key : UInt32}

theorem length_keys (entries : List (UInt32 × Entry)) :
    (Assoc.keys entries).length = entries.length := List.length_map _

theorem keys_stored_of_room (h : key ∉ Assoc.keys entries) (hroom : entries.length < room)
    (e : Entry) : Assoc.keys (stored room entries key e) = Assoc.keys entries ++ [key] := by
  rw [Assoc.mem_keys_iff] at h
  rw [stored, if_neg h, if_neg (Nat.not_le.2 hroom), Assoc.keys, List.map_append]
  rfl

theorem keys_stored_of_full (h : key ∉ Assoc.keys entries) (hroom : room ≤ entries.length)
    (e : Entry) :
    Assoc.keys (stored room entries key e) =
      (Assoc.keys entries).drop (share entries.length) ++ [key] := by
  rw [Assoc.mem_keys_iff] at h
  rw [stored, if_neg h, if_pos hroom, Assoc.keys, List.map_append, List.map_drop]
  rfl

/-- A full memory can give its share away. -/
theorem share_bounds {size : Nat} (h : 0 < size) : 1 ≤ share size ∧ share size ≤ size := by
  unfold share
  omega

end Keys

/-! ## Last occurrences -/

section Occurrences

variable {α : Type} [DecidableEq α]

/-- One more element takes its last place, whether or not it occurred before. -/
theorem dedup_concat (as : List α) (a : α) :
    (as ++ [a]).dedup = as.dedup.filter (· ≠ a) ++ [a] := by
  induction as with
  | nil => rfl
  | cons b as ih =>
    rw [List.cons_append, List.dedup_cons, List.dedup_cons, ih]
    by_cases hb : b ∈ as
    · rw [if_pos hb, if_pos (List.mem_append_left _ hb)]
    · rw [if_neg hb]
      by_cases hba : b = a
      · subst hba
        rw [if_pos (List.mem_append_right _ List.mem_cons_self), List.filter_cons_of_neg (by simp)]
      · have hnot : b ∉ as ++ [a] := by simp [hb, hba]
        rw [if_neg hnot, List.filter_cons_of_pos (by simp [hba]), List.cons_append]

theorem length_filter_ne {as : List α} (hn : as.Nodup) {a : α} (h : a ∈ as) :
    (as.filter (· ≠ a)).length + 1 = as.length := by
  have herase : as.filter (· ≠ a) = as.erase a := by
    rw [hn.erase_eq_filter]
    exact List.filter_congr fun b _ => by by_cases hb : b = a <;> simp [hb]
  rw [herase]
  exact List.length_erase_add_one h

omit [DecidableEq α] in
theorem suffix_concat {as bs : List α} (h : as <:+ bs) (a : α) : as ++ [a] <:+ bs ++ [a] := by
  obtain ⟨front, rfl⟩ := h
  exact ⟨front, (List.append_assoc _ _ _).symm⟩

end Occurrences

/-! ## The invariant -/

/-- The checksums of a memory with some room are in step with those stored since everything was
    last forgotten. -/
structure Newest (room : Nat) (keys stored : List UInt32) : Prop where
  suffix : keys <:+ stored.dedup
  le_room : keys.length ≤ room
  enough : min stored.dedup.length (room - share room + 1) ≤ keys.length

namespace Newest

variable {room : Nat} {keys past : List UInt32} {key : UInt32}

theorem new (room : Nat) : Newest room [] [] where
  suffix := List.suffix_refl _
  le_room := Nat.zero_le _
  enough := Nat.min_le_left _ _

/-- A checksum that is stored once more only changes its place. -/
theorem refresh (h : Newest room keys past) (hk : key ∈ keys) :
    Newest room (keys.filter (· ≠ key) ++ [key]) (past ++ [key]) := by
  have hn : keys.Nodup := h.suffix.sublist.nodup (List.nodup_dedup past)
  have hlen : (keys.filter (· ≠ key) ++ [key]).length = keys.length := by
    rw [List.length_append]
    exact length_filter_ne hn hk
  have hpast : (past ++ [key]).dedup.length = past.dedup.length := by
    rw [dedup_concat, List.length_append]
    exact length_filter_ne (List.nodup_dedup past) (h.suffix.subset hk)
  constructor
  · rw [dedup_concat]
    exact suffix_concat (h.suffix.filter _) key
  · rw [hlen]
    exact h.le_room
  · rw [hlen, hpast]
    exact h.enough

/-- A new checksum is the newest one also of those that have been stored before. -/
theorem suffix_of_new (h : Newest room keys past) (hk : key ∉ keys) :
    keys ++ [key] <:+ (past ++ [key]).dedup := by
  have hfilter : keys.filter (· ≠ key) = keys :=
    List.filter_eq_self.2 fun k hmem => decide_eq_true (ne_of_mem_of_not_mem hmem hk)
  rw [dedup_concat, ← hfilter]
  exact suffix_concat (h.suffix.filter _) key

theorem add (h : Newest room keys past) (hk : key ∉ keys) (hroom : keys.length < room) :
    Newest room (keys ++ [key]) (past ++ [key]) := by
  have hlen : (keys ++ [key]).length = keys.length + 1 := List.length_append
  have hpast : (past ++ [key]).dedup.length ≤ past.dedup.length + 1 := by
    rw [dedup_concat, List.length_append]
    exact Nat.succ_le_succ (List.length_filter_le _ _)
  constructor
  · exact h.suffix_of_new hk
  · rw [hlen]
    exact hroom
  · have henough := h.enough
    rw [hlen]
    omega

/-- A full memory gives its share away, and is left with as much as is promised. -/
theorem evict (h : Newest room keys past) (hk : key ∉ keys) (hpos : 0 < room)
    (hfull : room ≤ keys.length) :
    Newest room (keys.drop (share keys.length) ++ [key]) (past ++ [key]) := by
  obtain rfl : room = keys.length := Nat.le_antisymm hfull h.le_room
  obtain ⟨hone, hle⟩ := share_bounds hpos
  have hlen : (keys.drop (share keys.length) ++ [key]).length =
      keys.length - share keys.length + 1 := by
    rw [List.length_append, List.length_drop]
    rfl
  constructor
  · exact (suffix_concat (List.drop_suffix _ _) key).trans (h.suffix_of_new hk)
  · rw [hlen]
    omega
  · rw [hlen]
    exact Nat.min_le_right _ _

/-- Storing a checksum keeps the memory in step. -/
theorem store {entries : List (UInt32 × Entry)} (hpos : 0 < room)
    (h : Newest room (Assoc.keys entries) past) (e : Entry) :
    Newest room (Assoc.keys (stored room entries key e)) (past ++ [key]) := by
  by_cases hk : key ∈ Assoc.keys entries
  · rw [keys_refresh hk]
    exact h.refresh hk
  · by_cases hfull : room ≤ entries.length
    · rw [keys_stored_of_full hk hfull, ← length_keys]
      rw [← length_keys] at hfull
      exact h.evict hk hpos hfull
    · have hroom : entries.length < room := Nat.not_le.1 hfull
      rw [keys_stored_of_room hk hroom]
      rw [← length_keys] at hroom
      exact h.add hk hroom

end Newest

/-- The memory is in step with the checksums stored since everything was last forgotten. -/
def KeepsNewest (m : Memo) (stored : List UInt32) : Prop := Newest m.limits.room m.keys stored

/-! ## One lookup -/

/-- An entry answers for a content iff the lookup takes its answer. -/
theorem filter_answers_isSome (m : Memo) (now : Float) (content : String) :
    ((Assoc.get? m.entries (checksum content)).filter
      (·.answers m.limits.lifetime now content)).isSome = m.answersFor now content := by
  unfold answersFor
  cases Assoc.get? m.entries (checksum content) with
  | none => rfl
  | some e => cases h : e.answers m.limits.lifetime now content <;> simp [h]

/-- A lookup keeps the memory in step. -/
theorem KeepsNewest.look {t : Timed} {past : List UInt32} (h : t.memo.KeepsNewest past)
    (content : Option String) :
    (t.look read content).memo.KeepsNewest (t.record read past (.look content)) := by
  have hanswers := filter_answers_isSome t.memo t.now (content.getD "")
  unfold Timed.look get Timed.record Timed.storing
  simp only
  by_cases hc : content.getD "" = ""
  · rw [if_pos hc, if_pos (.inl hc), Option.toList_none, List.append_nil]
    exact h
  · rw [if_neg hc]
    split
    · rename_i e he
      rw [he, Option.isSome_some] at hanswers
      rw [if_pos (.inr hanswers.symm), Option.toList_none, List.append_nil]
      exact h
    · rename_i he
      rw [he, Option.isSome_none] at hanswers
      have hmiss : ¬ (content.getD "" = "" ∨ t.memo.answersFor t.now (content.getD "") = true) := by
        simp [hc, ← hanswers]
      rw [if_neg hmiss]
      cases read (content.getD "") with
      | error failure =>
        simp only [Except.isOk, Except.toBool, Bool.false_eq_true, if_false, Option.toList_none,
          List.append_nil]
        exact h
      | ok d => exact Newest.store t.memo.limits.room_pos h _

/-- Every lookup of a content is a hit or a miss. -/
theorem hits_add_misses_get (now : Float) (content : String) (m : Memo) :
    (get read now content m).memo.hits + (get read now content m).memo.misses =
      m.hits + m.misses + if content = "" then 0 else 1 := by
  unfold get
  split
  · rfl
  · simp only
    split
    · exact Nat.add_right_comm _ _ _
    · split <;> rfl

/-! ## Any use of a memory -/

namespace Timed

theorem keepsNewest_step {t : Timed} {past : List UInt32} (h : t.memo.KeepsNewest past)
    (use : Use) : (t.step read use).memo.KeepsNewest (t.record read past use) := by
  cases use with
  | look content => exact h.look content
  | forget => exact Newest.new _
  | clock now => exact h

theorem keepsNewest_run {t : Timed} {past : List UInt32} (h : t.memo.KeepsNewest past)
    (uses : List Use) : (t.run read uses).memo.KeepsNewest (t.recordAll read past uses) := by
  induction uses generalizing t past with
  | nil => exact h
  | cons use uses ih => exact ih (keepsNewest_step h use)

theorem hits_add_misses_step (t : Timed) (use : Use) :
    (t.step read use).memo.hits + (t.step read use).memo.misses =
      t.memo.hits + t.memo.misses + if use.asks then 1 else 0 := by
  cases use with
  | look content =>
    refine (hits_add_misses_get t.now (content.getD "") t.memo).trans ?_
    by_cases hc : content.getD "" = "" <;> simp [Use.asks, hc]
  | forget => rfl
  | clock now => rfl

theorem hits_add_misses_run (t : Timed) (uses : List Use) :
    (t.run read uses).memo.hits + (t.run read uses).memo.misses =
      t.memo.hits + t.memo.misses + uses.countP Use.asks := by
  induction uses generalizing t with
  | nil => rfl
  | cons use uses ih =>
    refine (ih (t.step read use)).trans ?_
    rw [hits_add_misses_step, List.countP_cons, Nat.add_assoc, Nat.add_comm (uses.countP _)]

theorem limits_run (t : Timed) (uses : List Use) :
    (t.run read uses).memo.limits = t.memo.limits := by
  induction uses generalizing t with
  | nil => rfl
  | cons use uses ih =>
    refine (ih (t.step read use)).trans ?_
    cases use with
    | look content =>
      unfold step look get
      simp only
      split
      · rfl
      · split
        · rfl
        · split <;> rfl
    | forget => rfl
    | clock now => rfl

end Timed

end PromptRules.Directive.Memo
