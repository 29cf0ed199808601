/-!
# Patterns

A pattern can be read in front of a text in several ways. A repetition takes as many characters
as it can and an option is taken if it can be, and either gives back what the rest of the pattern
needs: the ways are listed in this order, and the first of them is the match.

Results:
* `exists_splits`: a repetition takes all it can first, and whatever it gives back is of its class.
* `first?_seq`: the match of a sequence whose second part can follow the match of the first.
* `first?_seq_of_greedy`: the match of a sequence whose second part can follow nothing else.
-/

namespace PromptRules.Text

/-- A pattern of characters. -/
inductive Pattern where
  /-- One character of a class. -/
  | one (among : Char → Bool)
  /-- Any number of characters of a class, rather more than fewer. -/
  | many (among : Char → Bool)
  /-- What the pattern reads, rather than nothing. -/
  | option (p : Pattern)
  /-- What the pattern reads, which is kept. -/
  | kept (p : Pattern)
  /-- What the two patterns read, one behind the other. -/
  | seq (p q : Pattern)
  /-- Nothing, at the end of the text or in front of a line break that ends it. -/
  | ending

/-- One way to read a pattern: the text that is read, the parts of it that are kept, and what
    follows. -/
structure Reading where
  text : List Char
  kept : List (List Char)
  rest : List Char
deriving DecidableEq

namespace Reading

/-- A reading that takes nothing. -/
def nothing (cs : List Char) : Reading := ⟨[], [], cs⟩

/-- A reading behind another one. -/
def behind (r s : Reading) : Reading := ⟨r.text ++ s.text, r.kept ++ s.kept, s.rest⟩

end Reading

namespace Pattern

/-- The ways to take characters of a class from the front, the longest first. -/
def splits (among : Char → Bool) : List Char → List (List Char × List Char)
  | [] => [([], [])]
  | c :: cs =>
    if among c then (splits among cs).map (fun s => (c :: s.1, s.2)) ++ [([], c :: cs)]
    else [([], c :: cs)]

/-- The ways to read a pattern in front of a text, the preferred ones first. -/
def readings : Pattern → List Char → List Reading
  | one _, [] => []
  | one among, c :: cs => if among c then [⟨[c], [], cs⟩] else []
  | many among, cs => (splits among cs).map fun s => ⟨s.1, [], s.2⟩
  | option p, cs => p.readings cs ++ [.nothing cs]
  | kept p, cs => (p.readings cs).map fun r => { r with kept := r.text :: r.kept }
  | seq p q, cs => (p.readings cs).flatMap fun r => (q.readings r.rest).map r.behind
  | ending, cs => if cs = [] ∨ cs = ['\n'] then [.nothing cs] else []

/-- The match of a pattern in front of a text, if there is one. -/
def first? (p : Pattern) (cs : List Char) : Option Reading := (p.readings cs).head?

variable {p q : Pattern} {among : Char → Bool} {cs : List Char} {r s : Reading}

/-- A repetition takes all it can first, and what it gives back is of its class. -/
theorem exists_splits (among : Char → Bool) (cs : List Char) :
    ∃ shorter, splits among cs = (cs.takeWhile among, cs.dropWhile among) :: shorter ∧
      ∀ s ∈ shorter, ∃ c ∈ s.2.head?, among c = true := by
  induction cs with
  | nil => exact ⟨[], rfl, List.forall_mem_nil _⟩
  | cons c cs ih =>
    obtain ⟨shorter, hsplits, hshorter⟩ := ih
    rw [splits]
    split
    · rename_i hc
      rw [hsplits, List.takeWhile_cons_of_pos hc, List.dropWhile_cons_of_pos hc]
      refine ⟨shorter.map (fun s => (c :: s.1, s.2)) ++ [([], c :: cs)], rfl, ?_⟩
      refine List.forall_mem_append.2 ⟨?_, List.forall_mem_singleton.2 ⟨c, rfl, hc⟩⟩
      exact List.forall_mem_map.2 hshorter
    · rename_i hc
      rw [List.takeWhile_cons_of_neg hc, List.dropWhile_cons_of_neg hc]
      exact ⟨[], rfl, List.forall_mem_nil _⟩

theorem first?_many (among : Char → Bool) (cs : List Char) :
    (many among).first? cs = some ⟨cs.takeWhile among, [], cs.dropWhile among⟩ := by
  obtain ⟨shorter, hsplits, -⟩ := exists_splits among cs
  rw [first?, readings, hsplits]
  rfl

theorem first?_kept (p : Pattern) (cs : List Char) :
    (kept p).first? cs = (p.first? cs).map fun r => { r with kept := r.text :: r.kept } := by
  rw [first?, readings, List.head?_map, first?]

theorem first?_one {c : Char} (hc : among c = true) (cs : List Char) :
    (one among).first? (c :: cs) = some ⟨[c], [], cs⟩ := by
  rw [first?, readings, if_pos hc]
  rfl

theorem first?_option (hp : p.first? cs = some r) : (option p).first? cs = some r := by
  rw [first?, readings, List.head?_append, ← first?, hp]
  rfl

/-- A sequence tries the readings of its first part until the second part can follow one. -/
theorem first?_seq_eq (p q : Pattern) (cs : List Char) :
    (seq p q).first? cs =
      (p.readings cs).findSome? fun r => (q.first? r.rest).map r.behind := by
  rw [first?, readings, List.head?_flatMap]
  congr
  funext r
  rw [List.head?_map, first?]

/-- **Nothing is given back** if the second part can follow the first match of the first part. -/
theorem first?_seq (hp : p.first? cs = some r) (hq : q.first? r.rest = some s) :
    (seq p q).first? cs = some (r.behind s) := by
  obtain ⟨others, hreadings⟩ := List.head?_eq_some_iff.1 hp
  rw [first?_seq_eq, hreadings, List.findSome?_cons, hq]
  rfl

/-- **Nothing can be given back** if the second part cannot follow what the first part would leave
    then. -/
theorem first?_seq_of_greedy {others : List Reading} (hp : p.readings cs = r :: others)
    (hothers : ∀ s ∈ others, q.first? s.rest = none) :
    (seq p q).first? cs = (q.first? r.rest).map r.behind := by
  have hnone : others.findSome? (fun s => (q.first? s.rest).map s.behind) = none := by
    refine List.findSome?_eq_none_iff.2 fun s hs => ?_
    rw [hothers s hs]
    rfl
  rw [first?_seq_eq, hp, List.findSome?_cons, hnone]
  cases (q.first? r.rest).map r.behind <;> rfl

theorem readings_one_eq_nil (h : ∀ c ∈ cs.head?, among c = false) :
    (one among).readings cs = [] := by
  cases cs with
  | nil => rfl
  | cons c cs => simp [readings, h c rfl]

/-- What cannot begin has no reading. -/
theorem readings_seq_eq_nil (hp : p.readings cs = []) : (seq p q).readings cs = [] := by
  rw [readings, hp, List.flatMap_nil]

end Pattern

end PromptRules.Text
