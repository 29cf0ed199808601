/-!
# Steps that can fail

A step may fail with an error. What is made of several steps has a result exactly if each of them
has one, and then it is made of these.

Results:
* `bind_eq_ok_iff`: a step and what is done with its result.
* `map_eq_ok_iff`: a step whose result is changed.
-/

namespace PromptRules.Data

variable {ε α β : Type} {x : Except ε α} {b : β}

theorem bind_eq_ok_iff {f : α → Except ε β} :
    (x >>= f) = .ok b ↔ ∃ a, x = .ok a ∧ f a = .ok b := by
  constructor
  · intro h
    cases x with
    | error e => cases h
    | ok a => exact ⟨a, rfl, h⟩
  · rintro ⟨a, rfl, h⟩
    exact h

theorem map_eq_ok_iff {f : α → β} : x.map f = .ok b ↔ ∃ a, x = .ok a ∧ f a = b := by
  cases x with
  | error e => simp [Except.map]
  | ok a => simp [Except.map]

end PromptRules.Data
