import PromptRules.Decimal.Binary
import PromptRules.Prompt.Lookup

/-!
# Token budget

The enabled prompts add up their token costs; the least warning threshold among them is the
one that counts. A cost or a threshold of zero says nothing.

Results:
* `exceeded_iff`: the budget is exceeded iff the total is above a threshold.
-/

namespace PromptRules

open Decimal Directive

/-- The token cost of a prompt set and the threshold that warns about it. -/
structure TokenBudget where
  total : Int
  threshold : Option Int
deriving DecidableEq, Repr

namespace TokenBudget

/-- Whether the total is above the threshold. -/
def exceeded (b : TokenBudget) : Bool := b.threshold.any (· < b.total)

/-- A share that is too large for a double. -/
structure ShareTooLarge where
deriving DecidableEq, Repr

/-- The total in percent of the threshold, at most 100; none without a threshold. -/
def percentage (b : TokenBudget) : Except ShareTooLarge (Option Float) :=
  match b.threshold with
  | none => .ok none
  | some n =>
    if n = 0 then .ok none
    else
      match quotient? b.total n with
      | none => .error {}
      | some q =>
        let share := q * 100.0
        .ok (some (if 100.0 < share then 100.0 else share))

/-- The lesser of a threshold so far and the one that a prompt declares. -/
def lesser (threshold : Option Int) (declared : Option Int) : Option Int :=
  match declared with
  | none => threshold
  | some n =>
    if n = 0 then threshold
    else
      match threshold with
      | none => some n
      | some t => if n < t then some n else some t

/-- Adds what one prompt declares. -/
def add (b : TokenBudget) (d : Directives) : TokenBudget where
  total := b.total + (d.int .tokenCost).getD 0
  threshold := lesser b.threshold (d.int .tokenCostWarn)

/-- The budget of a prompt set. -/
def ofPrompts {m : Type → Type} [Monad m] (lookup : Lookup m) (prompts : List Prompt) :
    m TokenBudget := do
  let around ← annotated lookup prompts
  return ((around.filter (·.1.enabled)).map Prod.snd).foldl add ⟨0, none⟩

theorem exceeded_iff {b : TokenBudget} :
    b.exceeded = true ↔ ∃ n, b.threshold = some n ∧ n < b.total := by
  cases h : b.threshold <;> simp [exceeded, h]

end TokenBudget

end PromptRules
