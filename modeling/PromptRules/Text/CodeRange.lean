/-!
# Ranges of code points

A set of characters given as a list of inclusive code point ranges, as the Unicode
property files list them.

Results:
* `covers_iff`: a character is covered iff some range holds its code point.
-/

namespace PromptRules.Text

/-- Whether one of the ranges `(low, high)`, both ends included, holds `c`. -/
def covers (ranges : List (Nat × Nat)) (c : Char) : Bool :=
  ranges.any fun r => r.1 ≤ c.toNat && c.toNat ≤ r.2

theorem covers_iff {ranges : List (Nat × Nat)} {c : Char} :
    covers ranges c = true ↔ ∃ r ∈ ranges, r.1 ≤ c.toNat ∧ c.toNat ≤ r.2 := by
  simp [covers]

end PromptRules.Text
