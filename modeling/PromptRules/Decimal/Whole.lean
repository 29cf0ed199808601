import PromptRules.Text.DecimalDigit

/-!
# Whole numbers in decimal

Reading a run of decimal digits of any script as a whole number. Runs of more than
`maxDigits` digits are refused, leading zeros counted.

Results:
* `splitDigits_rest`: what is left after the digits starts with no digit.
* `readNat_eq_ok_iff`: a run is read iff it is not too long, and then its value is the
  value of its digits.
-/

namespace PromptRules.Decimal

open Text

/-- The longest run of digits that is read as a number. -/
def maxDigits : Nat := 4300

/-- A run of digits that is too long to be read. -/
structure TooManyDigits where
  digits : Nat
deriving DecidableEq, Repr

/-- The wording of the refusal. -/
def TooManyDigits.message (e : TooManyDigits) : String :=
  "Exceeds the limit (" ++ toString maxDigits ++ " digits) for integer string conversion: value has "
    ++ toString e.digits ++ " digits; use sys.set_int_max_str_digits() to increase the limit"

/-- The values of the digits in front, and what follows them. -/
def splitDigits : List Char → List Nat × List Char
  | [] => ([], [])
  | c :: cs =>
    match digitValue c with
    | some d => let (ds, rest) := splitDigits cs; (d :: ds, rest)
    | none => ([], c :: cs)

/-- The number that a run of digit values writes. -/
def ofDigits (ds : List Nat) : Nat := ds.foldl (fun n d => 10 * n + d) 0

/-- The number that a run of digit values writes, unless there are too many. -/
def readNat (ds : List Nat) : Except TooManyDigits Nat :=
  if ds.length ≤ maxDigits then .ok (ofDigits ds) else .error ⟨ds.length⟩

theorem splitDigits_of_digit {c : Char} {d : Nat} (cs : List Char) (h : digitValue c = some d) :
    splitDigits (c :: cs) = (d :: (splitDigits cs).1, (splitDigits cs).2) := by
  simp [splitDigits, h]

theorem splitDigits_of_other {c : Char} (cs : List Char) (h : digitValue c = none) :
    splitDigits (c :: cs) = ([], c :: cs) := by
  simp [splitDigits, h]

theorem splitDigits_rest (cs : List Char) :
    ∀ c ∈ (splitDigits cs).2.head?, digitValue c = none := by
  induction cs with
  | nil => simp [splitDigits]
  | cons c cs ih =>
    cases h : digitValue c with
    | some d => rw [splitDigits_of_digit cs h]; exact ih
    | none => rw [splitDigits_of_other cs h]; simpa using h

theorem readNat_eq_ok_iff {ds : List Nat} {n : Nat} :
    readNat ds = .ok n ↔ ds.length ≤ maxDigits ∧ ofDigits ds = n := by
  unfold readNat
  split
  · simp_all
  · constructor
    · intro h
      cases h
    · intro h
      omega

end PromptRules.Decimal
