import PromptRules.Decimal.Binary

/-!
# Decimal digits of a double

Two ways to choose decimal digits for a positive double `m · 2 ^ q`: the fewest digits that
read back as the same double, the nearest to it among those, and a fixed number of
significant digits. All arithmetic is exact, on whole numbers.
-/

namespace PromptRules.Decimal

/-- The number `digits · 10 ^ exponent`. -/
structure Scaled where
  digits : Nat
  exponent : Int
deriving DecidableEq, Repr

/-- Numerator and denominator of `2 ^ k`. -/
def powTwo (k : Int) : Nat × Nat :=
  if 0 ≤ k then (Nat.pow 2 k.toNat, 1) else (1, Nat.pow 2 (-k).toNat)

/-- Numerator and denominator of `10 ^ k`. -/
def powTen (k : Int) : Nat × Nat :=
  if 0 ≤ k then (Nat.pow 10 k.toNat, 1) else (1, Nat.pow 10 (-k).toNat)

/-- How many decimal digits write a number; zero has one. -/
def digitCount (n : Nat) : Nat := (Nat.toDigits 10 n).length

/-- The number of digits before the point of `num / den`; for a quotient below one it is
    the negative count of zeros after the point. -/
def magnitude (num den : Nat) : Int :=
  if den ≤ num then digitCount (num / den)
  else 1 - (digitCount ((den + num - 1) / num - 1) : Int)

/-- Removes up to `fuel` zeros at the end of the digits; the number stays the same. -/
def stripZeros : (fuel : Nat) → Scaled → Scaled
  | 0, s => s
  | fuel + 1, s =>
    if s.digits ≠ 0 ∧ s.digits % 10 = 0 then stripZeros fuel ⟨s.digits / 10, s.exponent + 1⟩ else s

/-- The reals that round to `m · 2 ^ q`, from `low` to `high` in quarters of `2 ^ q`. The
    ends belong to the interval iff the mantissa is even. -/
structure Interval where
  low : Nat
  middle : Nat
  high : Nat
  closed : Bool

/-- The interval of a mantissa. Below a power of two the lower half is half as wide. -/
def Interval.ofMantissa (m : Nat) (q : Int) : Interval where
  low := 4 * m - if m = hiddenBit ∧ leastExponent < q then 1 else 2
  middle := 4 * m
  high := 4 * m + 2
  closed := m % 2 == 0

/-- `x` quarters of `2 ^ q`, over one denominator with the points of the grid `10 ^ k`. -/
def place (q k : Int) (x : Nat) : Nat := x * (powTwo (q - 2)).1 * (powTen k).2

/-- The point `c · 10 ^ k` of a grid, over the same denominator. -/
def point (q k : Int) (c : Nat) : Nat := c * (powTen k).1 * (powTwo (q - 2)).2

/-- Whether a point of the grid `10 ^ k` lies in the interval. -/
def Interval.hasPoint (i : Interval) (q k : Int) (c : Nat) : Bool :=
  if i.closed then place q k i.low ≤ point q k c && point q k c ≤ place q k i.high
  else place q k i.low < point q k c && point q k c < place q k i.high

/-- The neighbour of the double on the grid `10 ^ k` that is not above it. -/
def Interval.below (i : Interval) (q k : Int) : Nat := place q k i.middle / point q k 1

/-- The better of the two neighbours of the double on the grid `10 ^ k`, if one of them
    lies in the interval: the nearer, and the even one if they are equally near. -/
def Interval.onGrid (i : Interval) (q k : Int) : Option Nat :=
  let below := i.below q k
  let above := below + 1
  let down := place q k i.middle - point q k below
  let up := point q k above - place q k i.middle
  match i.hasPoint q k below, i.hasPoint q k above with
  | true, true =>
    if down < up then some below
    else if up < down then some above
    else if below % 2 = 0 then some below else some above
  | true, false => some below
  | false, true => some above
  | false, false => none

/-- The fewest digits that read back as `m · 2 ^ q` (`m` above zero), nearest to it. -/
def shortest (m : Nat) (q : Int) : Scaled :=
  let i := Interval.ofMantissa m q
  let (un, ud) := powTwo q
  let size := magnitude (m * un) ud
  let found := (List.range 17).findSome? fun n =>
    let k := size - (n + 1 : Nat)
    (i.onGrid q k).map fun c => Scaled.mk c k
  match found with
  | some s => stripZeros 20 s
  | none => ⟨0, 0⟩

/-- `m · 2 ^ q` (`m` above zero) rounded to `count` significant digits, ties to even. -/
def significant (count m : Nat) (q : Int) : Scaled :=
  let (un, ud) := powTwo q
  let k := magnitude (m * un) ud - count
  let (tn, td) := powTen k
  stripZeros (count + 1) ⟨roundHalfEven (m * un * td) (ud * tn), k⟩

end PromptRules.Decimal
