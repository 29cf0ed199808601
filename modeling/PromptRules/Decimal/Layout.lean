import PromptRules.Decimal.Shortest

/-!
# Layout of decimal numbers

A layout says how the digits of a double are written out: how many there are, where
positional notation ends and the exponent form begins, and how infinities are spelled.
-/

namespace PromptRules.Decimal

/-- How a double is written. -/
structure Layout where
  /-- A fixed number of significant digits, or as few as read back. -/
  significant : Option Nat
  /-- Numbers from `10 ^ limit` on are written with an exponent. -/
  limit : Int
  /-- A whole number keeps its `.0`. -/
  keepsPoint : Bool
  /-- A mantissa of one digit keeps its `.0` too. -/
  pointsMantissa : Bool
  infinity : String
  minusInfinity : String
  nan : String

/-- Numbers below `10 ^ -4` are written with an exponent. -/
def leastPositional : Int := -4

/-- An exponent with its sign and at least two digits. -/
def exponentText (e : Int) : List Char :=
  let digits := Nat.toDigits 10 e.natAbs
  'e' :: (if e < 0 then '-' else '+') :: (if digits.length < 2 then '0' :: digits else digits)

/-- Digits in positional notation, `point` digits standing before the point. -/
def positional (keepsPoint : Bool) (digits : List Char) (point : Int) : List Char :=
  if point ≤ 0 then '0' :: '.' :: (List.replicate (-point).toNat '0' ++ digits)
  else
    let before := point.toNat
    if digits.length ≤ before then
      digits ++ List.replicate (before - digits.length) '0'
        ++ (if keepsPoint then ['.', '0'] else [])
    else digits.take before ++ '.' :: digits.drop before

/-- Digits with one before the point, and an exponent. -/
def scientific (pointsMantissa : Bool) (digits : List Char) (e : Int) : List Char :=
  match digits with
  | [] => []
  | [d] => d :: ((if pointsMantissa then ['.', '0'] else []) ++ exponentText e)
  | d :: ds => d :: '.' :: (ds ++ exponentText e)

/-- The text of a positive decimal number in a layout. -/
def Layout.writeScaled (layout : Layout) (s : Scaled) : List Char :=
  let digits := Nat.toDigits 10 s.digits
  let point := (digits.length : Int) + s.exponent
  if leastPositional < point ∧ point ≤ layout.limit then positional layout.keepsPoint digits point
  else scientific layout.pointsMantissa digits (point - 1)

/-- The text of a double in a layout. -/
def Layout.write (layout : Layout) (x : Float) : String :=
  match Binary.ofFloat x with
  | .nan => layout.nan
  | .infinite negative => if negative then layout.minusInfinity else layout.infinity
  | .finite negative m q =>
    let sign := if negative then ['-'] else []
    String.ofList <| sign ++
      if m = 0 then if layout.keepsPoint then ['0', '.', '0'] else ['0']
      else
        layout.writeScaled <| match layout.significant with
          | some count => Decimal.significant count m q
          | none => shortest m q

/-- The number that reads back: `1.0`, `0.1`, `1e+16`, `inf`. -/
def exact : Layout where
  significant := none
  limit := 16
  keepsPoint := true
  pointsMantissa := false
  infinity := "inf"
  minusInfinity := "-inf"
  nan := "nan"

/-- Six significant digits without trailing zeros: `300`, `12.5`, `1e+06`. -/
def brief : Layout where
  significant := some 6
  limit := 6
  keepsPoint := false
  pointsMantissa := false
  infinity := "inf"
  minusInfinity := "-inf"
  nan := "nan"

/-- The double nearest to `± digits · 10 ^ exponent`, an infinity if that is too large. The
    bounds keep the exact arithmetic small: beyond them the answer does not depend on the
    digits. -/
def readScaled (negative : Bool) (digits : Nat) (exponent : Int) : Float :=
  let size := exponent + digitCount digits
  let infinity : Float := if negative then -1.0 / 0.0 else 1.0 / 0.0
  if digits = 0 ∨ size < -400 then if negative then -0.0 else 0.0
  else if 400 < size then infinity
  else
    let (tn, td) := powTen exponent
    (nearestQuotient negative (digits * tn) td).getD infinity

end PromptRules.Decimal
