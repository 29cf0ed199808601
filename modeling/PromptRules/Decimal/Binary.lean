/-!
# Binary floating point numbers

A finite double is a sign, a whole mantissa and a power of two. This module takes a
double apart, and builds the double nearest to a quotient of two whole numbers.

Results:
* `roundHalfEven_of_dvd`: a quotient without remainder is not rounded.
-/

namespace PromptRules.Decimal

/-- What a double stands for: `± mantissa · 2 ^ exponent`, an infinity, or no number. -/
inductive Binary where
  | finite (negative : Bool) (mantissa : Nat) (exponent : Int)
  | infinite (negative : Bool)
  | nan
deriving DecidableEq, Repr

/-- The least exponent of a double, that of the subnormal numbers. -/
def leastExponent : Int := -1074

/-- The hidden bit of a normal double: its mantissa is at least this. -/
def hiddenBit : Nat := Nat.pow 2 52

/-- The parts of a double, read off its 64 bits. -/
def Binary.ofFloat (x : Float) : Binary :=
  let bits := x.toBits.toNat
  let negative := bits ≥ Nat.pow 2 63
  let biased : Nat := bits / hiddenBit % Nat.pow 2 11
  let fraction := bits % hiddenBit
  if biased = 2047 then if fraction = 0 then .infinite negative else .nan
  else if biased = 0 then .finite negative fraction leastExponent
  else .finite negative (hiddenBit + fraction) ((biased : Int) - 1075)

/-- `num / den` rounded to a whole number, a half to the even neighbour. -/
def roundHalfEven (num den : Nat) : Nat :=
  let low := num / den
  let twice := 2 * (num % den)
  if twice < den then low
  else if den < twice then low + 1
  else if low % 2 = 0 then low else low + 1

theorem roundHalfEven_of_dvd {num den : Nat} (hd : 0 < den) (h : den ∣ num) :
    roundHalfEven num den = num / den := by
  simp [roundHalfEven, Nat.mod_eq_zero_of_dvd h, hd]

/-- Numerator and denominator of `num / den / 2 ^ exponent`. -/
def scaleDown (num den : Nat) (exponent : Int) : Nat × Nat :=
  if 0 ≤ exponent then (num, den * Nat.pow 2 exponent.toNat)
  else (num * Nat.pow 2 (-exponent).toNat, den)

/-- The whole part of the binary logarithm of `num / den`, both above zero. -/
def quotientLog2 (num den : Nat) : Int :=
  let guess : Int := (num.log2 : Int) - den.log2
  let (n, d) := scaleDown num den guess
  if n < d then guess - 1 else guess

/-- The bits of `mantissa · 2 ^ exponent`, where the mantissa has at most 53 bits (or is
    `2 ^ 53`, the carry of a rounding) and is normal unless the exponent is the least. -/
def assemble (mantissa : Nat) (exponent : Int) : Nat :=
  if mantissa < hiddenBit then mantissa
  else (exponent + 1075).toNat * hiddenBit + (mantissa - hiddenBit)

/-- The double nearest to `num / den`, ties to the even mantissa; none when the quotient
    is too large. The denominator is above zero. -/
def nearestQuotient (negative : Bool) (num den : Nat) : Option Float :=
  let sign := if negative then Nat.pow 2 63 else 0
  if num = 0 then some (Float.ofBits (UInt64.ofNat sign))
  else
    let exponent := max (quotientLog2 num den - 52) leastExponent
    let (n, d) := scaleDown num den exponent
    let bits := assemble (roundHalfEven n d) exponent
    if 2047 * hiddenBit ≤ bits then none else some (Float.ofBits (UInt64.ofNat (sign + bits)))

/-- The double nearest to a quotient of two integers, the divisor not zero; none when the
    quotient is too large for a double. -/
def quotient? (num den : Int) : Option Float :=
  nearestQuotient ((num < 0) != (den < 0)) num.natAbs den.natAbs

/-- The comparison of a double with an integer: whether they are the same number. -/
def Binary.isInt : Binary → Int → Bool
  | .finite negative mantissa exponent, n =>
    let signed : Int := if negative then -(mantissa : Int) else mantissa
    if 0 ≤ exponent then signed * Nat.pow 2 exponent.toNat == n
    else signed == n * Nat.pow 2 (-exponent).toNat
  | _, _ => false

/-- The integer that a double is equal to, if it is whole. -/
def Binary.toInt? : Binary → Option Int
  | .finite negative mantissa exponent =>
    let signed : Int := if negative then -(mantissa : Int) else mantissa
    if 0 ≤ exponent then some (signed * Nat.pow 2 exponent.toNat)
    else
      let unit : Int := Nat.pow 2 (-exponent).toNat
      if signed % unit = 0 then some (signed / unit) else none
  | _ => none

end PromptRules.Decimal
