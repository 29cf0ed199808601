import Mathlib
import PromptRules.Decimal.Binary

/-!
# Doubles and their bits

A double is its 64 bits: a sign, eleven bits of exponent, and 52 of a mantissa whose highest bit is
hidden. Only one of the many patterns that stand for no number is ever used. So the parts that a
double is taken apart into tell which double it is.

That a double is made of its bits is `Float.ofBits_toBits` of the library. Only the import of the
whole library reaches it.

Results:
* `eq_of_ofFloat_finite`, `eq_of_ofFloat_infinite`, `eq_of_ofFloat_nan`: a double from its parts.
-/

namespace PromptRules.Decimal

open Float.Model Float.Model.UnpackedFloat

variable {x : Float} {negative : Bool} {m : Nat} {q : Int}

theorem hiddenBit_eq : hiddenBit = 4503599627370496 := rfl

/-- The double with these bits below its sign. -/
def signed (negative : Bool) (bits : Nat) : Float :=
  Float.ofBits (UInt64.ofNat ((if negative then Nat.pow 2 63 else 0) + bits))

/-- A mantissa and an exponent that a double can have. -/
def IsMantissa (m : Nat) (q : Int) : Prop :=
  m < 2 * hiddenBit ∧ leastExponent ≤ q ∧ q ≤ 971 ∧ (m < hiddenBit → q = leastExponent)

theorem eq_signed {bits : Nat}
    (h : x.toBits.toNat = (if negative then Nat.pow 2 63 else 0) + bits) :
    x = signed negative bits := by
  rw [signed, ← h, UInt64.ofNat_toNat, Float.ofBits_toBits]

/-- The parts of a double by arithmetic on its bits. -/
theorem ofFloat_eq (x : Float) :
    Binary.ofFloat x =
      if x.toBits.toNat / 4503599627370496 % 2048 = 2047 then
        if x.toBits.toNat % 4503599627370496 = 0 then
          .infinite (decide (9223372036854775808 ≤ x.toBits.toNat)) else .nan
      else if x.toBits.toNat / 4503599627370496 % 2048 = 0 then
        .finite (decide (9223372036854775808 ≤ x.toBits.toNat))
          (x.toBits.toNat % 4503599627370496) (-1074)
      else
        .finite (decide (9223372036854775808 ≤ x.toBits.toNat))
          (4503599627370496 + x.toBits.toNat % 4503599627370496)
          ((x.toBits.toNat / 4503599627370496 % 2048 : Nat) - 1075) :=
  rfl

theorem assemble_of_lt (h : m < hiddenBit) : assemble m q = m := if_pos h

theorem assemble_of_le (h : hiddenBit ≤ m) :
    assemble m q = (q + 1075).toNat * hiddenBit + (m - hiddenBit) := if_neg (Nat.not_lt.2 h)

theorem eq_of_ofFloat_finite (h : Binary.ofFloat x = .finite negative m q) :
    IsMantissa m q ∧ x = signed negative (assemble m q) := by
  have hn : x.toBits.toNat < 2 ^ 64 := x.toBits.toNat_lt
  suffices IsMantissa m q ∧
      x.toBits.toNat = (if negative then Nat.pow 2 63 else 0) + assemble m q from
    this.imp_right eq_signed
  rw [ofFloat_eq] at h
  generalize x.toBits.toNat = n at h hn ⊢
  simp only [IsMantissa, leastExponent]
  split_ifs at h
  · cases h
    rw [assemble_of_lt (hiddenBit_eq ▸ Nat.mod_lt _ (by decide)), hiddenBit_eq]
    refine ⟨by omega, ?_⟩
    simp only [decide_eq_true_eq, Nat.pow_eq]
    split_ifs <;> omega
  · cases h
    rw [assemble_of_le (hiddenBit_eq ▸ Nat.le_add_right _ _), hiddenBit_eq]
    refine ⟨by omega, ?_⟩
    simp only [decide_eq_true_eq, Nat.pow_eq]
    split_ifs <;> omega

theorem eq_of_ofFloat_infinite (h : Binary.ofFloat x = .infinite negative) :
    x = if negative then -1.0 / 0.0 else 1.0 / 0.0 := by
  have hn : x.toBits.toNat < 2 ^ 64 := x.toBits.toNat_lt
  have hx : x = signed negative 0x7FF0000000000000 := by
    apply eq_signed
    rw [ofFloat_eq] at h
    generalize x.toBits.toNat = n at h hn ⊢
    split_ifs at h
    cases h
    simp only [decide_eq_true_eq, Nat.pow_eq]
    split_ifs <;> omega
  rw [hx]
  cases negative <;> decide

/-- The exponent field of a bit pattern is its eleven bits above the mantissa. -/
theorem toNat_unpackExponent (b : BitVec Format.binary64.numBits) :
    (unpackExponent b).toNat = b.toNat / 4503599627370496 % 2048 := by
  simp [unpackExponent, Nat.shiftRight_eq_div_pow]

theorem toNat_unpackMantissa (b : BitVec Format.binary64.numBits) :
    (unpackMantissa b).toNat = b.toNat % 4503599627370496 := by
  simp [unpackMantissa]

/-- There is one double that is no number. -/
theorem eq_of_ofFloat_nan (h : Binary.ofFloat x = .nan) : x = 0.0 / 0.0 := by
  have hbits : x.toBits.toNat = x.toModel.toBits.toBitVec.toNat := rfl
  rw [ofFloat_eq, hbits, ← toNat_unpackExponent, ← toNat_unpackMantissa] at h
  split_ifs at h with he hm
  have hnan := x.toModel.valid.eq_packedNaN (BitVec.toNat_inj.1 he) fun h0 => hm (by rw [h0]; rfl)
  have hx : x.toBits = UInt64.ofBitVec (packedNaN Format.binary64) := congrArg UInt64.ofBitVec hnan
  rw [← Float.ofBits_toBits x, hx]
  decide

end PromptRules.Decimal
