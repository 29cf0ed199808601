import Mathlib.Algebra.Order.Field.Power
import Mathlib.Data.Rat.Cast.Order
import Mathlib.Tactic.Positivity
import Mathlib.Tactic.FieldSimp
import Mathlib.Tactic.Linarith
import Mathlib.Tactic.NormNum
import Mathlib.Tactic.Ring
import Mathlib.Tactic.SplitIfs
import PromptRules.Decimal.Shortest
import PromptRules.Proofs.Decimal.Bits

/-!
# Rounding to a double

A number rounds to a double if it lies in an interval around it, whose ends are halfway to the
neighbours and belong to the interval iff the mantissa is even. All that is between the bounds is
read off in exact quotients; the numbers that are compared here are the quotients themselves.

Results:
* `quotientLog2_spec`, `roundHalfEven_eq`: the logarithm and the rounding of a quotient.
* `Interval.Has.exponent`: the exponent that a number of the interval is rounded to.
* `nearestQuotient_eq`: numbers round to the double whose interval has them.
-/

namespace PromptRules.Decimal

variable {num den m : Nat} {q k e : Int}

/-! ## Quotients scaled by powers -/

theorem fst_div_snd_powTwo (k : Int) : ((powTwo k).1 : ℚ) / (powTwo k).2 = 2 ^ k := by
  unfold powTwo
  split
  · obtain ⟨n, rfl⟩ := Int.eq_ofNat_of_zero_le ‹_›
    simp
  · obtain ⟨n, hn⟩ := Int.eq_ofNat_of_zero_le (show 0 ≤ -k by omega)
    obtain rfl : k = -n := by omega
    simp

theorem fst_div_snd_powTen (k : Int) : ((powTen k).1 : ℚ) / (powTen k).2 = 10 ^ k := by
  unfold powTen
  split
  · obtain ⟨n, rfl⟩ := Int.eq_ofNat_of_zero_le ‹_›
    simp
  · obtain ⟨n, hn⟩ := Int.eq_ofNat_of_zero_le (show 0 ≤ -k by omega)
    obtain rfl : k = -n := by omega
    simp

theorem scaleDown_spec (num : Nat) (hd : 0 < den) (e : Int) :
    0 < (scaleDown num den e).2 ∧
      ((scaleDown num den e).1 : ℚ) / (scaleDown num den e).2 = num / den / 2 ^ e := by
  unfold scaleDown
  split
  · obtain ⟨n, rfl⟩ := Int.eq_ofNat_of_zero_le ‹_›
    refine ⟨Nat.mul_pos hd (Nat.pow_pos (by decide)), ?_⟩
    simp [div_div]
  · obtain ⟨n, hn⟩ := Int.eq_ofNat_of_zero_le (show 0 ≤ -e by omega)
    obtain rfl : e = -n := by omega
    refine ⟨hd, ?_⟩
    simp
    ring

/-- The whole part of the logarithm, between two powers. -/
theorem quotientLog2_spec (hn : 0 < num) (hd : 0 < den) :
    (2 : ℚ) ^ quotientLog2 num den ≤ num / den ∧
      (num / den : ℚ) < 2 ^ (quotientLog2 num den + 1) := by
  have hden : (0 : ℚ) < den := by exact_mod_cast hd
  have hnum_low : (2 : ℚ) ^ (num.log2 : Int) ≤ num := by exact_mod_cast Nat.log2_self_le hn.ne'
  have hnum_high : (num : ℚ) < 2 ^ ((num.log2 : Int) + 1) := by
    exact_mod_cast (Nat.lt_log2_self : num < 2 ^ (num.log2 + 1))
  have hden_low : (2 : ℚ) ^ (den.log2 : Int) ≤ den := by exact_mod_cast Nat.log2_self_le hd.ne'
  have hden_high : (den : ℚ) < 2 ^ ((den.log2 : Int) + 1) := by
    exact_mod_cast (Nat.lt_log2_self : den < 2 ^ (den.log2 + 1))
  -- the quotient lies within one power of the guess, on either side
  have hlow : (2 : ℚ) ^ ((num.log2 : Int) - den.log2 - 1) ≤ num / den := by
    rw [le_div_iff₀ hden]
    calc (2 : ℚ) ^ ((num.log2 : Int) - den.log2 - 1) * den
        ≤ 2 ^ ((num.log2 : Int) - den.log2 - 1) * 2 ^ ((den.log2 : Int) + 1) := by gcongr
      _ = 2 ^ (num.log2 : Int) := by rw [← zpow_add₀ two_ne_zero]; congr 1; ring
      _ ≤ num := hnum_low
  have hhigh : (num / den : ℚ) < 2 ^ ((num.log2 : Int) - den.log2 + 1) := by
    rw [div_lt_iff₀ hden]
    calc (num : ℚ) < 2 ^ ((num.log2 : Int) + 1) := hnum_high
      _ = 2 ^ ((num.log2 : Int) - den.log2 + 1) * 2 ^ (den.log2 : Int) := by
        rw [← zpow_add₀ two_ne_zero]; congr 1; ring
      _ ≤ 2 ^ ((num.log2 : Int) - den.log2 + 1) * den := by gcongr
  obtain ⟨hpos, hscale⟩ := scaleDown_spec num hd ((num.log2 : Int) - den.log2)
  have hlt : (scaleDown num den ((num.log2 : Int) - den.log2)).1
        < (scaleDown num den ((num.log2 : Int) - den.log2)).2
      ↔ (num / den : ℚ) < 2 ^ ((num.log2 : Int) - den.log2) := by
    rw [← div_lt_one (by positivity : (0 : ℚ) < 2 ^ ((num.log2 : Int) - den.log2)), ← hscale,
      div_lt_one (by exact_mod_cast hpos), Nat.cast_lt]
  simp only [quotientLog2, hlt]
  split_ifs with h
  · exact ⟨hlow, by simpa using h⟩
  · exact ⟨not_lt.1 h, hhigh⟩

/-- A quotient rounds to every whole number that it is at most a half away from, exactly a half
    only if the number is even. -/
theorem roundHalfEven_eq (hd : 0 < den) (hlow : (m : ℚ) - 1 / 2 ≤ num / den)
    (hhigh : (num / den : ℚ) ≤ m + 1 / 2)
    (hodd : m % 2 = 1 → (m : ℚ) - 1 / 2 < num / den ∧ (num / den : ℚ) < m + 1 / 2) :
    roundHalfEven num den = m := by
  have hden : (0 : ℚ) < den := by exact_mod_cast hd
  -- the same bounds in whole numbers
  have hlow' : 2 * (m * den) ≤ 2 * num + den := by
    rw [le_div_iff₀ hden] at hlow
    have : (2 * (m * den) : ℚ) ≤ 2 * num + den := by linarith
    exact_mod_cast this
  have hhigh' : 2 * num ≤ 2 * (m * den) + den := by
    rw [div_le_iff₀ hden] at hhigh
    have : (2 * num : ℚ) ≤ 2 * (m * den) + den := by linarith
    exact_mod_cast this
  have hodd' : m % 2 = 1 → 2 * (m * den) < 2 * num + den ∧ 2 * num < 2 * (m * den) + den := by
    intro h
    obtain ⟨h1, h2⟩ := hodd h
    rw [lt_div_iff₀ hden] at h1
    rw [div_lt_iff₀ hden] at h2
    have h1' : (2 * (m * den) : ℚ) < 2 * num + den := by linarith
    have h2' : (2 * num : ℚ) < 2 * (m * den) + den := by linarith
    exact ⟨by exact_mod_cast h1', by exact_mod_cast h2'⟩
  have hdiv := Nat.div_add_mod num den
  have hmod := Nat.mod_lt num hd
  rw [Nat.mul_comm] at hdiv
  unfold roundHalfEven
  simp only
  generalize num / den = c at hdiv ⊢
  generalize num % den = r at hdiv hmod ⊢
  -- the whole part is the number or the one below it
  have hle : c ≤ m := by
    by_contra hlt
    have := Nat.mul_le_mul_right den (show m + 1 ≤ c by omega)
    rw [Nat.succ_mul] at this
    omega
  have hge : m ≤ c + 1 := by
    by_contra hlt
    have := Nat.mul_le_mul_right den (show c + 2 ≤ m by omega)
    rw [Nat.add_mul] at this
    omega
  obtain rfl | rfl : c = m ∨ c + 1 = m := by omega
  · split_ifs <;> omega
  · rw [Nat.add_mul, Nat.one_mul] at hlow' hhigh' hodd'
    split_ifs <;> omega

/-! ## Numbers that round to a double -/

/-- A number that rounds to the double of the interval, whose exponent is `q`. -/
structure Interval.Has (i : Interval) (q : Int) (x : ℚ) : Prop where
  low : i.low * 2 ^ (q - 2) ≤ x
  high : x ≤ i.high * 2 ^ (q - 2)
  inner : i.closed = false → i.low * 2 ^ (q - 2) < x ∧ x < i.high * 2 ^ (q - 2)

variable {x : ℚ}

theorem two_zpow_sub_two (q : Int) : (2 : ℚ) ^ (q - 2) = 2 ^ q / 4 := by
  rw [zpow_sub₀ two_ne_zero]
  norm_num

theorem hiddenBit_cast : ((hiddenBit : Nat) : ℚ) = 2 ^ (52 : Int) := by
  norm_num [hiddenBit_eq]

theorem low_ofMantissa (h0 : 0 < m) (q : Int) :
    (4 * m - 2 : ℚ) ≤ (Interval.ofMantissa m q).low := by
  have hlow : 4 * m ≤ (Interval.ofMantissa m q).low + 2 := by
    simp only [Interval.ofMantissa]
    split_ifs <;> omega
  have : (4 * m : ℚ) ≤ (Interval.ofMantissa m q).low + 2 := by exact_mod_cast hlow
  linarith

/-- Below a power of two the lower half of the interval is half as wide. -/
theorem low_ofMantissa_hiddenBit (hq : leastExponent < q) :
    ((Interval.ofMantissa hiddenBit q).low : ℚ) = 4 * hiddenBit - 1 := by
  have hlow : (Interval.ofMantissa hiddenBit q).low = 4 * hiddenBit - 1 := by
    simp [Interval.ofMantissa, hq]
  rw [hlow]
  push_cast [show 1 ≤ 4 * hiddenBit by decide]
  ring

theorem high_ofMantissa (m : Nat) (q : Int) : ((Interval.ofMantissa m q).high : ℚ) = 4 * m + 2 := by
  simp [Interval.ofMantissa]

theorem closed_ofMantissa : (Interval.ofMantissa m q).closed = false ↔ m % 2 = 1 := by
  simp [Interval.ofMantissa]

/-- The numbers of an interval, in units of the exponent, are at most a half away from the
    mantissa. -/
theorem Interval.Has.bounds (h0 : 0 < m) (h : (Interval.ofMantissa m q).Has q x) :
    (m : ℚ) - 1 / 2 ≤ x / 2 ^ q ∧ x / 2 ^ q ≤ m + 1 / 2 ∧
      (m % 2 = 1 → (m : ℚ) - 1 / 2 < x / 2 ^ q ∧ x / 2 ^ q < m + 1 / 2) := by
  have hpos : (0 : ℚ) < 2 ^ q := by positivity
  have hlow : (m - 1 / 2 : ℚ) * 2 ^ q ≤ (Interval.ofMantissa m q).low * 2 ^ (q - 2) := by
    rw [two_zpow_sub_two]
    nlinarith [low_ofMantissa h0 q]
  have hhigh : ((Interval.ofMantissa m q).high : ℚ) * 2 ^ (q - 2) = (m + 1 / 2) * 2 ^ q := by
    rw [high_ofMantissa, two_zpow_sub_two]
    ring
  rw [le_div_iff₀ hpos, div_le_iff₀ hpos, lt_div_iff₀ hpos, div_lt_iff₀ hpos, ← hhigh]
  refine ⟨hlow.trans h.low, h.high, fun hodd => ?_⟩
  obtain ⟨h1, h2⟩ := h.inner (closed_ofMantissa.2 hodd)
  exact ⟨hlow.trans_lt h1, h2⟩

theorem Interval.Has.pos (h0 : 0 < m) (h : (Interval.ofMantissa m q).Has q x) : 0 < x := by
  have hlow : 0 < (Interval.ofMantissa m q).low := by
    simp only [Interval.ofMantissa]
    split_ifs <;> omega
  refine lt_of_lt_of_le ?_ h.low
  have : (0 : ℚ) < (Interval.ofMantissa m q).low := by exact_mod_cast hlow
  positivity

/-- No number of the interval has more binary digits than the double. -/
theorem Interval.Has.lt_two_pow (hm : IsMantissa m q) (h : (Interval.ofMantissa m q).Has q x) :
    x < 2 ^ (q + 53) := by
  have hlt : m + 1 ≤ 2 * hiddenBit := hm.1
  have hcast : (m : ℚ) + 1 ≤ 2 * 2 ^ (52 : Int) := by rw [← hiddenBit_cast]; exact_mod_cast hlt
  have hpos : (0 : ℚ) < 2 ^ q := by positivity
  calc x ≤ (4 * m + 2) * (2 ^ q / 4) := by
        rw [← high_ofMantissa m q, ← two_zpow_sub_two]; exact h.high
    _ < (m + 1) * 2 ^ q := by linarith
    _ ≤ (2 * 2 ^ (52 : Int)) * 2 ^ q := by gcongr
    _ = 2 ^ (q + 53) := by rw [zpow_add₀ two_ne_zero]; norm_num; ring

/-- The exponent that a number of the interval is rounded to: the one of the double, or, just below
    a power of two, the one before it. -/
theorem Interval.Has.exponent (h0 : 0 < m) (hm : IsMantissa m q)
    (h : (Interval.ofMantissa m q).Has q x) {l : Int} (hl : (2 : ℚ) ^ l ≤ x ∧ x < 2 ^ (l + 1)) :
    max (l - 52) leastExponent = q ∨
      m = hiddenBit ∧ leastExponent < q ∧ max (l - 52) leastExponent = q - 1 ∧
        x < 2 ^ (q + 52) := by
  have hle : l < q + 53 := (zpow_lt_zpow_iff_right₀ one_lt_two).1 (hl.1.trans_lt (h.lt_two_pow hm))
  obtain ⟨-, hq, -, hsub⟩ := hm
  by_cases hx : (2 : ℚ) ^ (q + 52) ≤ x
  · have hge : q + 52 < l + 1 := (zpow_lt_zpow_iff_right₀ one_lt_two).1 (hx.trans_lt hl.2)
    left
    omega
  · rw [not_le] at hx
    have hlt : l < q + 52 := (zpow_lt_zpow_iff_right₀ one_lt_two).1 (hl.1.trans_lt hx)
    obtain rfl | hq := hq.eq_or_lt
    · left
      omega
    -- a mantissa above the hidden bit leaves no room below the power
    have hmh : m = hiddenBit := by
      have hge : hiddenBit ≤ m := by
        by_contra hlt
        exact absurd (hsub (by omega)) hq.ne'
      have hupper : (m : ℚ) - 1 / 2 < 2 ^ (52 : Int) := by
        refine (h.bounds h0).1.trans_lt ?_
        rw [div_lt_iff₀ (by positivity), ← zpow_add₀ two_ne_zero, add_comm]
        exact hx
      rw [← hiddenBit_cast] at hupper
      have : (m : ℚ) < hiddenBit + 1 := by linarith
      have : m < hiddenBit + 1 := by exact_mod_cast this
      omega
    have hge : (2 : ℚ) ^ (q + 51) ≤ x := by
      subst hmh
      refine le_trans ?_ h.low
      rw [low_ofMantissa_hiddenBit hq, hiddenBit_cast, two_zpow_sub_two, zpow_add₀ two_ne_zero]
      have : (0 : ℚ) < 2 ^ q := by positivity
      norm_num
      linarith
    have hgt : q + 51 < l + 1 := (zpow_lt_zpow_iff_right₀ one_lt_two).1 (hge.trans_lt hl.2)
    exact .inr ⟨hmh, hq, by omega, hx⟩

theorem assemble_lt (hm : IsMantissa m q) : assemble m q < 2047 * hiddenBit := by
  obtain ⟨hlt, hlow, hhigh, -⟩ := hm
  simp only [leastExponent] at hlow
  by_cases h : m < hiddenBit
  · rw [assemble_of_lt h, hiddenBit_eq] at *
    omega
  · rw [assemble_of_le (Nat.not_lt.1 h), hiddenBit_eq] at *
    omega

/-- A carry into the next power of two. -/
theorem assemble_carry (hq : leastExponent < q) :
    assemble (2 * hiddenBit) (q - 1) = assemble hiddenBit q := by
  rw [assemble_of_le (by decide), assemble_of_le le_rfl, hiddenBit_eq]
  simp only [leastExponent] at hq
  omega

/-- Just below a power of two, the numbers that round up to it. -/
theorem Interval.Has.below (hq : leastExponent < q)
    (h : (Interval.ofMantissa hiddenBit q).Has q x) (hx : x < 2 ^ (q + 52)) :
    ((2 * hiddenBit : Nat) : ℚ) - 1 / 2 ≤ x / 2 ^ (q - 1) ∧
      x / 2 ^ (q - 1) < ((2 * hiddenBit : Nat) : ℚ) := by
  have hpos : (0 : ℚ) < 2 ^ q := by positivity
  have hhalf : (2 : ℚ) ^ (q - 1) = 2 ^ q / 2 := by rw [zpow_sub₀ two_ne_zero, zpow_one]
  have hlow := h.low
  rw [low_ofMantissa_hiddenBit hq, two_zpow_sub_two] at hlow
  rw [zpow_add₀ two_ne_zero, ← hiddenBit_cast] at hx
  push_cast
  rw [hhalf, le_div_iff₀ (by positivity), div_lt_iff₀ (by positivity)]
  constructor <;> linarith

/-- **Numbers round to their double.** -/
theorem nearestQuotient_eq (negative : Bool) (hd : 0 < den) (h0 : 0 < m) (hm : IsMantissa m q)
    (h : (Interval.ofMantissa m q).Has q (num / den)) :
    nearestQuotient negative num den = some (signed negative (assemble m q)) := by
  have hpos := h.pos h0
  have hn : 0 < num := by
    rcases Nat.eq_zero_or_pos num with rfl | hn
    · simp at hpos
    · exact hn
  have hlog := quotientLog2_spec hn hd
  simp only [nearestQuotient, if_neg hn.ne']
  set e := max (quotientLog2 num den - 52) leastExponent with he
  obtain ⟨hdpos, hscale⟩ := scaleDown_spec num hd e
  have hbits : assemble (roundHalfEven (scaleDown num den e).1 (scaleDown num den e).2) e
      = assemble m q := by
    obtain heq | ⟨rfl, hq, heq, hx⟩ := h.exponent h0 hm hlog
    · obtain ⟨hlow, hhigh, hodd⟩ := h.bounds h0
      rw [← heq, ← he, ← hscale] at hlow hhigh hodd
      rw [roundHalfEven_eq hdpos hlow hhigh hodd, he, heq]
    · obtain ⟨hlow, hlt⟩ := h.below hq hx
      rw [← heq, ← he, ← hscale] at hlow hlt
      have hround := roundHalfEven_eq hdpos hlow (by linarith) (by simp)
      rw [hround, he, heq, assemble_carry hq]
  rw [hbits, if_neg (Nat.not_le.2 (assemble_lt hm))]
  rfl

end PromptRules.Decimal
