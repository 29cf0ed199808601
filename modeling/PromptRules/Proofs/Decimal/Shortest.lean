import Mathlib.Data.Nat.Cast.Order.Field
import PromptRules.Decimal.Layout
import PromptRules.Proofs.Decimal.Rounding

/-!
# The fewest digits of a double

A double is written with the fewest decimal digits that round to it. Seventeen are always enough:
with so many digits the neighbours of the double on the decimal grid are closer to each other than
the ends of the interval of numbers that round to it, so one of them lies inside. Digits of the same
value, however they are laid out, are read as the double.

Results:
* `magnitude_spec`: the number of digits before the point.
* `onGrid_cases`, `exists_onGrid`: the neighbours on a grid, and when one of them is found.
* `has_shortest`: the fewest digits round to the double.
* `readScaled_eq`: digits are read as the double that they round to.
-/

namespace PromptRules.Decimal

variable {num den m n : Nat} {q k : Int} {i : Interval} {x : ℚ}

/-! ## How many digits there are -/

theorem lt_ten_pow_digitCount (n : Nat) : n < 10 ^ digitCount n :=
  (Nat.length_toDigits_le_iff (by decide) Nat.length_toDigits_pos).1 le_rfl

theorem ten_pow_le_of_pos (h : 0 < n) : 10 ^ (digitCount n - 1) ≤ n := by
  by_contra hlt
  rw [not_le] at hlt
  obtain hone | hmore : digitCount n = 1 ∨ 0 < digitCount n - 1 := by
    have : 0 < digitCount n := Nat.length_toDigits_pos
    omega
  · rw [hone] at hlt
    omega
  · have := (Nat.length_toDigits_le_iff (by decide) hmore).2 hlt
    simp only [digitCount] at hmore this
    omega

/-- The digits before the point do not make the number too large. -/
theorem magnitude_spec (hn : 0 < num) (hd : 0 < den) :
    (10 : ℚ) ^ (magnitude num den - 1) ≤ num / den := by
  have hden : (0 : ℚ) < den := by exact_mod_cast hd
  have hnum : (0 : ℚ) < num := by exact_mod_cast hn
  unfold magnitude
  split
  · -- a number with a whole part has as many digits as that
    have hpos : 0 < num / den := Nat.div_pos ‹_› hd
    have hcount : 0 < digitCount (num / den) := Nat.length_toDigits_pos
    have hle := ten_pow_le_of_pos hpos
    calc (10 : ℚ) ^ ((digitCount (num / den) : Int) - 1)
        = ((10 ^ (digitCount (num / den) - 1) : Nat) : ℚ) := by
          rw [← Int.natCast_pred_of_pos hcount]
          push_cast
          rw [zpow_natCast]
      _ ≤ (num / den : Nat) := by exact_mod_cast hle
      _ ≤ num / den := Nat.cast_div_le
  · -- the inverse, rounded up, is at most the power of ten above it
    have hceil : den ≤ (den + num - 1) / num * num := by
      have := Nat.lt_div_mul_add (a := den + num - 1) hn
      omega
    generalize (den + num - 1) / num = c at hceil ⊢
    have hlt := lt_ten_pow_digitCount (c - 1)
    have hpow : den ≤ 10 ^ digitCount (c - 1) * num := by
      refine hceil.trans (Nat.mul_le_mul_right num ?_)
      omega
    have hexp : (1 : Int) - (digitCount (c - 1) : Int) - 1 = -(digitCount (c - 1) : Int) := by ring
    rw [hexp, zpow_neg, zpow_natCast, le_div_iff₀ hden, inv_mul_le_iff₀ (by positivity)]
    exact_mod_cast hpow

/-! ## Neighbours on a decimal grid -/

theorem fst_powTwo_pos (k : Int) : 0 < (powTwo k).1 := by
  unfold powTwo
  split
  · exact Nat.pow_pos (by decide)
  · exact Nat.one_pos

theorem snd_powTwo_pos (k : Int) : 0 < (powTwo k).2 := by
  unfold powTwo
  split
  · exact Nat.one_pos
  · exact Nat.pow_pos (by decide)

theorem snd_powTen_pos (k : Int) : 0 < (powTen k).2 := by
  unfold powTen
  split
  · exact Nat.one_pos
  · exact Nat.pow_pos (by decide)

/-- Places and points are compared over their denominator. -/
theorem place_le_point {a c : Nat} :
    place q k a ≤ point q k c ↔ (a * 2 ^ (q - 2) : ℚ) ≤ c * 10 ^ k := by
  have hu : (0 : ℚ) < (powTwo (q - 2)).2 := by exact_mod_cast snd_powTwo_pos (q - 2)
  have ht : (0 : ℚ) < (powTen k).2 := by exact_mod_cast snd_powTen_pos k
  rw [← fst_div_snd_powTwo, ← fst_div_snd_powTen, mul_div_assoc', mul_div_assoc',
    div_le_div_iff₀ hu ht]
  exact_mod_cast Iff.rfl

theorem point_le_place {a c : Nat} :
    point q k c ≤ place q k a ↔ (c * 10 ^ k : ℚ) ≤ a * 2 ^ (q - 2) := by
  have hu : (0 : ℚ) < (powTwo (q - 2)).2 := by exact_mod_cast snd_powTwo_pos (q - 2)
  have ht : (0 : ℚ) < (powTen k).2 := by exact_mod_cast snd_powTen_pos k
  rw [← fst_div_snd_powTwo, ← fst_div_snd_powTen, mul_div_assoc', mul_div_assoc',
    div_le_div_iff₀ ht hu]
  exact_mod_cast Iff.rfl

theorem place_lt_point {a c : Nat} :
    place q k a < point q k c ↔ (a * 2 ^ (q - 2) : ℚ) < c * 10 ^ k := by
  rw [← not_le, point_le_place, not_le]

theorem point_lt_place {a c : Nat} :
    point q k c < place q k a ↔ (c * 10 ^ k : ℚ) < a * 2 ^ (q - 2) := by
  rw [← not_le, place_le_point, not_le]

theorem hasPoint_iff {c : Nat} : i.hasPoint q k c = true ↔ i.Has q (c * 10 ^ k) := by
  unfold Interval.hasPoint
  cases hclosed : i.closed with
  | true =>
    simp only [if_true, Bool.and_eq_true, decide_eq_true_eq, place_le_point, point_le_place]
    exact ⟨fun h => ⟨h.1, h.2, by simp [hclosed]⟩, fun h => ⟨h.low, h.high⟩⟩
  | false =>
    simp only [Bool.false_eq_true, if_false, Bool.and_eq_true, decide_eq_true_eq, place_lt_point,
      point_lt_place]
    exact ⟨fun h => ⟨h.1.le, h.2.le, fun _ => h⟩, fun h => h.inner hclosed⟩

/-- The double lies between its neighbours. -/
theorem below_spec (i : Interval) (q k : Int) :
    (i.below q k * 10 ^ k : ℚ) ≤ i.middle * 2 ^ (q - 2) ∧
      (i.middle * 2 ^ (q - 2) : ℚ) < (i.below q k + 1 : Nat) * 10 ^ k := by
  have hpos : 0 < point q k 1 := by
    rw [← Nat.not_le]
    intro hle
    have := point_le_place (q := q) (k := k) (a := 0) (c := 1) |>.1 (hle.trans (Nat.zero_le _))
    have hten : (0 : ℚ) < 10 ^ k := by positivity
    simp at this
    linarith
  have hmul : ∀ c, point q k c = c * point q k 1 := fun c => by
    simp only [point, Nat.one_mul, Nat.mul_assoc]
  rw [← point_le_place, ← place_lt_point, hmul (i.below q k), hmul (i.below q k + 1), Nat.succ_mul]
  exact ⟨Nat.div_mul_le_self _ _, Nat.lt_div_mul_add hpos⟩

/-- One of the neighbours of the double on the grid is found, if the interval has one. -/
theorem onGrid_cases (i : Interval) (q k : Int) :
    (∃ c, i.onGrid q k = some c ∧ i.Has q (c * 10 ^ k)) ∨
      i.onGrid q k = none ∧ ¬ i.Has q (i.below q k * 10 ^ k) ∧
        ¬ i.Has q ((i.below q k + 1 : Nat) * 10 ^ k) := by
  simp only [← hasPoint_iff]
  cases hbelow : i.hasPoint q k (i.below q k) <;>
    cases habove : i.hasPoint q k (i.below q k + 1) <;>
    simp only [Interval.onGrid, hbelow, habove]
  · simp
  · exact .inl ⟨_, rfl, habove⟩
  · exact .inl ⟨_, rfl, hbelow⟩
  · left
    split_ifs
    · exact ⟨_, rfl, hbelow⟩
    · exact ⟨_, rfl, habove⟩
    · exact ⟨_, rfl, hbelow⟩
    · exact ⟨_, rfl, habove⟩

theorem Interval.has_of_inner (hlow : i.low * 2 ^ (q - 2) < x) (hhigh : x < i.high * 2 ^ (q - 2)) :
    i.Has q x :=
  ⟨hlow.le, hhigh.le, fun _ => ⟨hlow, hhigh⟩⟩

/-- A grid whose step is shorter than the interval has a point in it. -/
theorem exists_onGrid (hlow : i.low < i.middle) (hhigh : i.middle < i.high)
    (hstep : (10 : ℚ) ^ k < (i.high - i.low) * 2 ^ (q - 2)) :
    ∃ c, i.onGrid q k = some c ∧ i.Has q (c * 10 ^ k) := by
  obtain hfound | ⟨-, hbelow, habove⟩ := onGrid_cases i q k
  · exact hfound
  exfalso
  obtain ⟨hle, hlt⟩ := below_spec i q k
  have hlow' : (i.low * 2 ^ (q - 2) : ℚ) < i.middle * 2 ^ (q - 2) := by gcongr
  have hhigh' : (i.middle * 2 ^ (q - 2) : ℚ) < i.high * 2 ^ (q - 2) := by gcongr
  have h1 : (i.below q k * 10 ^ k : ℚ) ≤ i.low * 2 ^ (q - 2) :=
    not_lt.1 fun h => hbelow (Interval.has_of_inner h (hle.trans_lt hhigh'))
  have h2 : (i.high * 2 ^ (q - 2) : ℚ) ≤ (i.below q k + 1 : Nat) * 10 ^ k :=
    not_lt.1 fun h => habove (Interval.has_of_inner (hlow'.trans hlt) h)
  push_cast at h2
  linarith

/-! ## Enough digits -/

theorem low_lt_middle (h0 : 0 < m) (q : Int) :
    (Interval.ofMantissa m q).low < (Interval.ofMantissa m q).middle := by
  simp only [Interval.ofMantissa]
  split_ifs <;> omega

theorem middle_lt_high (m : Nat) (q : Int) :
    (Interval.ofMantissa m q).middle < (Interval.ofMantissa m q).high := by
  simp only [Interval.ofMantissa]
  omega

/-- Seventeen digits make a step that is shorter than the interval. -/
theorem step_lt (h0 : 0 < m) (hm : IsMantissa m q) (hk : (10 : ℚ) ^ (k + 16) ≤ m * 2 ^ q) :
    (10 : ℚ) ^ k < ((Interval.ofMantissa m q).high - (Interval.ofMantissa m q).low : ℚ)
      * 2 ^ (q - 2) := by
  have hpos : (0 : ℚ) < 2 ^ q := by positivity
  have hpow : (10 : ℚ) ^ k * 10 ^ 16 ≤ m * 2 ^ q := by
    rw [zpow_add₀ (by norm_num)] at hk
    exact_mod_cast hk
  rw [high_ofMantissa, two_zpow_sub_two]
  by_cases h : m = hiddenBit ∧ leastExponent < q
  · obtain ⟨rfl, hq⟩ := h
    rw [low_ofMantissa_hiddenBit hq]
    rw [hiddenBit_eq] at hpow
    norm_num at hpow
    linarith
  · have hlow : (Interval.ofMantissa m q).low = 4 * m - 2 := by simp [Interval.ofMantissa, h]
    have hcast : ((Interval.ofMantissa m q).low : ℚ) = 4 * m - 2 := by
      rw [hlow]
      push_cast [show 2 ≤ 4 * m by omega]
      ring
    have hlt : (m : ℚ) < 10 ^ 16 := by
      have : m < 10 ^ 16 := hm.1.trans (by decide)
      exact_mod_cast this
    have : (m : ℚ) * 2 ^ q < 10 ^ 16 * 2 ^ q := by gcongr
    rw [hcast]
    linarith

/-- The number of a decimal. -/
def Scaled.value (s : Scaled) : ℚ := s.digits * 10 ^ s.exponent

theorem value_stripZeros (fuel : Nat) (s : Scaled) : (stripZeros fuel s).value = s.value := by
  induction fuel generalizing s with
  | zero => rfl
  | succ fuel ih =>
    rw [stripZeros]
    split
    · rename_i h
      rw [ih, Scaled.value, Scaled.value]
      have hdiv : (s.digits : ℚ) = (s.digits / 10 : Nat) * 10 := by
        exact_mod_cast (Nat.div_mul_cancel (Nat.dvd_of_mod_eq_zero h.2)).symm
      rw [zpow_add₀ (by norm_num), zpow_one, hdiv]
      simp only []
      ring
    · rfl

theorem has_of_onGrid {c : Nat} (h : i.onGrid q k = some c) : i.Has q (c * 10 ^ k) := by
  obtain ⟨c', hc', hhas⟩ | ⟨hnone, -⟩ := onGrid_cases i q k
  · rwa [Option.some.inj (h.symm.trans hc')]
  · rw [hnone] at h
    cases h

/-- **The fewest digits round to the double.** -/
theorem has_shortest (h0 : 0 < m) (hm : IsMantissa m q) :
    (Interval.ofMantissa m q).Has q (shortest m q).value := by
  unfold shortest
  simp only
  set i := Interval.ofMantissa m q with hi
  set size := magnitude (m * (powTwo q).1) (powTwo q).2 with hsize
  split
  · rename_i s hfound
    obtain ⟨n, -, hn⟩ := List.exists_of_findSome?_eq_some hfound
    obtain ⟨c, hc, rfl⟩ := Option.map_eq_some_iff.1 hn
    rw [value_stripZeros]
    exact has_of_onGrid hc
  · rename_i hnone
    exfalso
    have hsixteen := List.findSome?_eq_none_iff.1 hnone 16 (by simp)
    have hpow := snd_powTwo_pos q
    have hscale : ((m * (powTwo q).1 : Nat) : ℚ) / (powTwo q).2 = m * 2 ^ q := by
      rw [← fst_div_snd_powTwo, Nat.cast_mul, mul_div_assoc]
    have hmag : (10 : ℚ) ^ (size - ((16 : Nat) + 1 : Nat) + 16) ≤ m * 2 ^ q := by
      rw [← hscale, show size - ((16 : Nat) + 1 : Nat) + 16 = size - 1 by omega]
      exact magnitude_spec (Nat.mul_pos h0 (fst_powTwo_pos q)) hpow
    obtain ⟨c, hc, -⟩ := exists_onGrid (low_lt_middle h0 q) (middle_lt_high m q)
      (step_lt h0 hm hmag)
    rw [Option.map_eq_none_iff, hc] at hsixteen
    cases hsixteen

/-! ## Reading digits -/

theorem Interval.Has.digits_pos {digits : Nat} {exponent : Int} (h0 : 0 < m)
    (h : (Interval.ofMantissa m q).Has q (digits * 10 ^ exponent)) : 0 < digits := by
  rcases Nat.eq_zero_or_pos digits with rfl | hd
  · simpa using h.pos h0
  · exact hd

theorem two_pow_lt_ten_pow : 2 ^ 1075 < 10 ^ 400 := by
  decide +kernel

/-- The numbers of an interval are neither too large nor too small to be looked at closely. -/
theorem Interval.Has.size {digits : Nat} {exponent : Int} (h0 : 0 < m) (hm : IsMantissa m q)
    (hd : 0 < digits) (h : (Interval.ofMantissa m q).Has q (digits * 10 ^ exponent)) :
    ¬ exponent + digitCount digits < -400 ∧ ¬ 400 < exponent + digitCount digits := by
  have hten : (1 : ℚ) < 10 := by norm_num
  have hcount : 0 < digitCount digits := Nat.length_toDigits_pos
  have hexp : (0 : ℚ) < 10 ^ exponent := by positivity
  have hq := hm.2
  constructor
  · -- a number with so few digits is below the lowest interval
    intro hsize
    have hdigits : (digits : ℚ) < 10 ^ (digitCount digits : Int) := by
      exact_mod_cast lt_ten_pow_digitCount digits
    have hlow : (2 : ℚ) ^ (-1075 : Int) ≤ digits * 10 ^ exponent := by
      refine le_trans ?_ h.low
      have hone : (2 : ℚ) ≤ (Interval.ofMantissa m q).low := by
        have := low_ofMantissa h0 q
        have : (1 : ℚ) ≤ m := by exact_mod_cast h0
        linarith
      calc (2 : ℚ) ^ (-1075 : Int) = 2 * 2 ^ (leastExponent - 2) := by
            rw [leastExponent, ← zpow_one_add₀ two_ne_zero]
            norm_num
        _ ≤ 2 * 2 ^ (q - 2) := by
            gcongr
            · norm_num
            · exact hq.1
        _ ≤ (Interval.ofMantissa m q).low * 2 ^ (q - 2) := by gcongr
    have hlt : (digits * 10 ^ exponent : ℚ) < 10 ^ (-400 : Int) := by
      calc (digits * 10 ^ exponent : ℚ)
          < 10 ^ (digitCount digits : Int) * 10 ^ exponent := by gcongr
        _ = 10 ^ (exponent + digitCount digits) := by
          rw [← zpow_add₀ (by norm_num), add_comm]
        _ ≤ 10 ^ (-400 : Int) := zpow_le_zpow_right₀ hten.le (by omega)
    have hinv := hlow.trans_lt hlt
    rw [zpow_neg, zpow_neg, inv_lt_inv₀ (by positivity) (by positivity)] at hinv
    exact absurd two_pow_lt_ten_pow (by exact_mod_cast hinv.not_gt)
  · -- a number with so many digits is above the highest
    intro hsize
    have hdigits : (10 : ℚ) ^ ((digitCount digits : Int) - 1) ≤ digits := by
      rw [← Int.natCast_pred_of_pos hcount, zpow_natCast]
      exact_mod_cast ten_pow_le_of_pos hd
    have hhigh := h.lt_two_pow hm
    have hle : (2 : ℚ) ^ (q + 53) ≤ 2 ^ (1075 : Int) :=
      zpow_le_zpow_right₀ one_le_two (by omega)
    have hge : (10 : ℚ) ^ (400 : Int) ≤ digits * 10 ^ exponent := by
      calc (10 : ℚ) ^ (400 : Int) ≤ 10 ^ ((digitCount digits : Int) - 1 + exponent) :=
            zpow_le_zpow_right₀ hten.le (by omega)
        _ = 10 ^ ((digitCount digits : Int) - 1) * 10 ^ exponent := zpow_add₀ (by norm_num) _ _
        _ ≤ digits * 10 ^ exponent := by gcongr
    have hlt := (hge.trans_lt hhigh).trans_le hle
    exact absurd two_pow_lt_ten_pow (by exact_mod_cast hlt.not_gt)

/-- **Digits are read as the double that they round to.** -/
theorem readScaled_eq (negative : Bool) {digits : Nat} {exponent : Int} (h0 : 0 < m)
    (hm : IsMantissa m q) (h : (Interval.ofMantissa m q).Has q (digits * 10 ^ exponent)) :
    readScaled negative digits exponent = signed negative (assemble m q) := by
  have hd := h.digits_pos h0
  obtain ⟨hsmall, hlarge⟩ := h.size h0 hm hd
  have hscale : ((digits * (powTen exponent).1 : Nat) : ℚ) / (powTen exponent).2
      = digits * 10 ^ exponent := by
    rw [← fst_div_snd_powTen, Nat.cast_mul, mul_div_assoc]
  rw [← hscale] at h
  simp only [readScaled, hd.ne', hsmall, hlarge, or_self, if_false]
  rw [nearestQuotient_eq negative (snd_powTen_pos exponent) h0 hm h, Option.getD_some]

theorem readScaled_zero (negative : Bool) (exponent : Int) :
    readScaled negative 0 exponent = signed negative 0 := by
  rw [readScaled, if_pos (.inl rfl)]
  cases negative <;> decide

end PromptRules.Decimal
