import Mathlib.Algebra.Group.Nat.Defs
import Mathlib.Data.List.Basic
import Mathlib.Data.List.Induction
import PromptRules.Decimal.Whole

/-!
# Numbers in writing

A number is written with ASCII digits and no leading zero. The reader takes such digits up to
the first other character, and gets the number back if there are not too many of them.

Results:
* `splitDigits_digits`, `exists_digits`: the digits in front, and what follows them.
* `splitDigits_written`: the digits in front of a text that begins with none.
* `readNat_written`: what was written is read back.
* `ofDigits_lt`: a run of digits writes a number with no more digits.
-/

namespace PromptRules.Decimal

open Text

/-- The digits that write a number. -/
def written (n : Nat) : List Char := Nat.toDigits 10 n

theorem toList_toString (n : Nat) : (toString n).toList = written n := by
  rw [Nat.toString_eq_ofList_toDigits, String.toList_ofList, written]

theorem toList_toString_natCast (n : Nat) : (toString (n : Int)).toList = written n :=
  toList_toString n

theorem toList_toString_negSucc (n : Nat) :
    (toString (Int.negSucc n)).toList = '-' :: written (n + 1) := by
  show ("-" ++ toString (n + 1)).toList = _
  rw [String.toList_append, toList_toString]
  rfl

theorem isDigit_of_mem_written {n : Nat} {c : Char} (h : c ∈ written n) : c.isDigit = true :=
  Nat.isDigit_of_mem_toDigits (by decide) (by decide) h

theorem written_ne_nil (n : Nat) : written n ≠ [] := Nat.toDigits_ne_nil

/-- An ASCII digit is a decimal digit. -/
theorem digitValue_of_isDigit {c : Char} (h : c.isDigit = true) :
    digitValue c = some (c.toNat - '0'.toNat) := by
  have hc : 48 ≤ c.toNat ∧ c.toNat ≤ 57 := by
    simp only [Char.isDigit, Bool.and_eq_true, decide_eq_true_eq] at h
    exact h
  have hchar : digitChar (c.toNat - '0'.toNat) = c := by
    have hval : 0x30 + (c.toNat - '0'.toNat) = c.toNat := Nat.add_sub_of_le hc.1
    rw [digitChar, hval, Char.ofNat_toNat]
  have hlt : c.toNat - '0'.toNat < 10 := by
    show c.toNat - 48 < 10
    omega
  have hdigit := digitValue_digitChar hlt
  rwa [hchar] at hdigit

/-- The digits in front are taken up to the first character that is none. -/
theorem splitDigits_digits {ds rest : List Char} (hd : ∀ c ∈ ds, (digitValue c).isSome)
    (hr : ∀ c ∈ rest.head?, digitValue c = none) :
    splitDigits (ds ++ rest) = (ds.filterMap digitValue, rest) := by
  induction ds with
  | nil =>
    cases rest with
    | nil => rfl
    | cons c rest => exact splitDigits_of_other rest (hr c rfl)
  | cons c ds ih =>
    obtain ⟨hc, hds⟩ := List.forall_mem_cons.1 hd
    obtain ⟨d, hc⟩ := Option.isSome_iff_exists.1 hc
    rw [List.cons_append, splitDigits_of_digit _ hc, ih hds, List.filterMap_cons_some hc]

/-- Every text is the digits in front and what follows them. -/
theorem exists_digits (cs : List Char) :
    ∃ ds, (∀ c ∈ ds, (digitValue c).isSome) ∧ ds.filterMap digitValue = (splitDigits cs).1 ∧
      cs = ds ++ (splitDigits cs).2 := by
  induction cs with
  | nil => exact ⟨[], List.forall_mem_nil _, rfl, rfl⟩
  | cons c cs ih =>
    cases hc : digitValue c with
    | none =>
      rw [splitDigits_of_other cs hc]
      exact ⟨[], List.forall_mem_nil _, rfl, rfl⟩
    | some d =>
      obtain ⟨ds, hds, hvalues, hcs⟩ := ih
      rw [splitDigits_of_digit cs hc]
      refine ⟨c :: ds, List.forall_mem_cons.2 ⟨by rw [hc]; rfl, hds⟩, ?_, congrArg (c :: ·) hcs⟩
      rw [List.filterMap_cons_some hc, hvalues]

theorem splitDigits_append {ds rest : List Char} (hd : ∀ c ∈ ds, c.isDigit = true)
    (hr : ∀ c ∈ rest.head?, digitValue c = none) :
    splitDigits (ds ++ rest) = (ds.map fun c => c.toNat - '0'.toNat, rest) := by
  have hvalue : ∀ c ∈ ds, digitValue c = some (c.toNat - '0'.toNat) := fun c hc =>
    digitValue_of_isDigit (hd c hc)
  rw [splitDigits_digits (fun c hc => by rw [hvalue c hc]; rfl) hr, List.filterMap_congr hvalue,
    List.filterMap_eq_map']

theorem splitDigits_written (n : Nat) (rest : List Char)
    (hr : ∀ c ∈ rest.head?, digitValue c = none) :
    splitDigits (written n ++ rest) = ((written n).map fun c => c.toNat - '0'.toNat, rest) :=
  splitDigits_append (fun _ => isDigit_of_mem_written) hr

/-- **What was written is read back**, if it has not too many digits. -/
theorem readNat_written {n : Nat} (h : n < 10 ^ maxDigits) :
    readNat ((written n).map fun c => c.toNat - '0'.toNat) = .ok n := by
  rw [readNat_eq_ok_iff]
  constructor
  · rw [List.length_map]
    exact (Nat.length_toDigits_le_iff (by decide) (by decide)).2 h
  · rw [ofDigits, List.foldl_map, ← Nat.ofDigitChars_eq_foldl]
    exact Nat.ofDigitChars_ten_toDigits

/-! ## The numbers that are read -/

theorem lt_ten_of_mem_splitDigits {cs : List Char} {d : Nat} (h : d ∈ (splitDigits cs).1) :
    d < 10 := by
  induction cs with
  | nil => cases h
  | cons c cs ih =>
    cases hc : digitValue c with
    | none =>
      rw [splitDigits_of_other cs hc] at h
      cases h
    | some e =>
      rw [splitDigits_of_digit cs hc] at h
      rcases List.mem_cons.1 h with rfl | h
      · exact digitValue_lt hc
      · exact ih h

theorem ofDigits_concat (ds : List Nat) (d : Nat) :
    ofDigits (ds ++ [d]) = 10 * ofDigits ds + d := by
  simp [ofDigits]

/-- A run of digits writes a number with no more digits. -/
theorem ofDigits_lt {ds : List Nat} (h : ∀ d ∈ ds, d < 10) : ofDigits ds < 10 ^ ds.length := by
  induction ds using List.reverseRecOn with
  | nil => decide
  | append_singleton ds d ih =>
    have hd : d < 10 := h d (by simp)
    have hds := ih fun e he => h e (List.mem_append_left [d] he)
    rw [ofDigits_concat, List.length_append, List.length_singleton, Nat.pow_succ]
    omega

theorem lt_of_readNat_splitDigits {cs : List Char} {n : Nat}
    (h : readNat (splitDigits cs).1 = .ok n) : n < 10 ^ maxDigits := by
  obtain ⟨hlen, rfl⟩ := readNat_eq_ok_iff.1 h
  have hlt := ofDigits_lt (@lt_ten_of_mem_splitDigits cs)
  exact Nat.lt_of_lt_of_le hlt (Nat.pow_le_pow_right (by decide) hlen)

end PromptRules.Decimal
