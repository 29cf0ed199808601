import PromptRules.Proofs.Directive.Written

/-!
# Numbers and windows read back

A window that starts at zero or later, does not end before it starts and has no end with too many
digits is read back from its writing, be it open or closed; and no text is read as any other
window. A number with not too many digits is read back from a text that it stands in front of,
whatever follows that is no digit.

Results:
* `Window.Readable`: the windows that are read at all.
* `readable_of_read?`, `read?_text_iff`: the window of any text, and the window of its own writing.
* `numbers_read_back`: all of this together.
-/

namespace PromptRules.Directive

open Decimal Text

/-- The decimal form of the number has no more digits than can be read; its sign does not
    count. -/
def IsShort (n : Int) : Prop := (written n.natAbs).length ≤ maxDigits

/-- A window of message counts that does not end before it starts, with ends that can be read. -/
structure Window.Readable (w : Window) : Prop where
  first_nonneg : 0 ≤ w.first
  ordered : ∀ l ∈ w.last, w.first ≤ l
  first_short : IsShort w.first
  last_short : ∀ l ∈ w.last, IsShort l

variable {w : Window} {n : Int}

theorem isShort_iff : IsShort n ↔ n.natAbs < 10 ^ maxDigits :=
  Nat.length_toDigits_le_iff (by decide) (by decide)

/-- The ends of a window that is read are natural numbers. -/
theorem Window.readable_iff : w.Readable ↔ ∃ first : Nat, w.first = first ∧
    first < 10 ^ maxDigits ∧
    ∀ l ∈ w.last, ∃ last : Nat, l = last ∧ first ≤ last ∧ last < 10 ^ maxDigits := by
  constructor
  · intro h
    obtain ⟨first, hf⟩ := Int.eq_ofNat_of_zero_le h.first_nonneg
    have hfirst := isShort_iff.1 h.first_short
    refine ⟨first, hf, by rwa [hf] at hfirst, fun l hl => ?_⟩
    have hle := h.ordered l hl
    obtain ⟨last, rfl⟩ := Int.eq_ofNat_of_zero_le (Int.le_trans h.first_nonneg hle)
    exact ⟨last, rfl, by omega, isShort_iff.1 (h.last_short _ hl)⟩
  · rintro ⟨first, hf, hfirst, hlast⟩
    refine ⟨by omega, fun l hl => ?_, ?_, fun l hl => ?_⟩
    · obtain ⟨last, rfl, hle, -⟩ := hlast l hl
      omega
    · rw [isShort_iff, hf]
      exact hfirst
    · obtain ⟨last, rfl, -, hlt⟩ := hlast l hl
      exact isShort_iff.2 hlt

/-- What is read as a window does not end before it starts. -/
theorem readable_of_read? {s : String} (h : Window.read? s = .ok (some w)) : w.Readable :=
  Window.readable_iff.2 (Spec.ends_of_read? h)

/-- **A window is read back from its writing** iff it can be read at all. -/
theorem read?_text_iff : Window.read? w.text = .ok (some w) ↔ w.Readable := by
  refine ⟨readable_of_read?, fun h => ?_⟩
  obtain ⟨first, hf, hfirst, hlast⟩ := Window.readable_iff.1 h
  exact Spec.read?_text hf hfirst hlast

/-- A number is read back from what stands in front of a text iff it has not too many digits. -/
theorem leadingInt?_toString_append_iff {t : String}
    (ht : ∀ c ∈ t.toList.head?, digitValue c = none) :
    leadingInt? (toString n ++ t) = .ok (some n) ↔ IsShort n := by
  rw [isShort_iff]
  exact ⟨Spec.natAbs_lt_of_leadingInt?, fun h => Spec.leadingInt?_toString_append h ht⟩

/-- **Numbers and windows are read back from their writing**: a window, open or closed, that starts
    at zero or later and does not end before that, and a number with anything behind it that does
    not start with a digit of any script; both if they have not too many digits, and only then. No
    text at all is read as another window. -/
theorem numbers_read_back :
    (∀ w : Window, Window.read? w.text = .ok (some w) ↔ w.Readable) ∧
    (∀ s w, Window.read? s = .ok (some w) → w.Readable) ∧
    ∀ (n : Int) (t : String), (∀ c ∈ t.toList.head?, digitValue c = none) →
      (leadingInt? (toString n ++ t) = .ok (some n) ↔ IsShort n) :=
  ⟨fun _ => read?_text_iff, fun _ _ => readable_of_read?,
    fun _ _ => leadingInt?_toString_append_iff⟩

/-- The greatest number that can be read. -/
def greatest : Nat := 10 ^ maxDigits - 1

theorem isShort_greatest : IsShort (greatest : Int) ∧ IsShort (-(greatest : Int)) := by
  have hlt : greatest < 10 ^ maxDigits :=
    Nat.sub_lt (Nat.pow_pos (Nat.succ_pos 9)) Nat.one_pos
  rw [isShort_iff, isShort_iff, Int.natAbs_neg, Int.natAbs_natCast]
  exact ⟨hlt, hlt⟩

theorem readable_greatest : Window.Readable ⟨0, some greatest⟩ where
  first_nonneg := Int.le_refl 0
  ordered := by
    rintro _ ⟨⟩
    exact Int.natCast_nonneg greatest
  first_short := isShort_iff.2 (Nat.pow_pos (Nat.succ_pos 9))
  last_short := by
    rintro _ ⟨⟩
    exact isShort_greatest.1

/-- The longest window, the least number with a unit behind it, and a window with blanks and with
    digits of other scripts. -/
theorem numbers_read_back_greatest :
    Window.read? (Window.text ⟨0, some greatest⟩) = .ok (some ⟨0, some greatest⟩) ∧
    leadingInt? (toString (-(greatest : Int)) ++ " messages") = .ok (some (-(greatest : Int))) ∧
    Window.read? "\u0663 -\u2003\uff17\n" = .ok (some ⟨3, some 7⟩) ∧
    Window.Readable ⟨3, some 7⟩ := by
  obtain ⟨hwindow, hreadable, hnumber⟩ := numbers_read_back
  have hread : Window.read? "\u0663 -\u2003\uff17\n" = .ok (some ⟨3, some 7⟩) := by decide
  have hblank : ∀ c ∈ " messages".toList.head?, digitValue c = none := by
    rintro _ ⟨⟩
    decide
  exact ⟨(hwindow _).2 readable_greatest, (hnumber _ _ hblank).2 isShort_greatest.2, hread,
    hreadable _ _ hread⟩

end PromptRules.Directive
