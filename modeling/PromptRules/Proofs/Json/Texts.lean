import PromptRules.Data.Json.Reader
import PromptRules.Data.Json.Writer

/-!
# Texts in JSON

Every character of a text is written as itself or as an escape: by a letter, by its UTF-16 unit, or,
beyond the units, by a pair of surrogates. Each of them is read as the character again, whatever
stands around it.

Results:
* `spells_escape`: a character is read back from its escape.
* `readText_writeText`: a text is read back up to its closing quote.
-/

namespace PromptRules.Data.Json

open Text

variable {passed cs : List Char} {c : Char}

/-! ## Escapes -/

theorem hexValue_digitChar : ∀ d < 16, hexValue (Nat.digitChar d) = some d := by
  decide

/-- Four hexadecimal digits are read back. -/
theorem hexFour_hexDigits {n : Nat} (h : n < 0x10000) :
    ∃ a b c d, hexDigits 4 n = [a, b, c, d] ∧ hexFour a b c d = some n := by
  refine ⟨_, _, _, _, rfl, ?_⟩
  rw [hexFour, hexValue_digitChar _ (Nat.mod_lt _ (by decide)),
    hexValue_digitChar _ (Nat.mod_lt _ (by decide)),
    hexValue_digitChar _ (Nat.mod_lt _ (by decide)),
    hexValue_digitChar _ (Nat.mod_lt _ (by decide))]
  show some _ = some n
  congr 1
  omega

theorem readText_plain (h : c ≠ '"' ∧ c ≠ '\\' ∧ 0x20 ≤ c.toNat) :
    readText passed none (c :: cs) = readText (c :: passed) none cs := by
  obtain ⟨hquote, hback, hcontrol⟩ := h
  have hread : ¬ (c.toNat < 0x20 ∨ c = '\\') := fun h => h.elim (by omega) hback
  rw [readText, if_neg hread]
  · rfl
  · exact hquote
  · exact fun _ _ _ _ _ hc _ => hback hc
  · exact fun _ _ hc _ => hback hc

theorem readText_named {e : Char} (h : escapedChar c = some e) :
    readText passed none ('\\' :: c :: cs) = readText (e :: passed) none cs := by
  have hu : c ≠ 'u' := by
    rintro rfl
    cases h
  rw [readText, h]
  · rfl
  · exact fun _ _ _ _ _ hc _ => hu hc

/-- The character of a unit that is no surrogate. -/
theorem readText_unit {n : Nat} (h : n < 0x10000) (hn : ¬ (0xD800 ≤ n ∧ n ≤ 0xDFFF)) :
    readText passed none ('\\' :: 'u' :: (hexDigits 4 n ++ cs))
      = readText (Char.ofNat n :: passed) none cs := by
  obtain ⟨a, b, c, d, hdigits, hvalue⟩ := hexFour_hexDigits h
  have hlow : ¬ (0xDC00 ≤ n ∧ n ≤ 0xDFFF) := by omega
  have hhigh : ¬ (0xD800 ≤ n ∧ n ≤ 0xDBFF) := by omega
  rw [hdigits]
  show readText passed none ('\\' :: 'u' :: a :: b :: c :: d :: cs) = _
  rw [readText, hvalue]
  simp only [hlow, hhigh, if_false, unitChar, hn]
  rfl

theorem readText_pair (high low : Nat) (hh : 0xD800 ≤ high ∧ high ≤ 0xDBFF)
    (hl : 0xDC00 ≤ low ∧ low ≤ 0xDFFF) :
    readText passed none ('\\' :: 'u' :: (hexDigits 4 high ++
        ('\\' :: 'u' :: (hexDigits 4 low ++ cs))))
      = readText (pairChar high low :: passed) none cs := by
  obtain ⟨a, b, c, d, hdigits, hvalue⟩ := hexFour_hexDigits (show high < 0x10000 by omega)
  obtain ⟨a', b', c', d', hdigits', hvalue'⟩ := hexFour_hexDigits (show low < 0x10000 by omega)
  rw [hdigits, hdigits']
  show readText passed none
    ('\\' :: 'u' :: a :: b :: c :: d :: '\\' :: 'u' :: a' :: b' :: c' :: d' :: cs) = _
  rw [readText, hvalue]
  simp only
  rw [if_neg (by omega), if_pos hh, readText, hvalue']
  simp only
  rw [if_pos hl]
  rfl

theorem not_surrogate (c : Char) : ¬ (0xD800 ≤ c.toNat ∧ c.toNat ≤ 0xDFFF) := by
  rcases c.valid with h | ⟨h, -⟩ <;> simp only [Char.toNat] <;> omega

/-- The characters are read as one, whatever is in front and whatever follows. -/
def Spells (written : List Char) (c : Char) : Prop :=
  ∀ passed cs, readText passed none (written ++ cs) = readText (c :: passed) none cs

theorem Spells.ite {p : Prop} [Decidable p] {as bs : List Char} (ha : p → Spells as c)
    (hb : ¬ p → Spells bs c) : Spells (if p then as else bs) c := by
  by_cases h : p
  · exact if_pos h ▸ ha h
  · exact if_neg h ▸ hb h

theorem spells_plain (h : c ≠ '"' ∧ c ≠ '\\' ∧ 0x20 ≤ c.toNat) : Spells [c] c := fun _ _ =>
  readText_plain h

theorem spells_named {d : Char} (h : escapedChar d = some c) : Spells ['\\', d] c := fun _ _ =>
  readText_named h

theorem spells_unit (h : c.toNat < 0x10000) : Spells ('\\' :: 'u' :: hexDigits 4 c.toNat) c :=
  fun _ _ => (readText_unit h (not_surrogate c)).trans (by rw [Char.ofNat_toNat])

theorem spells_pair (h : 0x10000 ≤ c.toNat) :
    Spells ('\\' :: 'u' :: hexDigits 4 (0xD800 + (c.toNat - 0x10000) / 0x400)
      ++ '\\' :: 'u' :: hexDigits 4 (0xDC00 + (c.toNat - 0x10000) % 0x400)) c := by
  have hmax : c.toNat < 0x110000 := by
    rcases c.valid with h | ⟨-, h⟩ <;> simp only [Char.toNat] <;> omega
  have hchar : pairChar (0xD800 + (c.toNat - 0x10000) / 0x400)
      (0xDC00 + (c.toNat - 0x10000) % 0x400) = c := by
    have hvalue : 0x10000 + (0xD800 + (c.toNat - 0x10000) / 0x400 - 0xD800) * 0x400
        + (0xDC00 + (c.toNat - 0x10000) % 0x400 - 0xDC00) = c.toNat := by omega
    rw [pairChar, hvalue, Char.ofNat_toNat]
  intro passed cs
  have hpair := @readText_pair passed cs (0xD800 + (c.toNat - 0x10000) / 0x400)
    (0xDC00 + (c.toNat - 0x10000) % 0x400) (by omega) (by omega)
  rwa [hchar] at hpair

theorem eq_of_toNat {n : Nat} (h : c.toNat = n) : c = Char.ofNat n := by
  rw [← h, Char.ofNat_toNat]

/-- **A character is read back** from its escape. -/
theorem spells_escape (ascii : Bool) (c : Char) : Spells (escape ascii c) c := by
  refine .ite (fun h => ?_) fun hplain => .ite (fun h => ?_) fun _ => .ite (fun h => ?_) fun _ =>
    .ite (fun h => ?_) fun _ => .ite (fun h => ?_) fun _ => .ite (fun h => ?_) fun _ =>
    .ite (fun h => ?_) fun hcontrol => .ite (fun _ => ?_) fun _ => .ite (fun h => ?_) fun h => ?_
  · simp only [Bool.or_eq_true, decide_eq_true_eq] at h
    obtain rfl | rfl := h <;> exact spells_named rfl
  · exact h ▸ spells_named rfl
  · exact h ▸ spells_named rfl
  · exact h ▸ spells_named rfl
  · exact spells_named (congrArg some (eq_of_toNat h).symm)
  · exact spells_named (congrArg some (eq_of_toNat h).symm)
  · exact spells_unit (by omega)
  · simp only [Bool.or_eq_true, decide_eq_true_eq, not_or] at hplain
    exact spells_plain ⟨hplain.1, hplain.2, by omega⟩
  · exact spells_unit h
  · exact spells_pair (by omega)

/-- **A text is read back** up to its closing quote. -/
theorem readText_writeText (ascii : Bool) (passed s rest : List Char) :
    readText passed none (s.flatMap (escape ascii) ++ '"' :: rest)
      = some (String.ofList (passed.reverse ++ s), rest) := by
  induction s generalizing passed with
  | nil =>
    rw [List.append_nil]
    rfl
  | cons c s ih =>
    rw [List.flatMap_cons, List.append_assoc, spells_escape, ih, List.reverse_cons,
      List.append_assoc]
    rfl

end PromptRules.Data.Json
