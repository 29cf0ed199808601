import PromptRules.Text.Printable

/-!
# Quoted texts

A text between quotes, as messages show it. Single quotes are the rule; double quotes
serve a text that holds a single quote and no double one. Backslashes, the chosen quote,
tabs and line ends are escaped by name, and what is not printable by its code point in
two, four or eight hexadecimal digits.

Results:
* `quoted_plain`: a text of plain characters is shown between single quotes.
-/

namespace PromptRules.Text

/-- The last `width` hexadecimal digits of a number, in lower case. -/
def hexDigits : (width : Nat) → Nat → List Char
  | 0, _ => []
  | width + 1, n => hexDigits width (n / 16) ++ [Nat.digitChar (n % 16)]

/-- One character of a text between `quote`s. -/
def escapeChar (quote c : Char) : List Char :=
  if c = quote || c = '\\' then ['\\', c]
  else if c = '\t' then ['\\', 't']
  else if c = '\n' then ['\\', 'n']
  else if c = '\r' then ['\\', 'r']
  else if isPrintable c then [c]
  else if c.toNat < 0x100 then '\\' :: 'x' :: hexDigits 2 c.toNat
  else if c.toNat < 0x10000 then '\\' :: 'u' :: hexDigits 4 c.toNat
  else '\\' :: 'U' :: hexDigits 8 c.toNat

/-- The quote that a text is shown in. -/
def quoteFor (cs : List Char) : Char :=
  if cs.contains '\'' && !cs.contains '"' then '"' else '\''

/-- A text between quotes. -/
def quoted (s : String) : String :=
  let cs := s.toList
  let quote := quoteFor cs
  String.ofList (quote :: cs.flatMap (escapeChar quote) ++ [quote])

/-- A character that is shown as it is between single quotes. -/
def isPlain (c : Char) : Bool := isPrintable c && c != '\'' && c != '\\'

theorem quoted_plain {s : String} (h : ∀ c ∈ s.toList, isPlain c = true) :
    quoted s = String.ofList ('\'' :: s.toList ++ ['\'']) := by
  have hq : quoteFor s.toList = '\'' := by
    have : '\'' ∉ s.toList := fun hm => by
      have := h _ hm
      simp [isPlain] at this
    simp [quoteFor, this]
  have he : ∀ c ∈ s.toList, escapeChar '\'' c = [c] := by
    intro c hc
    have hp := h c hc
    simp only [isPlain, Bool.and_eq_true, bne_iff_ne] at hp
    obtain ⟨⟨hp, h1⟩, h2⟩ := hp
    have ht : c ≠ '\t' := by rintro rfl; exact absurd hp (by decide)
    have hn : c ≠ '\n' := by rintro rfl; exact absurd hp (by decide)
    have hr : c ≠ '\r' := by rintro rfl; exact absurd hp (by decide)
    simp [escapeChar, h1, h2, ht, hn, hr, hp]
  have hf : s.toList.flatMap (escapeChar '\'') = s.toList := by
    generalize s.toList = cs at he
    induction cs with
    | nil => rfl
    | cons c cs ih =>
      rw [List.flatMap_cons, he c (by simp), ih fun d hd => he d (by simp [hd])]
      rfl
  simp only [quoted, hq, hf]

end PromptRules.Text
