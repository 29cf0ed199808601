/-!
# Blank characters

The characters that count as white space in prompt text: the ASCII blanks, the four
information separators, and the Unicode spaces and line separators. The zero-width
characters (U+200B, U+FEFF) are not blank.

Results:
* `trimStart_idem`, `trimStart_of_head`: the left trim stops at the first character
  that is not blank.
-/

namespace PromptRules.Text

/-- White space: U+0009–000D, U+001C–0020, U+0085, U+00A0, U+1680, U+2000–200A,
    U+2028, U+2029, U+202F, U+205F and U+3000. -/
def isBlank (c : Char) : Bool :=
  let n := c.toNat
  (9 ≤ n && n ≤ 13) || (28 ≤ n && n ≤ 32) || n == 0x85 || n == 0xA0 || n == 0x1680
    || (0x2000 ≤ n && n ≤ 0x200A) || n == 0x2028 || n == 0x2029 || n == 0x202F
    || n == 0x205F || n == 0x3000

/-- Drops the blanks in front. -/
def trimStart (cs : List Char) : List Char := cs.dropWhile isBlank

/-- Drops the blanks at the end. -/
def trimEnd (cs : List Char) : List Char := (cs.reverse.dropWhile isBlank).reverse

/-- Drops the blanks at both ends. -/
def trim (cs : List Char) : List Char := trimEnd (trimStart cs)

/-- A text without the blanks at its ends. -/
def trimmed (s : String) : String := String.ofList (trim s.toList)

/-- A text without the blanks at its end. -/
def trimmedEnd (s : String) : String := String.ofList (trimEnd s.toList)

/-- A text that starts with a character that is not blank has nothing to lose in front. -/
theorem trimStart_of_head {c : Char} (cs : List Char) (h : isBlank c = false) :
    trimStart (c :: cs) = c :: cs := by
  simp [trimStart, h]

theorem trimStart_cons_blank {c : Char} (cs : List Char) (h : isBlank c = true) :
    trimStart (c :: cs) = trimStart cs := by
  simp [trimStart, h]

theorem trimStart_idem (cs : List Char) : trimStart (trimStart cs) = trimStart cs := by
  induction cs with
  | nil => rfl
  | cons c cs ih =>
    by_cases h : isBlank c = true
    · rw [trimStart_cons_blank cs h, ih]
    · rw [trimStart_of_head cs (by simpa using h), trimStart_of_head cs (by simpa using h)]

end PromptRules.Text
