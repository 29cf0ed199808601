/-!
# Markup

Styles in printed text: a tag such as `[red]` or `[/red]` starts or ends one. A backslash in
front of a tag keeps it as text; backslashes before a tag are doubled to stand for
themselves.

Results:
* `escapeTags_of_no_bracket`: without an opening bracket there is nothing to escape.
* `shown_no_bracket`: without one nothing is left out when a text is shown.
-/

namespace PromptRules.Text.Markup

/-- The characters that a tag can start with after its bracket. -/
def startsTag (c : Char) : Bool :=
  ('a' ≤ c && c ≤ 'z') || c == '#' || c == '/' || c == '@'

/-- Whether a character stands inside a tag. -/
def isInside (c : Char) : Bool := c ≠ '[' && c ≠ ']'

/-- A tag in front, and what follows it. -/
def tag? : List Char → Option (List Char × List Char)
  | '[' :: c :: cs =>
    if startsTag c then
      match cs.dropWhile isInside with
      | ']' :: rest => some ('[' :: c :: (cs.takeWhile isInside ++ [']']), rest)
      | _ => none
    else none
  | _ => none

/-- Whether a tag stands in front. -/
def isTagged (cs : List Char) : Bool := (tag? cs).isSome

/-- A text that is to be shown with its tags: `slashes` counts the backslashes just before
    it. Those before a tag are doubled, and the tag gets one more. -/
def escapeFrom (slashes : Nat) : List Char → List Char
  | [] => []
  | '\\' :: cs => '\\' :: escapeFrom (slashes + 1) cs
  | c :: cs =>
    if isTagged (c :: cs) then List.replicate (slashes + 1) '\\' ++ c :: escapeFrom 0 cs
    else c :: escapeFrom 0 cs

/-- How many backslashes a text ends in. -/
def slashesAtEnd (cs : List Char) : Nat := (cs.reverse.takeWhile (· = '\\')).length

/-- A text that is to be shown with its tags. A single backslash at its end is doubled, for
    what may follow. -/
def escape (s : String) : String :=
  let cs := escapeFrom 0 s.toList
  String.ofList (if slashesAtEnd cs = 1 then cs ++ ['\\'] else cs)

/-- A text in a style. -/
def styled (style text : String) : String := "[" ++ style ++ "]" ++ text ++ "[/" ++ style ++ "]"

/-- What is shown of a text, after `slashes` backslashes: tags are left out, unless an odd
    number of backslashes stands before them. `skip` characters are left out first. -/
def shownFrom (skip slashes : Nat) : List Char → List Char
  | [] => List.replicate slashes '\\'
  | c :: cs =>
    if skip ≠ 0 then shownFrom (skip - 1) slashes cs
    else if c = '\\' then shownFrom 0 (slashes + 1) cs
    else
      match tag? (c :: cs) with
      | some (tag, _) =>
        List.replicate (slashes / 2) '\\' ++
          if slashes % 2 = 1 then c :: shownFrom 0 0 cs else shownFrom (tag.length - 1) 0 cs
      | none => List.replicate slashes '\\' ++ c :: shownFrom 0 0 cs

/-- What is shown of a text where styles cannot be. -/
def shown (s : String) : String := String.ofList (shownFrom 0 0 s.toList)

theorem tag?_of_other {c : Char} (cs : List Char) (h : c ≠ '[') : tag? (c :: cs) = none := by
  unfold tag?
  split <;> simp_all

theorem escapeTags_of_no_bracket {cs : List Char} (h : '[' ∉ cs) (slashes : Nat) :
    escapeFrom slashes cs = cs := by
  induction cs generalizing slashes with
  | nil => rfl
  | cons c cs ih =>
    rw [List.mem_cons, not_or] at h
    by_cases hc : c = '\\'
    · simp [hc, escapeFrom, ih h.2]
    · simp [escapeFrom, isTagged, tag?_of_other cs (Ne.symm h.1), ih h.2]

theorem shown_no_bracket {cs : List Char} (h : '[' ∉ cs) (slashes : Nat) :
    shownFrom 0 slashes cs = List.replicate slashes '\\' ++ cs := by
  induction cs generalizing slashes with
  | nil => simp [shownFrom]
  | cons c cs ih =>
    rw [List.mem_cons, not_or] at h
    simp only [shownFrom, ne_eq, not_true_eq_false, if_false, tag?_of_other cs (Ne.symm h.1)]
    split
    · rename_i hc
      rw [ih h.2, hc, List.replicate_succ']
      simp
    · rw [ih h.2]
      simp

end PromptRules.Text.Markup
