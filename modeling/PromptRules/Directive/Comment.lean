import PromptRules.Text.Blank

/-!
# Comment blocks

A prompt carries its directives in comment blocks: two opening braces and two slashes start
a block, the next two closing braces end it, all on one line. Text between blocks, openers
that are not closed on their line, and stray braces are passed over.

Results:
* `scan_outside_of_ne`: outside a block, what is no opening brace is passed over.
* `scan_newline`: a line end leaves any block that is still open.
-/

namespace PromptRules.Directive.Comment

open Text

/-- Where a scan stands: outside every block, or inside one whose characters so far are
    given, last first. -/
inductive Place where
  | outside
  | inside (passed : List Char)
deriving DecidableEq, Repr

/-- The inner texts of the blocks that a scan meets from a place on. -/
def scan : Place → List Char → List (List Char)
  | .outside, '{' :: '{' :: '/' :: '/' :: cs => scan (.inside []) cs
  | .outside, _ :: cs => scan .outside cs
  | .inside passed, '}' :: '}' :: cs => passed.reverse :: scan .outside cs
  | .inside _, '\n' :: cs => scan .outside cs
  | .inside passed, c :: cs => scan (.inside (c :: passed)) cs
  | _, [] => []

/-- The inner texts of the comment blocks of a content, without the blanks around them. -/
def blocks (content : String) : List String :=
  (scan .outside content.toList).map fun cs => String.ofList (trim cs)

@[simp] theorem scan_nil (p : Place) : scan p [] = [] := by
  cases p <;> simp [scan]

theorem scan_newline (p : Place) (cs : List Char) : scan p ('\n' :: cs) = scan .outside cs := by
  cases p <;> simp [scan]

theorem scan_outside_of_ne {c : Char} (cs : List Char) (h : c ≠ '{') :
    scan .outside (c :: cs) = scan .outside cs := by
  rw [scan]
  intro tail heq
  simp_all

end PromptRules.Directive.Comment
