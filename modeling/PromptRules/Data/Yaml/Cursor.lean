/-!
# Cursors

A place in a text that is being read, with the line and the column that it stands in.
-/

namespace PromptRules.Data.Yaml

/-- The characters that end a line. -/
def isBreak (c : Char) : Bool := c == '\n' || c == '\x85' || c == '\u2028' || c == '\u2029'

/-- The characters that end a word: a space, a tab or a line end. -/
def isGap (c : Char) : Bool := c == ' ' || c == '\t' || isBreak c

/-- A place in a text. -/
structure Cursor where
  rest : List Char
  index : Nat := 0
  line : Nat := 0
  column : Nat := 0

namespace Cursor

/-- The next character. -/
def peek (c : Cursor) : Option Char := c.rest.head?

/-- Whether the next character, if there is one, fits. -/
def sees (p : Char → Bool) (c : Cursor) : Bool := c.peek.any p

/-- Whether there is no next character, or it ends a word. -/
def atGap (c : Cursor) : Bool := c.peek.all isGap

/-- One character on. A byte order mark takes no column. -/
def forward (c : Cursor) : Cursor :=
  match c.rest with
  | [] => c
  | x :: xs =>
    if isBreak x then { rest := xs, index := c.index + 1, line := c.line + 1, column := 0 }
    else
      { rest := xs, index := c.index + 1, line := c.line
        column := if x = '\uFEFF' then c.column else c.column + 1 }

/-- Several characters on. -/
def advance : (count : Nat) → Cursor → Cursor
  | 0, c => c
  | count + 1, c => advance count c.forward

/-- On to the first character that does not fit. -/
def skipWhile (p : Char → Bool) (c : Cursor) : Cursor :=
  advance (c.rest.takeWhile p).length c

/-- The characters in front that fit. -/
def run (p : Char → Bool) (c : Cursor) : List Char := c.rest.takeWhile p

/-- The line end in front as it is kept in a text: a line feed, or a separator as it is. -/
def breakText (c : Cursor) : List Char :=
  match c.peek with
  | some x => if x == '\u2028' || x == '\u2029' then [x] else ['\n']
  | none => []

/-- Whether a line that separates documents starts here. -/
def atSeparator (c : Cursor) : Bool :=
  match c.rest with
  | a :: b :: d :: rest =>
    (a == '-' || a == '.') && b == a && d == a && rest.head?.all isGap
  | _ => false

end Cursor

end PromptRules.Data.Yaml
