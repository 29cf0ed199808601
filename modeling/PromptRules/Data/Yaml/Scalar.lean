import PromptRules.Data.Yaml.Cursor
import PromptRules.Data.Yaml.Value

/-!
# Scalars in writing

How the text of a YAML scalar is read off a document: plain words that run over several
lines, texts between single or double quotes, and blocks that are kept line by line or
folded. A line end inside a text becomes a space, unless empty lines follow it. As in JSON, half of
a surrogate pair is read as the replacement character.
-/

namespace PromptRules.Data.Yaml

/-- The text that a line end and the empty lines after it stand for. -/
def joinLines (lineEnd emptyLines : List Char) : List Char :=
  if lineEnd ≠ ['\n'] then lineEnd ++ emptyLines
  else if emptyLines.isEmpty then [' ']
  else emptyLines

/-- A piece of text, with the place after it. -/
structure Piece where
  text : List Char
  cursor : Cursor
  /-- Whether a line end was crossed last. -/
  crossed : Bool := false

/-! ## Plain words -/

/-- The characters that have a meaning inside brackets and braces. -/
def flowMarks : List Char := [',', '[', ']', '{', '}']

/-- Whether a plain scalar ends before a character. -/
def endsPlain (inFlow : Bool) (c : Char) (next : Option Char) : Bool :=
  isGap c || (c == ':' && (next.all isGap || (inFlow && next.any flowMarks.contains)))
    || (inFlow && (c == '?' || flowMarks.contains c))

/-- The characters in front that belong to a plain scalar. -/
def plainWord (inFlow : Bool) : List Char → List Char
  | [] => []
  | c :: cs => if endsPlain inFlow c cs.head? then [] else c :: plainWord inFlow cs

/-- The empty lines in front of the next word; the flag tells that a separator of
    documents came first. -/
def plainBreaks : (fuel : Nat) → List Char → Cursor → Bool × List Char × Cursor
  | 0, passed, c => (true, passed, c)
  | fuel + 1, passed, c =>
    if c.atSeparator then (true, passed, c)
    else
      let c := c.skipWhile (· == ' ')
      if c.sees isBreak then plainBreaks fuel (passed ++ c.breakText) c.forward
      else (false, passed, c)

/-- The gap after a word of a plain scalar; without a gap, or before a separator of
    documents, the text is empty. -/
def plainGap (c : Cursor) : Piece :=
  let spaces := c.run (· == ' ')
  let c := c.skipWhile (· == ' ')
  if c.sees isBreak then
    match plainBreaks (c.rest.length + 1) [] c.forward with
    | (true, _, after) => { text := [], cursor := after, crossed := true }
    | (false, emptyLines, after) =>
      { text := joinLines c.breakText emptyLines, cursor := after, crossed := true }
  else { text := spaces, cursor := c }

/-- The rest of a plain scalar, after the words passed, in reverse, and the gap in front. -/
def plainFrom : (fuel : Nat) → (inFlow : Bool) → (indent : Int) → (passed : List Char) →
    (gap : Piece) → Piece
  | 0, _, _, passed, gap => { gap with text := passed.reverse }
  | fuel + 1, inFlow, indent, passed, gap =>
    let word := plainWord inFlow gap.cursor.rest
    if word.isEmpty || gap.cursor.sees (· == '#') then { gap with text := passed.reverse }
    else
      let passed := word.reverse ++ (gap.text.reverse ++ passed)
      let next := plainGap (gap.cursor.advance word.length)
      if next.text.isEmpty || (!inFlow && next.cursor.column < indent) then
        { next with text := passed.reverse }
      else plainFrom fuel inFlow indent passed next

/-- A plain scalar; its lines stand at `indent` or further right. -/
def scanPlain (inFlow : Bool) (indent : Int) (c : Cursor) : Piece :=
  plainFrom (c.rest.length + 1) inFlow indent [] { text := [], cursor := c }

/-! ## Quoted texts -/

/-- The empty lines inside a quoted text; a separator of documents cannot stand there. -/
def quotedBreaks : (fuel : Nat) → List Char → Cursor → Except ReadError (List Char × Cursor)
  | 0, _, _ => .error .malformed
  | fuel + 1, passed, c =>
    if c.atSeparator then .error .malformed
    else
      let c := c.skipWhile fun x => x == ' ' || x == '\t'
      if c.sees isBreak then quotedBreaks fuel (passed ++ c.breakText) c.forward
      else .ok (passed, c)

/-- A gap inside a quoted text: its blanks, or what its line ends stand for. -/
def quotedGap (c : Cursor) : Except ReadError (List Char × Cursor) :=
  let isSpace (x : Char) := x == ' ' || x == '\t'
  let after := c.skipWhile isSpace
  if after.sees isBreak then do
    let (emptyLines, rest) ← quotedBreaks (after.rest.length + 1) [] after.forward
    return (joinLines after.breakText emptyLines, rest)
  else .ok (c.run isSpace, after)

/-- The character that a letter after a backslash stands for. -/
def escaped (c : Char) : Option Char :=
  match c with
  | '0' => some '\x00'
  | 'a' => some '\x07'
  | 'b' => some '\x08'
  | 't' | '\t' => some '\t'
  | 'n' => some '\n'
  | 'v' => some '\x0b'
  | 'f' => some '\x0c'
  | 'r' => some '\r'
  | 'e' => some '\x1b'
  | ' ' => some ' '
  | '"' => some '"'
  | '\\' => some '\\'
  | '/' => some '/'
  | 'N' => some '\u0085'
  | '_' => some '\u00a0'
  | 'L' => some '\u2028'
  | 'P' => some '\u2029'
  | _ => none

/-- How many hexadecimal digits follow a letter after a backslash. -/
def escapedWidth (c : Char) : Option Nat :=
  match c with
  | 'x' => some 2
  | 'u' => some 4
  | 'U' => some 8
  | _ => none

/-- The code that hexadecimal digits write, and the place after them. -/
def readCode (width : Nat) (c : Cursor) : Except ReadError (Nat × Cursor) :=
  let digits := c.rest.take width
  if digits.length = width ∧ digits.all isHexDigit then
    .ok (Value.ofDigitsIn 16 (digits.filterMap Value.digitOf), c.advance width)
  else .error .malformed

/-- The code of an escaped character, if one with a code in sixteen bits comes next. -/
def nextCode? (c : Cursor) : Option (Nat × Cursor) :=
  match c.rest with
  | '\\' :: 'u' :: _ => (readCode 4 (c.advance 2)).toOption
  | _ => none

/-- The character of a code. -/
def codeChar (code : Nat) : Except ReadError Char :=
  if code < 0x110000 then .ok (if code.isValidChar then Char.ofNat code else '\ufffd')
  else if code < 0x80000000 then .error .noCharacter
  else .error .tooLarge

/-- The character of a code and the place after it. The first half of a character in
    sixteen bits takes the second half along. -/
def readCodeChar (width : Nat) (c : Cursor) : Except ReadError (Char × Cursor) := do
  let (code, after) ← readCode width c
  let isHalf := 0xD800 ≤ code && code < 0xDC00
  match if isHalf then nextCode? after else none with
  | some (second, rest) =>
    if 0xDC00 ≤ second && second < 0xE000 then
      return (Char.ofNat (0x10000 + (code - 0xD800) * 0x400 + (second - 0xDC00)), rest)
    else return (← codeChar code, after)
  | none => return (← codeChar code, after)

/-- What a backslash and the characters after it stand for. -/
def readEscape (c : Cursor) : Except ReadError (List Char × Cursor) :=
  match c.peek with
  | none => .error .malformed
  | some x =>
    match escaped x, escapedWidth x with
    | some y, _ => .ok ([y], c.forward)
    | none, some width => (readCodeChar width c.forward).map fun (y, after) => ([y], after)
    | none, none =>
      if isBreak x then quotedBreaks (c.rest.length + 1) [] c.forward else .error .malformed

/-- A character of a quoted text that has no meaning there. -/
def isQuotable (c : Char) : Bool := c != '\'' && c != '"' && c != '\\' && !isGap c

/-- The rest of a quoted text up to its closing quote; the text passed is kept in reverse. -/
def quotedFrom : (fuel : Nat) → (quote : Char) → (passed : List Char) → Cursor →
    Except ReadError Piece
  | 0, _, _, _ => .error .malformed
  | fuel + 1, quote, passed, c =>
    match c.rest with
    | [] => .error .malformed
    | x :: rest =>
      if x = quote then
        if quote = '\'' && rest.head? = some '\'' then
          quotedFrom fuel quote ('\'' :: passed) (c.advance 2)
        else .ok { text := passed.reverse, cursor := c.forward }
      else if x = '\\' && quote = '"' then
        match readEscape c.forward with
        | .ok (text, after) => quotedFrom fuel quote (text.reverse ++ passed) after
        | .error e => .error e
      else if isGap x then
        match quotedGap c with
        | .ok (text, after) => quotedFrom fuel quote (text.reverse ++ passed) after
        | .error e => .error e
      else if isQuotable x then
        quotedFrom fuel quote ((c.run isQuotable).reverse ++ passed) (c.skipWhile isQuotable)
      else quotedFrom fuel quote (x :: passed) c.forward

/-- A text in quotes, the cursor at the opening one. -/
def scanQuoted (quote : Char) (c : Cursor) : Except ReadError Piece :=
  quotedFrom (c.rest.length + 1) quote [] c.forward

/-! ## Blocks -/

/-- What becomes of the line ends at the end of a block. -/
inductive Chomping where
  | clip | strip | keep
deriving DecidableEq, Repr

/-- The mark for a chomping. -/
def chompingMark (c : Char) : Option Chomping :=
  if c = '+' then some .keep else if c = '-' then some .strip else none

/-- The mark for an indent: a digit above zero. -/
def indentMark (c : Char) : Option Nat := if '1' ≤ c ∧ c ≤ '9' then some (c.toNat - 0x30) else none

/-- Chomping and indent after the mark of a block, in either order. -/
def blockHeader (c : Cursor) : Chomping × Option Nat × Cursor :=
  match c.peek.bind chompingMark with
  | some chomping =>
    match c.forward.peek.bind indentMark with
    | some n => (chomping, some n, c.forward.forward)
    | none => (chomping, none, c.forward)
  | none =>
    match c.peek.bind indentMark with
    | some n =>
      match c.forward.peek.bind chompingMark with
      | some chomping => (chomping, some n, c.forward.forward)
      | none => (.clip, some n, c.forward)
    | none => (.clip, none, c)

/-- The rest of the line that opens a block: blanks and perhaps a comment. -/
def blockFirstLine (c : Cursor) : Except ReadError Cursor :=
  if !(c.peek.all fun x => x == ' ' || isBreak x) then .error .malformed
  else
    let c := c.skipWhile (· == ' ')
    let c := if c.sees (· == '#') then c.skipWhile (!isBreak ·) else c
    if c.sees isBreak then .ok c.forward else if c.peek.isNone then .ok c else .error .malformed

/-- The empty lines at the start of a block, and the greatest column reached in them. -/
def leadingBreaks : (fuel : Nat) → List Char → (deepest : Nat) → Cursor → List Char × Nat × Cursor
  | 0, passed, deepest, c => (passed, deepest, c)
  | fuel + 1, passed, deepest, c =>
    if c.sees isBreak then leadingBreaks fuel (passed ++ c.breakText) deepest c.forward
    else if c.sees (· == ' ') then
      let c := c.forward
      leadingBreaks fuel passed (max deepest c.column) c
    else (passed, deepest, c)

/-- On to a column, over spaces only. -/
def toColumn : (fuel : Nat) → (column : Nat) → Cursor → Cursor
  | 0, _, c => c
  | fuel + 1, column, c =>
    if c.column < column && c.sees (· == ' ') then toColumn fuel column c.forward else c

/-- The empty lines inside a block. -/
def blockBreaks : (fuel : Nat) → (indent : Nat) → List Char → Cursor → List Char × Cursor
  | 0, _, passed, c => (passed, c)
  | fuel + 1, indent, passed, c =>
    let c := toColumn indent indent c
    if c.sees isBreak then blockBreaks fuel indent (passed ++ c.breakText) c.forward
    else (passed, c)

/-- What is left of a block when its last line was read. -/
structure BlockEnd where
  text : List Char
  lineEnd : List Char
  emptyLines : List Char
  cursor : Cursor

/-- The lines of a block, from the empty lines in front of the next one on. -/
def blockLines : (fuel : Nat) → (folded : Bool) → (indent : Nat) → BlockEnd → BlockEnd
  | 0, _, _, b => b
  | fuel + 1, folded, indent, b =>
    let c := b.cursor
    if c.column = indent && c.peek.isSome then
      let startsBlank := c.sees fun x => x == ' ' || x == '\t'
      let text := b.text ++ b.emptyLines ++ c.run (!isBreak ·)
      let atEnd := c.skipWhile (!isBreak ·)
      let lineEnd := atEnd.breakText
      let (emptyLines, after) := blockBreaks (c.rest.length + 1) indent [] atEnd.forward
      let b := { text := text, lineEnd := lineEnd, emptyLines := emptyLines, cursor := after }
      if after.column = indent && after.peek.isSome then
        let folds := folded && lineEnd == ['\n'] && !startsBlank
          && !after.sees fun x => x == ' ' || x == '\t'
        let joint := if folds then if emptyLines.isEmpty then [' '] else [] else lineEnd
        blockLines fuel folded indent { b with text := text ++ joint }
      else b
    else { b with lineEnd := [] }

/-- A block, the cursor at its mark; its lines stand further right than `outer`. -/
def scanBlock (folded : Bool) (outer : Int) (c : Cursor) : Except ReadError Piece := do
  let (chomping, increment, c) := blockHeader c.forward
  let c ← blockFirstLine c
  let least : Nat := (max 1 (outer + 1)).toNat
  let (indent, emptyLines, c) :=
    match increment with
    | some n =>
      let indent := least + n - 1
      let (emptyLines, c) := blockBreaks (c.rest.length + 1) indent [] c
      (indent, emptyLines, c)
    | none =>
      let (emptyLines, deepest, c) := leadingBreaks (c.rest.length + 1) [] 0 c
      (max least deepest, emptyLines, c)
  let b := blockLines (c.rest.length + 1) folded indent
    { text := [], lineEnd := [], emptyLines := emptyLines, cursor := c }
  let text :=
    match chomping with
    | .strip => b.text
    | .clip => b.text ++ b.lineEnd
    | .keep => b.text ++ b.lineEnd ++ b.emptyLines
  return { text := text, cursor := b.cursor }

end PromptRules.Data.Yaml
