import PromptRules.Data.Yaml.Scalar

/-!
# Tokens

A YAML document as a sequence of tokens: its scalars, its marks, and the starts and ends of
the collections that only the indent shows. A scalar turns out to be a key when a colon
follows it on its line; its key token is then put in front of it.
-/

namespace PromptRules.Data.Yaml

/-- A line that tells how a document is to be read. -/
inductive Directive where
  | version (major : Nat)
  /-- What a handle in front of a tag stands for. -/
  | handle (handle start : String)
  | other
deriving DecidableEq, Repr

/-- A token of a document. -/
inductive Token where
  | directive (d : Directive)
  | documentStart | documentEnd
  | sequenceStart | mappingStart | blockEnd
  | flowSequenceStart | flowSequenceEnd | flowMappingStart | flowMappingEnd
  | item | comma | key | value
  | anchor (name : String)
  | alias (name : String)
  /-- A tag with its handle, if it has one. -/
  | tag (handle : Option String) (rest : String)
  | scalar (text : String) (isPlain : Bool)
  /-- The place from which on the text cannot be read. -/
  | broken (e : ReadError)
deriving DecidableEq, Repr

/-- A token that a colon may turn into a key. -/
structure PossibleKey where
  /-- The number of tokens in front of it. -/
  place : Nat
  /-- Whether nothing else than a key can stand there. -/
  required : Bool
  index : Nat
  line : Nat
  column : Nat
deriving DecidableEq, Repr

/-- A document that is being cut into tokens. -/
structure Scan where
  cursor : Cursor
  tokens : Array Token := #[]
  /-- The indent of the innermost block, and those around it. -/
  indent : Int := -1
  outer : List Int := []
  keyAllowed : Bool := true
  /-- The possible key of every bracket that is open, the innermost first, and of the block
      around them. -/
  keys : List (Option PossibleKey) := [none]

/-- The longest distance from the start of a key to its colon. -/
def maxKeyLength : Nat := 1024

namespace Scan

/-- Whether brackets or braces are open. -/
def inFlow (s : Scan) : Bool := 1 < s.keys.length

/-- Adds a token. -/
def push (t : Token) (s : Scan) : Scan := { s with tokens := s.tokens.push t }

/-- Adds a mark of some characters. -/
def pushMark (t : Token) (length : Nat) (s : Scan) : Scan :=
  { s with tokens := s.tokens.push t, cursor := s.cursor.advance length }

/-- Whether a possible key is too far away by now. -/
def isExpired (s : Scan) (key : PossibleKey) : Bool :=
  key.line ≠ s.cursor.line || maxKeyLength < s.cursor.index - key.index

/-- Drops the possible keys that are too far away; none of them can be required. -/
def expire (s : Scan) : Except ReadError Scan :=
  if s.keys.any fun k => k.any fun key => s.isExpired key && key.required then .error .malformed
  else .ok { s with keys := s.keys.map fun k => k.filter fun key => !s.isExpired key }

/-- Gives up the innermost possible key, which cannot be required. -/
def dropKey (s : Scan) : Except ReadError Scan :=
  match s.keys with
  | some key :: keys =>
    if key.required then .error .malformed else .ok { s with keys := none :: keys }
  | _ => .ok s

/-- Takes the token that is added next for a possible key. -/
def saveKey (s : Scan) : Except ReadError Scan :=
  if s.keyAllowed then do
    let s ← s.dropKey
    let key : PossibleKey :=
      { place := s.tokens.size, required := !s.inFlow && s.indent == s.cursor.column
        index := s.cursor.index, line := s.cursor.line, column := s.cursor.column }
    return { s with keys := some key :: s.keys.drop 1 }
  else .ok s

/-- Ends the blocks that are indented further than a column. -/
def unwindFrom : (outer : List Int) → (column : Int) → Scan → Scan
  | [], _, s => s
  | next :: outer, column, s =>
    if column < s.indent then
      unwindFrom outer column { s.push .blockEnd with indent := next, outer := outer }
    else s

/-- Ends the blocks that are indented further than a column. -/
def unwind (column : Int) (s : Scan) : Scan :=
  if s.inFlow then s else unwindFrom s.outer column s

/-- Starts a block at a column if that is further right than the innermost one; its token
    goes to a place among the tokens. -/
def startBlock (t : Token) (column : Nat) (place : Nat) (s : Scan) : Scan :=
  if s.indent < column then
    { s with
      indent := column, outer := s.indent :: s.outer
      tokens := s.tokens.insertIdxIfInBounds place t }
  else s

/-- On to the next token, over spaces, comments and line ends. A new line allows keys. -/
def skipGap : (fuel : Nat) → Scan → Scan
  | 0, s => s
  | fuel + 1, s =>
    let c := s.cursor.skipWhile (· == ' ')
    let c := if c.sees (· == '#') then c.skipWhile (!isBreak ·) else c
    if c.sees isBreak then
      skipGap fuel { s with cursor := c.forward, keyAllowed := s.keyAllowed || !s.inFlow }
    else { s with cursor := c }

/-! ## Marks -/

/-- A line of its own that belongs to no block. -/
def scanLine (t : Token) (s : Scan) (after : Cursor) : Except ReadError Scan := do
  let s ← (s.unwind (-1)).dropKey
  return { s.push t with cursor := after, keyAllowed := false }

/-- An opening bracket or brace. -/
def openFlow (t : Token) (s : Scan) : Except ReadError Scan := do
  let s ← s.saveKey
  return { s.pushMark t 1 with keys := none :: s.keys, keyAllowed := true }

/-- A closing bracket or brace. -/
def closeFlow (t : Token) (s : Scan) : Except ReadError Scan := do
  let s ← s.dropKey
  if s.inFlow then return { s.pushMark t 1 with keys := s.keys.drop 1, keyAllowed := false }
  else throw .malformed

/-- A comma. -/
def scanComma (s : Scan) : Except ReadError Scan := do
  let s ← s.dropKey
  return { s.pushMark .comma 1 with keyAllowed := true }

/-- A dash in front of an item. -/
def scanItem (s : Scan) : Except ReadError Scan := do
  if s.inFlow || !s.keyAllowed then throw .malformed
  else
    let s ← (s.startBlock .sequenceStart s.cursor.column s.tokens.size).dropKey
    return { s.pushMark .item 1 with keyAllowed := true }

/-- A question mark in front of a key. -/
def scanKey (s : Scan) : Except ReadError Scan := do
  if !s.inFlow && !s.keyAllowed then throw .malformed
  else
    let s := if s.inFlow then s else s.startBlock .mappingStart s.cursor.column s.tokens.size
    let s ← s.dropKey
    return { s.pushMark .key 1 with keyAllowed := !s.inFlow }

/-- A colon: the possible key in front of it becomes one, or a key is missing. -/
def scanValue (s : Scan) : Except ReadError Scan := do
  match s.keys with
  | some key :: keys =>
    let s := { s with
      keys := none :: keys, keyAllowed := false
      tokens := s.tokens.insertIdxIfInBounds key.place .key }
    let s := if s.inFlow then s else s.startBlock .mappingStart key.column key.place
    return s.pushMark .value 1
  | _ =>
    if !s.inFlow && !s.keyAllowed then throw .malformed
    else
      let s := if s.inFlow then s else s.startBlock .mappingStart s.cursor.column s.tokens.size
      return { s.pushMark .value 1 with keyAllowed := !s.inFlow }

/-! ## Names and scalars -/

/-- The characters of the name of an anchor. -/
def isNameChar (c : Char) : Bool := c.isAlphanum || c == '-' || c == '_'

/-- The characters that may follow the name of an anchor. -/
def endsName (c : Char) : Bool := isGap c || "?:,]\x7d%@\x60".toList.contains c

/-- An anchor or an alias: its mark, then its name. -/
def scanName (t : String → Token) (s : Scan) : Except ReadError Scan := do
  let s ← s.saveKey
  let name := s.cursor.forward.run isNameChar
  let after := s.cursor.forward.skipWhile isNameChar
  if name.isEmpty || !after.peek.all endsName then throw .malformed
  else return { s.push (t (String.ofList name)) with cursor := after, keyAllowed := false }

/-- A text in quotes. -/
def scanText (quote : Char) (s : Scan) : Except ReadError Scan := do
  let s ← s.saveKey
  let piece ← scanQuoted quote s.cursor
  return { s.push (.scalar (String.ofList piece.text) false) with
    cursor := piece.cursor, keyAllowed := false }

/-- A block of lines. -/
def scanLines (folded : Bool) (s : Scan) : Except ReadError Scan := do
  let s ← s.dropKey
  let piece ← scanBlock folded s.indent s.cursor
  return { s.push (.scalar (String.ofList piece.text) false) with
    cursor := piece.cursor, keyAllowed := true }

/-- A plain scalar. A line end inside it allows keys again. -/
def scanWord (s : Scan) : Except ReadError Scan := do
  let s ← s.saveKey
  let piece := scanPlain s.inFlow (s.indent + 1) s.cursor
  return { s.push (.scalar (String.ofList piece.text) true) with
    cursor := piece.cursor, keyAllowed := piece.crossed }

/-- The characters that have a meaning at the start of a token. -/
def marks : List Char := "-?:,[]\x7b\x7d#&*!|>'\"%@\x60".toList

/-- Whether a plain scalar can start here. -/
def startsWord (inFlow : Bool) (c : Cursor) : Bool :=
  match c.rest with
  | [] => false
  | x :: rest =>
    !(isGap x || marks.contains x)
      || (!rest.head?.all isGap && (x == '-' || (!inFlow && (x == '?' || x == ':'))))

/-! ## Tags -/

/-- The characters of a URI. -/
def isUriChar (c : Char) : Bool := c.isAlphanum || "-;/?:@&=+$,_.!~*'()[]%".toList.contains c

/-- The bytes that codes behind percent signs write, and what follows them. -/
def escapedBytes : (fuel : Nat) → List UInt8 → Cursor → Except ReadError (List UInt8 × Cursor)
  | fuel + 1, passed, c =>
    if c.sees (· == '%') then
      match readCode 2 c.forward with
      | .ok (code, after) => escapedBytes fuel (passed ++ [UInt8.ofNat code]) after
      | .error e => .error e
    else .ok (passed, c)
  | 0, passed, c => .ok (passed, c)

/-- The rest of a URI. -/
def uriFrom : (fuel : Nat) → (passed : List Char) → Cursor → Except ReadError (String × Cursor)
  | 0, _, _ => .error .malformed
  | fuel + 1, passed, c =>
    if c.sees (· == '%') then
      match escapedBytes c.rest.length [] c with
      | .ok (bytes, after) =>
        match String.fromUTF8? ⟨bytes.toArray⟩ with
        | some text => uriFrom fuel (passed ++ text.toList) after
        | none => .error .malformed
      | .error e => .error e
    else if c.sees isUriChar then
      let isOwn (x : Char) := isUriChar x && x != '%'
      uriFrom fuel (passed ++ c.run isOwn) (c.skipWhile isOwn)
    else if passed.isEmpty then .error .malformed
    else .ok (String.ofList passed, c)

/-- A URI, which has at least one character. -/
def scanUri (c : Cursor) : Except ReadError (String × Cursor) := uriFrom (c.rest.length + 1) [] c

/-- The characters between the exclamation marks of a handle. -/
def isHandleChar (c : Char) : Bool := c.isAlphanum || c == '-' || c == '_'

/-- A handle: an exclamation mark, or a word between two of them. -/
def scanHandle (c : Cursor) : Except ReadError (String × Cursor) :=
  if !c.sees (· == '!') then .error .malformed
  else if c.forward.sees (· == ' ') then .ok ("!", c.forward)
  else
    let word := c.forward.run isHandleChar
    let after := c.forward.skipWhile isHandleChar
    if after.sees (· == '!') then .ok (String.ofList ('!' :: word ++ ['!']), after.forward)
    else .error .malformed

/-- Whether a character ends a tag or a directive. -/
def endsTag (c : Char) : Bool := c == ' ' || isBreak c

/-- Whether another exclamation mark comes before the end of a tag. -/
def hasHandle (c : Cursor) : Bool :=
  (c.rest.takeWhile fun x => !endsTag x).contains '!'

/-- A tag: a URI in angle brackets, a mark alone, or a handle and the rest of a URI. -/
def scanTag (s : Scan) : Except ReadError Scan := do
  let s ← s.saveKey
  let c := s.cursor.forward
  let (handle, rest, after) ←
    if c.sees (· == '<') then do
      let (uri, after) ← scanUri c.forward
      if after.sees (· == '>') then pure (none, uri, after.forward) else throw .malformed
    else if c.atGap then pure (none, "!", c)
    else do
      let (handle, c) ← if hasHandle c then scanHandle s.cursor else pure ("!", c)
      let (uri, after) ← scanUri c
      pure (some handle, uri, after)
  if after.peek.all endsTag then
    return { s.push (.tag handle rest) with cursor := after, keyAllowed := false }
  else throw .malformed

/-! ## Directives -/

/-- A number in a directive. -/
def directiveNumber (c : Cursor) : Except ReadError (Nat × Cursor) :=
  match c.run Char.isDigit with
  | [] => .error .malformed
  | ds => .ok (numberOf ds, c.skipWhile Char.isDigit)

/-- What a directive of a name says. -/
def directiveOf (name : List Char) (c : Cursor) : Except ReadError (Directive × Cursor) := do
  let isSpace (x : Char) := x == ' '
  if name = "YAML".toList then
    let (major, c) ← directiveNumber (c.skipWhile isSpace)
    if !c.sees (· == '.') then throw .malformed
    let (_, c) ← directiveNumber c.forward
    if c.peek.all endsTag then return (.version major, c) else throw .malformed
  else if name = "TAG".toList then
    let (handle, c) ← scanHandle (c.skipWhile isSpace)
    if !c.sees isSpace then throw .malformed
    let (start, c) ← scanUri (c.skipWhile isSpace)
    if c.peek.all endsTag then return (.handle handle start, c) else throw .malformed
  else return (.other, c.skipWhile (!isBreak ·))

/-- A directive: its name, what it says, and perhaps a comment. -/
def scanDirective (s : Scan) : Except ReadError Scan := do
  let s ← (s.unwind (-1)).dropKey
  let name := s.cursor.forward.run isHandleChar
  let c := s.cursor.forward.skipWhile isHandleChar
  if name.isEmpty || !c.peek.all endsTag then throw .malformed
  let (d, c) ← directiveOf name c
  let c := c.skipWhile (· == ' ')
  let c := if c.sees (· == '#') then c.skipWhile (!isBreak ·) else c
  if c.peek.all isBreak then
    return { s.push (.directive d) with cursor := c, keyAllowed := false }
  else throw .malformed

/-! ## The whole document -/

/-- Cuts off the token that starts with a character. -/
def scanAt (x : Char) (s : Scan) : Except ReadError Scan :=
  let c := s.cursor
  let beforeGap := c.forward.atGap
  if x == '%' && c.column == 0 then s.scanDirective
  else if x == '-' && c.column == 0 && c.atSeparator then s.scanLine .documentStart (c.advance 3)
  else if x == '.' && c.column == 0 && c.atSeparator then s.scanLine .documentEnd (c.advance 3)
  else if x == '[' then s.openFlow .flowSequenceStart
  else if x == '\x7b' then s.openFlow .flowMappingStart
  else if x == ']' then s.closeFlow .flowSequenceEnd
  else if x == '\x7d' then s.closeFlow .flowMappingEnd
  else if x == ',' then s.scanComma
  else if x == '-' && beforeGap then s.scanItem
  else if x == '?' && (s.inFlow || beforeGap) then s.scanKey
  else if x == ':' && (s.inFlow || beforeGap) then s.scanValue
  else if x == '*' then s.scanName .alias
  else if x == '&' then s.scanName .anchor
  else if x == '!' then s.scanTag
  else if x == '|' && !s.inFlow then s.scanLines false
  else if x == '>' && !s.inFlow then s.scanLines true
  else if x == '\'' || x == '"' then s.scanText x
  else if startsWord s.inFlow c then s.scanWord
  else .error .malformed

/-- On to the next token: over the gap in front, past the keys that are too far away, and out
    of the blocks that end. -/
def toNext (s : Scan) : Except ReadError Scan := do
  let s ← (s.skipGap (s.cursor.rest.length + 1)).expire
  return s.unwind s.cursor.column

/-- Cuts off the next token, or ends the document. -/
def step (s : Scan) : Except ReadError (Scan × Bool) := do
  let s ← s.toNext
  match s.cursor.peek with
  | none => return (← (s.unwind (-1)).dropKey, true)
  | some x => return (← s.scanAt x, false)

/-- Brackets and braces that are nested deeper than this are not followed to their end. -/
def maxFlow : Nat := 1000

/-- Cuts the rest of a document into tokens, up to its end or to where it cannot be read. -/
def scanRest : (fuel : Nat) → Scan → Array Token
  | 0, s => s.tokens
  | fuel + 1, s =>
    if maxFlow < s.keys.length then s.tokens.push (.broken .tooDeep)
    else
      match s.step with
      | .ok (s, true) => s.tokens
      | .ok (s, false) => scanRest fuel s
      | .error e => s.tokens.push (.broken e)

end Scan

/-- The characters that a document may hold. -/
def isAllowed (c : Char) : Bool :=
  let n := c.toNat
  n == 9 || n == 10 || n == 13 || (0x20 ≤ n && n ≤ 0x7E) || n == 0x85
    || (0xA0 ≤ n && n ≤ 0xFFFD) || 0x10000 ≤ n

/-- A document as tokens; none if it holds a character that it may not. A byte order mark in
    front is passed over. -/
def tokens (s : String) : Option (Array Token) :=
  let cs := s.toList
  if cs.all isAllowed then
    let cs := if cs.head? = some '\uFEFF' then cs.drop 1 else cs
    some (Scan.scanRest (cs.length + 2) { cursor := { rest := cs } })
  else none

end PromptRules.Data.Yaml
