import PromptRules.Data.Document
import PromptRules.Data.Yaml.Cursor
import PromptRules.Data.Yaml.Plain
import PromptRules.Text.Base64

/-!
# Writing YAML

Writes a document in block style: maps and lists a line an entry, indented by two, with the
lists of a map at the column of its keys. Texts are plain where that reads back, else in
single quotes, and in double quotes if they hold characters that need an escape. Long texts
are folded after column eighty. A value that is shared has a name where it stands first and
is an alias elsewhere.
-/

namespace PromptRules.Data.Yaml

open Decimal Text

/-- Lines are folded after this column. -/
def bestWidth : Nat := 80

/-- The step of the indent. -/
def indentStep : Nat := 2

/-- The longest key that stands on the line of its value. -/
def maxSimpleKey : Nat := 122

/-! ## The form of a text -/

/-- Whether a text, written plain, is read as a text again. -/
def isWord (s : String) : Bool := wordTag s = .text

/-- A character that can stand outside double quotes. -/
def isOrdinary (c : Char) : Bool :=
  let n := c.toNat
  n == 10 || (0x20 ≤ n && n ≤ 0x7E) || n == 0x85
    || (0xA0 ≤ n && n ≤ 0xFFFD && n != 0xFEFF) || (0x10000 ≤ n && n < 0x10FFFF)

/-- Whether some two neighbours of a text fit. -/
def anyPair (p : Char → Char → Bool) : List Char → Bool
  | c :: d :: cs => p c d || anyPair p (d :: cs)
  | _ => false

/-- Whether a character ends a word, the end of the text counting as one that does. -/
def endsWord (next : Option Char) : Bool := next.all fun c => isGap c || c == '\x00' || c == '\r'

/-- Whether the start of a text would be taken for a mark. -/
def startsWithMark (cs : List Char) : Bool :=
  match cs with
  | [] => false
  | c :: rest =>
    "#,[]\x7b\x7d&*!|>'\"%@\x60".toList.contains c
      || ((c == '?' || c == ':' || c == '-') && endsWord rest.head?)
      || cs.take 3 == "---".toList || cs.take 3 == "...".toList

/-- Whether the inside of a text holds a colon that ends a key or the start of a comment. -/
def holdsMark : List Char → Bool
  | c :: d :: cs =>
    (d == ':' && endsWord cs.head?) || (d == '#' && endsWord (some c)) || holdsMark (d :: cs)
  | _ => false

/-- How a text is written. -/
inductive Style where
  | plain | single | double
deriving DecidableEq, Repr

/-- Whether a text can be written in single quotes. -/
def allowsSingle (cs : List Char) : Bool :=
  cs.all isOrdinary && !anyPair (fun c d => isBreak c && d == ' ' || c == ' ' && isBreak d) cs

/-- Whether a text that reads back can be written plain. -/
def allowsPlain (cs : List Char) : Bool :=
  let atEnd (c : Option Char) := c.any (· == ' ')
  allowsSingle cs && !cs.any isBreak && !atEnd cs.head? && !atEnd cs.getLast?
    && !startsWithMark cs && !holdsMark cs

/-- The style of a text. A key takes no plain style when it is empty, and no single quotes
    when it has several lines. -/
def styleOf (isKey : Bool) (s : String) : Style :=
  let cs := s.toList
  if isWord s && allowsPlain cs && !(isKey && cs.isEmpty) then .plain
  else if allowsSingle cs && !(isKey && cs.any isBreak) then .single
  else .double

/-! ## Texts -/

/-- A line end and an indent. -/
def newLine (indent : Nat) : List Char := '\n' :: List.replicate indent ' '

/-- A plain text from a column on, folded at single spaces. -/
def plainText : (fuel : Nat) → (folds : Bool) → (indent column : Nat) → List Char → List Char
  | 0, _, _, _, cs => cs
  | fuel + 1, folds, indent, column, cs =>
    let word := cs.takeWhile (· != ' ')
    let rest := cs.dropWhile (· != ' ')
    let spaces := rest.takeWhile (· == ' ')
    let after := rest.dropWhile (· == ' ')
    let column := column + word.length
    if after.isEmpty then word ++ spaces
    else if folds && spaces.length == 1 && bestWidth < column then
      word ++ newLine indent ++ plainText fuel folds indent indent after
    else word ++ spaces ++ plainText fuel folds indent (column + spaces.length) after

/-- The line ends of a text in single quotes: one more than they are, unless the first is a
    separator. -/
def singleBreaks (breaks : List Char) : List Char :=
  (if breaks.head? = some '\n' then ['\n'] else [])
    ++ breaks.map fun c => if c == '\x85' then '\x85' else c

/-- A text between single quotes from a column on. -/
def singleText : (fuel : Nat) → (folds isFirst : Bool) → (indent column : Nat) → List Char →
    List Char
  | 0, _, _, _, _, cs => cs
  | fuel + 1, folds, isFirst, indent, column, cs =>
    match cs with
    | [] => []
    | '\'' :: rest => '\'' :: '\'' :: singleText fuel folds false indent (column + 2) rest
    | c :: rest =>
      if c == ' ' then
        let spaces := cs.takeWhile (· == ' ')
        let after := cs.dropWhile (· == ' ')
        if folds && spaces.length == 1 && bestWidth < column && !isFirst && !after.isEmpty then
          newLine indent ++ singleText fuel folds false indent indent after
        else spaces ++ singleText fuel folds false indent (column + spaces.length) after
      else if isBreak c then
        let breaks := cs.takeWhile isBreak
        singleBreaks breaks ++ List.replicate indent ' '
          ++ singleText fuel folds false indent indent (cs.dropWhile isBreak)
      else c :: singleText fuel folds false indent (column + 1) rest

/-- The letter after a backslash that stands for a character. -/
def escapeLetter (c : Char) : Option Char :=
  match c with
  | '\x00' => some '0'
  | '\x07' => some 'a'
  | '\x08' => some 'b'
  | '\t' => some 't'
  | '\n' => some 'n'
  | '\x0b' => some 'v'
  | '\x0c' => some 'f'
  | '\r' => some 'r'
  | '\x1b' => some 'e'
  | '"' => some '"'
  | '\\' => some '\\'
  | '\u0085' => some 'N'
  | '\u2028' => some 'L'
  | '\u2029' => some 'P'
  | _ => none

/-- The last `width` hexadecimal digits of a number, in upper case. -/
def upperHex : (width : Nat) → Nat → List Char
  | 0, _ => []
  | width + 1, n => upperHex width (n / 16) ++ [(Nat.digitChar (n % 16)).toUpper]

/-- What stands for a character between double quotes, if it needs an escape. -/
def escapeOf (c : Char) : Option (List Char) :=
  let n := c.toNat
  match escapeLetter c with
  | some letter => some ['\\', letter]
  | none =>
    if (0x20 ≤ n && n ≤ 0x7E) || (0xA0 ≤ n && n ≤ 0xFFFD && n != 0xFEFF) then none
    else if n ≤ 0xFF then some ('\\' :: 'x' :: upperHex 2 n)
    else if n ≤ 0xFFFF then some ('\\' :: 'u' :: upperHex 4 n)
    else some ('\\' :: 'U' :: upperHex 8 n)

/-- A fold between double quotes; a space that follows it is kept by a backslash. -/
def doubleFold (indent : Nat) (next : Option Char) : List Char :=
  '\\' :: newLine indent ++ if next = some ' ' then ['\\'] else []

/-- A text between double quotes from a column on. `isFirst` holds at its first character,
    and `fresh` after an escape, where the text may be folded too. -/
def doubleText (folds : Bool) (indent : Nat) :
    (isFirst fresh : Bool) → (column : Nat) → List Char → List Char
  | _, _, _, [] => []
  | isFirst, fresh, column, c :: rest =>
    let inside := folds && !isFirst && !rest.isEmpty
    match escapeOf c with
    | some escape =>
      let column := column + escape.length
      if inside && bestWidth + 1 < column then
        let fold := doubleFold indent rest.head?
        escape ++ fold ++ doubleText folds indent false true (indent + (fold.length - indent - 2)) rest
      else escape ++ doubleText folds indent false true column rest
    | none =>
      if inside && (c == ' ' || fresh) && bestWidth < column then
        let fold := doubleFold indent (some c)
        fold ++ c :: doubleText folds indent false false (indent + (fold.length - indent - 2) + 1) rest
      else c :: doubleText folds indent false false (column + 1) rest

/-- A text from a column on. -/
def writeText (isKey : Bool) (indent column : Nat) (s : String) : List Char :=
  let cs := s.toList
  match styleOf isKey s with
  | .plain => plainText cs.length (!isKey) indent column cs
  | .single => '\'' :: singleText (cs.length + 1) (!isKey) true indent (column + 1) cs ++ ['\'']
  | .double => '"' :: doubleText (!isKey) indent true false (column + 1) cs ++ ['"']

/-! ## Values -/

/-- Doubles in YAML, except that an exponent needs a point before it. -/
def numbers : Layout :=
  { exact with pointsMantissa := true, infinity := ".inf", minusInfinity := "-.inf", nan := ".nan" }

/-- The characters on a line of encoded bytes. -/
def bytesWidth : Nat := 76

/-- Encoded bytes on lines of their own. -/
def bytesLines (indent : Nat) : (fuel : Nat) → List Char → List Char
  | 0, _ | _, [] => []
  | fuel + 1, cs => newLine indent ++ cs.take bytesWidth ++ bytesLines indent fuel (cs.drop bytesWidth)

/-- Bytes with their tag, on the lines below it if there are any. -/
def writeBytes (indent : Nat) (data : List UInt8) : List Char :=
  let encoded := Base64.encode data
  if data.isEmpty then "!!binary ''".toList
  else "!!binary |".toList ++ bytesLines indent encoded.length encoded

/-- A value that is written on the line of its key or mark, from a column on. -/
def writeScalar (indent column : Nat) : Node → List Char
  | .null | .pair _ _ | .loop _ => "null".toList
  | .bool b => (if b then "true" else "false").toList
  | .int n => (toString n).toList
  | .float x => (numbers.write x).toList
  | .text s => writeText false indent column s
  | .moment m => m.text.toList
  | .bytes data => writeBytes indent data
  | .list _ => "[]".toList
  | .map _ => "\x7b\x7d".toList
  | .set _ => "!!set \x7b\x7d".toList

/-- Whether a key stands on the line of its value. -/
def isSimpleKey : Key → Bool
  | .text s => s != "" && !s.toList.any isBreak && s.length ≤ maxSimpleKey
  | .bytes _ => false
  | _ => true

/-- A key and the mark after it; a key that is not simple has a line of its own. -/
def writeKey (indent : Nat) (key : Key) : List Char :=
  if isSimpleKey key then
    (match key with
      | .text s => writeText true indent indent s
      | k => writeScalar indent indent k.node) ++ [':']
  else
    '?' :: ' ' :: writeScalar (indent + indentStep) (indent + 2) key.node ++ newLine indent ++ [':']

/-- Whether a value is a list, of items or of two parts. -/
def isList : Node → Bool
  | .list _ | .pair _ _ => true
  | _ => false

/-- The indent of the block of a value: a list stands at the column of its simple key. -/
def blockIndent (indent : Nat) (key : Key) (t : Node) : Nat :=
  if isList t && isSimpleKey key then indent else indent + indentStep

/-! ## Names -/

/-- The places of a document that have a name, each with what stands in front of it. -/
structure Naming where
  links : List Link
  /-- The places whose values others share, by the numbers of their names. -/
  homes : List Path

/-- The names that the links of a document need. -/
def Naming.ofLinks (links : List Link) : Naming :=
  { links := links, homes := (links.map fun l => Document.home links l.2).eraseDups }

/-- A name by its number. -/
def nameText (n : Nat) : List Char :=
  let digits := Nat.toDigits 10 (n + 1)
  'i' :: 'd' :: List.replicate (3 - digits.length) '0' ++ digits

/-- No names at all. -/
def Naming.empty : Naming := ⟨[], []⟩

/-- The alias at a place, if its value is another's. -/
def Naming.alias? (names : Naming) (place : Path) : Option (List Char) :=
  if names.links.any (·.1 = place) then
    (names.homes.idxOf? (Document.home names.links place)).map fun n => '*' :: nameText n
  else none

/-- The name and the tag in front of a value. -/
def Naming.front (names : Naming) (place : Path) (t : Node) : List Char :=
  let name := match names.homes.idxOf? place with
    | some n => '&' :: nameText n
    | none => []
  match t with
  | .set (_ :: _) => if name.isEmpty then "!!set".toList else name ++ " !!set".toList
  | _ => name

/-! ## Blocks -/

/-- What stands in front of a value, on a line that goes on with the value. -/
def before (front : List Char) : List Char := if front.isEmpty then [] else front ++ [' ']

/-- What follows a dash or the colon of a key on its own line: the block of the value, or
    the value itself if it has none. -/
def writeItem (indent : Nat) (t : Node) (front block : List Char) : List Char :=
  ' ' ::
    if block.isEmpty then before front ++ writeScalar (indent + indentStep) (indent + 2) t
    else if front.isEmpty then block
    else front ++ newLine (indent + indentStep) ++ block

/-- A key with its value, given the block of the value if it has one. -/
def writeEntry (indent : Nat) (key : Key) (t : Node) (front block : List Char) : List Char :=
  let keyText := writeKey indent key
  keyText ++
    if !isSimpleKey key then writeItem indent t front block
    else if block.isEmpty then
      ' ' :: before front ++ writeScalar (indent + indentStep) (indent + keyText.length + 1) t
    else (if front.isEmpty then [] else ' ' :: front) ++ newLine (blockIndent indent key t) ++ block

/-- The members of a set as the entries of a map. -/
def writeMembers (indent : Nat) : List Key → List Char
  | [] => []
  | k :: ks =>
    writeEntry indent k .null [] [] ++ if ks.isEmpty then [] else newLine indent ++ writeMembers indent ks

mutual

/-- The block of a collection at a place, from where the text stands; nothing for any other
    value. -/
def writeBlock (names : Naming) (place : Path) (indent : Nat) : Node → List Char
  | .list items => writeItems names place 0 indent items
  | .map entries => writeEntries names place indent entries
  | .set members => writeMembers indent members
  | .pair a b =>
    '-' :: writeItem indent a [] (writeBlock .empty [] (indent + indentStep) a) ++ newLine indent
      ++ '-' :: writeItem indent b [] (writeBlock .empty [] (indent + indentStep) b)
  | _ => []

/-- The items of a list at a place, from one of some number on. -/
def writeItems (names : Naming) (place : Path) (index indent : Nat) : List Node → List Char
  | [] => []
  | t :: ts =>
    let here := place ++ [.index index]
    '-' :: (match names.alias? here with
        | some mark => ' ' :: mark
        | none =>
          writeItem indent t (names.front here t) (writeBlock names here (indent + indentStep) t))
      ++ if ts.isEmpty then [] else newLine indent ++ writeItems names place (index + 1) indent ts

/-- The entries of a map at a place. -/
def writeEntries (names : Naming) (place : Path) (indent : Nat) : Fields → List Char
  | [] => []
  | (key, t) :: es =>
    let here := place ++ [.key key]
    (match names.alias? here with
        | some mark => writeKey indent key ++ ' ' :: mark
        | none =>
          writeEntry indent key t (names.front here t)
            (writeBlock names here (blockIndent indent key t) t))
      ++ if es.isEmpty then [] else newLine indent ++ writeEntries names place indent es

end

/-- A document as text. -/
def write (d : Document) : String :=
  let names := Naming.ofLinks d.links
  let front := names.front [] d.root
  let block := writeBlock names [] 0 d.root
  String.ofList <|
    (if block.isEmpty then before front ++ writeScalar indentStep 0 d.root
      else (if front.isEmpty then [] else front ++ ['\n']) ++ block) ++ ['\n']

end PromptRules.Data.Yaml
