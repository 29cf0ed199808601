import PromptRules.Data.ReadError
import PromptRules.Data.Tree
import PromptRules.Decimal.Layout

/-!
# Reading JSON

One JSON value, with blanks around it and nothing else. Beyond the standard, the numbers
`NaN`, `Infinity` and `-Infinity` are read; a repeated key keeps its first place and its
last value; a number with a fraction or an exponent is a double, any other an integer of
any size up to the digit limit.

Texts are sequences of Unicode scalar values. An escape can write one half of a surrogate pair
without the other; it is read as the replacement character.

Results:
* `skipBlanks_of_other`: blanks are dropped only in front.
-/

namespace PromptRules.Data.Json

open Decimal

/-- The blanks of JSON: space, tab and the line ends. -/
def isJsonBlank (c : Char) : Bool := c == ' ' || c == '\t' || c == '\n' || c == '\r'

/-- Drops the blanks in front. -/
def skipBlanks (cs : List Char) : List Char := cs.dropWhile isJsonBlank

theorem skipBlanks_of_other {c : Char} (cs : List Char) (h : isJsonBlank c = false) :
    skipBlanks (c :: cs) = c :: cs := by
  simp [skipBlanks, h]

/-! ## Texts -/

/-- The value of a hexadecimal digit. -/
def hexValue (c : Char) : Option Nat :=
  if '0' ≤ c ∧ c ≤ '9' then some (c.toNat - 0x30)
  else if 'a' ≤ c ∧ c ≤ 'f' then some (c.toNat - 0x57)
  else if 'A' ≤ c ∧ c ≤ 'F' then some (c.toNat - 0x37)
  else none

/-- The value of four hexadecimal digits. -/
def hexFour (a b c d : Char) : Option Nat := do
  return ((((← hexValue a) * 16 + (← hexValue b)) * 16 + (← hexValue c)) * 16 + (← hexValue d))

/-- The character of a UTF-16 unit; a lone surrogate becomes the replacement character. -/
def unitChar (unit : Nat) : Char :=
  if 0xD800 ≤ unit ∧ unit ≤ 0xDFFF then '\uFFFD' else Char.ofNat unit

/-- The character of a surrogate pair. -/
def pairChar (high low : Nat) : Char :=
  Char.ofNat (0x10000 + (high - 0xD800) * 0x400 + (low - 0xDC00))

/-- The character that a one-letter escape stands for. -/
def escapedChar (c : Char) : Option Char :=
  match c with
  | '"' => some '"'
  | '\\' => some '\\'
  | '/' => some '/'
  | 'b' => some '\x08'
  | 'f' => some '\x0c'
  | 'n' => some '\n'
  | 'r' => some '\r'
  | 't' => some '\t'
  | _ => none

/-- The rest of a text up to its closing quote, and what follows. `passed` holds the
    characters read so far, last first, and `high` a high surrogate that waits for its
    partner. -/
def readText (passed : List Char) (high : Option Nat) : List Char → Option (String × List Char)
  | '"' :: cs =>
    let passed := if high.isSome then '\uFFFD' :: passed else passed
    some (String.ofList passed.reverse, cs)
  | '\\' :: 'u' :: a :: b :: c :: d :: cs =>
    match hexFour a b c d with
    | none => none
    | some unit =>
      if 0xDC00 ≤ unit ∧ unit ≤ 0xDFFF then
        match high with
        | some h => readText (pairChar h unit :: passed) none cs
        | none => readText ('\uFFFD' :: passed) none cs
      else
        let passed := if high.isSome then '\uFFFD' :: passed else passed
        if 0xD800 ≤ unit ∧ unit ≤ 0xDBFF then readText passed (some unit) cs
        else readText (unitChar unit :: passed) none cs
  | '\\' :: c :: cs =>
    let passed := if high.isSome then '\uFFFD' :: passed else passed
    match escapedChar c with
    | some e => readText (e :: passed) none cs
    | none => none
  | c :: cs =>
    let passed := if high.isSome then '\uFFFD' :: passed else passed
    if c.toNat < 0x20 ∨ c = '\\' then none else readText (c :: passed) none cs
  | [] => none

/-! ## Numbers -/

/-- The ASCII digits in front, and what follows them. -/
def asciiDigits (cs : List Char) : List Char × List Char :=
  (cs.takeWhile Char.isDigit, cs.dropWhile Char.isDigit)

/-- The whole part of a number: a zero, or digits that do not start with one. -/
def wholePart (cs : List Char) : Option (List Char × List Char) :=
  match cs with
  | '0' :: cs => some (['0'], cs)
  | c :: _ => if c.isDigit then some (asciiDigits cs) else none
  | [] => none

/-- The digits after a point, if a point with at least one digit follows. -/
def fractionPart (cs : List Char) : List Char × List Char :=
  match cs with
  | '.' :: rest =>
    match asciiDigits rest with
    | ([], _) => ([], cs)
    | found => found
  | _ => ([], cs)

/-- Value and rest of an exponent, if a complete one follows. -/
def exponentPart (cs : List Char) : Option Int × List Char :=
  match cs with
  | e :: rest =>
    if e = 'e' ∨ e = 'E' then
      let (negative, digits) :=
        match rest with
        | '-' :: r => (true, r)
        | '+' :: r => (false, r)
        | r => (false, r)
      match asciiDigits digits with
      | ([], _) => (none, cs)
      | (ds, after) =>
        let n : Int := ofDigits (ds.map fun c => c.toNat - 0x30)
        (some (if negative then -n else n), after)
    else (none, cs)
  | [] => (none, cs)

/-- The double that digits, a fraction and an exponent write. -/
def doubleOf (negative : Bool) (whole fraction : List Char) (exponent : Int) : Float :=
  let digits := ofDigits ((whole ++ fraction).map fun c => c.toNat - 0x30)
  readScaled negative digits (exponent - fraction.length)

/-- A number without its sign, and what follows it. -/
def readNumber (negative : Bool) (cs : List Char) : Except ReadError (Tree × List Char) :=
  match wholePart cs with
  | none => .error .malformed
  | some (whole, rest) =>
    let (fraction, rest) := fractionPart rest
    let (exponent, rest) := exponentPart rest
    if fraction.isEmpty && exponent.isNone then
      match readNat (whole.map fun c => c.toNat - 0x30) with
      | .ok n => .ok (.int (if negative then -(n : Int) else n), rest)
      | .error e => .error (.tooManyDigits e)
    else .ok (.float (doubleOf negative whole fraction (exponent.getD 0)), rest)

/-- What follows `word`, if the text starts with it. -/
def after? : (word : List Char) → List Char → Option (List Char)
  | [], cs => some cs
  | w :: ws, c :: cs => if w = c then after? ws cs else none
  | _ :: _, [] => none

/-- A value that is no text and no container: a name or a number. -/
def readScalar (cs : List Char) : Except ReadError (Tree × List Char) :=
  match cs with
  | 'n' :: 'u' :: 'l' :: 'l' :: rest => .ok (.null, rest)
  | 't' :: 'r' :: 'u' :: 'e' :: rest => .ok (.bool true, rest)
  | 'f' :: 'a' :: 'l' :: 's' :: 'e' :: rest => .ok (.bool false, rest)
  | 'N' :: 'a' :: 'N' :: rest => .ok (.float (0.0 / 0.0), rest)
  | '-' :: rest =>
    match after? "Infinity".toList rest with
    | some rest => .ok (.float (-1.0 / 0.0), rest)
    | none => readNumber true rest
  | _ =>
    match after? "Infinity".toList cs with
    | some rest => .ok (.float (1.0 / 0.0), rest)
    | none => readNumber false cs

/-! ## Values -/

/-- Containers can be nested so deep. -/
def maxDepth : Nat := 988

mutual

/-- A value and what follows it. The fuel bounds the number of values and separators, and
    `room` the depth of containers. -/
def readValue : (fuel room : Nat) → List Char → Except ReadError (Tree × List Char)
  | 0, _, _ => .error .malformed
  | fuel + 1, room, cs =>
    match cs with
    | '"' :: rest =>
      match readText [] none rest with
      | some (s, rest) => .ok (.text s, rest)
      | none => .error .malformed
    | '[' :: rest => readList fuel room (skipBlanks rest)
    | '{' :: rest => readMap fuel room (skipBlanks rest)
    | _ => readScalar cs

/-- The rest of a list, after its opening bracket. -/
def readList : (fuel room : Nat) → List Char → Except ReadError (Tree × List Char)
  | 0, _, _ => .error .malformed
  | _, 0, _ => .error .tooDeep
  | fuel + 1, room + 1, cs =>
    match cs with
    | ']' :: rest => .ok (.list [], rest)
    | rest => do
      let (items, rest) ← readItems fuel room rest
      return (.list items, rest)

/-- The rest of a map, after its opening brace. -/
def readMap : (fuel room : Nat) → List Char → Except ReadError (Tree × List Char)
  | 0, _, _ => .error .malformed
  | _, 0, _ => .error .tooDeep
  | fuel + 1, room + 1, cs =>
    match cs with
    | '}' :: rest => .ok (.map [], rest)
    | rest => do
      let (entries, rest) ← readEntries fuel room [] rest
      return (.map entries, rest)

/-- The items of a list up to its closing bracket. -/
def readItems : (fuel room : Nat) → List Char → Except ReadError (List Tree × List Char)
  | 0, _, _ => .error .malformed
  | fuel + 1, room, cs => do
    let (item, rest) ← readValue fuel room cs
    match skipBlanks rest with
    | ',' :: rest =>
      let (items, rest) ← readItems fuel room (skipBlanks rest)
      return (item :: items, rest)
    | ']' :: rest => return ([item], rest)
    | _ => .error .malformed

/-- The entries of a map up to its closing brace, added to those read so far. -/
def readEntries : (fuel room : Nat) → Record → List Char → Except ReadError (Record × List Char)
  | 0, _, _, _ => .error .malformed
  | fuel + 1, room, read, cs =>
    match cs with
    | '"' :: rest =>
      match readText [] none rest with
      | none => .error .malformed
      | some (key, rest) =>
        match skipBlanks rest with
        | ':' :: rest => do
          let (value, rest) ← readValue fuel room (skipBlanks rest)
          let read := Assoc.put read key value
          match skipBlanks rest with
          | ',' :: rest => readEntries fuel room read (skipBlanks rest)
          | '}' :: rest => return (read, rest)
          | _ => .error .malformed
        | _ => .error .malformed
    | _ => .error .malformed

end

/-- The value that a text holds. -/
def read (s : String) : Except ReadError Tree := do
  let cs := s.toList
  let (value, rest) ← readValue (3 * cs.length + 3) maxDepth (skipBlanks cs)
  match skipBlanks rest with
  | [] => return value
  | _ => .error .malformed

end PromptRules.Data.Json
