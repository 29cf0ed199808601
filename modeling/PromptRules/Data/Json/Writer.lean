import PromptRules.Data.Tree
import PromptRules.Decimal.Layout
import PromptRules.Text.Quoted

/-!
# Writing JSON

Two ways to write a value: on one line with `", "` and `": "` between the parts and every
character beyond ASCII escaped, as log lines need it, and over several lines with an
indent of four and characters as they are, as preset files have it.
-/

namespace PromptRules.Data.Json

open Decimal Text

/-- Doubles in JSON: the fewest digits that read back, and names for what is no number. -/
def numbers : Layout := { exact with infinity := "Infinity", minusInfinity := "-Infinity", nan := "NaN" }

/-- One character of a text. -/
def escape (ascii : Bool) (c : Char) : List Char :=
  let n := c.toNat
  if c = '"' || c = '\\' then ['\\', c]
  else if c = '\n' then ['\\', 'n']
  else if c = '\r' then ['\\', 'r']
  else if c = '\t' then ['\\', 't']
  else if n = 8 then ['\\', 'b']
  else if n = 12 then ['\\', 'f']
  else if n < 0x20 then '\\' :: 'u' :: hexDigits 4 n
  else if !ascii || n < 0x7F then [c]
  else if n < 0x10000 then '\\' :: 'u' :: hexDigits 4 n
  else
    let high := 0xD800 + (n - 0x10000) / 0x400
    let low := 0xDC00 + (n - 0x10000) % 0x400
    '\\' :: 'u' :: hexDigits 4 high ++ '\\' :: 'u' :: hexDigits 4 low

/-- A text between its quotes. -/
def writeText (ascii : Bool) (s : String) : String :=
  String.ofList ('"' :: s.toList.flatMap (escape ascii) ++ ['"'])

/-- A value that is no container. -/
def writeScalar (ascii : Bool) : Tree → String
  | .bool b => if b then "true" else "false"
  | .int n => toString n
  | .float x => numbers.write x
  | .text s => writeText ascii s
  | _ => "null"

mutual

/-- A value on one line, in ASCII. -/
def line : Tree → String
  | .list items => "[" ++ ", ".intercalate (lineItems items) ++ "]"
  | .map entries => "\x7b" ++ ", ".intercalate (lineEntries entries) ++ "\x7d"
  | t => writeScalar true t

/-- The items of a list, each on one line. -/
def lineItems : List Tree → List String
  | [] => []
  | t :: ts => line t :: lineItems ts

/-- The entries of a map, each on one line. -/
def lineEntries : Record → List String
  | [] => []
  | (key, t) :: es => (writeText true key ++ ": " ++ line t) :: lineEntries es

end

/-- A line end and the indent of a depth. -/
def newLine (depth : Nat) : String := String.ofList ('\n' :: List.replicate (4 * depth) ' ')

/-- The parts of a container, one a line, between its brackets. -/
def block (depth : Nat) (opening closing : String) (parts : List String) : String :=
  match parts with
  | [] => opening ++ closing
  | _ =>
    opening ++ newLine (depth + 1) ++ ("," ++ newLine (depth + 1)).intercalate parts
      ++ newLine depth ++ closing

mutual

/-- A value over several lines, its own first line at the given depth. -/
def page (depth : Nat) : Tree → String
  | .list items => block depth "[" "]" (pageItems (depth + 1) items)
  | .map entries => block depth "\x7b" "\x7d" (pageEntries (depth + 1) entries)
  | t => writeScalar false t

/-- The items of a list, each over several lines. -/
def pageItems (depth : Nat) : List Tree → List String
  | [] => []
  | t :: ts => page depth t :: pageItems depth ts

/-- The entries of a map, each over several lines. -/
def pageEntries (depth : Nat) : Record → List String
  | [] => []
  | (key, t) :: es => (writeText false key ++ ": " ++ page depth t) :: pageEntries depth es

end

end PromptRules.Data.Json
