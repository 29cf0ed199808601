import PromptRules.Data.Tree
import PromptRules.Decimal.Layout
import PromptRules.Decimal.Whole
import PromptRules.Text.Blank

/-!
# Typed fields from data trees

Reads a field of a given type from a value of a preset file or a setting. The reading is
lenient where a value can only mean one thing: numbers and words for truth values, whole
doubles and numerals for integers. Texts are taken from texts only.

Results:
* `asText_eq_ok_iff`: a text is read from itself and from nothing else.
* `asFlag_bool`: truth values are read as they are.
-/

namespace PromptRules.Data

open Decimal

/-- Why a value does not fit a field. -/
inductive Mismatch where
  | missing
  | notText
  | notFlagWord
  | notFlag
  | notChoice
  | notLiteral
  | notInteger
  | notNumeral
  | notWhole
  | notFinite
  | tooLarge
  | notReal
  | notAbove
  | notAtLeast
deriving DecidableEq, Repr

/-- The short name of a mismatch. -/
def Mismatch.name : Mismatch → String
  | .missing => "missing"
  | .notText => "string_type"
  | .notFlagWord => "bool_parsing"
  | .notFlag => "bool_type"
  | .notChoice => "enum"
  | .notLiteral => "literal_error"
  | .notInteger => "int_type"
  | .notNumeral => "int_parsing"
  | .notWhole => "int_from_float"
  | .notFinite => "finite_number"
  | .tooLarge => "int_parsing_size"
  | .notReal => "float_parsing"
  | .notAbove => "greater_than"
  | .notAtLeast => "greater_than_equal"

/-- A field that does not fit, with the reason. -/
abbrev FieldFault := String × Mismatch

/-! ## Numerals -/

/-- Blanks around a numeral: the Unicode white space, without the information separators. -/
def isOuterBlank (c : Char) : Bool := Text.isBlank c && !(0x1C ≤ c.toNat && c.toNat ≤ 0x1F)

/-- A numeral without the blanks around it. -/
def stripOuter (cs : List Char) : List Char :=
  ((cs.dropWhile isOuterBlank).reverse.dropWhile isOuterBlank).reverse

/-- The sign in front, and what follows it. -/
def splitSign : List Char → Bool × List Char
  | '-' :: cs => (true, cs)
  | '+' :: cs => (false, cs)
  | cs => (false, cs)

/-- Whether two underscores stand next to each other. -/
def hasDouble : List Char → Bool
  | c :: d :: cs => (c = '_' && d = '_') || hasDouble (d :: cs)
  | _ => false

/-- A numeral without its underscores, unless one stands at an end or next to another. -/
def dropUnderscores (cs : List Char) : List Char :=
  if cs.head? = some '_' ∨ cs.getLast? = some '_' ∨ hasDouble cs then cs
  else cs.filter (· ≠ '_')

/-- A numeral without a tail of a point and zeros. -/
def dropZeroTail (cs : List Char) : List Char :=
  match cs.dropWhile (· ≠ '.') with
  | '.' :: '0' :: zeros => if zeros.all (· = '0') then cs.takeWhile (· ≠ '.') else cs
  | _ => cs

/-- What follows the zeros and underscores at the front of a numeral, whose last one was
    `last`: the rest from its first digit or sign, or from the character before its point. -/
def afterZeros (last : Char) : List Char → Option (List Char)
  | [] => some [last]
  | c :: cs =>
    if c = '0' ∨ c = '_' then afterZeros c cs
    else if c = '.' then some (last :: c :: cs)
    else if c = '-' ∨ c.isDigit then some (c :: cs)
    else none

/-- A numeral without the zeros in front of its first digit. -/
def dropZeros : List Char → Option (List Char)
  | [] => none
  | c :: cs =>
    if c = '0' then afterZeros c cs else if c = '-' ∨ c.isDigit then some (c :: cs) else none

/-- The value of a run of ASCII digits that is not empty. -/
def asciiNumber? (cs : List Char) : Option Nat :=
  if cs ≠ [] ∧ cs.all Char.isDigit then some (ofDigits (cs.map fun c => c.toNat - 0x30)) else none

/-- The number of characters that the longest plain numeral has. -/
def maxNumeral : Nat := 4300

/-- The integer that a plain numeral writes: a minus sign if it is negative, and digits with
    no zero in front. -/
def plainNumeral (cs : List Char) : Except Mismatch Int :=
  let negative := cs.head? = some '-'
  let ds := if negative then cs.tail else cs
  if ds.head? = some '0' then if ds = ['0'] then .ok 0 else .error .notNumeral
  else if maxNumeral < (ds.takeWhile Char.isDigit).length + (if negative then 1 else 0) then
    .error .tooLarge
  else
    match asciiNumber? ds with
    | some n => .ok (if negative then -(n : Int) else n)
    | none => .error .notNumeral

/-- The plain numeral that is meant: without the blanks around it, a plus sign and zeros in
    front, zeros after a point, and underscores between the digits. -/
def tidied? (cs : List Char) : Option (List Char) :=
  let cs := stripOuter cs
  let cs := if cs.head? = some '+' ∧ cs.tail.head? ≠ some '-' then cs.tail else cs
  (dropZeros cs).map fun cs => dropUnderscores (dropZeroTail cs)

/-- The integer that a numeral writes, plainly or not. -/
def numeral (s : String) : Except Mismatch Int :=
  match plainNumeral s.toList with
  | .error .notNumeral => ((tidied? s.toList).map plainNumeral).getD (.error .notNumeral)
  | found => found

/-- The digits of an optional part of a number; none if the part has other characters. -/
def partDigits? (cs : List Char) : Option (List Nat) :=
  if cs.all Char.isDigit then some (cs.map fun c => c.toNat - 0x30) else none

/-- The exponent after its letter: a sign and at least one digit. -/
def exponent? (cs : List Char) : Option Int :=
  let (negative, ds) := splitSign cs
  (asciiNumber? ds).map fun n => if negative then -(n : Int) else n

/-- A double from digits around an optional point and an optional exponent. -/
def decimal? (cs : List Char) : Option Float :=
  let isMark (c : Char) := c = 'e' || c = 'E'
  let body := cs.takeWhile (!isMark ·)
  let whole := body.takeWhile (· ≠ '.')
  let fraction := (body.dropWhile (· ≠ '.')).drop 1
  let exponent :=
    match cs.dropWhile (!isMark ·) with
    | [] => some 0
    | _ :: tail => exponent? tail
  if whole.isEmpty && fraction.isEmpty then none
  else do
    let ds := (← partDigits? whole) ++ (← partDigits? fraction)
    return readScaled false (ofDigits ds) ((← exponent) - fraction.length)

/-- A double from its digits or its name, without sign. -/
def unsignedReal? (cs : List Char) : Option Float :=
  let word := String.ofList (cs.map Char.toLower)
  if word = "inf" ∨ word = "infinity" then some (1.0 / 0.0)
  else if word = "nan" then some (0.0 / 0.0)
  else decimal? cs

/-- A double from its sign and its digits or name. -/
def signedReal? (cs : List Char) : Option Float :=
  let (negative, cs) := splitSign cs
  (unsignedReal? cs).map fun x => if negative then -x else x

/-- The double that a numeral writes: with blanks around it or with underscores in it, but not
    with both. -/
def real? (s : String) : Option Float :=
  (signedReal? (stripOuter s.toList)).orElse fun _ => signedReal? (dropUnderscores s.toList)

/-! ## Fields -/

/-- A text. -/
def asText : Tree → Except Mismatch String
  | .text s => .ok s
  | _ => .error .notText

/-- The truth value that a word stands for, in any case. -/
def flagWord? (s : String) : Option Bool :=
  let word := String.ofList (s.toList.map Char.toLower)
  if word ∈ ["0", "off", "f", "false", "n", "no"] then some false
  else if word ∈ ["1", "on", "t", "true", "y", "yes"] then some true
  else none

/-- The integer that a double is, if it is whole and has at most 63 bits. -/
def wholeReal (x : Float) : Except Mismatch Int :=
  match Binary.ofFloat x with
  | .finite negative m q =>
    match (Binary.finite negative m q).toInt? with
    | some n => if n.natAbs < Nat.pow 2 63 then .ok n else .error .tooLarge
    | none => .error .notWhole
  | _ => .error .notFinite

/-- The truth value that the integers 0 and 1 stand for. -/
def flagNumber (n : Int) : Except Mismatch Bool :=
  if n = 0 then .ok false else if n = 1 then .ok true else .error .notFlagWord

/-- A truth value. -/
def asFlag : Tree → Except Mismatch Bool
  | .bool b => .ok b
  | .int n =>
    if -(Nat.pow 2 63 : Nat) ≤ n ∧ n < (Nat.pow 2 63 : Nat) then flagNumber n else .error .notFlag
  | .float x =>
    match wholeReal x with
    | .ok n => flagNumber n
    | .error _ => .error .notFlag
  | .text s =>
    match flagWord? s with
    | some b => .ok b
    | none => .error .notFlagWord
  | _ => .error .notFlag

/-- An integer. -/
def asInt : Tree → Except Mismatch Int
  | .int n => .ok n
  | .bool b => .ok (if b then 1 else 0)
  | .float x => wholeReal x
  | .text s => numeral s
  | _ => .error .notInteger

/-- A double. -/
def asReal (s : String) : Except Mismatch Float :=
  match real? s with
  | some x => .ok x
  | none => .error .notReal

theorem asText_eq_ok_iff {t : Tree} {s : String} : asText t = .ok s ↔ t = .text s := by
  cases t <;> simp [asText]

theorem asFlag_bool (b : Bool) : asFlag (.bool b) = .ok b := rfl

/-- The fault of a field, as a list that is empty when the field fits. -/
def faultOf {α : Type} (field : String) : Except Mismatch α → List FieldFault
  | .ok _ => []
  | .error m => [(field, m)]

/-- A field that may be left out. -/
def optional {α : Type} (fields : Record) (key : String) (default : α)
    (read : Tree → Except Mismatch α) : Except Mismatch α :=
  match Assoc.get? fields key with
  | some t => read t
  | none => .ok default

/-- A field that must be there. -/
def required {α : Type} (fields : Record) (key : String)
    (read : Tree → Except Mismatch α) : Except Mismatch α :=
  match Assoc.get? fields key with
  | some t => read t
  | none => .error .missing

end PromptRules.Data
