import PromptRules.Data.Coerce
import PromptRules.Data.Node
import PromptRules.Data.ReadError
import PromptRules.Data.Yaml.Plain
import PromptRules.Text.Base64
import PromptRules.Text.LowerCase

/-!
# Values of scalars

The value that the text of a YAML scalar writes, by its kind. A text that is taken for its
kind by its form always writes a value, but for numbers that are too long and moments that
there are not; one whose kind is told by a tag may write none.
-/

namespace PromptRules.Data.Yaml.Value

open Decimal Text

/-- A text without underscores. -/
def bare (s : String) : List Char := s.toList.filter (· ≠ '_')

/-- The sign in front, and what follows it. -/
def signed (cs : List Char) : Bool × List Char := (cs.head? = some '-', dropSign cs)

/-! ## Integers -/

/-- The value of a digit of any script or of a letter. -/
def digitOf (c : Char) : Option Nat :=
  if 'a' ≤ c ∧ c ≤ 'z' then some (c.toNat - 0x57)
  else if 'A' ≤ c ∧ c ≤ 'Z' then some (c.toNat - 0x37)
  else digitValue c

/-- The number that digits of a base write. -/
def ofDigitsIn (base : Nat) (ds : List Nat) : Nat := ds.foldl (fun n d => base * n + d) 0

/-- The letter that may follow a zero in front of the digits of a base. -/
def baseLetter (base : Nat) : List Char :=
  if base = 2 then ['b', 'B'] else if base = 8 then ['o', 'O'] else if base = 16 then ['x', 'X']
  else []

/-- A text without the mark of its base. -/
def dropBase (base : Nat) (cs : List Char) : List Char :=
  match cs with
  | '0' :: c :: rest => if c ∈ baseLetter base then rest else cs
  | _ => cs

/-- The integer that digits of a base write, with blanks around it and a sign. Only digits
    of base ten can be too many. -/
def wholeIn (base : Nat) (cs : List Char) : Except ReadError Int :=
  let (negative, ds) := signed (trim cs)
  match (dropBase base ds).mapM fun c => (digitOf c).filter (· < base) with
  | some (d :: ds) =>
    if base = 10 ∧ maxDigits < ds.length + 1 then .error (.tooManyDigits ⟨ds.length + 1⟩)
    else
      let n : Int := ofDigitsIn base (d :: ds)
      .ok (if negative then -n else n)
  | _ => .error (.notInteger base (String.ofList cs))

/-- An integer from its text without sign, in base two, eight, ten, sixteen or sixty. -/
def natural (cs : List Char) : Except ReadError Int :=
  match cs with
  | [] => .error .noDigits
  | ['0'] => .ok 0
  | '0' :: 'b' :: ds => wholeIn 2 ds
  | '0' :: 'x' :: ds => wholeIn 16 ds
  | '0' :: _ => wholeIn 8 cs
  | _ => do
    let places ← (pieces ':' cs).mapM (wholeIn 10)
    return places.foldl (fun n d => 60 * n + d) 0

/-- An integer. -/
def integer (s : String) : Except ReadError Int :=
  let (negative, cs) := signed (bare s)
  (natural cs).map fun n => if negative then -n else n

/-! ## Doubles -/

/-- A character with a digit of any script as the ASCII digit. -/
def plainDigit (c : Char) : Char :=
  match digitValue c with
  | some d => Char.ofNat (0x30 + d)
  | none => c

/-- The double that a text writes in base ten, or by its name. -/
def realOf (cs : List Char) : Except ReadError Float :=
  match signedReal? ((trim cs).map plainDigit) with
  | some x => .ok x
  | none => .error (.notDouble (String.ofList cs))

/-- The sum of the places of a number in base sixty, the lowest first. -/
def sumPlaces : (base : Nat) → (sum : Float) → List Float → Except ReadError Float
  | _, sum, [] => .ok sum
  | base, sum, d :: ds =>
    let x := Float.ofNat base
    if x.isInf then .error .tooLarge else sumPlaces (base * 60) (sum + d * x) ds

/-- A double from its text without sign, in lower case. -/
def positive (cs : List Char) : Except ReadError Float :=
  if cs = ".inf".toList then .ok (1.0 / 0.0)
  else
    match pieces ':' cs with
    | [_] => realOf cs
    | places => do sumPlaces 1 0.0 (← places.mapM realOf).reverse

/-- A double. -/
def double (s : String) : Except ReadError Float :=
  let cs := (lower (String.ofList (bare s))).toList
  if cs.isEmpty then .error .noDigits
  else
    let (negative, ds) := signed cs
    if ds = ".nan".toList then .ok (0.0 / 0.0)
    else (positive ds).map fun x => if negative then -x else x

/-! ## Moments -/

/-- The clock that parts write, if they have a time. -/
def clockOf (m : MomentParts) : Option Clock :=
  m.time.map fun (hour, minute, second) =>
    let fraction := (m.fraction ++ List.replicate 6 '0').take 6
    { hour := hour, minute := minute, second := second, micros := numberOf fraction
      ahead := m.distance.map fun (negative, hours, minutes) =>
        let n : Int := hours * 60 + minutes
        if negative then -n else n }

/-- A moment. -/
def moment (s : String) : Except ReadError Moment :=
  match momentParts? (dropLineEnd s.toList) with
  | some m => (Moment.make m.year m.month m.day (clockOf m)).mapError .noMoment
  | none => .error .notMoment

/-! ## All kinds -/

/-- The truth value of a word, in any case. -/
def flag (s : String) : Except ReadError Bool :=
  let word := lower s
  if word ∈ ["yes", "true", "on"] then .ok true
  else if word ∈ ["no", "false", "off"] then .ok false
  else .error .notFlag

/-- The value of the text of a scalar, by its kind. A container is no scalar, and the special
    keys stand for no value. -/
def ofText (tag : Tag) (s : String) : Except ReadError Node :=
  match tag with
  | .null => .ok .null
  | .bool => (flag s).map .bool
  | .int => (integer s).map .int
  | .float => (double s).map .float
  | .text => .ok (.text s)
  | .moment => (moment s).map .moment
  | .bytes =>
    match if s.toList.all (·.toNat < 0x80) then Base64.decode s else none with
    | some data => .ok (.bytes data)
    | none => .error .malformed
  | _ => .error .malformed

end PromptRules.Data.Yaml.Value
