import PromptRules.Data.Assoc
import PromptRules.Decimal.Whole
import PromptRules.Directive.Value
import PromptRules.Text.Blank
import PromptRules.Text.LowerCase
import PromptRules.Text.Pieces
import PromptRules.Text.Quoted

/-!
# Directive specifications

A specification ties a keyword to the field it writes and to the way its value is read. A
value that cannot be read counts as absent; a number with too many digits is the one thing
that fails.

Results:
* `Spec.read_flag`: a flag is read whatever follows its keyword.
* `Spec.readList_eq_none_iff`: a list is unreadable iff it has no item.
-/

namespace PromptRules.Directive

open Data Decimal Text

/-- One row of a keyword table. -/
structure Spec where
  keyword : String
  field : String
  kind : Kind
  /-- Texts and items are kept in lower case. -/
  lowercase : Bool := false
  /-- A text may be empty. -/
  allowsEmpty : Bool := false
  category : String := "metadata"
deriving DecidableEq, Repr

/-! ## Reading values -/

/-- The integer that a text starts with, after blanks and an optional sign. -/
def leadingInt? (s : String) : Except TooManyDigits (Option Int) :=
  let (negative, cs) :=
    match trim s.toList with
    | '-' :: cs => (true, cs)
    | '+' :: cs => (false, cs)
    | cs => (false, cs)
  match (splitDigits cs).1 with
  | [] => .ok none
  | ds => (readNat ds).map fun n => some (if negative then -(n : Int) else n)

/-- The window that a text writes as `first-last` or `first-`; none if it is written
    otherwise or ends before it starts. -/
def Window.read? (s : String) : Except TooManyDigits (Option Window) :=
  let (starts, rest) := splitDigits (trim s.toList)
  match starts, trimStart rest with
  | [], _ => .ok none
  | _, '-' :: rest =>
    match splitDigits (trimStart rest) with
    | ([], []) => (readNat starts).map fun first => some ⟨first, none⟩
    | (ends, []) => do
      let first ← readNat starts
      let last ← readNat ends
      return if last < first then none else some ⟨first, some (last : Int)⟩
    | _ => .ok none
  | _, _ => .ok none

/-- The items of a comma-separated list, trimmed, the empty ones left out. -/
def listItems (s : String) : List String :=
  (((pieces ',' (trim s.toList)).map trim).filter (!·.isEmpty)).map String.ofList

namespace Spec

/-- A text as the specification keeps it. -/
def keep (spec : Spec) (s : String) : String := if spec.lowercase then lower s else s

/-- The value of a list directive. -/
def readList (spec : Spec) (raw : String) : Option Value :=
  match listItems raw with
  | [] => none
  | items => some (.list (items.map spec.keep))

/-- The value of a text directive. -/
def readText (spec : Spec) (raw : String) : Option Value :=
  let s := trimmed raw
  if s = "" ∧ spec.allowsEmpty = false then none else some (.text (spec.keep s))

/-- What the text after a keyword says; none if it cannot be used. -/
def read (spec : Spec) (raw : String) : Except TooManyDigits (Option Value) :=
  match spec.kind with
  | .flag => .ok (some .flag)
  | .text => .ok (spec.readText raw)
  | .list => .ok (spec.readList raw)
  | .int => (leadingInt? raw).map (·.map .int)
  | .range => (Window.read? raw).map (·.map .range)

theorem read_flag {spec : Spec} (h : spec.kind = .flag) (raw : String) :
    spec.read raw = .ok (some .flag) := by
  simp [read, h]

theorem readList_eq_none_iff {spec : Spec} {raw : String} :
    spec.readList raw = none ↔ listItems raw = [] := by
  unfold readList
  split <;> simp_all

end Spec

/-! ## Keyword tables -/

/-- Why specifications do not make a keyword table. -/
inductive SpecError where
  | notOneToken (keyword : String)
  | repeatedKeyword (keyword : String)
  | twoKinds (field : String)
deriving DecidableEq, Repr

/-- The wording of a table error. -/
def SpecError.message : SpecError → String
  | .notOneToken keyword => "Directive keyword " ++ quoted keyword ++ " must be a single token"
  | .repeatedKeyword keyword => "Duplicate directive keyword: @" ++ keyword
  | .twoKinds field => "Field " ++ quoted field ++ " is written with two value kinds"

/-- Whether a keyword can be matched as a whole: it is not empty and has no blank. -/
def isToken (keyword : String) : Bool := keyword != "" && !keyword.toList.any isBlank

/-- Adds specifications to a table; `kinds` holds the kind of every field written so far. -/
def indexFrom (table : List (String × Spec)) (kinds : List (String × Kind)) :
    List Spec → Except SpecError (List (String × Spec))
  | [] => .ok table
  | spec :: specs =>
    if !isToken spec.keyword then .error (.notOneToken spec.keyword)
    else if (Assoc.get? table spec.keyword).isSome then .error (.repeatedKeyword spec.keyword)
    else if (Assoc.get? kinds spec.field).any (· ≠ spec.kind) then .error (.twoKinds spec.field)
    else
      indexFrom (Assoc.put table spec.keyword spec) (Assoc.put kinds spec.field spec.kind) specs

/-- The table of specifications by keyword, in their order. It is refused if a keyword is
    not one token or repeats, or if two specifications write a field in two kinds. -/
def index (specs : List Spec) : Except SpecError (List (String × Spec)) := indexFrom [] [] specs

end PromptRules.Directive
