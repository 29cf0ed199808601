import PromptRules.Data.Coerce
import PromptRules.Directive.Directives

/-!
# Directives as records

Directives and windows written as records, for log lines, and a window read from a record.

Results:
* `Directives.toRecord_keys`: the record lists every field, in the order of records.
-/

namespace PromptRules.Directive

open Data

/-- An optional text. -/
def textOrNull : Option String → Tree
  | some s => .text s
  | none => .null

/-- An optional integer. -/
def intOrNull : Option Int → Tree
  | some n => .int n
  | none => .null

/-- A window with both ends, the end null when it is open. -/
def Window.toRecord (w : Window) : Record := [("start", .int w.first), ("end", intOrNull w.last)]

/-- The end of a window, which may be null. -/
def asEnd : Tree → Except Mismatch (Option Int)
  | .null => .ok none
  | t => (asInt t).map some

/-- A window from its fields. -/
def Window.ofFields (fields : Record) : Except (List FieldFault) Window :=
  let first := required fields "start" asInt
  let last := optional fields "end" none asEnd
  match first, last with
  | .ok first, .ok last => .ok ⟨first, last⟩
  | _, _ => .error (faultOf "end" last ++ faultOf "start" first)

/-- The value of one field, whether it says something or not. -/
def Directives.fieldTree (d : Directives) : Field → Tree
  | .text f => textOrNull (d.text f)
  | .list f => .list ((d.list f).map .text)
  | .int f => intOrNull (d.int f)
  | .flag f => .bool (d.flag f)
  | .window =>
    match d.window with
    | some w => .map w.toRecord
    | none => .null

/-- All fields, those that say nothing included. -/
def Directives.toRecord (d : Directives) : Record :=
  Field.all.map fun f => (f.name, d.fieldTree f)

theorem Directives.toRecord_keys (d : Directives) :
    Assoc.keys d.toRecord = Field.all.map Field.name := by
  simp [Assoc.keys, toRecord, Function.comp_def]

end PromptRules.Directive
