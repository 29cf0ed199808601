import PromptRules.Directive.Comment
import PromptRules.Directive.Keyword

/-!
# Directives of a prompt

What the comment blocks of one prompt say together: lists collect the items of every block,
every other field keeps the last value. Comments that name no keyword and values that
cannot be read are passed over.

Results:
* `Directives.value?_empty`: a prompt that says nothing has no value in any field.
-/

namespace PromptRules.Directive

open Decimal

/-- The directives of one prompt. -/
@[ext]
structure Directives where
  text : TextField → Option String
  list : ListField → List String
  int : IntField → Option Int
  flag : FlagField → Bool
  window : Option Window

namespace Directives

/-- Nothing said. -/
def empty : Directives where
  text := fun _ => none
  list := fun _ => []
  int := fun _ => none
  flag := fun _ => false
  window := none

instance : Inhabited Directives := ⟨empty⟩

/-- Takes up what one directive says: a list is appended, any other value replaces the one
    before. A value of another kind than the field's says nothing. -/
def put (d : Directives) : Field → Value → Directives
  | .text f, .text s => { d with text := fun g => if g = f then some s else d.text g }
  | .list f, .list items => { d with list := fun g => if g = f then d.list g ++ items else d.list g }
  | .int f, .int n => { d with int := fun g => if g = f then some n else d.int g }
  | .flag f, .flag => { d with flag := fun g => if g = f then true else d.flag g }
  | .window, .range w => { d with window := some w }
  | _, _ => d

/-- Takes up one comment. -/
def addComment (d : Directives) (line : String) : Except TooManyDigits Directives :=
  match Row.ofLine? line with
  | none => .ok d
  | some (r, raw) => do
    match ← r.spec.read raw with
    | none => return d
    | some v => return d.put r.field v

/-- The directives of a prompt content. Only a number with too many digits fails. -/
def ofContent (content : String) : Except TooManyDigits Directives :=
  (Comment.blocks content).foldlM addComment empty

/-- What a field says, if it differs from saying nothing. -/
def value? (d : Directives) : Field → Option Value
  | .text f => (d.text f).map .text
  | .list f => if d.list f = [] then none else some (.list (d.list f))
  | .int f => (d.int f).map .int
  | .flag f => if d.flag f then some .flag else none
  | .window => d.window.map .range

/-- The fields that say something, in the order of records. -/
def declared (d : Directives) : List (Field × Value) :=
  Field.all.filterMap fun f => (d.value? f).map (f, ·)

/-- Whether the prompt is marked as deprecated, with or without a message. -/
def isDeprecated (d : Directives) : Bool := (d.text .deprecated).isSome

/-- Whether the prompt switches itself at some message count. -/
def hasTriggers (d : Directives) : Bool :=
  (d.int .enableAtMessage).isSome || (d.int .disableAtMessage).isSome || d.window.isSome
    || (d.int .enableAfterMessage).isSome || (d.int .disableAfterMessage).isSome

theorem value?_empty (f : Field) : empty.value? f = none := by
  cases f <;> rfl

end Directives

end PromptRules.Directive
