import PromptRules.Data.Document

/-!
# Order lists

A preset can keep the enabled states of its prompts apart from the prompts, in order lists
under `prompt_order`: one entry a character, each with a list of prompts and their states.
One entry is selected, that of a given character or the last, and its list is read and
written. An entry without a list gets an empty one; a list that is null counts as none.

Results:
* `select_of_no_orders`: a preset without order lists selects none.
-/

namespace PromptRules.PresetFile

open Data

/-- A part of a preset that has not the shape it is used in. -/
inductive ShapeFault where
  /-- Fields are asked of a value that is no map. -/
  | notMap
  /-- The items are asked of a value that has none. -/
  | notItems
  /-- A value that is no list is to be appended to. -/
  | notList
deriving DecidableEq, Repr

/-- The wording of a shape fault. -/
def ShapeFault.message : ShapeFault → String
  | .notMap => "an order entry is not an object"
  | .notItems => "an order list has no items"
  | .notList => "an order list cannot be appended to"

/-- The fields of a map. -/
def fieldsOf : Node → Except ShapeFault Fields
  | .map fields => .ok fields
  | _ => .error .notMap

/-- The items of a value that is used as an order list: those of a list, the keys of a map or
    a set, the characters of a text, the numbers of bytes. A map that the value is itself inside of
    has a key, of which no more is needed than that it is no map. -/
def itemsOf : Node → Except ShapeFault (List Node)
  | .list items => .ok items
  | .map entries => .ok (entries.map fun e => e.1.node)
  | .set members => .ok (members.map Key.node)
  | .text s => .ok (s.toList.map fun c => .text (String.singleton c))
  | .bytes data => .ok (data.map fun b => .int b.toNat)
  | .loop isMap => .ok (if isMap then [.null] else [])
  | _ => .error .notItems

/-- The value of a key, null if the map lacks it. -/
def field (fields : Fields) (key : String) : Node := (Assoc.get? fields (.text key)).getD .null

/-- Whether an entry has this value under a key. -/
def hasField (key : String) (value : Node) (entry : Node) : Except ShapeFault Bool :=
  (fieldsOf entry).map fun fields => (field fields key).same value

/-- The place of the first entry with this value under a key. The entries before it, and
    all if there is none, must be maps. -/
def find (key : String) (value : Node) : List Node → Except ShapeFault (Option Nat)
  | [] => .ok none
  | entry :: entries => do
    if ← hasField key value entry then return some 0
    else return (← find key value entries).map (· + 1)

/-! ## The selected entry -/

/-- The entries under `prompt_order`; none if that is no list. -/
def orders (data : Document) : List Node :=
  match field data.fields "prompt_order" with
  | .list entries => entries
  | _ => []

/-- The place of the entry of a character, or of the last entry. The inner answer is none
    when the character has no entry. -/
def placeOf (character : Option Node) (entries : List Node) : Except ShapeFault (Option Nat) :=
  match character with
  | some c => find "character_id" c entries
  | none => .ok (some (entries.length - 1))

/-- The path of an entry under `prompt_order`. -/
def entryPath (place : Nat) : Path := [.key "prompt_order", .index place]

/-- The path of the order list of an entry. -/
def orderPath (place : Nat) : Path := entryPath place ++ [.key "order"]

/-- The fields of the entry at a place. -/
def entryAt (data : Document) (place : Nat) : Fields :=
  match (orders data).getD place .null with
  | .map fields => fields
  | _ => []

/-- The order list of the entry at a place. -/
def orderAt (data : Document) (place : Nat) : Node := field (entryAt data place) "order"

/-- The data with an order list for an entry, an empty one if it had none. -/
def withOrder (place : Nat) (data : Document) : Document :=
  match Assoc.get? (entryAt data place) (.text "order") with
  | some _ => data
  | none => data.putField (entryPath place) "order" (.list [])

/-- Why no entry can be selected. -/
inductive SelectFault where
  | shape (fault : ShapeFault)
  /-- The character has no entry. -/
  | noEntry (character : Node)

/-- The data after an entry was selected, with the place of the entry whose order list is
    to be used, if there is one. -/
def select (character : Option Node) (data : Document) :
    Except SelectFault (Document × Option Nat) := do
  let entries := orders data
  if entries.isEmpty then return (data, none)
  match ← (placeOf character entries).mapError .shape with
  | none => .error (.noEntry (character.getD .null))
  | some place =>
    let _ ← (fieldsOf (entries.getD place .null)).mapError .shape
    let data := withOrder place data
    return (data, if (orderAt data place).isNull then none else some place)

/-! ## The order list -/

/-- The fields that an order list holds about a prompt; none if it does not list it. -/
def listed (order : Node) (identifier : Node) : Except ShapeFault (Option Fields) := do
  let items ← itemsOf order
  match ← find "identifier" identifier items with
  | some place => return some (← fieldsOf (items.getD place .null))
  | none => return none

/-- What an order list holds about a prompt that it did not list before. -/
def newEntry (identifier : String) (enabled : Bool) : Node :=
  .map [("identifier", .text identifier), ("enabled", .bool enabled)]

/-- The data with the state of a prompt in the order list at a path: where it is listed first,
    or at the end. -/
def mark (path : Path) (identifier : String) (enabled : Bool) (order : Node) (data : Document) :
    Except ShapeFault Document := do
  let items ← itemsOf order
  match ← find "identifier" (.text identifier) items, order with
  | some place, .list _ => return data.putField (path ++ [.index place]) "enabled" (.bool enabled)
  | none, .list _ => return data.append path (newEntry identifier enabled)
  | _, _ => .error .notList

/-- The items under `prompts`. -/
def promptItems (data : Document) : List Node :=
  match field data.fields "prompts" with
  | .list items => items
  | _ => []

/-- Whether an item is a map with an identifier. -/
def isNamed (identifier : String) : Node → Bool
  | .map fields => (field fields "identifier").same (.text identifier)
  | _ => false

/-- The data with the state of a prompt beside the prompt, wherever its identifier stands
    from some item on. -/
def markPrompts (identifier : String) (enabled : Bool) :
    (index : Nat) → List Node → Document → Document
  | _, [], data => data
  | index, t :: ts, data =>
    markPrompts identifier enabled (index + 1) ts <|
      if isNamed identifier t then
        data.putField [.key "prompts", .index index] "enabled" (.bool enabled)
      else data

/-- The data with the state of a prompt, in the selected order list or with the prompt. -/
def write (place : Option Nat) (identifier : String) (enabled : Bool) (data : Document) :
    Except ShapeFault Document :=
  match place with
  | some place => mark (orderPath place) identifier enabled (orderAt data place) data
  | none => .ok (markPrompts identifier enabled 0 (promptItems data) data)

theorem select_of_no_orders {data : Document} (h : orders data = []) (character : Option Node) :
    select character data = .ok (data, none) := by
  simp [select, h, pure, Except.pure]

end PromptRules.PresetFile
