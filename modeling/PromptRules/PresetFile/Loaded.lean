import PromptRules.Files.Basic
import PromptRules.PresetFile.Format
import PromptRules.PresetFile.Order
import PromptRules.Store.Basic

/-!
# Loaded presets

A preset is loaded from a file into a store of prompts. Every toggle is recorded in the data
of the preset too, and written back to the file at once unless that is left to the caller.
All that a preset holds beyond prompts and their states is kept as it is.

Results:
* `toggle_of_unknown`: a toggle of an unknown prompt changes nothing.
-/

namespace PromptRules.PresetFile

open Data Text

/-- Why a file cannot be loaded as a preset. -/
inductive LoadError where
  | unreadable (fault : FileFault)
  | notText
  | notValid
  /-- The text is valid, but holds no value all the same. -/
  | noValue (e : ReadError)
  | noPrompts
  | noEntry (character : Node)
  | shape (fault : ShapeFault)
  /-- A prompt has a key that is no text. -/
  | keyNotText
  | invalidPrompt (identifier : Node)
  /-- An identifier holds an integer that is too long to be written. -/
  | unwritable

/-- The wording about an integer that is too long to be written. -/
def unwritableMessage : String :=
  "Exceeds the limit (" ++ toString Decimal.maxDigits
    ++ " digits) for integer string conversion; use sys.set_int_max_str_digits() to increase the limit"

/-- The wording of a load error, without the details of the file system and of fields. -/
def LoadError.message (path : PathName) (e : LoadError) : String :=
  let file := path.text
  match e with
  | .unreadable _ => s!"Cannot read preset {file}"
  | .notText => s!"Preset {file} is not text"
  | .notValid =>
    let word := formatWord path
    s!"Preset {file} is not valid {word}"
  | .noValue e => e.message
  | .noPrompts => s!"Preset {file} has no 'prompts' list"
  | .noEntry character =>
    let name := character.display
    s!"No prompt_order entry for character {name}"
  | .shape fault => fault.message
  | .keyNotText => "a prompt has a key that is no text"
  | .invalidPrompt identifier =>
    let name := identifier.literal
    s!"Invalid prompt {name} in {file}"
  | .unwritable => unwritableMessage

/-- The wording of a load error with the details of the file system. -/
def LoadError.fullMessage (path : PathName) (e : LoadError) : String :=
  match e with
  | .unreadable fault =>
    let why := fault.message path.text
    e.message path ++ s!": {why}"
  | _ => e.message path

/-- A preset that was loaded from a file. -/
structure Loaded where
  path : PathName
  /-- Whether every toggle is written to the file. -/
  autosave : Bool
  data : Document
  /-- The place of the entry whose order list holds the states. -/
  place : Option Nat
  store : Store
  /-- The text of the file. -/
  text : String

/-! ## Loading -/

/-- The data of a preset: a map with a list of prompts. -/
def dataOf (format : Format) (text : String) : Except LoadError Document :=
  match format.read text with
  | .error .malformed => .error .notValid
  | .error e => .error (.noValue e)
  | .ok data =>
    match field data.fields "prompts" with
    | .list _ => .ok data
    | _ => .error .noPrompts

/-- The fields of a prompt: those that are not null, with its state from the order list. -/
def promptFields (order : Option Node) (raw : Fields) (identifier : Node) :
    Except ShapeFault Fields := do
  let fields := raw.filter fun e => !e.2.isNull
  match order with
  | none => return fields
  | some order =>
    match ← listed order identifier with
    | some entry => return Assoc.put fields (.text "enabled") (.bool (field entry "enabled").isTrue)
    | none => return fields

/-- The fields of a prompt as its own fields take them; none if a key is no text. -/
def asRecord? (fields : Fields) : Option Record :=
  fields.mapM fun e =>
    match e.1 with
    | .text key => some (key, e.2.asField)
    | _ => none

/-- The prompt that fields make. -/
def promptOfFields (identifier : Node) (fields : Fields) : Except LoadError Prompt :=
  match asRecord? fields with
  | none => .error .keyNotText
  | some record =>
    match Prompt.ofFields record with
    | .ok p => .ok p
    | .error _ => .error (if identifier.isShort then .invalidPrompt identifier else .unwritable)

/-- The prompt of an item; none if it has no identifier. -/
def promptOf (order : Option Node) (item : Node) : Except LoadError (Option Prompt) :=
  match item with
  | .map raw =>
    let identifier := field raw "identifier"
    if identifier.isTrue then do
      let fields ← (promptFields order raw identifier).mapError .shape
      return some (← promptOfFields identifier fields)
    else return none
  | _ => return none

/-- The prompts of a preset, none for an item without identifier. -/
def promptsOf (place : Option Nat) (data : Document) : Except LoadError (List (Option Prompt)) :=
  (promptItems data).mapM (promptOf (place.map (orderAt data)))

/-- The notes about loading. -/
def loadNotes (path : PathName) (read : List (Option Prompt)) : List Note :=
  let file := path.name
  let count := (read.filterMap id).length
  (read.filter Option.isNone).map
      (fun _ => ⟨.warning, s!"Skipping preset entry without identifier in {file}"⟩)
    ++ [⟨.info, s!"Loaded preset {file}: {count} prompts"⟩]

/-- The error of a selection as one of loading. -/
def ofSelectFault : SelectFault → LoadError
  | .shape fault => .shape fault
  | .noEntry character => .noEntry character

/-- Loads the data of a preset. -/
def ofData (path : PathName) (character : Option Node) (autosave : Bool) (text : String)
    (data : Document) : Except LoadError (Loaded × List Note) := do
  let (data, place) ← (select character data).mapError ofSelectFault
  let read ← promptsOf place data
  return ({ path := path, autosave := autosave, data := data, place := place
            store := { prompts := read.filterMap id }, text := text },
    loadNotes path read)

/-- Loads a preset from the text of its file. -/
def ofText (path : PathName) (character : Option Node) (autosave : Bool) (text : String) :
    Except LoadError (Loaded × List Note) := do
  ofData path character autosave text (← dataOf (.ofPath path) (unified text))

/-- Loads a preset from what is found under its path. -/
def load (path : PathName) (character : Option Node) (autosave : Bool) (content : FileContent) :
    Except LoadError (Loaded × List Note) := do
  let bytes ← content.read.mapError .unreadable
  match String.fromUTF8? bytes with
  | none => .error .notText
  | some text => ofText path character autosave text

/-! ## Toggling -/

/-- Why a toggle fails. -/
inductive ToggleFault where
  | unknownPrompt (identifier : String)
  /-- The order list cannot take the state; prompt and log have it already. -/
  | shape (fault : ShapeFault)
  /-- The data has the state, but holds an integer that is too long to be written. -/
  | unwritable
deriving DecidableEq, Repr

/-- What a toggle leads to. -/
structure Toggled where
  preset : Loaded
  fault : Option ToggleFault := none
  notes : List Note := []

namespace Loaded

/-- Writes the data to the file, and tells whether that is possible. -/
def save (f : Loaded) : Bool × Loaded :=
  match (Format.ofPath f.path).write? f.data with
  | some text => (true, { f with text := text })
  | none => (false, f)

/-- Switches a prompt, in the store, then in the data, then in the file. -/
def toggle (identifier : String) (enabled : Bool) (f : Loaded) : Toggled :=
  match f.store.toggle? identifier enabled with
  | none => { preset := f, fault := some (.unknownPrompt identifier) }
  | some store =>
    let notes := [Store.toggled identifier enabled]
    match write f.place identifier enabled f.data with
    | .error fault =>
      { preset := { f with store := store }, fault := some (.shape fault), notes := notes }
    | .ok data =>
      let f := { f with store := store, data := data }
      let (isSaved, f) := if f.autosave then f.save else (true, f)
      { preset := f, fault := if isSaved then none else some .unwritable, notes := notes }

/-- Lists the prompts. -/
def list : Request Loaded (List Prompt) := fun f => { answer := .ok f.store.prompts, world := f }

/-- The fault of a toggle as one of the surroundings. -/
def faultOf : ToggleFault → Fault
  | .unknownPrompt identifier => .unknownPrompt identifier
  | .shape fault => .outside fault.message
  | .unwritable => .outside unwritableMessage

/-- Switches a prompt on request. -/
def set : Sink Loaded := fun identifier enabled f =>
  let t := f.toggle identifier enabled
  { answer := match t.fault with
      | some fault => .error (faultOf fault)
      | none => .ok ()
    world := t.preset, notes := t.notes }

/-- A preset that offers all it can. -/
def host : Host Loaded where
  list? := some list
  toggle? := some set

theorem toggle_of_unknown {identifier : String} {f : Loaded} (enabled : Bool)
    (h : f.store.toggle? identifier enabled = none) : (f.toggle identifier enabled).preset = f := by
  simp [toggle, h]

end Loaded

end PromptRules.PresetFile
