import PromptRules.Command.Basic
import PromptRules.Command.Desk
import PromptRules.Session.Watcher
import PromptRules.Settings.EnvFile

/-!
# Running commands

Carries out a command on what its file holds: what is printed, how the command ends, what
became of the preset and what was recorded. The status is 0 for success, 1 for a no or a
failure, and 2 for a wrong command line.
-/

namespace PromptRules

open Data Directive Text PresetFile

/-- What a command is carried out with. -/
structure Workplace where
  settings : Settings := {}
  /-- What is found under the path of the command's file. -/
  content : FileContent := .missing
  /-- What is found under the path of the journals when its directories are made. -/
  journals : FileContent := .missing
  /-- The lines of input. -/
  input : List String := []
  /-- The name of the session in the journal. -/
  session : String := ""

/-- What breaks a command off without a word of its own. -/
inductive Breakdown where
  | settings (faults : List FieldFault)
  | notText
  | tooManyDigits (e : Decimal.TooManyDigits)
  /-- A preset holds no value. -/
  | noValue (e : ReadError)
  | shape (fault : ShapeFault)
  | keyNotText
  | unwritable
  /-- The directory of the journals is a file. -/
  | journalIsFile
  /-- The path of the journals leads on from a file. -/
  | journalBeyondFile
  /-- The path of the journals is too long. -/
  | journalTooLong
  /-- A path holds a character that no name can hold. -/
  | unnameable

/-- What a command leads to. -/
structure Result where
  status : Nat := 0
  printed : List Printed := []
  /-- What is wrong with the command line, if something is. -/
  usage : Option Command.UsageError := none
  /-- Whether the command line asks for help. -/
  help : Bool := false
  breakdown : Option Breakdown := none
  /-- Whether a question was left without an answer. -/
  unanswered : Bool := false
  /-- The preset afterwards, if one was loaded. -/
  preset : Option Loaded := none
  journal : Journal := .off
  notes : List Note := []

namespace Command

/-- A command line that is wrong. -/
def refused (e : UsageError) : Result := { status := 2, usage := some e }

/-- A command line that asks for help. -/
def helped : Result := { help := true }

/-- A command that broke down. -/
def broken (b : Breakdown) : Result := { status := 1, breakdown := some b }

/-- A command that found a fault to tell. -/
def faulty (text : String) : Result := { status := 1, printed := [.fault text] }

/-! ## Text files -/

/-- Shows what the directives in the bytes of a file say. -/
def listing (file : String) (bytes : ByteArray) : Result :=
  match String.fromUTF8? bytes with
  | none => broken .notText
  | some text =>
    match Directives.ofContent (unified text) with
    | .ok d => { printed := [.ofDirectives (PathName.ofString file).name d] }
    | .error e => broken (.tooManyDigits e)

/-- Whether a path in writing names a directory: it ends in a slash or in a point of its own. -/
def namesDirectory (path : String) : Bool :=
  match (pieces '/' path.toList).reverse with
  | [] :: _ :: _ | ['.'] :: _ => true
  | _ => false

/-- Shows what the directives of a file say. There must be such a file. -/
def parsed (w : Workplace) (file : String) : Result :=
  match w.content with
  | .bytes data => if namesDirectory file then refused (.noFile file) else listing file data
  | .unnameable => broken .unnameable
  | _ => refused (.noFile file)

/-! ## Presets -/

/-- What a preset that cannot be loaded leads to. -/
def unloaded (path : PathName) (e : LoadError) : Result :=
  match e with
  | .unreadable .unnameable => broken .unnameable
  | .notText => broken .notText
  | .noValue e => broken (.noValue e)
  | .shape fault => broken (.shape fault)
  | .keyNotText => broken .keyNotText
  | .unwritable => broken .unwritable
  | e => faulty (Markup.escape (e.fullMessage path))

/-- Loads the preset of a command and goes on with it. -/
def withPreset (w : Workplace) (preset : String) (character : Option Int) (autosave : Bool)
    (go : Loaded → List Note → Result) : Result :=
  let path := PathName.ofString preset
  match load path (character.map .int) autosave w.content with
  | .ok (f, notes) => go f notes
  | .error e => unloaded path e

/-- Goes on with a prompt that is in the preset. -/
def withPrompt (prompt : String) (f : Loaded) (go : Result) : Result :=
  if (Prompt.find? f.store.prompts prompt).isSome then go else faulty s!"Unknown prompt: {prompt}"

/-- The journal of a session. -/
def journalOf (w : Workplace) : Except Breakdown Journal :=
  if w.settings.journals then
    match w.journals with
    | .bytes _ => .error .journalIsFile
    | .beyondFile => .error .journalBeyondFile
    | .tooLong => .error .journalTooLong
    | .unnameable => .error .unnameable
    | .directory | .missing => .ok (.start w.session)
  else .ok .off

/-- The session of a command on a preset. A command is short: its clock stands still. -/
def sessionOf (w : Workplace) (f : Loaded) (notes : List Note) (journal : Journal) :
    Session Desk where
  world := { preset := f, input := w.input }
  memo := { limits := w.settings.limits }
  clock := fun _ => 0.0
  journal := journal
  notes := notes

/-- The status and the last lines of a command. -/
structure Ending where
  status : Nat := 0
  printed : List Printed := []

/-- Carries out an action on a preset, closes the journal and ends with what was found. -/
def inSession {α : Type} (w : Workplace) (f : Loaded) (notes : List Note) (a : Action Desk α)
    (ending : α → Ending) : Result :=
  match journalOf w with
  | .error b => broken b
  | .ok journal =>
    let (x, s) := a (sessionOf w f notes journal)
    let (_, s) := Session.close s
    let e := ending x
    { status := e.status, printed := s.world.printed ++ e.printed
      unanswered := s.world.unanswered, preset := some s.world.preset
      journal := s.journal, notes := s.notes }

/-! ## Checking -/

/-- What speaks against enabling a prompt, and whether it can clear that itself. -/
def weighed (prompt : String) : Action Desk (List Issue × Bool) := do
  let issues ← Session.check (← Session.prompts Desk.host) prompt
  if issues = [] then return ([], false)
  let ps ← Session.prompts Desk.host
  return (issues, ← Session.canClear ps issues prompt)

/-- Tells what speaks against enabling a prompt. -/
def toldIssues (prompt : String) (issues : List Issue) (clears : Bool) : Ending :=
  if issues = [] then { printed := [.line s!"✅ {prompt} can be enabled"] }
  else
    { status := if Issue.anyError issues then 1 else 0
      printed := .ofIssues issues ::
        if clears then [.line "ℹ️  All errors can be auto-resolved"] else [] }

/-! ## Switching -/

/-- Tells what became of a request to enable a prompt. -/
def toldOutcome (prompt : String) (o : Outcome) : Ending :=
  let cleared := (o.plan.map Printed.ofPlan).getD []
  if o.enabled then { printed := cleared ++ [.line s!"✅ Enabled {prompt}"] }
  else
    { status := 1
      printed := cleared ++ [.styled "yellow" s!"⚠️  {prompt} was not enabled"] }

/-- Tells that a prompt was disabled. -/
def toldDisabled (prompt : String) : Ending := { printed := [.line s!"✅ Disabled {prompt}"] }

/-! ## Triggers -/

/-- What triggers ask for at a message count, applied or not. -/
def fired (count : Nat) (apply : Bool) : Action Desk (List Firing) := do
  if apply then
    let (t, _) ← Watcher.process Desk.host count {}
    return (t.map Transitions.firings).getD []
  else
    return (← Session.due Desk.host count []).firings

/-- Tells what triggers ask for. -/
def toldFirings (preset : String) (count : Nat) (apply : Bool) (firings : List Firing) : Ending :=
  let file := (PathName.ofString preset).name
  { printed := .ofFirings count firings ::
      if apply && firings ≠ [] then [.line s!"✅ Applied to {file}"] else [] }

/-! ## All commands -/

/-- The version of the program. -/
def versionText : String := "1.0.0"

/-- Carries out a command. -/
def run (w : Workplace) : Command → Result
  | .parse file => parsed w file
  | .validate preset prompt character =>
    withPreset w preset character false fun f notes => withPrompt prompt f <|
      inSession w f notes (weighed prompt) fun x => toldIssues prompt x.1 x.2
  | .enable preset prompt yes character =>
    withPreset w preset character true fun f notes => withPrompt prompt f <|
      inSession w f notes (Session.enable Desk.host (some (Desk.ask yes)) prompt)
        (toldOutcome prompt)
  | .disable preset prompt character =>
    withPreset w preset character true fun f notes => withPrompt prompt f <|
      inSession w f notes (Session.disable Desk.host prompt) fun _ => toldDisabled prompt
  | .triggers preset count apply character =>
    withPreset w preset character apply fun f notes =>
      inSession w f notes (fired count apply) (toldFirings preset count apply)
  | .health => { printed := Printed.ofSettings w.settings }
  | .version => { printed := [.line s!"Prompt Directives version {versionText}"] }

end Command

end PromptRules
