import PromptRules.Data.Coerce
import PromptRules.Directive.Memo
import PromptRules.Settings.EnvFile
import PromptRules.Text.PathName

/-!
# Settings

What the environment says about the program: its stage, the weight from which notes are
shown, the limits of the memory of directives, and whether and where a journal is kept. A
variable of the environment goes before one of an environment file; the names are those of
the settings after a common start, in any case. Settings are read once a run.
-/

namespace PromptRules

open Data Directive Text

/-- The stage that the program runs in. -/
inductive Stage where
  | development | staging | production
deriving DecidableEq, Repr

/-- The name of a stage. -/
def Stage.name : Stage → String
  | .development => "development"
  | .staging => "staging"
  | .production => "production"

/-- The stage of a name. -/
def Stage.ofName? (s : String) : Option Stage :=
  [Stage.development, .staging, .production].find? fun x => x.name == s

/-- The weight from which notes are shown, by its name in the environment. -/
def levelOfName? (s : String) : Option Level :=
  [("DEBUG", Level.debug), ("INFO", .info), ("WARNING", .warning), ("ERROR", .error)].lookup s

/-- The name of a weight in the environment. -/
def levelName : Level → String
  | .debug => "DEBUG"
  | .info => "INFO"
  | .warning => "WARNING"
  | .error => "ERROR"

/-- The settings of the program. -/
structure Settings where
  stage : Stage := .development
  level : Level := .info
  limits : Limits := .standard
  /-- Whether a journal is kept. -/
  journals : Bool := false
  /-- The directory of the journals. -/
  journalPath : PathName := .ofString "directive_logs"

namespace Settings

/-- What the names of all variables start with, in lower case. -/
def nameStart : String := "prompt_directives_"

/-- Variables by their names in lower case; of several the last counts. -/
def lowered {α : Type} (vars : List (String × α)) : List (String × α) :=
  vars.foldl (fun m e => Assoc.put m (lower e.1) e.2) []

/-- The value of a setting: from the environment, else from the file. -/
def valueOf (environment : List (String × String)) (file : List (String × Option String))
    (name : String) : Option String :=
  match Assoc.get? (lowered environment) (nameStart ++ name) with
  | some s => some s
  | none => (Assoc.get? (lowered file) (nameStart ++ name)).join

/-- A setting that has a standard value. -/
def setting {α : Type} (value : Option String) (standard : α)
    (read : String → Except Mismatch α) : Except Mismatch α :=
  match value with
  | some s => read s
  | none => .ok standard

/-- One of some names. -/
def oneOf {α : Type} (choose : String → Option α) (s : String) : Except Mismatch α :=
  match choose s with
  | some a => .ok a
  | none => .error .notLiteral

/-- A number of entries that is at least one. -/
def room (s : String) : Except Mismatch { n : Nat // 0 < n } := do
  let n ← asInt (.text s)
  if h : 0 < n then return ⟨n.toNat, Limits.toNat_pos h⟩ else throw .notAtLeast

/-- A time above zero. -/
def lifetime (s : String) : Except Mismatch Float := do
  let x ← asReal s
  if 0.0 < x then return x else throw .notAbove

/-- The settings, from the variables of the environment and of an environment file. All
    faults are reported. -/
def read (environment : List (String × String)) (file : List (String × Option String)) :
    Except (List FieldFault) Settings :=
  let value := valueOf environment file
  let standard : Settings := {}
  let stage := setting (value "env") standard.stage (oneOf Stage.ofName?)
  let level := setting (value "log_level") standard.level (oneOf levelOfName?)
  let size := setting (value "cache_max_size") ⟨standard.limits.room, standard.limits.room_pos⟩ room
  let time := setting (value "cache_ttl_seconds") standard.limits.lifetime lifetime
  let journals := setting (value "audit_log_enabled") standard.journals fun s => asFlag (.text s)
  let path := ((value "audit_log_dir").map PathName.ofString).getD standard.journalPath
  match stage, level, size, time, journals with
  | .ok stage, .ok level, .ok size, .ok time, .ok journals =>
    .ok { stage := stage, level := level, limits := ⟨size.1, size.2, time⟩, journals := journals
          journalPath := path }
  | _, _, _, _, _ =>
    .error (faultOf "env" stage ++ faultOf "log_level" level ++ faultOf "cache_max_size" size
      ++ faultOf "cache_ttl_seconds" time ++ faultOf "audit_log_enabled" journals)

end Settings

end PromptRules
