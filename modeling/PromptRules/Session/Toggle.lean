import PromptRules.Prompt.Activation
import PromptRules.Session.Basic

/-!
# Toggling in a session

Switching a prompt on checks it first. Without issues it is enabled; warnings alone ask, if
there is someone to ask; errors that the prompt can clear itself are cleared; other errors
ask, and stop the prompt if there is nobody to ask. A failure on the way is noted and never
leaves the prompt stuck: it is enabled all the same. Switching off is never checked.
-/

namespace PromptRules

open Data

/-- What became of a request to switch a prompt. -/
structure Outcome where
  identifier : String
  enabled : Bool := false
  issues : List Issue := []
  plan : Option Plan := none
  asked : Bool := false
  error : Option String := none
deriving DecidableEq, Repr

/-- The outcome as a record. -/
def Outcome.toRecord (o : Outcome) : Record :=
  [("prompt", .text o.identifier), ("enabled", .bool o.enabled),
   ("issues", Journal.issueList o.issues),
   ("auto_resolution", match o.plan with | some p => .map p.toRecord | none => .null),
   ("asked_user", .bool o.asked),
   ("error", match o.error with | some e => .text e | none => .null)]

namespace Session

variable {σ : Type}

/-- The word for a state in notes. -/
def stateWord (enabled : Bool) : String := if enabled then "True" else "False"

/-- Switches one prompt, and tells whether that worked. -/
def commit (host : Host σ) (source : String) (enabled : Bool) (identifier : String) :
    Action σ Bool :=
  match host.toggle? with
  | none => do
    let word := stateWord enabled
    say .warning s!"No toggle sink; cannot set {identifier} to {word}"
    return false
  | some toggle => do
    match ← consult (toggle identifier enabled) with
    | .ok () =>
      enter (Journal.toggle identifier enabled source)
      return true
    | .error e =>
      let why := e.message
      say .error s!"Error performing toggle for {identifier}: {why}"
      return false

/-- Switches several prompts, and tells which of them worked. -/
def commitAll (host : Host σ) (source : String) (enabled : Bool) (identifiers : List String) :
    Action σ (List String) :=
  identifiers.filterM (commit host source enabled)

/-- What speaks against enabling a prompt. -/
def check (ps : List Prompt) (identifier : String) (l : Lookup (Action σ) := remembered) :
    Action σ (List Issue) := do
  let issues ← Activation.issuesOf l identifier ps
  if issues ≠ [] then say .debug (Activation.note identifier issues)
  enter (Journal.validation identifier issues)
  return issues

/-- Whether a prompt can clear the errors against itself. -/
def canClear (ps : List Prompt) (issues : List Issue) (identifier : String)
    (l : Lookup (Action σ) := remembered) : Action σ Bool := do
  return Issue.allClearable issues (← directivesOf ps identifier l)

/-- One toggle of a plan. -/
def planned (sink : Sink σ) (identifier : String) (enabled : Bool) :
    ExceptT Fault (Action σ) Unit := do
  ExceptT.mk (consult (sink identifier enabled))
  ExceptT.lift <| say .info <|
    if enabled then s!"Auto-enabled required prompt: {identifier}"
    else s!"Auto-disabled conflicting prompt: {identifier}"

/-- Clears the errors against a prompt by its own plan. -/
def carryOutPlan (sink : Sink σ) (ps : List Prompt) (issues : List Issue) (identifier : String)
    (l : Lookup (Action σ) := remembered) : ExceptT Fault (Action σ) Plan := do
  match Plan.ofIssues? issues (← ExceptT.lift (directivesOf ps identifier l)) with
  | none => throw .notResolvable
  | some plan =>
    plan.carryOut (planned sink)
    ExceptT.lift (enter (Journal.resolution identifier plan))
    return plan

/-- Clears the errors against a prompt, through a sink of the caller's or that of the host.
    The first toggle that fails ends it. -/
def apply (host : Host σ) (other : Option (Sink σ)) (known : Option (List Prompt))
    (issues : List Issue) (identifier : String) (l : Lookup (Action σ) := remembered) :
    ExceptT Fault (Action σ) Plan :=
  match other <|> host.toggle? with
  | none => throw .noSink
  | some sink => do carryOutPlan sink (← ExceptT.lift (promptsOr host known)) issues identifier l

/-- Notes a failure on the way to enabling a prompt, which goes on. -/
def goOn (o : Outcome) (e : Fault) : Action σ (Bool × Outcome) := do
  let identifier := o.identifier
  let why := e.message
  say .error s!"Error validating prompt activation for {identifier}: {why}"
  return (true, { o with error := some why })

/-- Asks whether to go on. -/
def askAbout (asker : Asker σ) (o : Outcome) : Action σ (Bool × Outcome) := do
  let o := { o with asked := true }
  match ← consult (asker o.identifier o.issues) with
  | .ok answer => return (answer, o)
  | .error e => goOn o e

/-- Clears errors that the prompt can clear itself, and asks about others: whether to go on. -/
def clearOrAsk (host : Host σ) (asker : Option (Asker σ)) (ps : List Prompt) (o : Outcome)
    (clears : Bool) (l : Lookup (Action σ) := remembered) : Action σ (Bool × Outcome) := do
  if clears then
    match ← (apply host none (some ps) o.issues o.identifier l).run with
    | .ok plan => return (true, { o with plan := some plan })
    | .error e => goOn o e
  else
    match asker with
    | some asker => askAbout asker o
    | none =>
      let identifier := o.identifier
      let count := o.issues.length
      say .info s!"Enable of {identifier} blocked by {count} issue(s)"
      return (false, o)

/-- Weighs errors: whether to go on. -/
def weighErrors (host : Host σ) (asker : Option (Asker σ)) (ps : List Prompt) (o : Outcome)
    (l : Lookup (Action σ) := remembered) : Action σ (Bool × Outcome) := do
  let clears ← if host.toggle?.isSome then canClear ps o.issues o.identifier l else pure false
  clearOrAsk host asker ps o clears l

/-- Weighs the issues of a prompt that is to be enabled: whether to go on. -/
def weigh (host : Host σ) (asker : Option (Asker σ)) (ps : List Prompt) (o : Outcome)
    (l : Lookup (Action σ) := remembered) : Action σ (Bool × Outcome) :=
  if o.issues = [] then return (true, o)
  else if Issue.anyError o.issues then weighErrors host asker ps o l
  else
    match asker with
    | some asker => askAbout asker o
    | none => return (true, o)

/-- Checks a prompt and enables it, clearing its issues or asking about them. -/
def enable (host : Host σ) (asker : Option (Asker σ)) (identifier : String)
    (l : Lookup (Action σ) := remembered) : Action σ Outcome := do
  let ps ← prompts host
  let issues ← check ps identifier l
  let (go, o) ← weigh host asker ps { identifier := identifier, issues := issues } l
  if go then return { o with enabled := ← commit host "user" true identifier } else return o

/-- Disables a prompt. -/
def disable (host : Host σ) (identifier : String) : Action σ Outcome := do
  return { identifier := identifier, enabled := !(← commit host "user" false identifier) }

end Session

end PromptRules
