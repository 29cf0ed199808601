import PromptRules.Session.Survey

/-!
# Watching the message count

A watcher follows the message count of a conversation and applies the triggers that are
due. It skips a count that has not changed, and remembers which at-rules have fired and at
which threshold; when the count goes back, those above the new count are armed again.

Results:
* `armed_nil`: at a count above every threshold nothing is armed again.
* `process_unchanged`: an unchanged count changes nothing.
-/

namespace PromptRules

open Data

/-- What a watcher remembers. -/
structure Watcher where
  /-- The last count that was processed. -/
  last : Option Int := none
  /-- The at-rules that have fired, with the thresholds that they fired at. -/
  fired : List ((String × Rule) × Option Int) := []
deriving DecidableEq, Repr

namespace Watcher

variable {σ : Type}

/-- Whether a threshold has been reached at a count. -/
def reached (count : Int) (threshold : Option Int) : Bool := threshold.any (· ≤ count)

/-- What stays fired when the count goes back. -/
def rearm (count : Int) (w : Watcher) : Watcher :=
  { w with fired := w.fired.filter fun e => reached count e.2 }

/-- How many rules are armed again when the count goes back. -/
def armed (count : Int) (w : Watcher) : Nat := (w.fired.filter fun e => !reached count e.2).length

/-- Goes back to a lower count. -/
def goBack (count : Int) (w : Watcher) : Action σ Watcher := do
  let n := armed count w
  if n ≠ 0 then Session.say .debug s!"Re-armed {n} one-shot trigger(s) at message {count}"
  return rearm count w

/-- Remembers a firing, if it is one of an at-rule and its toggle was applied. -/
def mark (enabled disabled : List String) (fired : List ((String × Rule) × Option Int))
    (f : Firing) : List ((String × Rule) × Option Int) :=
  if f.rule.isOneShot && (if f.enable then enabled else disabled).contains f.id then
    Assoc.put fired (f.id, f.rule) f.threshold
  else fired

/-- The note about a firing that was acted on. -/
def firingNote (f : Firing) : String :=
  let action := f.action
  let name := f.name
  let reason := f.reason
  s!"Trigger: {action} {name} ({reason})"

/-- Evaluates and applies the triggers at a count. -/
def fire (host : Host σ) (count : Int) (w : Watcher)
    (l : Lookup (Action σ) := Session.remembered) : Action σ (Option Transitions × Watcher) := do
  let t ← Session.due host count (Assoc.keys w.fired) l
  let enabled ← Session.commitAll host "trigger" true t.toEnable
  let disabled ← Session.commitAll host "trigger" false t.toDisable
  t.firings.forM fun f => Session.say .info (firingNote f)
  return (some t, { last := some count, fired := t.firings.foldl (mark enabled disabled) w.fired })

/-- Takes up a message count. -/
def process (host : Host σ) (count : Int) (w : Watcher)
    (l : Lookup (Action σ) := Session.remembered) : Action σ (Option Transitions × Watcher) := do
  if w.last = some count then
    Session.say .debug s!"Message count {count} unchanged, skipping triggers"
    return (none, w)
  else if w.last.any (count < ·) then fire host count (← goBack count w) l
  else fire host count w l

/-- Takes up the message count that a counter tells. -/
def onMessage (host : Host σ) (counter : Option (Request σ Int)) (w : Watcher)
    (l : Lookup (Action σ) := Session.remembered) : Action σ (Option Transitions × Watcher) :=
  match counter with
  | none => do
    Session.say .warning "Trigger driver has no message counter"
    return (none, w)
  | some counter => do
    match ← Session.consult counter with
    | .ok count => process host count w l
    | .error e =>
      let why := e.message
      Session.say .error s!"Error reading message count: {why}"
      return (none, w)

/-- Forgets everything, as for another conversation. -/
def reset : Watcher := {}

theorem armed_nil {count : Int} {w : Watcher} (h : ∀ e ∈ w.fired, reached count e.2 = true) :
    armed count w = 0 := by
  have : w.fired.filter (fun e => !reached count e.2) = [] := by
    apply List.filter_eq_nil_iff.2
    intro e he
    simp [h e he]
  simp [armed, this]

theorem process_unchanged {host : Host σ} {count : Int} {w : Watcher} (h : w.last = some count)
    (s : Session σ) : (process host count w Session.remembered s).1 = (none, w) := by
  simp only [process, h, if_true]
  rfl

end Watcher

end PromptRules
