import PromptRules.Data.Distinct
import PromptRules.Prompt.Lookup

/-!
# Triggers

Prompts can switch themselves as a conversation grows. The at-rules fire once when their
message count is reached, until they are armed again; the after-rules hold their state from
their count on, the later one if both have passed, and disabling if they tie; a window keeps
the prompt enabled inside and disabled outside. Only changes of state are reported.

A count is any integer, and reasons have all its digits: the limit on digits holds where numbers are
read from texts, and is left out where a count is written.

Results:
* `due_of_no_triggers`: a prompt without trigger directives fires nothing.
* `afterRules_exclusive`: never do both after-rules hold.
-/

namespace PromptRules

open Data Directive

/-- The rules that switch a prompt at a message count. -/
inductive Rule where
  | enableAt | disableAt | window | enableAfter | disableAfter
deriving DecidableEq, Repr

namespace Rule

/-- The name of a rule: the keyword that declares it. -/
def name : Rule → String
  | enableAt => "enable-at-message"
  | disableAt => "disable-at-message"
  | window => "message-range"
  | enableAfter => "enable-after-message"
  | disableAfter => "disable-after-message"

/-- The rule of a name. -/
def ofName? (s : String) : Option Rule :=
  [enableAt, disableAt, window, enableAfter, disableAfter].find? fun r => r.name == s

/-- Rules that fire once. -/
def isOneShot : Rule → Bool
  | enableAt | disableAt => true
  | _ => false

end Rule

/-- A rule that fires for a prompt: the prompt is to be enabled, or to be disabled. -/
structure Firing where
  id : String
  name : String
  enable : Bool
  reason : String
  rule : Rule
  threshold : Option Int := none
deriving DecidableEq, Repr

namespace Firing

/-- The name of what a firing does. -/
def action (f : Firing) : String := if f.enable then "enable" else "disable"

/-- The firing as a record. -/
def toRecord (f : Firing) : Record :=
  [("id", .text f.id), ("name", .text f.name), ("action", .text f.action),
   ("reason", .text f.reason), ("rule", .text f.rule.name)]

/-- The note about a firing. -/
def note (f : Firing) : String :=
  let rule := f.rule.name
  let action := f.action
  let id := f.id
  let reason := f.reason
  s!"Trigger {rule} → {action} {id}: {reason}"

end Firing

/-- The changes of state that are due at a message count. -/
structure Transitions where
  count : Int
  toEnable : List String := []
  toDisable : List String := []
  firings : List Firing := []
deriving DecidableEq, Repr

namespace Transitions

/-- Whether nothing is to change. -/
def isEmpty (t : Transitions) : Bool := t.toEnable.isEmpty && t.toDisable.isEmpty

/-- The prompts that firings switch to one side, each once. -/
def idsOf (enable : Bool) (firings : List Firing) : List String :=
  distinct ((firings.filter fun f => f.enable == enable).map Firing.id)

/-- The changes that firings ask for. -/
def ofFirings (count : Int) (firings : List Firing) : Transitions where
  count := count
  toEnable := idsOf true firings
  toDisable := idsOf false firings
  firings := firings

/-- The changes as a record. -/
def toRecord (t : Transitions) : Record :=
  [("message_count", .int t.count), ("to_enable", .list (t.toEnable.map .text)),
   ("to_disable", .list (t.toDisable.map .text)),
   ("triggered", .list (t.firings.map fun f => .map f.toRecord))]

end Transitions

namespace Trigger

/-- The rules that have fired and must stay quiet, by prompt. -/
abbrev Fired := List (String × Rule)

/-- A firing of a prompt. -/
def firing (p : Prompt) (enable : Bool) (rule : Rule) (reason : String) (threshold : Int) : Firing :=
  { id := p.identifier, name := p.displayName, enable := enable, reason := reason, rule := rule
    threshold := some threshold }

/-- An at-rule: it fires if its count is reached, the prompt is in the other state, and it
    has not fired before. -/
def atRule (count : Int) (fired : Fired) (p : Prompt) (enable : Bool) (rule : Rule)
    (threshold : Option Int) : List Firing :=
  match threshold with
  | some n =>
    if p.enabled ≠ enable ∧ n ≤ count ∧ (p.identifier, rule) ∉ fired then
      [firing p enable rule s!"Message count {count} reached {n}" n]
    else []
  | none => []

/-- The window rule: it fires if the prompt is disabled inside or enabled outside. -/
def windowRule (count : Int) (p : Prompt) (window : Option Window) : List Firing :=
  match window with
  | some w =>
    let text := w.text
    if w.contains count then
      if p.enabled then []
      else [firing p true .window s!"Message count {count} entered range {text}" w.first]
    else if p.enabled then
      [firing p false .window s!"Message count {count} is outside range {text}" w.first]
    else []
  | none => []

/-- The threshold of an after-rule, once it has passed. -/
def passed (count : Int) (threshold : Option Int) : Option Int := threshold.filter (· ≤ count)

/-- The after-rules that hold: of two that have passed the later one, disabling on a tie. -/
def afterRules (count : Int) (d : Directives) : Option Int × Option Int :=
  match passed count (d.int .enableAfterMessage), passed count (d.int .disableAfterMessage) with
  | some e, some n => if n < e then (some e, none) else (none, some n)
  | enable, disable => (enable, disable)

/-- An after-rule that holds fires if the prompt is in the other state. -/
def afterRule (count : Int) (p : Prompt) (enable : Bool) (rule : Rule) (holds : Option Int) :
    List Firing :=
  match holds with
  | some n =>
    if p.enabled ≠ enable then [firing p enable rule s!"Message count {count} is past {n}" n] else []
  | none => []

/-- The rules of a prompt that fire at a message count. -/
def due (count : Int) (fired : Fired) (p : Prompt) (d : Directives) : List Firing :=
  let after := afterRules count d
  atRule count fired p true .enableAt (d.int .enableAtMessage)
    ++ atRule count fired p false .disableAt (d.int .disableAtMessage)
    ++ windowRule count p d.window
    ++ afterRule count p true .enableAfter after.1
    ++ afterRule count p false .disableAfter after.2

/-- The changes of state that are due at a message count. -/
def transitions {m : Type → Type} [Monad m] (lookup : Lookup m) (count : Int)
    (prompts : List Prompt) (fired : Fired) : m Transitions := do
  let around ← annotated lookup prompts
  return .ofFirings count (around.flatMap fun o => due count fired o.1 o.2)

theorem due_of_no_triggers {d : Directives} (h : d.hasTriggers = false) (count : Int)
    (fired : Fired) (p : Prompt) : due count fired p d = [] := by
  simp only [Directives.hasTriggers, Bool.or_eq_false_iff, Option.isSome_eq_false_iff,
    Option.isNone_iff_eq_none] at h
  obtain ⟨⟨⟨⟨h1, h2⟩, h3⟩, h4⟩, h5⟩ := h
  simp [due, atRule, windowRule, afterRules, afterRule, passed, h1, h2, h3, h4, h5]

theorem afterRules_exclusive (count : Int) (d : Directives) :
    (afterRules count d).1 = none ∨ (afterRules count d).2 = none := by
  unfold afterRules
  split
  · split <;> simp
  · rename_i h
    cases h1 : passed count (d.int .enableAfterMessage) with
    | none => simp
    | some e =>
      cases h2 : passed count (d.int .disableAfterMessage) with
      | none => simp
      | some n => exact absurd h2 (h e n h1)

end Trigger

end PromptRules
