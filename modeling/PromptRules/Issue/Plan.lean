import PromptRules.Directive.Directives
import PromptRules.Issue.Basic

/-!
# Resolution plans

A prompt can clear the errors against itself if its directives say how: prompts it may
switch off are listed under `auto-disable`, and `auto-enable-dependencies` lets it switch on
what it requires. A plan is all or nothing: if one error cannot be cleared there is none.

Results:
* `Plan.ofIssues?_isSome`: there is a plan iff every error can be cleared.
* `Plan.nodup_toDisable`, `Plan.nodup_toEnable`: a plan lists no prompt twice.
-/

namespace PromptRules

open Data Directive

/-- Whether the directives say how to clear the issue. -/
def Issue.isClearable (d : Directives) (i : Issue) : Bool :=
  match i.kind with
  | .exclusive | .categoryLimit | .mutualExclusiveGroup =>
    i.conflictingIds.all ((d.list .autoDisable).contains ·)
  | .missingDependency => d.flag .autoEnableDependencies && i.required.isSome
  | _ => false

/-- Whether the directives say how to clear every error. -/
def Issue.allClearable (issues : List Issue) (d : Directives) : Bool :=
  (issues.filter Issue.isError).all (Issue.isClearable d)

/-- Toggles that clear the errors against a prompt before it is enabled. -/
structure Plan where
  toDisable : List String := []
  toEnable : List String := []
deriving DecidableEq, Repr

namespace Plan

/-- Whether there is nothing to do. -/
def isEmpty (p : Plan) : Bool := p.toDisable.isEmpty && p.toEnable.isEmpty

/-- The plan as a record. -/
def toRecord (p : Plan) : Record :=
  [("to_disable", .list (p.toDisable.map .text)), ("to_enable", .list (p.toEnable.map .text))]

/-- The prompts that an error asks to disable. -/
def disablesOf (i : Issue) : List String := if i.kind.isConflict then i.conflictingIds else []

/-- The prompts that an error asks to enable. -/
def enablesOf (i : Issue) : List String :=
  if i.kind = .missingDependency then (i.required.map Prompt.identifier).toList else []

/-- The plan that clears the errors among the issues, if the directives allow it. -/
def ofIssues? (issues : List Issue) (d : Directives) : Option Plan :=
  if Issue.allClearable issues d then
    let errors := issues.filter Issue.isError
    some ⟨distinct (errors.flatMap disablesOf), distinct (errors.flatMap enablesOf)⟩
  else none

/-- The toggles of a plan, in the order in which they are applied. -/
def toggles (p : Plan) : List (String × Bool) :=
  p.toDisable.map (·, false) ++ p.toEnable.map (·, true)

/-- Applies the toggles of a plan one after the other. -/
def carryOut {m : Type → Type} [Monad m] (toggle : String → Bool → m Unit) (p : Plan) : m Unit :=
  p.toggles.forM fun t => toggle t.1 t.2

theorem ofIssues?_isSome {issues : List Issue} {d : Directives} :
    (ofIssues? issues d).isSome = Issue.allClearable issues d := by
  unfold ofIssues?
  split <;> simp_all

theorem nodup_toDisable {issues : List Issue} {d : Directives} {p : Plan}
    (h : ofIssues? issues d = some p) : p.toDisable.Nodup := by
  unfold ofIssues? at h
  split at h
  · cases h
    exact nodup_distinct _
  · cases h

theorem nodup_toEnable {issues : List Issue} {d : Directives} {p : Plan}
    (h : ofIssues? issues d = some p) : p.toEnable.Nodup := by
  unfold ofIssues? at h
  split at h
  · cases h
    exact nodup_distinct _
  · cases h

end Plan

end PromptRules
