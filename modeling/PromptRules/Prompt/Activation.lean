import PromptRules.Issue.Collapse
import PromptRules.Prompt.Lookup
import PromptRules.Text.Blank

/-!
# Activation

What speaks against enabling a prompt, given the whole prompt set: prompts it excludes or
that exclude it, prompts it requires, limits on categories and groups, soft conflicts, and
its own deprecation. The issues come in that order, so the errors come before the warnings.

Results:
* `issuesOf_eq_nil`: nothing speaks against an unknown prompt or one without content.
* `others_mem_iff`: the other prompts that matter are enabled and carry a content.
-/

namespace PromptRules.Activation

open Directive

/-- The other enabled prompts that can carry directives. -/
def others (p : Prompt) (prompts : List Prompt) : List Prompt :=
  prompts.filter fun o => o.enabled && o.hasContent && o.identifier != p.identifier

/-- The first prompt with this identifier, if it is enabled and not `p` itself. -/
def enabledOther (p : Prompt) (prompts : List Prompt) (identifier : String) : Option Prompt :=
  if identifier = p.identifier then none
  else (Prompt.find? prompts identifier).filter Prompt.enabled

/-- The first text if it is there and not empty, else the second. -/
def orDefault (custom : Option String) (default : String) : String :=
  match custom with
  | some s => if s = "" then default else s
  | none => default

/-- The names of prompts in quotes. -/
def quotedNames (prompts : List Prompt) : String :=
  ", ".intercalate (prompts.map fun p => "\"" ++ p.displayName ++ "\"")

/-! ## Exclusion -/

/-- The issue of an exclusion that the prompt declares. -/
def excluded (p : Prompt) (d : Directives) (other : Prompt) : Issue :=
  let name := p.displayName
  let rival := other.displayName
  { kind := .exclusive, severity := .error, prompt := p, directive := "exclusive-with"
    rival := some other
    message := orDefault (d.text .exclusiveWithMessage)
      s!"Cannot enable both \"{name}\" and \"{rival}\". These prompts are mutually exclusive." }

/-- The issue of an exclusion that another prompt declares. -/
def excludedBy (p : Prompt) (other : Prompt) (d : Directives) : Issue :=
  let name := p.displayName
  let rival := other.displayName
  { kind := .exclusive, severity := .error, prompt := p, directive := "exclusive-with"
    rival := some other
    message := orDefault (d.text .exclusiveWithMessage)
      s!"Cannot enable both \"{name}\" and \"{rival}\". \"{rival}\" conflicts with this prompt." }

/-- Exclusions, those that the prompt declares first. -/
def exclusions (p : Prompt) (d : Directives) (prompts : List Prompt)
    (around : List (Prompt × Directives)) : List Issue :=
  ((d.list .exclusiveWith).filterMap (enabledOther p prompts)).map (excluded p d)
    ++ (around.filter fun o => (o.2.list .exclusiveWith).contains p.identifier).map
        fun o => excludedBy p o.1 o.2

/-! ## Dependencies -/

/-- The issue of a required prompt that is not enabled or does not exist. -/
def lacking (p : Prompt) (d : Directives) (identifier : String) (target : Option Prompt) : Issue :=
  let name := p.displayName
  let wanted := match target with | some t => t.displayName | none => identifier
  { kind := .missingDependency, severity := .error, prompt := p, directive := "requires"
    required := target, requiredId := some identifier
    canAutoEnable := some (d.flag .autoEnableDependencies)
    message := orDefault (d.text .requiresMessage)
      s!"\"{name}\" requires \"{wanted}\" to be enabled." }

/-- Required prompts that are not enabled. -/
def dependencies (p : Prompt) (d : Directives) (prompts : List Prompt) : List Issue :=
  (d.list .requires).filterMap fun identifier =>
    match Prompt.find? prompts identifier with
    | some t => if t.enabled then none else some (lacking p d identifier (some t))
    | none => some (lacking p d identifier none)

/-! ## Limits -/

/-- The issue of a limit of one that is used up. -/
def limited (kind : IssueKind) (what directive : String) (p : Prompt) (limit : String)
    (active : List Prompt) : Issue :=
  let names := quotedNames active
  { kind := kind, severity := .error, prompt := p, directive := directive, rivals := active
    limit := some limit
    message :=
      s!"Only one prompt from {what} \"{limit}\" can be active. Already active: {names}" }

/-- The issue of a limit, if other prompts use it up. -/
def limits (kind : IssueKind) (what directive : String) (p : Prompt) (limit : String)
    (active : List Prompt) : List Issue :=
  if active = [] then [] else [limited kind what directive p limit active]

/-- A limit of one that the prompt declares; an empty name declares none. -/
def declaredLimit (d : Directives) (f : TextField) : Option String := (d.text f).filter (· ≠ "")

/-- The other prompts in a category. -/
def inCategory (category : String) (around : List (Prompt × Directives)) : List Prompt :=
  (around.filter fun o => (o.2.list .categories).contains category).map Prod.fst

/-- The other prompts of a mutually exclusive group. -/
def inGroup (group : String) (around : List (Prompt × Directives)) : List Prompt :=
  (around.filter fun o => o.2.text .mutualExclusiveGroup == some group).map Prod.fst

/-! ## Warnings -/

/-- The issue of a soft conflict that the prompt declares. -/
def conflicted (p : Prompt) (d : Directives) (other : Prompt) : Issue :=
  let name := p.displayName
  let rival := other.displayName
  { kind := .softConflict, severity := .warning, prompt := p, directive := "conflicts-with"
    rival := some other
    message := orDefault (d.text .conflictsMessage)
      s!"\"{name}\" may conflict with \"{rival}\". Consider disabling one." }

/-- The issue of a soft conflict that another prompt declares. -/
def conflictedBy (p : Prompt) (other : Prompt) (d : Directives) : Issue :=
  let name := p.displayName
  let rival := other.displayName
  { kind := .softConflict, severity := .warning, prompt := p, directive := "conflicts-with"
    rival := some other
    message := orDefault (d.text .conflictsMessage)
      s!"\"{name}\" may conflict with \"{rival}\". \"{rival}\" suggests disabling one." }

/-- Soft conflicts, those that the prompt declares first. -/
def softConflicts (p : Prompt) (d : Directives) (prompts : List Prompt)
    (around : List (Prompt × Directives)) : List Issue :=
  ((d.list .conflictsWith).filterMap (enabledOther p prompts)).map (conflicted p d)
    ++ (around.filter fun o => (o.2.list .conflictsWith).contains p.identifier).map
        fun o => conflictedBy p o.1 o.2

/-- The warning about a deprecated prompt. -/
def deprecation (p : Prompt) (d : Directives) : List Issue :=
  match d.text .deprecated with
  | none => []
  | some advice =>
    let name := p.displayName
    [{ kind := .deprecated, severity := .warning, prompt := p, directive := "deprecated"
       message := Text.trimmedEnd s!"\"{name}\" is deprecated. {advice}" }]

/-! ## All together -/

/-- A question about the other prompts, asked only if the prompt declares the limit. -/
def askFor {m : Type → Type} [Monad m] (lookup : Lookup m) (p : Prompt) (prompts : List Prompt)
    (limit : Option String) : m (List (Prompt × Directives)) :=
  match limit with
  | some _ => annotate lookup (others p prompts)
  | none => pure []

/-- The issues of a prompt, before collapsing. -/
def rawIssues {m : Type → Type} [Monad m] (lookup : Lookup m) (p : Prompt) (prompts : List Prompt) :
    m (List Issue) := do
  let d ← lookup p.content
  let category := declaredLimit d .maxOnePerCategory
  let group := declaredLimit d .mutualExclusiveGroup
  let forExclusion ← annotate lookup (others p prompts)
  let forCategory ← askFor lookup p prompts category
  let forGroup ← askFor lookup p prompts group
  let forConflict ← annotate lookup (others p prompts)
  return exclusions p d prompts forExclusion
    ++ dependencies p d prompts
    ++ (category.toList.flatMap fun c =>
        limits .categoryLimit "category" "max-one-per-category" p c (inCategory c forCategory))
    ++ (group.toList.flatMap fun g =>
        limits .mutualExclusiveGroup "group" "mutual-exclusive-group" p g (inGroup g forGroup))
    ++ softConflicts p d prompts forConflict
    ++ deprecation p d

/-- What speaks against enabling the prompt with this identifier. -/
def issuesOf {m : Type → Type} [Monad m] (lookup : Lookup m) (identifier : String)
    (prompts : List Prompt) : m (List Issue) :=
  match Prompt.find? prompts identifier with
  | none => pure []
  | some p =>
    if p.hasContent then do return Issue.collapse (← rawIssues lookup p prompts) else pure []

/-- The note about a check that found something. -/
def note (identifier : String) (issues : List Issue) : String :=
  let count := issues.length
  let kinds := ", ".intercalate (issues.map fun i => i.kind.name)
  s!"Validation of {identifier}: {count} issue(s) [{kinds}]"

theorem others_mem_iff {p o : Prompt} {prompts : List Prompt} :
    o ∈ others p prompts ↔
      o ∈ prompts ∧ o.enabled = true ∧ o.content ≠ "" ∧ o.identifier ≠ p.identifier := by
  simp [others, Prompt.hasContent, and_assoc]

theorem issuesOf_eq_nil {m : Type → Type} [Monad m] (lookup : Lookup m) {identifier : String}
    {prompts : List Prompt}
    (h : ∀ p ∈ Prompt.find? prompts identifier, p.content = "") :
    issuesOf lookup identifier prompts = pure [] := by
  unfold issuesOf
  split
  · rfl
  · rename_i p hp
    have : p.hasContent = false := by simp [Prompt.hasContent, h p (by simp [hp])]
    simp [this]

end PromptRules.Activation
