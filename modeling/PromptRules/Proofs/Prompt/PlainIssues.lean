import PromptRules.Prompt.Activation

/-!
# The issues of a prompt, by a plain lookup

The rules about prompts ask a lookup for directives, in any monad. When the lookup is a plain
function there is nothing to run, and the issues are a plain list.

Results:
* `rawIssues_eq`: in any monad, a check asks its questions and then assembles the issues.
* `issuesOf_id`: without effects, checking a prompt is `issuesBy`.
* `exists_find_of_issuesBy`: issues are raised only against a known prompt with a content.
-/

namespace PromptRules.Activation

open Directive

/-! ## Assembling issues -/

/-- The issues of a prompt before collapsing, from the answers to the four questions about the
    other prompts. -/
def assemble (p : Prompt) (d : Directives) (ps : List Prompt)
    (forExclusion forCategory forGroup forConflict : List (Prompt × Directives)) : List Issue :=
  exclusions p d ps forExclusion
    ++ dependencies p d ps
    ++ ((declaredLimit d .maxOnePerCategory).toList.flatMap fun c =>
        limits .categoryLimit "category" "max-one-per-category" p c (inCategory c forCategory))
    ++ ((declaredLimit d .mutualExclusiveGroup).toList.flatMap fun g =>
        limits .mutualExclusiveGroup "group" "mutual-exclusive-group" p g (inGroup g forGroup))
    ++ softConflicts p d ps forConflict
    ++ deprecation p d

theorem rawIssues_eq {m : Type → Type} [Monad m] (lookup : Lookup m) (p : Prompt)
    (ps : List Prompt) :
    rawIssues lookup p ps = do
      let d ← lookup p.content
      let forExclusion ← annotate lookup (others p ps)
      let forCategory ← askFor lookup p ps (declaredLimit d .maxOnePerCategory)
      let forGroup ← askFor lookup p ps (declaredLimit d .mutualExclusiveGroup)
      let forConflict ← annotate lookup (others p ps)
      return assemble p d ps forExclusion forCategory forGroup forConflict := rfl

/-- The answer to a question that is asked only for a declared limit. -/
def answerFor (limit : Option String) (around : List (Prompt × Directives)) :
    List (Prompt × Directives) :=
  match limit with
  | some _ => around
  | none => []

/-- What is not asked for want of a limit is not used either. -/
theorem assemble_answerFor (p : Prompt) (d : Directives) (ps : List Prompt)
    (around : List (Prompt × Directives)) :
    assemble p d ps around (answerFor (declaredLimit d .maxOnePerCategory) around)
        (answerFor (declaredLimit d .mutualExclusiveGroup) around) around =
      assemble p d ps around around around around := by
  unfold assemble
  cases declaredLimit d .maxOnePerCategory <;> cases declaredLimit d .mutualExclusiveGroup <;> rfl

/-! ## A plain lookup -/

variable (D : String → Directives)

/-- The other prompts that matter, with their directives. -/
def around (p : Prompt) (ps : List Prompt) : List (Prompt × Directives) :=
  (others p ps).map fun o => (o, D o.content)

/-- The issues of a prompt, before collapsing. -/
def rawIssuesBy (p : Prompt) (ps : List Prompt) : List Issue :=
  assemble p (D p.content) ps (around D p ps) (around D p ps) (around D p ps) (around D p ps)

/-- What speaks against enabling the prompt with this identifier. -/
def issuesBy (identifier : String) (ps : List Prompt) : List Issue :=
  match Prompt.find? ps identifier with
  | none => []
  | some p => if p.hasContent then Issue.collapse (rawIssuesBy D p ps) else []

theorem askFor_id (p : Prompt) (ps : List Prompt) (limit : Option String) :
    askFor (m := Id) D p ps limit = answerFor limit (around D p ps) := by
  cases limit with
  | none => rfl
  | some c => exact annotate_id D (others p ps)

theorem rawIssues_id (p : Prompt) (ps : List Prompt) :
    rawIssues (m := Id) D p ps = rawIssuesBy D p ps := by
  unfold rawIssuesBy
  rw [← assemble_answerFor, ← askFor_id, ← askFor_id]
  unfold around
  rw [← annotate_id]
  rfl

theorem issuesOf_id (identifier : String) (ps : List Prompt) :
    issuesOf (m := Id) D identifier ps = issuesBy D identifier ps := by
  unfold issuesOf issuesBy
  cases Prompt.find? ps identifier with
  | none => rfl
  | some p =>
    simp only
    split
    · rw [← rawIssues_id]
      rfl
    · rfl

theorem issuesBy_of_find {identifier : String} {ps : List Prompt} {p : Prompt}
    (hp : Prompt.find? ps identifier = some p) (hc : p.content ≠ "") :
    issuesBy D identifier ps = Issue.collapse (rawIssuesBy D p ps) := by
  simp [issuesBy, hp, Prompt.hasContent, hc]

/-- Issues are raised only against a known prompt with a content. -/
theorem exists_find_of_issuesBy {identifier : String} {ps : List Prompt}
    (h : issuesBy D identifier ps ≠ []) :
    ∃ p, Prompt.find? ps identifier = some p ∧ p.content ≠ "" := by
  unfold issuesBy at h
  split at h
  · exact absurd rfl h
  · rename_i p hp
    split at h
    · rename_i hc
      exact ⟨p, hp, by simpa [Prompt.hasContent] using hc⟩
    · exact absurd rfl h

end PromptRules.Activation
