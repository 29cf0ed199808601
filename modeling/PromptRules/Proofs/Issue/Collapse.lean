import Mathlib.Data.List.Induction
import PromptRules.Issue.Collapse

/-!
# What collapsing keeps

Collapsing takes up the issues of a list one after the other. Each goes into an issue that was
kept before, if the two tell of one conflict, or is added at the end. A merged issue names the
prompts of both, and nothing else about the first one changes, so what the issues of a kind say
together is the same before and after.

Results:
* `mem_conflictingIds_merge`: a merged issue names what either issue names.
* `takesUp`: all that taking up an issue can do; `collapse_induction` carries a property
  through it.
* `exists_mem_collapse`: a property that merging neither loses nor invents holds of an issue
  after collapsing iff it holds of one before.
* `forall_mem_collapse`: a property that merging keeps holds of all issues after collapsing if
  it holds of all before.
-/

namespace PromptRules.Issue

open Data

/-! ## Merging two issues -/

/-- The prompts of a merged issue: those of the first, then those only the second names. -/
def mergedPrompts (kept issue : Issue) : List Prompt :=
  kept.conflicting ++ issue.conflicting.filter fun p => !kept.conflictingIds.contains p.identifier

theorem merge_eq (kept issue : Issue) :
    merge kept issue = match mergedPrompts kept issue with
      | [p] => { kept with rival := some p, rivals := [] }
      | ps => { kept with rival := none, rivals := ps } := rfl

theorem nodup_mergedPrompts (kept issue : Issue) :
    ((mergedPrompts kept issue).map Prompt.identifier).Nodup := by
  unfold mergedPrompts
  rw [List.map_append]
  refine List.nodup_append.2 ⟨nodup_conflictingIds kept, ?_, ?_⟩
  · exact (List.filter_sublist.map Prompt.identifier).nodup (nodup_conflictingIds issue)
  · intro e he e' he' h
    obtain ⟨p, hp, rfl⟩ := List.mem_map.1 he'
    have hn := (List.mem_filter.1 hp).2
    simp only [Bool.not_eq_true', List.contains_eq_mem, decide_eq_false_iff_not] at hn
    exact hn (h ▸ he)

/-- One prompt is kept as the single rival and several as a list; they are the same prompts. -/
theorem conflicting_merge (kept issue : Issue) :
    (merge kept issue).conflicting = mergedPrompts kept issue := by
  have hn := nodup_mergedPrompts kept issue
  rw [merge_eq]
  split
  · rename_i p hp
    rw [hp]
    rfl
  · exact distinctBy_eq_self hn

theorem mem_conflictingIds_merge {kept issue : Issue} {e : String} :
    e ∈ (merge kept issue).conflictingIds ↔
      e ∈ kept.conflictingIds ∨ e ∈ issue.conflictingIds := by
  have hk : kept.conflictingIds = kept.conflicting.map Prompt.identifier := rfl
  unfold conflictingIds
  rw [conflicting_merge, mergedPrompts, List.map_append, List.mem_append, ← hk]
  constructor
  · rintro (h | h)
    · exact .inl h
    · obtain ⟨p, hp, rfl⟩ := List.mem_map.1 h
      exact .inr (List.mem_map_of_mem (List.mem_filter.1 hp).1)
  · rintro (h | h)
    · exact .inl h
    · by_cases he : e ∈ kept.conflictingIds
      · exact .inl he
      · obtain ⟨p, hp, rfl⟩ := List.mem_map.1 h
        exact .inr (List.mem_map_of_mem (List.mem_filter.2 ⟨hp, by simpa using he⟩))

@[simp] theorem kind_merge (kept issue : Issue) : (merge kept issue).kind = kept.kind := by
  rw [merge_eq]
  split <;> rfl

@[simp] theorem severity_merge (kept issue : Issue) :
    (merge kept issue).severity = kept.severity := by
  rw [merge_eq]
  split <;> rfl

theorem kind_eq_of_tellsSame {kept issue : Issue} (h : tellsSame kept issue = true) :
    kept.kind = issue.kind := by
  simp only [tellsSame, Bool.and_eq_true, beq_iff_eq] at h
  exact h.1

/-! ## Taking up one issue -/

/-- What taking up an issue can do. One of a mutual kind goes into the first issue that tells of
    the same conflict; any other is added at the end. -/
inductive TakesUp (issue : Issue) : List Issue → List Issue → Prop
  | merged {before after : List Issue} {kept : Issue} :
      issue.kind.isMutual = true → tellsSame kept issue = true →
      (∀ i ∈ before, tellsSame i issue = false) →
      TakesUp issue (before ++ kept :: after) (before ++ merge kept issue :: after)
  | added {issues : List Issue} :
      (issue.kind.isMutual = true → ∀ i ∈ issues, tellsSame i issue = false) →
      TakesUp issue issues (issues ++ [issue])

theorem takesUp_absorb {issue : Issue} (hm : issue.kind.isMutual = true) (issues : List Issue) :
    TakesUp issue issues (absorb issue issues) := by
  induction issues with
  | nil => exact .added fun _ i hi => absurd hi List.not_mem_nil
  | cons kept rest ih =>
    rw [absorb]
    by_cases ht : tellsSame kept issue = true
    · rw [if_pos ht]
      show TakesUp issue ([] ++ kept :: rest) ([] ++ merge kept issue :: rest)
      exact .merged hm ht fun i hi => absurd hi List.not_mem_nil
    · rw [if_neg ht]
      rw [Bool.not_eq_true] at ht
      generalize absorb issue rest = result at ih ⊢
      cases ih with
      | @merged before after kept' _ ht' hbefore =>
        rw [← List.cons_append, ← List.cons_append]
        exact .merged hm ht' (List.forall_mem_cons.2 ⟨ht, hbefore⟩)
      | added hrest => exact .added fun _ => List.forall_mem_cons.2 ⟨ht, hrest hm⟩

theorem takesUp (issues : List Issue) (issue : Issue) :
    TakesUp issue issues (takeUp issues issue) := by
  unfold takeUp
  split
  · rename_i hm
    exact takesUp_absorb hm issues
  · rename_i hm
    exact .added fun h => absurd h hm

/-- What holds of nothing, and is kept when one more issue is taken up, holds of a list and what
    it collapses to. -/
theorem collapse_induction {P : List Issue → List Issue → Prop} (hnil : P [] [])
    (hstep : ∀ issues issue kept kept', P issues kept → TakesUp issue kept kept' →
      P (issues ++ [issue]) kept') (issues : List Issue) : P issues (collapse issues) := by
  induction issues using List.reverseRecOn with
  | nil => exact hnil
  | append_singleton issues issue ih =>
    rw [collapse_concat]
    exact hstep issues issue _ _ ih (takesUp _ issue)

/-! ## Properties of some issue -/

/-- Merging two issues of a mutual kind neither loses nor invents the property. -/
def Splits (Q : Issue → Prop) : Prop :=
  ∀ kept issue : Issue, issue.kind.isMutual = true → kept.kind = issue.kind →
    (Q (merge kept issue) ↔ Q kept ∨ Q issue)

/-- Naming a prompt in an issue of some kind. -/
theorem splits_names (kind : IssueKind) (e : String) :
    Splits fun i => i.kind = kind ∧ e ∈ i.conflictingIds := by
  intro kept issue _ hk
  simp only [kind_merge, mem_conflictingIds_merge, hk, and_or_left]

/-- Being of some kind. -/
theorem splits_kind (kind : IssueKind) : Splits fun i => i.kind = kind := by
  intro kept issue _ hk
  simp only [kind_merge, hk, or_self]

/-- Anything at all about issues of a kind that is not mutual. -/
theorem splits_of_not_mutual {kind : IssueKind} (h : kind.isMutual = false) (Q : Issue → Prop) :
    Splits fun i => i.kind = kind ∧ Q i := by
  intro kept issue hm hk
  have hi : issue.kind ≠ kind := by
    rintro rfl
    rw [h] at hm
    cases hm
  simp only [kind_merge, hk, hi, false_and, or_self]

section Splits

variable {Q : Issue → Prop}

theorem TakesUp.exists_mem_iff (hQ : Splits Q) {issue : Issue} {kept kept' : List Issue}
    (h : TakesUp issue kept kept') : (∃ i ∈ kept', Q i) ↔ (∃ i ∈ kept, Q i) ∨ Q issue := by
  cases h with
  | @merged before after k hm ht _ =>
    have hk := hQ k issue hm (kind_eq_of_tellsSame ht)
    simp only [List.mem_append, List.mem_cons, or_and_right, exists_or, exists_eq_left, hk]
    rw [or_assoc, or_assoc, or_assoc, or_comm (a := Q issue)]
  | added _ =>
    simp only [List.mem_append, List.mem_singleton, or_and_right, exists_or, exists_eq_left]

theorem exists_mem_collapse (hQ : Splits Q) (issues : List Issue) :
    (∃ i ∈ collapse issues, Q i) ↔ ∃ i ∈ issues, Q i := by
  refine collapse_induction (P := fun issues kept => (∃ i ∈ kept, Q i) ↔ ∃ i ∈ issues, Q i)
    Iff.rfl ?_ issues
  intro issues issue kept kept' ih h
  rw [h.exists_mem_iff hQ, ih]
  simp only [List.mem_append, List.mem_singleton, or_and_right, exists_or, exists_eq_left]

end Splits

/-! ## Properties of all issues -/

section All

variable {P : Issue → Prop}

theorem TakesUp.forall_mem (hP : ∀ kept issue, P kept → P (merge kept issue)) {issue : Issue}
    (hi : P issue) {kept kept' : List Issue} (h : TakesUp issue kept kept')
    (hk : ∀ i ∈ kept, P i) : ∀ i ∈ kept', P i := by
  cases h with
  | @merged before after k _ _ _ =>
    rw [List.forall_mem_append, List.forall_mem_cons] at hk ⊢
    obtain ⟨hbefore, hfirst, hafter⟩ := hk
    exact ⟨hbefore, hP k issue hfirst, hafter⟩
  | added _ =>
    rw [List.forall_mem_append, List.forall_mem_singleton]
    exact ⟨hk, hi⟩

theorem forall_mem_collapse (hP : ∀ kept issue, P kept → P (merge kept issue))
    {issues : List Issue} (h : ∀ i ∈ issues, P i) : ∀ i ∈ collapse issues, P i := by
  revert h
  refine collapse_induction (P := fun issues kept => (∀ i ∈ issues, P i) → ∀ i ∈ kept, P i)
    id ?_ issues
  intro issues issue kept kept' ih hstep h
  rw [List.forall_mem_append, List.forall_mem_singleton] at h
  exact hstep.forall_mem hP h.2 (ih h.1)

end All

end PromptRules.Issue
