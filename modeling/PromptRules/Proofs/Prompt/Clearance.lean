import PromptRules.Issue.Plan
import PromptRules.Proofs.Prompt.Rivals

/-!
# What a plan lists

A plan is read off the issues of a prompt, after they have been collapsed. Collapsing loses no
prompt that an issue names, so the plan disables all enabled rivals of the prompt and enables
all prompts that it requires and that are off, and it does nothing else.

Results:
* `mem_toDisable_issuesBy`: a plan disables the enabled rivals.
* `mem_toEnable_issuesBy`: a plan enables the required prompts that are off.
* `known_of_plan`: there is a plan only if every required prompt exists or is not missed.
-/

namespace PromptRules

open Data Directive

/-! ## Plans and issues -/

namespace Plan

variable {issues : List Issue} {d : Directives} {plan : Plan} {e : String}

theorem eq_of_ofIssues? (h : ofIssues? issues d = some plan) :
    Issue.allClearable issues d = true ∧
      plan = ⟨distinct ((issues.filter Issue.isError).flatMap disablesOf),
        distinct ((issues.filter Issue.isError).flatMap enablesOf)⟩ := by
  unfold ofIssues? at h
  split at h
  · rename_i hc
    cases h
    exact ⟨hc, rfl⟩
  · cases h

theorem mem_toDisable_iff (h : ofIssues? issues d = some plan) :
    e ∈ plan.toDisable ↔
      ∃ i ∈ issues, i.isError = true ∧ i.kind.isConflict = true ∧ e ∈ i.conflictingIds := by
  obtain ⟨_, rfl⟩ := eq_of_ofIssues? h
  rw [mem_distinct, List.mem_flatMap]
  simp only [List.mem_filter, disablesOf, List.mem_ite_nil_right, and_assoc]

theorem mem_toEnable_iff (h : ofIssues? issues d = some plan) :
    e ∈ plan.toEnable ↔
      ∃ i ∈ issues, i.isError = true ∧ i.kind = .missingDependency ∧
        ∃ t, i.required = some t ∧ t.identifier = e := by
  obtain ⟨_, rfl⟩ := eq_of_ofIssues? h
  rw [mem_distinct, List.mem_flatMap]
  simp only [List.mem_filter, enablesOf, List.mem_ite_nil_right, and_assoc, Option.mem_toList,
    Option.map_eq_some_iff]

theorem clearable_of_plan (h : ofIssues? issues d = some plan) {i : Issue} (hi : i ∈ issues)
    (he : i.isError = true) : i.isClearable d = true :=
  List.all_eq_true.1 (eq_of_ofIssues? h).1 i (List.mem_filter.2 ⟨hi, he⟩)

end Plan

/-! ## Plans and the prompt set -/

namespace Activation

variable {D : String → Directives} {d : Directives} {p : Prompt} {ps : List Prompt}
  {identifier e : String} {plan : Plan}

theorem isError_of_mem_issuesBy {i : Issue} (hi : i ∈ issuesBy D identifier ps) :
    i.isError = true ↔ i.kind.isConflict = true ∨ i.kind = .missingDependency := by
  rw [← i.kind.severity_eq_error_iff, ← severity_of_mem_issuesBy hi, Issue.isError, beq_iff_eq]

/-- A plan disables whom the conflicts name, of which collapsing loses nobody. -/
theorem mem_toDisable_iff_names (hp : Prompt.find? ps identifier = some p) (hc : p.content ≠ "")
    (h : Plan.ofIssues? (issuesBy D identifier ps) d = some plan) :
    e ∈ plan.toDisable ↔ ∃ k, Names D p ps e k := by
  rw [Plan.mem_toDisable_iff h]
  constructor
  · rintro ⟨i, hi, _, hk, he⟩
    have hf := (exists_mem_issuesBy hp hc (Issue.splits_names i.kind e)).1 ⟨i, hi, rfl, he⟩
    exact ⟨i.kind, hk, hf⟩
  · rintro ⟨k, hk, hf⟩
    obtain ⟨i, hi, rfl, he⟩ := (exists_mem_issuesBy hp hc (Issue.splits_names k e)).2 hf
    exact ⟨i, hi, (isError_of_mem_issuesBy hi).2 (.inl hk), hk, he⟩

/-- **A plan disables the enabled rivals** of a prompt and nobody else. -/
theorem mem_toDisable_issuesBy (hD : D "" = .empty) (hd : Distinct ps)
    (hp : Prompt.find? ps identifier = some p) (hc : p.content ≠ "")
    (h : Plan.ofIssues? (issuesBy D identifier ps) d = some plan) :
    e ∈ plan.toDisable ↔ ∃ o ∈ ps, o.identifier = e ∧ o.enabled = true ∧ Rivals D p o := by
  rw [mem_toDisable_iff_names hp hc h, names_iff_rival hD hd]

theorem exists_mem_dependencies (hp : Prompt.find? ps identifier = some p) (hc : p.content ≠ "")
    (Q : Issue → Prop) :
    (∃ i ∈ issuesBy D identifier ps, i.kind = .missingDependency ∧ Q i) ↔
      ∃ r ∈ (D p.content).list .requires, (∀ t ∈ Prompt.find? ps r, t.enabled = false) ∧
        Q (lacking p (D p.content) r (Prompt.find? ps r)) := by
  rw [exists_mem_issuesBy hp hc (Issue.splits_of_not_mutual rfl Q)]
  constructor
  · rintro ⟨i, hi, hQ⟩
    obtain ⟨r, hr, ht, rfl⟩ := mem_dependencies_iff.1 hi
    exact ⟨r, hr, ht, hQ⟩
  · rintro ⟨r, hr, ht, hQ⟩
    exact ⟨_, mem_dependencies_iff.2 ⟨r, hr, ht, rfl⟩, hQ⟩

/-- **A plan enables the required prompts that are off** and nobody else. -/
theorem mem_toEnable_issuesBy (hp : Prompt.find? ps identifier = some p) (hc : p.content ≠ "")
    (h : Plan.ofIssues? (issuesBy D identifier ps) d = some plan) :
    e ∈ plan.toEnable ↔
      e ∈ (D p.content).list .requires ∧ ∃ t, Prompt.find? ps e = some t ∧ t.enabled = false := by
  have hdep := exists_mem_dependencies (D := D) hp hc
    fun i => ∃ t, i.required = some t ∧ t.identifier = e
  rw [Plan.mem_toEnable_iff h]
  constructor
  · rintro ⟨i, hi, _, hk, ht⟩
    obtain ⟨r, hr, hoff, t, hrt, rfl⟩ := hdep.1 ⟨i, hi, hk, ht⟩
    have hid := (Prompt.mem_of_find? hrt).2
    exact ⟨hid.symm ▸ hr, t, hid.symm ▸ hrt, hoff t hrt⟩
  · rintro ⟨he, t, ht, hoff⟩
    have hall : ∀ t' ∈ Prompt.find? ps e, t'.enabled = false := by
      rintro t' ht'
      rw [ht, Option.mem_some_iff] at ht'
      exact ht' ▸ hoff
    obtain ⟨i, hi, hk, hreq⟩ := hdep.2 ⟨e, he, hall, t, ht, (Prompt.mem_of_find? ht).2⟩
    exact ⟨i, hi, (isError_of_mem_issuesBy hi).2 (.inr hk), hk, hreq⟩

/-- A plan is allowed to enable what is missed, and can. -/
theorem known_of_plan (hp : Prompt.find? ps identifier = some p) (hc : p.content ≠ "")
    (h : Plan.ofIssues? (issuesBy D identifier ps) d = some plan) {r : String}
    (hr : r ∈ (D p.content).list .requires)
    (hoff : ∀ t ∈ Prompt.find? ps r, t.enabled = false) :
    d.flag .autoEnableDependencies = true ∧ ∃ t, Prompt.find? ps r = some t := by
  obtain ⟨i, hi, hk, hreq⟩ := (exists_mem_dependencies (D := D) hp hc
    fun i => i.required = Prompt.find? ps r).2 ⟨r, hr, hoff, rfl⟩
  have hcl := Plan.clearable_of_plan h hi ((isError_of_mem_issuesBy hi).2 (.inr hk))
  simp only [Issue.isClearable, hk, hreq, Bool.and_eq_true, Option.isSome_iff_exists] at hcl
  exact hcl

end Activation

end PromptRules
