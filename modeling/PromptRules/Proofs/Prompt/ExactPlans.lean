import PromptRules.Proofs.Prompt.Clearance

/-!
# Plans and the issues they clear

Whether there is a plan, and what it lists, is decided by two passes over the same issues. The
first looks for an issue that the prompt cannot clear; if it finds none, the second collects
what the issues name. Merged and repeated issues make no difference to either.

Results:
* `ofIssues?_issuesBy_eq_none_iff`: there is no plan iff some issue blocks it.
* `exact_of_plan`: a plan lists what its issues name, each once, and all of it is yet to be
  switched.
-/

namespace PromptRules

open Data Directive

/-! ## Issues that leave no plan -/

/-- Some issue leaves no plan: a conflict names a prompt that may not be disabled, or a missing
    dependency is about a prompt that does not exist or may not be enabled. -/
def Issue.Blocked (issues : List Issue) (d : Directives) : Prop :=
  (∃ i ∈ issues, i.kind.isConflict = true ∧ ∃ e ∈ i.conflictingIds, e ∉ d.list .autoDisable) ∨
    ∃ i ∈ issues, i.kind = .missingDependency ∧
      (i.required = none ∨ d.flag .autoEnableDependencies = false)

instance (issues : List Issue) (d : Directives) : Decidable (Issue.Blocked issues d) :=
  inferInstanceAs (Decidable (_ ∨ _))

theorem Issue.isClearable_of_isConflict {i : Issue} (hk : i.kind.isConflict = true)
    (d : Directives) :
    i.isClearable d = true ↔ ∀ e ∈ i.conflictingIds, e ∈ d.list .autoDisable := by
  unfold isClearable
  cases h : i.kind with
  | missingDependency | softConflict | deprecated =>
    rw [h] at hk
    cases hk
  | exclusive | categoryLimit | mutualExclusiveGroup =>
    simp only [List.all_eq_true, List.contains_iff_mem]

theorem Issue.isClearable_of_missing {i : Issue} (hk : i.kind = .missingDependency)
    (d : Directives) :
    i.isClearable d = true ↔
      ¬ (i.required = none ∨ d.flag .autoEnableDependencies = false) := by
  unfold isClearable
  rw [hk, ← Option.not_isSome_iff_eq_none, not_or, Classical.not_not, Bool.not_eq_false,
    Bool.and_eq_true, and_comm]

/-! ## What a plan lists -/

/-- A plan is exact for the issues of a prompt: it lists whom they name, each once, and no listed
    prompt is in the state that the plan brings it into. -/
structure Plan.Exact (plan : Plan) (ps : List Prompt) (issues : List Issue) : Prop where
  nodup_toDisable : plan.toDisable.Nodup
  nodup_toEnable : plan.toEnable.Nodup
  mem_toDisable : ∀ e, e ∈ plan.toDisable ↔
    ∃ i ∈ issues, i.kind.isConflict = true ∧ e ∈ i.conflictingIds
  mem_toEnable : ∀ e, e ∈ plan.toEnable ↔
    ∃ i ∈ issues, i.kind = .missingDependency ∧ i.requiredId = some e
  disjoint : ∀ e ∈ plan.toDisable, e ∉ plan.toEnable
  on : ∀ e ∈ plan.toDisable, ∃ q ∈ ps, q.identifier = e ∧ q.enabled = true
  off : ∀ e ∈ plan.toEnable, ∃ q ∈ ps, q.identifier = e ∧ q.enabled = false

namespace Activation

variable {D : String → Directives} {d : Directives} {p : Prompt} {ps : List Prompt}
  {identifier : String} {plan : Plan}

/-- Warnings block nothing, so the errors alone decide. -/
theorem ofIssues?_issuesBy_eq_none_iff :
    Plan.ofIssues? (issuesBy D identifier ps) d = none ↔
      Issue.Blocked (issuesBy D identifier ps) d := by
  rw [← Option.not_isSome_iff_eq_none, Plan.ofIssues?_isSome, Issue.allClearable,
    List.all_eq_true]
  constructor
  · intro h
    simp only [Classical.not_forall] at h
    obtain ⟨i, hi, hcl⟩ := h
    obtain ⟨hi, he⟩ := List.mem_filter.1 hi
    rcases (isError_of_mem_issuesBy hi).1 he with hk | hk
    · rw [Issue.isClearable_of_isConflict hk] at hcl
      simp only [Classical.not_forall] at hcl
      obtain ⟨e, he, hn⟩ := hcl
      exact .inl ⟨i, hi, hk, e, he, hn⟩
    · rw [Issue.isClearable_of_missing hk, Classical.not_not] at hcl
      exact .inr ⟨i, hi, hk, hcl⟩
  · intro hb h
    rcases hb with ⟨i, hi, hk, e, he, hn⟩ | ⟨i, hi, hk, hn⟩
    · have herror := (isError_of_mem_issuesBy hi).2 (.inl hk)
      have hcl := h i (List.mem_filter.2 ⟨hi, herror⟩)
      exact hn ((Issue.isClearable_of_isConflict hk d).1 hcl e he)
    · have herror := (isError_of_mem_issuesBy hi).2 (.inr hk)
      have hcl := h i (List.mem_filter.2 ⟨hi, herror⟩)
      exact (Issue.isClearable_of_missing hk d).1 hcl hn

/-- A plan enables what is missed, all of which exists. -/
theorem mem_toEnable_iff_missed (hp : Prompt.find? ps identifier = some p) (hc : p.content ≠ "")
    (h : Plan.ofIssues? (issuesBy D identifier ps) d = some plan) {e : String} :
    e ∈ plan.toEnable ↔ ∃ i ∈ issuesBy D identifier ps,
      i.kind = .missingDependency ∧ i.requiredId = some e := by
  rw [mem_toEnable_issuesBy hp hc h, exists_mem_dependencies hp hc fun i => i.requiredId = some e]
  constructor
  · intro he
    obtain ⟨hr, t, ht, hoff⟩ := he
    refine ⟨e, hr, fun t' ht' => ?_, rfl⟩
    rw [ht, Option.mem_some_iff] at ht'
    rw [← ht', hoff]
  · intro he
    obtain ⟨r, hr, hoff, hid⟩ := he
    obtain rfl : r = e := Option.some.inj hid
    obtain ⟨_, t, ht⟩ := known_of_plan hp hc h hr hoff
    exact ⟨hr, t, ht, hoff t ht⟩

/-- **A plan lists exactly what the issues name.** -/
theorem exact_of_plan (hd : Distinct ps) (hp : p ∈ ps) (hc : p.content ≠ "")
    (h : Plan.ofIssues? (issuesBy D p.identifier ps) d = some plan) :
    plan.Exact ps (issuesBy D p.identifier ps) := by
  have hf := hd.find?_iff.2 ⟨hp, rfl⟩
  have hon : ∀ e ∈ plan.toDisable, ∃ q ∈ ps, q.identifier = e ∧ q.enabled = true := by
    intro e he
    obtain ⟨k, hk⟩ := (mem_toDisable_iff_names hf hc h).1 he
    obtain ⟨o, ho, hid, hen, _⟩ := exists_rival_of_names hk
    exact ⟨o, ho, hid, hen⟩
  have hoff : ∀ e ∈ plan.toEnable, ∃ q ∈ ps, q.identifier = e ∧ q.enabled = false := by
    intro e he
    obtain ⟨_, t, ht, hoff⟩ := (mem_toEnable_issuesBy hf hc h).1 he
    obtain ⟨hmem, hid⟩ := Prompt.mem_of_find? ht
    exact ⟨t, hmem, hid, hoff⟩
  refine ⟨Plan.nodup_toDisable h, Plan.nodup_toEnable h, ?_, ?_, ?_, hon, hoff⟩
  · intro e
    rw [Plan.mem_toDisable_iff h]
    refine exists_congr fun i => and_congr_right fun hi => ?_
    exact and_iff_right_of_imp fun hk => (isError_of_mem_issuesBy hi).2 (.inl hk.1)
  · intro e
    exact mem_toEnable_iff_missed hf hc h
  · intro e hdis hen
    -- The prompt with this identifier would be on and off.
    obtain ⟨q, hq, hqe, hqon⟩ := hon e hdis
    obtain ⟨r, hr, hre, hroff⟩ := hoff e hen
    rw [hd.eq hq hr (hqe.trans hre.symm), hroff] at hqon
    cases hqon

end Activation

end PromptRules
