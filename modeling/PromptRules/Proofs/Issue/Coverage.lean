import PromptRules.Proofs.Issue.Collapse

/-!
# Collapsing loses no conflict

Issues are merged into earlier ones while a list is gone through, and a merged issue is what
later ones are compared with. Still nothing gets lost on the way: an issue either stays as it
is or goes into one that names all that it named, and what is left of the list, apart from the
prompts named, is a part of it in the same order.

Results:
* `filter_collapse`: issues of a kind that is not mutual stay, unchanged and in order.
* `exists_covers_of_mem`: each issue is covered by one that is left.
* `sublist_collapse`: what the issues say besides the prompts they name.
* `anyError_collapse`: an error is left iff there was one, if the kind decides the severity.
* `collapse_keeps`: all of this together.
-/

namespace PromptRules.Issue

/-! ## Issues that stay as they are -/

section Staying

variable {q : IssueKind → Bool} (hq : ∀ k, q k = true → k.isMutual = false)

include hq

theorem TakesUp.filter_eq {issue : Issue} {kept kept' : List Issue} (h : TakesUp issue kept kept') :
    kept'.filter (fun i => q i.kind) = (kept ++ [issue]).filter fun i => q i.kind := by
  cases h with
  | @merged before after k hm ht _ =>
    -- The two issues that merge are of one mutual kind, which the filter drops.
    have hissue : q issue.kind = false := by
      rw [← Bool.not_eq_true]
      intro hkind
      rw [hq _ hkind] at hm
      cases hm
    have hk : q k.kind = false := by rw [kind_eq_of_tellsSame ht, hissue]
    have hmerge : q (merge k issue).kind = false := by rw [kind_merge, hk]
    simp only [List.filter_append, List.filter_cons, List.filter_nil, hk, hmerge, hissue,
      Bool.false_eq_true, if_false, List.append_nil]
  | added _ => rfl

theorem filter_collapse (issues : List Issue) :
    (collapse issues).filter (fun i => q i.kind) = issues.filter fun i => q i.kind := by
  refine collapse_induction
    (P := fun issues kept => kept.filter (fun i => q i.kind) = issues.filter fun i => q i.kind)
    rfl ?_ issues
  intro issues issue kept kept' ih h
  rw [h.filter_eq hq, List.filter_append, ih, ← List.filter_append]

end Staying

/-! ## Issues that are covered -/

/-- The issue is of the same kind as another one and names all that the other one names. -/
structure Covers (i other : Issue) : Prop where
  kind : i.kind = other.kind
  names : other.conflictingIds ⊆ i.conflictingIds

theorem Covers.refl (i : Issue) : Covers i i := ⟨rfl, List.Subset.refl _⟩

theorem Covers.trans {i j k : Issue} (hij : Covers i j) (hjk : Covers j k) : Covers i k :=
  ⟨hij.kind.trans hjk.kind, List.Subset.trans hjk.names hij.names⟩

theorem covers_merge_left (kept issue : Issue) : Covers (merge kept issue) kept :=
  ⟨kind_merge kept issue, fun _ he => mem_conflictingIds_merge.2 (.inl he)⟩

theorem covers_merge_right {kept issue : Issue} (h : kept.kind = issue.kind) :
    Covers (merge kept issue) issue :=
  ⟨(kind_merge kept issue).trans h, fun _ he => mem_conflictingIds_merge.2 (.inr he)⟩

theorem TakesUp.exists_covers_new {issue : Issue} {kept kept' : List Issue}
    (h : TakesUp issue kept kept') : ∃ j ∈ kept', Covers j issue := by
  cases h with
  | @merged before after k _ ht _ =>
    have hmem : merge k issue ∈ before ++ merge k issue :: after :=
      List.mem_append_right _ List.mem_cons_self
    exact ⟨merge k issue, hmem, covers_merge_right (kind_eq_of_tellsSame ht)⟩
  | added _ => exact ⟨issue, List.mem_append_right _ List.mem_cons_self, .refl issue⟩

theorem TakesUp.exists_covers_kept {issue : Issue} {kept kept' : List Issue}
    (h : TakesUp issue kept kept') {i : Issue} (hi : i ∈ kept) : ∃ j ∈ kept', Covers j i := by
  cases h with
  | @merged before after k _ _ _ =>
    rcases List.mem_append.1 hi with hi | hi
    · exact ⟨i, List.mem_append_left _ hi, .refl i⟩
    · rcases List.mem_cons.1 hi with rfl | hi
      · exact ⟨_, List.mem_append_right _ List.mem_cons_self, covers_merge_left i issue⟩
      · exact ⟨i, List.mem_append_right _ (List.mem_cons_of_mem _ hi), .refl i⟩
  | added _ => exact ⟨i, List.mem_append_left _ hi, .refl i⟩

/-- Each issue is covered by one that is left. -/
theorem exists_covers_of_mem (issues : List Issue) :
    ∀ i ∈ issues, ∃ j ∈ collapse issues, Covers j i := by
  refine collapse_induction (P := fun issues kept => ∀ i ∈ issues, ∃ j ∈ kept, Covers j i)
    (fun i hi => absurd hi List.not_mem_nil) ?_ issues
  intro issues issue kept kept' ih h i hi
  rcases List.mem_append.1 hi with hi | hi
  · obtain ⟨j, hj, hji⟩ := ih i hi
    obtain ⟨j', hj', hjj⟩ := h.exists_covers_kept hj
    exact ⟨j', hj', hjj.trans hji⟩
  · obtain rfl := List.mem_singleton.1 hi
    exact h.exists_covers_new

/-- No issue that is left names a prompt that no issue of its kind named. -/
theorem exists_names_of_mem_collapse {issues : List Issue} {j : Issue}
    (hj : j ∈ collapse issues) {e : String} (he : e ∈ j.conflictingIds) :
    ∃ i ∈ issues, i.kind = j.kind ∧ e ∈ i.conflictingIds :=
  (exists_mem_collapse (splits_names j.kind e) issues).1 ⟨j, hj, rfl, he⟩

/-! ## What the issues say -/

/-- What an issue says besides the prompts it is about. -/
def headline (i : Issue) : IssueKind × Severity × String × Prompt × String :=
  (i.kind, i.severity, i.message, i.prompt, i.directive)

theorem headline_merge (kept issue : Issue) : headline (merge kept issue) = headline kept := by
  rw [merge_eq]
  split <;> rfl

theorem map_headline_merged (before after : List Issue) (kept issue : Issue) :
    (before ++ merge kept issue :: after).map headline =
      (before ++ kept :: after).map headline := by
  simp only [List.map_append, List.map_cons, headline_merge]

theorem TakesUp.sublist {issue : Issue} {kept kept' : List Issue} (h : TakesUp issue kept kept') :
    (kept'.map headline).Sublist (kept.map headline ++ [headline issue]) := by
  cases h with
  | @merged before after k _ _ _ =>
    rw [map_headline_merged]
    exact List.sublist_append_left _ _
  | added _ =>
    rw [List.map_append]
    exact List.Sublist.refl _

theorem sublist_collapse (issues : List Issue) :
    ((collapse issues).map headline).Sublist (issues.map headline) := by
  refine collapse_induction
    (P := fun issues kept => (kept.map headline).Sublist (issues.map headline))
    (List.Sublist.refl _) ?_ issues
  intro issues issue kept kept' ih h
  rw [List.map_append]
  exact h.sublist.trans (ih.append_right _)

/-! ## Errors -/

theorem anyError_iff_exists {issues : List Issue} {f : IssueKind → Severity}
    (hf : ∀ i ∈ issues, i.severity = f i.kind) :
    anyError issues = true ↔ ∃ i ∈ issues, f i.kind = .error := by
  unfold anyError
  rw [List.any_eq_true]
  refine exists_congr fun i => and_congr_right fun hi => ?_
  rw [isError, hf i hi, beq_iff_eq]

/-- If the kind of an issue decides whether it stands in the way, something stands in the way
    after collapsing iff it did before. -/
theorem anyError_collapse {issues : List Issue} {f : IssueKind → Severity}
    (hf : ∀ i ∈ issues, i.severity = f i.kind) : anyError (collapse issues) = anyError issues := by
  have hleft : ∀ i ∈ collapse issues, i.severity = f i.kind := by
    refine forall_mem_collapse (P := fun i => i.severity = f i.kind) ?_ hf
    intro kept issue hk
    rw [severity_merge, kind_merge, hk]
  have hsplits : Splits fun i => f i.kind = .error := by
    intro kept issue _ hk
    show f (merge kept issue).kind = .error ↔ f kept.kind = .error ∨ f issue.kind = .error
    rw [kind_merge, hk, or_self]
  rw [Bool.eq_iff_iff, anyError_iff_exists hleft, anyError_iff_exists hf,
    exists_mem_collapse hsplits]

/-! ## All together -/

/-- **Collapsing loses no conflict.** Issues of other kinds than the mutual ones stay, unchanged
    and in order. All prompts that an issue of a mutual kind names are named by one issue of
    this kind that is left, and those that are left name no others. What is left says, apart
    from the prompts, a part of what was said, in the same order; and if the kind decides the
    severity, it holds an error iff there was one. -/
theorem collapse_keeps (issues : List Issue) :
    (collapse issues).filter (fun i => !i.kind.isMutual) =
        issues.filter (fun i => !i.kind.isMutual) ∧
      (∀ i ∈ issues, i.kind.isMutual = true →
        ∃ j ∈ collapse issues, j.kind = i.kind ∧ i.conflictingIds ⊆ j.conflictingIds) ∧
      (∀ j ∈ collapse issues, j.kind.isMutual = true →
        ∀ e ∈ j.conflictingIds, ∃ i ∈ issues, i.kind = j.kind ∧ e ∈ i.conflictingIds) ∧
      ((collapse issues).map headline).Sublist (issues.map headline) ∧
      ((∃ f : IssueKind → Severity, ∀ i ∈ issues, i.severity = f i.kind) →
        anyError (collapse issues) = anyError issues) := by
  refine ⟨?_, ?_, ?_, sublist_collapse issues, ?_⟩
  · refine filter_collapse (q := fun k => !k.isMutual) ?_ issues
    intro k hk
    rwa [Bool.not_eq_true'] at hk
  · intro i hi _
    obtain ⟨j, hj, hji⟩ := exists_covers_of_mem issues i hi
    exact ⟨j, hj, hji.kind, hji.names⟩
  · intro j hj _ e he
    exact exists_names_of_mem_collapse hj he
  · intro hf
    obtain ⟨f, hf⟩ := hf
    exact anyError_collapse hf

/-- An exclusion that names these prompts. -/
def exclusion (message : String) (names : List String) : Issue where
  kind := .exclusive
  severity := .error
  message := message
  prompt := { identifier := "a" }
  directive := "exclusive-with"
  rivals := names.map fun e => { identifier := e }

/-- Two exclusions that have nothing in common, and one that has something in common with each:
    it goes into the first of them. -/
def bridged : List Issue :=
  [exclusion "Not with tea." ["b"], exclusion "Not with milk." ["c"],
   exclusion "With neither." ["c", "b"]]

theorem collapse_keeps_bridged :
    (collapse bridged).map conflictingIds = [["b", "c"], ["c"]] ∧
      (∃ j ∈ collapse bridged, j.kind = .exclusive ∧
        (exclusion "With neither." ["c", "b"]).conflictingIds ⊆ j.conflictingIds) ∧
      anyError (collapse bridged) = anyError bridged := by
  obtain ⟨_, hcovers, _, _, herror⟩ := collapse_keeps bridged
  have hthird : exclusion "With neither." ["c", "b"] ∈ bridged := by decide
  have hseverity : ∀ i ∈ bridged, i.severity = .error := by decide
  exact ⟨by decide, hcovers _ hthird rfl, herror ⟨fun _ => .error, hseverity⟩⟩

end PromptRules.Issue
