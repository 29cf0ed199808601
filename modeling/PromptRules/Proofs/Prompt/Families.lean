import PromptRules.Proofs.Issue.Collapse
import PromptRules.Proofs.Prompt.PlainIssues

/-!
# The six families of issues

A check raises issues of six kinds, one family after the other. A family holds issues of its
own kind only, and the kind decides whether they stand in the way; so what the whole check
says about a kind is what that family says.

Results:
* `assemble_eq_flatMap`: the issues of a prompt are its families, in the order of the kinds.
* `exists_mem_issuesBy`: what holds of some issue of a kind, after collapsing, holds of some
  issue of the family.
* `anyError_issuesBy`: something stands in the way iff some family of errors is not empty.
-/

namespace PromptRules

/-- Whether issues of the kind stand in the way or only warn. -/
def IssueKind.severity : IssueKind → Severity
  | .exclusive | .missingDependency | .categoryLimit | .mutualExclusiveGroup => .error
  | .softConflict | .deprecated => .warning

/-- Errors are conflicts and missing dependencies. -/
theorem IssueKind.severity_eq_error_iff (k : IssueKind) :
    k.severity = .error ↔ k.isConflict = true ∨ k = .missingDependency := by
  cases k <;> decide

/-- The kinds in the order in which a check raises them. -/
def IssueKind.all : List IssueKind :=
  [.exclusive, .missingDependency, .categoryLimit, .mutualExclusiveGroup, .softConflict,
   .deprecated]

theorem IssueKind.mem_all (k : IssueKind) : k ∈ IssueKind.all := by
  cases k <;> decide

namespace Activation

open Directive

/-- The issues of one kind, before collapsing. -/
def family (p : Prompt) (d : Directives) (ps : List Prompt) (around : List (Prompt × Directives)) :
    IssueKind → List Issue
  | .exclusive => exclusions p d ps around
  | .missingDependency => dependencies p d ps
  | .categoryLimit =>
    (declaredLimit d .maxOnePerCategory).toList.flatMap fun c =>
      limits .categoryLimit "category" "max-one-per-category" p c (inCategory c around)
  | .mutualExclusiveGroup =>
    (declaredLimit d .mutualExclusiveGroup).toList.flatMap fun g =>
      limits .mutualExclusiveGroup "group" "mutual-exclusive-group" p g (inGroup g around)
  | .softConflict => softConflicts p d ps around
  | .deprecated => deprecation p d

/-- The families come in the order of the kinds, also if each is found by asking again. -/
theorem assemble_eq_flatMap_answers (p : Prompt) (d : Directives) (ps : List Prompt)
    (answers : IssueKind → List (Prompt × Directives)) :
    assemble p d ps (answers .exclusive) (answers .categoryLimit) (answers .mutualExclusiveGroup)
        (answers .softConflict) =
      IssueKind.all.flatMap fun k => family p d ps (answers k) k := by
  simp only [IssueKind.all, List.flatMap_cons, List.flatMap_nil, List.append_nil, assemble, family,
    List.append_assoc]

theorem assemble_eq_flatMap (p : Prompt) (d : Directives) (ps : List Prompt)
    (around : List (Prompt × Directives)) :
    assemble p d ps around around around around =
      IssueKind.all.flatMap (family p d ps around) :=
  assemble_eq_flatMap_answers p d ps fun _ => around

section Kinds

variable {p : Prompt} {d : Directives} {ps : List Prompt} {around : List (Prompt × Directives)}
  {i : Issue}

/-- Two scans that raise issues of one kind only. -/
theorem kind_of_mem_bothWays {α β : Type} {kind : IssueKind} {severity : Severity}
    {declared : α → Issue} {reverse : β → Issue}
    (hd : ∀ a, (declared a).kind = kind ∧ (declared a).severity = severity)
    (hr : ∀ b, (reverse b).kind = kind ∧ (reverse b).severity = severity)
    {xs : List α} {ys : List β} (h : i ∈ xs.map declared ++ ys.map reverse) :
    i.kind = kind ∧ i.severity = severity := by
  rcases List.mem_append.1 h with h | h
  · obtain ⟨a, _, rfl⟩ := List.mem_map.1 h
    exact hd a
  · obtain ⟨b, _, rfl⟩ := List.mem_map.1 h
    exact hr b

theorem kind_of_mem_exclusions (h : i ∈ exclusions p d ps around) :
    i.kind = .exclusive ∧ i.severity = .error :=
  kind_of_mem_bothWays (fun _ => ⟨rfl, rfl⟩) (fun _ => ⟨rfl, rfl⟩) h

/-- No prompt with the identifier is known, or the first one is off. -/
def missing (ps : List Prompt) (identifier : String) : Bool :=
  (Prompt.find? ps identifier).all fun t => !t.enabled

theorem missing_eq_true_iff {r : String} :
    missing ps r = true ↔ ∀ t ∈ Prompt.find? ps r, t.enabled = false := by
  simp only [missing, Option.all_eq_true, Bool.not_eq_true', Option.mem_def]

/-- There is an issue for every entry that is missed, in their order. -/
theorem dependencies_eq (p : Prompt) (d : Directives) (ps : List Prompt) :
    dependencies p d ps =
      ((d.list .requires).filter (missing ps)).map fun r => lacking p d r (Prompt.find? ps r) := by
  unfold dependencies
  induction d.list .requires with
  | nil => rfl
  | cons r rs ih =>
    rw [List.filterMap_cons, List.filter_cons, ih]
    unfold missing
    cases ht : Prompt.find? ps r with
    | none => simp only [Option.all_none, if_true, List.map_cons, ht]
    | some t =>
      cases he : t.enabled with
      | true => simp [he]
      | false => simp [he, ht]

/-- An issue about a dependency is about one that no enabled prompt meets. -/
theorem mem_dependencies_iff :
    i ∈ dependencies p d ps ↔ ∃ r ∈ d.list .requires,
      (∀ t ∈ Prompt.find? ps r, t.enabled = false) ∧ i = lacking p d r (Prompt.find? ps r) := by
  rw [dependencies_eq, List.mem_map]
  simp only [List.mem_filter, missing_eq_true_iff, and_assoc, eq_comm (b := i)]

/-- There is an issue of a limit iff somebody counts against it. -/
theorem mem_limits_iff {kind : IssueKind} {what directive limit : String} {active : List Prompt} :
    i ∈ limits kind what directive p limit active ↔
      active ≠ [] ∧ i = limited kind what directive p limit active := by
  unfold limits
  split
  · rename_i h
    exact iff_of_false List.not_mem_nil fun hi => hi.1 h
  · rename_i h
    rw [List.mem_singleton, and_iff_right h]

theorem kind_of_mem_softConflicts (h : i ∈ softConflicts p d ps around) :
    i.kind = .softConflict ∧ i.severity = .warning :=
  kind_of_mem_bothWays (fun _ => ⟨rfl, rfl⟩) (fun _ => ⟨rfl, rfl⟩) h

theorem kind_of_mem_deprecation (h : i ∈ deprecation p d) :
    i.kind = .deprecated ∧ i.severity = .warning := by
  unfold deprecation at h
  split at h
  · cases h
  · obtain rfl := List.mem_singleton.1 h
    exact ⟨rfl, rfl⟩

theorem kind_of_mem_family {k : IssueKind} (h : i ∈ family p d ps around k) :
    i.kind = k ∧ i.severity = k.severity := by
  cases k with
  | exclusive => exact kind_of_mem_exclusions h
  | missingDependency =>
    obtain ⟨r, _, _, rfl⟩ := mem_dependencies_iff.1 h
    exact ⟨rfl, rfl⟩
  | categoryLimit =>
    obtain ⟨c, _, h⟩ := List.mem_flatMap.1 h
    obtain ⟨_, rfl⟩ := mem_limits_iff.1 h
    exact ⟨rfl, rfl⟩
  | mutualExclusiveGroup =>
    obtain ⟨g, _, h⟩ := List.mem_flatMap.1 h
    obtain ⟨_, rfl⟩ := mem_limits_iff.1 h
    exact ⟨rfl, rfl⟩
  | softConflict => exact kind_of_mem_softConflicts h
  | deprecated => exact kind_of_mem_deprecation h

theorem filter_family (k k' : IssueKind) :
    (family p d ps around k').filter (fun i => i.kind == k) =
      if k' = k then family p d ps around k' else [] := by
  split
  · rename_i h
    exact List.filter_eq_self.2 fun i hi => beq_iff_eq.2 ((kind_of_mem_family hi).1.trans h)
  · rename_i h
    refine List.filter_eq_nil_iff.2 fun i hi he => h ?_
    rw [← (kind_of_mem_family hi).1, beq_iff_eq.1 he]

/-- Of all families together, the issues of one kind are the family of this kind. -/
theorem filter_families (answers : IssueKind → List (Prompt × Directives)) (k : IssueKind) :
    (IssueKind.all.flatMap fun k' => family p d ps (answers k') k').filter (fun i => i.kind == k) =
      family p d ps (answers k) k := by
  rw [List.filter_flatMap]
  simp only [filter_family]
  cases k <;> simp [IssueKind.all]

end Kinds

/-! ## The whole check -/

section Check

variable {D : String → Directives} {p : Prompt} {ps : List Prompt} {identifier : String}

theorem mem_rawIssuesBy {i : Issue} :
    i ∈ rawIssuesBy D p ps ↔ i ∈ family p (D p.content) ps (around D p ps) i.kind := by
  unfold rawIssuesBy
  rw [assemble_eq_flatMap, List.mem_flatMap]
  constructor
  · rintro ⟨k, _, h⟩
    rwa [(kind_of_mem_family h).1]
  · intro h
    exact ⟨i.kind, IssueKind.mem_all _, h⟩

/-- The issues of one kind are the family of this kind. -/
theorem filter_rawIssuesBy (k : IssueKind) :
    (rawIssuesBy D p ps).filter (fun i => i.kind == k) =
      family p (D p.content) ps (around D p ps) k := by
  unfold rawIssuesBy
  rw [assemble_eq_flatMap]
  exact filter_families (fun _ => around D p ps) k

/-- The kind of an issue decides whether it stands in the way, also after collapsing. -/
theorem severity_of_mem_issuesBy {i : Issue} (h : i ∈ issuesBy D identifier ps) :
    i.severity = i.kind.severity := by
  unfold issuesBy at h
  split at h
  · cases h
  · split at h
    · refine Issue.forall_mem_collapse (P := fun i => i.severity = i.kind.severity) ?_ ?_ i h
      · intro kept issue hk
        rw [Issue.severity_merge, Issue.kind_merge, hk]
      · intro i hi
        exact (kind_of_mem_family (mem_rawIssuesBy.1 hi)).2
    · cases h

theorem exists_mem_issuesBy (hp : Prompt.find? ps identifier = some p) (hc : p.content ≠ "")
    {k : IssueKind} {Q : Issue → Prop} (hQ : Issue.Splits fun i => i.kind = k ∧ Q i) :
    (∃ i ∈ issuesBy D identifier ps, i.kind = k ∧ Q i) ↔
      ∃ i ∈ family p (D p.content) ps (around D p ps) k, Q i := by
  rw [issuesBy_of_find D hp hc, Issue.exists_mem_collapse hQ]
  constructor
  · rintro ⟨i, hi, rfl, h⟩
    exact ⟨i, mem_rawIssuesBy.1 hi, h⟩
  · rintro ⟨i, hi, h⟩
    have hk := (kind_of_mem_family hi).1
    exact ⟨i, mem_rawIssuesBy.2 (hk.symm ▸ hi), hk, h⟩

theorem anyError_issuesBy (hp : Prompt.find? ps identifier = some p) (hc : p.content ≠ "") :
    Issue.anyError (issuesBy D identifier ps) = true ↔
      ∃ k : IssueKind, k.severity = .error ∧
        family p (D p.content) ps (around D p ps) k ≠ [] := by
  have hk : ∀ k : IssueKind, (∃ i ∈ issuesBy D identifier ps, i.kind = k) ↔
      family p (D p.content) ps (around D p ps) k ≠ [] := by
    intro k
    have h := exists_mem_issuesBy (D := D) (k := k) (Q := fun _ => True) hp hc
      (by simpa using Issue.splits_kind k)
    simp only [and_true] at h
    rw [h]
    exact ⟨fun ⟨i, hi⟩ => List.ne_nil_of_mem hi, List.exists_mem_of_ne_nil _⟩
  simp only [← hk]
  unfold Issue.anyError
  rw [List.any_eq_true]
  constructor
  · rintro ⟨i, hi, he⟩
    have hs := severity_of_mem_issuesBy hi
    exact ⟨i.kind, by simpa [Issue.isError, hs] using he, i, hi, rfl⟩
  · rintro ⟨k, he, i, hi, rfl⟩
    have hs := severity_of_mem_issuesBy hi
    exact ⟨i, hi, by simpa [Issue.isError, hs] using he⟩

end Check

end Activation

end PromptRules
