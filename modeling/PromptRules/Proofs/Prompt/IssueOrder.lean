import PromptRules.Proofs.Directive.Texts
import PromptRules.Proofs.Issue.Coverage
import PromptRules.Proofs.Prompt.Families

/-!
# The order of issues

A check raises its families of issues one after the other, and collapsing may change an issue and
drop another. What an issue says besides whom it names is a part of what was raised, so the order
stays, and with it the errors before the warnings. This does not depend on what a lookup answers,
nor on whether it answers the same each time it is asked, fails, or keeps something in mind.

Results:
* `inOrder_collapse_assemble`: whatever the answers are, the issues are in order.
* `issuesOf_inOrder`: in any monad, a check gives issues in order.
-/

namespace PromptRules

/-- The place of a kind in the order in which issues are told. -/
def IssueKind.rank : IssueKind → Nat
  | .exclusive => 0
  | .missingDependency => 1
  | .categoryLimit => 2
  | .mutualExclusiveGroup => 3
  | .softConflict => 4
  | .deprecated => 5

/-- The kinds of errors. -/
def IssueKind.errors : List IssueKind :=
  [.exclusive, .missingDependency, .categoryLimit, .mutualExclusiveGroup]

/-- The kinds of which a check raises one issue at most. -/
def IssueKind.single : List IssueKind := [.categoryLimit, .mutualExclusiveGroup, .deprecated]

/-- The issues come in the order of their kinds, errors before warnings; the first four kinds are
    errors and the others are not; and of some kinds there is one issue at most. -/
structure InOrder (issues : List Issue) : Prop where
  kinds : issues.Pairwise fun i j => i.kind.rank ≤ j.kind.rank
  errors : ∀ i ∈ issues, i.isError = true ↔ i.kind ∈ IssueKind.errors
  errorsFirst : issues.Pairwise fun i j => j.isError = true → i.isError = true
  single : ∀ k ∈ IssueKind.single, (issues.filter fun i => i.kind == k).length ≤ 1

theorem IssueKind.severity_eq_error_iff_mem (k : IssueKind) :
    k.severity = .error ↔ k ∈ errors := by
  cases k <;> decide

theorem IssueKind.mem_errors_iff (k : IssueKind) : k ∈ errors ↔ k.rank < 4 := by
  cases k <;> decide

theorem IssueKind.not_mutual_of_mem_single {k : IssueKind} (h : k ∈ single) :
    k.isMutual = false := by
  revert h
  cases k <;> decide

/-- It is enough to know the order of the kinds, if the kind decides the severity. -/
theorem inOrder_of_kinds {issues : List Issue}
    (hkinds : issues.Pairwise fun i j => i.kind.rank ≤ j.kind.rank)
    (hseverity : ∀ i ∈ issues, i.severity = i.kind.severity)
    (hsingle : ∀ k ∈ IssueKind.single, (issues.filter fun i => i.kind == k).length ≤ 1) :
    InOrder issues := by
  have herrors : ∀ i ∈ issues, i.isError = true ↔ i.kind ∈ IssueKind.errors := by
    intro i hi
    rw [Issue.isError, beq_iff_eq, hseverity i hi, IssueKind.severity_eq_error_iff_mem]
  refine ⟨hkinds, herrors, hkinds.imp_of_mem ?_, hsingle⟩
  intro i j hi hj hle he
  rw [herrors j hj, IssueKind.mem_errors_iff] at he
  rw [herrors i hi, IssueKind.mem_errors_iff]
  exact Nat.lt_of_le_of_lt hle he

theorem InOrder.nil : InOrder [] :=
  inOrder_of_kinds .nil (fun _ hi => absurd hi List.not_mem_nil) fun _ _ => Nat.zero_le 1

theorem Issue.pairwise_rank_collapse {issues : List Issue}
    (h : issues.Pairwise fun i j => i.kind.rank ≤ j.kind.rank) :
    (collapse issues).Pairwise fun i j => i.kind.rank ≤ j.kind.rank := by
  have hsaid : (issues.map headline).Pairwise fun h h' => h.1.rank ≤ h'.1.rank := by
    rwa [List.pairwise_map]
  have hleft := hsaid.sublist (sublist_collapse issues)
  rwa [List.pairwise_map] at hleft

namespace Activation

open Directive

/-! ## Whatever the answers are -/

section Answers

variable {p : Prompt} {d : Directives} {ps : List Prompt}
  {answers : IssueKind → List (Prompt × Directives)}

theorem pairwise_rank_families :
    (IssueKind.all.flatMap fun k => family p d ps (answers k) k).Pairwise
      fun i j => i.kind.rank ≤ j.kind.rank := by
  have hall : IssueKind.all.Pairwise fun k l => k.rank ≤ l.rank := by decide
  refine List.pairwise_flatMap.2 ⟨fun k _ => ?_, hall.imp fun {k l} hkl i hi j hj => ?_⟩
  · refine List.pairwise_of_forall_mem_list fun i hi j hj => Nat.le_of_eq ?_
    rw [(kind_of_mem_family hi).1, (kind_of_mem_family hj).1]
  · rw [(kind_of_mem_family hi).1, (kind_of_mem_family hj).1]
    exact hkl

theorem length_limits_le_one {kind : IssueKind} {what directive : String} {limit : Option String}
    {active : String → List Prompt} :
    (limit.toList.flatMap fun c => limits kind what directive p c (active c)).length ≤ 1 := by
  cases limit with
  | none => exact Nat.zero_le 1
  | some c =>
    rw [Option.toList_some, List.flatMap_singleton]
    unfold limits
    split
    · exact Nat.zero_le 1
    · exact Nat.le_refl 1

theorem length_family_le_one {k : IssueKind} (hk : k ∈ IssueKind.single)
    (around : List (Prompt × Directives)) : (family p d ps around k).length ≤ 1 := by
  cases k with
  | exclusive | missingDependency | softConflict => exact absurd hk (by decide)
  | categoryLimit => exact length_limits_le_one
  | mutualExclusiveGroup => exact length_limits_le_one
  | deprecated =>
    show (deprecation p d).length ≤ 1
    unfold deprecation
    split
    · exact Nat.zero_le 1
    · exact Nat.le_refl 1

/-- The issues that are left are in order, whatever the questions about the other prompts have
    been answered with. -/
theorem inOrder_collapse_families :
    InOrder (Issue.collapse (IssueKind.all.flatMap fun k => family p d ps (answers k) k)) := by
  refine inOrder_of_kinds (Issue.pairwise_rank_collapse pairwise_rank_families) ?_ ?_
  · refine Issue.forall_mem_collapse (P := fun i => i.severity = i.kind.severity) ?_ ?_
    · intro kept issue hkept
      rw [Issue.severity_merge, Issue.kind_merge, hkept]
    · intro i hi
      obtain ⟨k, _, hi⟩ := List.mem_flatMap.1 hi
      rw [(kind_of_mem_family hi).1, (kind_of_mem_family hi).2]
  · intro k hk
    have hkind : ∀ k', (k' == k) = true → k'.isMutual = false := by
      intro k' h
      rw [beq_iff_eq.1 h, IssueKind.not_mutual_of_mem_single hk]
    rw [Issue.filter_collapse hkind, filter_families]
    exact length_family_le_one hk _

end Answers

theorem inOrder_collapse_assemble (p : Prompt) (d : Directives) (ps : List Prompt)
    (forExclusion forCategory forGroup forConflict : List (Prompt × Directives)) :
    InOrder (Issue.collapse
      (assemble p d ps forExclusion forCategory forGroup forConflict)) := by
  let answers : IssueKind → List (Prompt × Directives)
    | .exclusive => forExclusion
    | .categoryLimit => forCategory
    | .mutualExclusiveGroup => forGroup
    | .softConflict => forConflict
    | .missingDependency | .deprecated => []
  have hfamilies := assemble_eq_flatMap_answers p d ps answers
  show InOrder (Issue.collapse (assemble p d ps (answers .exclusive) (answers .categoryLimit)
    (answers .mutualExclusiveGroup) (answers .softConflict)))
  rw [hfamilies]
  exact inOrder_collapse_families

/-! ## Whatever the lookup is -/

/-- A check may as well give issues together with the proof that they are in order. -/
theorem exists_inOrder {m : Type → Type} [Monad m] [LawfulMonad m] (lookup : Lookup m)
    (identifier : String) (ps : List Prompt) :
    ∃ check : m {issues : List Issue // InOrder issues},
      Subtype.val <$> check = issuesOf lookup identifier ps := by
  unfold issuesOf
  cases Prompt.find? ps identifier with
  | none => exact ⟨pure ⟨[], .nil⟩, map_pure _ _⟩
  | some p =>
    simp only
    split
    · refine ⟨do
        let d ← lookup p.content
        let forExclusion ← annotate lookup (others p ps)
        let forCategory ← askFor lookup p ps (declaredLimit d .maxOnePerCategory)
        let forGroup ← askFor lookup p ps (declaredLimit d .mutualExclusiveGroup)
        let forConflict ← annotate lookup (others p ps)
        return ⟨_, inOrder_collapse_assemble p d ps forExclusion forCategory forGroup
          forConflict⟩, ?_⟩
      simp only [rawIssues_eq, map_bind, map_pure, bind_assoc, pure_bind]
    · exact ⟨pure ⟨[], .nil⟩, map_pure _ _⟩

/-- **Issues are told in order**, whatever the prompts are and whatever a lookup answers: one that
    only answers, one that may fail, and one that keeps something in mind. -/
theorem issuesOf_inOrder (identifier : String) (ps : List Prompt) :
    (∀ {m : Type → Type} [Monad m] [LawfulMonad m] (lookup : Lookup m),
      ∃ check : m {issues : List Issue // InOrder issues},
        Subtype.val <$> check = issuesOf lookup identifier ps) ∧
    (∀ {ε : Type} (read : Lookup (Except ε)) (issues : List Issue),
      issuesOf read identifier ps = .ok issues → InOrder issues) ∧
    ∀ {σ : Type} (lookup : Lookup (StateM σ)) (s : σ),
      InOrder (issuesOf lookup identifier ps s).1 := by
  refine ⟨fun lookup => exists_inOrder lookup identifier ps, ?_, ?_⟩
  · intro ε read issues h
    obtain ⟨check, hcheck⟩ := exists_inOrder read identifier ps
    rw [h] at hcheck
    cases check with
    | error e => cases hcheck
    | ok found =>
      obtain rfl : found.1 = issues := Except.ok.inj hcheck
      exact found.2
  · intro σ lookup s
    obtain ⟨check, hcheck⟩ := exists_inOrder lookup identifier ps
    rw [← hcheck]
    exact (check s).1.2

/-- A prompt that declares what raises warnings before what raises errors. -/
def sternSet : List Prompt :=
  [{ identifier := "a"
     content := Comment.block "@deprecated" ++ Comment.block "@conflicts-with soft" ++
       Comment.block "@requires dep" ++ Comment.block "@exclusive-with hard" },
   { identifier := "hard", content := "Shout.", enabled := true },
   { identifier := "dep", content := "Tea." },
   { identifier := "soft", content := "Whisper.", enabled := true }]

theorem issuesOf_inOrder_sternSet :
    ∃ issues, issuesOf Directives.ofContent "a" sternSet = .ok issues ∧
      issues.map Issue.kind = [.exclusive, .missingDependency, .softConflict, .deprecated] ∧
      InOrder issues := by
  have hkinds : (issuesOf Directives.ofContent "a" sternSet).toOption.map (List.map Issue.kind) =
      some [.exclusive, .missingDependency, .softConflict, .deprecated] := by
    decide
  cases hissues : issuesOf Directives.ofContent "a" sternSet with
  | error e =>
    rw [hissues] at hkinds
    cases hkinds
  | ok issues =>
    rw [hissues] at hkinds
    obtain ⟨_, hread, _⟩ := issuesOf_inOrder "a" sternSet
    exact ⟨issues, rfl, Option.some.inj hkinds, hread _ issues hissues⟩

end Activation

end PromptRules
