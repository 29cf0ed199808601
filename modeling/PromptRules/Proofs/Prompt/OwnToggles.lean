import PromptRules.Proofs.Directive.Texts
import PromptRules.Proofs.Prompt.Clearance
import PromptRules.Proofs.Prompt.OwnReading
import PromptRules.Proofs.Session.Standing

/-!
# Plans and their own prompt

A plan prepares a prompt to be enabled, and enabling it is left to whoever has asked for the
plan. What a prompt declares may name the prompt itself: conflicts with itself are passed over
wherever they are looked for, but a prompt that requires itself and is off is missed like any
other prompt that is required.

Results:
* `self_not_mem_toDisable`: a plan does not disable its own prompt.
* `self_mem_toEnable_iff`: it enables its own prompt iff the prompt is off and requires itself.
* `toggles_self_iff`: so these are the only prompts that their own plans toggle.
-/

namespace PromptRules

open Directive

theorem Plan.mem_toggles_iff {plan : Plan} {e : String} {b : Bool} :
    (e, b) ∈ plan.toggles ↔ b = false ∧ e ∈ plan.toDisable ∨ b = true ∧ e ∈ plan.toEnable := by
  unfold toggles
  rw [List.mem_append, List.mem_map, List.mem_map]
  refine or_congr ?_ ?_
  · constructor
    · rintro ⟨x, hx, heq⟩
      cases heq
      exact ⟨rfl, hx⟩
    · rintro ⟨rfl, he⟩
      exact ⟨e, he, rfl⟩
  · constructor
    · rintro ⟨x, hx, heq⟩
      cases heq
      exact ⟨rfl, hx⟩
    · rintro ⟨rfl, he⟩
      exact ⟨e, he, rfl⟩

namespace Activation

/-- The first prompt with the identifier is off and requires itself. -/
def MissesItself (D : String → Directives) (ps : List Prompt) (identifier : String) : Prop :=
  ∃ p, Prompt.find? ps identifier = some p ∧ p.enabled = false ∧
    identifier ∈ (D p.content).list .requires

section Plain

variable {D : String → Directives} {d : Directives} {p : Prompt} {ps : List Prompt}
  {identifier : String} {plan : Plan}

/-- A plan that lists a prompt is one against the issues of a known prompt with a content. -/
theorem exists_find_of_mem_plan (h : Plan.ofIssues? (issuesBy D identifier ps) d = some plan)
    {e : String} (he : e ∈ plan.toDisable ∨ e ∈ plan.toEnable) :
    ∃ p, Prompt.find? ps identifier = some p ∧ p.content ≠ "" := by
  have hissue : ∃ i, i ∈ issuesBy D identifier ps := by
    rcases he with he | he
    · obtain ⟨i, hi, _⟩ := (Plan.mem_toDisable_iff h).1 he
      exact ⟨i, hi⟩
    · obtain ⟨i, hi, _⟩ := (Plan.mem_toEnable_iff h).1 he
      exact ⟨i, hi⟩
  obtain ⟨i, hi⟩ := hissue
  exact exists_find_of_issuesBy D (List.ne_nil_of_mem hi)

theorem self_not_mem_toDisable (h : Plan.ofIssues? (issuesBy D identifier ps) d = some plan) :
    identifier ∉ plan.toDisable := by
  intro he
  obtain ⟨p, hp, hc⟩ := exists_find_of_mem_plan h (.inl he)
  obtain ⟨k, hk⟩ := (mem_toDisable_iff_names hp hc h).1 he
  obtain ⟨o, _, ho, _, hne, _⟩ := exists_rival_of_names hk
  exact hne (ho.trans (Prompt.mem_of_find? hp).2.symm)

/-- No check asks whether a required prompt is the prompt itself. -/
theorem self_mem_toEnable_iff (hD : D "" = .empty)
    (h : Plan.ofIssues? (issuesBy D identifier ps) d = some plan) :
    identifier ∈ plan.toEnable ↔ MissesItself D ps identifier := by
  constructor
  · intro he
    obtain ⟨p, hp, hc⟩ := exists_find_of_mem_plan h (.inr he)
    obtain ⟨hr, t, ht, hoff⟩ := (mem_toEnable_issuesBy hp hc h).1 he
    obtain rfl : p = t := Option.some.inj (hp.symm.trans ht)
    exact ⟨p, hp, hoff, hr⟩
  · intro hself
    obtain ⟨p, hp, hoff, hr⟩ := hself
    exact (mem_toEnable_issuesBy hp (content_ne_of_mem_list hD hr) h).2 ⟨hr, p, hp, hoff⟩

end Plain

/-- **A plan leaves its own prompt alone**, whatever the prompts declare and whether or not two of
    them have one identifier, unless the prompt is off and requires itself; then the plan
    enables it, and nothing else becomes of it. -/
theorem toggles_self_iff {ε : Type} {read : Lookup (Except ε)} {ps : List Prompt}
    {identifier : String} {issues : List Issue} {d : Directives} {plan : Plan}
    (h : issuesOf read identifier ps = .ok issues) (hplan : Plan.ofIssues? issues d = some plan) :
    identifier ∉ plan.toDisable ∧
      (identifier ∈ plan.toEnable ↔ MissesItself (Memo.reading read) ps identifier) ∧
      ∀ b, (identifier, b) ∈ plan.toggles ↔
        b = true ∧ MissesItself (Memo.reading read) ps identifier := by
  rw [eq_issuesBy_of_ok h] at hplan
  have hdisable := self_not_mem_toDisable hplan
  have henable := self_mem_toEnable_iff (Memo.reading_empty read) hplan
  refine ⟨hdisable, henable, fun b => ?_⟩
  rw [Plan.mem_toggles_iff, henable]
  constructor
  · intro ht
    rcases ht with ⟨_, he⟩ | ht
    · exact absurd he hdisable
    · exact ht
  · intro ht
    exact .inr ht

/-- A prompt that counts itself among its rivals, which it may disable, and the prompts it has a
    say about. -/
def vainSet : List Prompt :=
  [{ identifier := "a"
     content := Comment.block "@exclusive-with a, b" ++ Comment.block "@requires c" ++
       Comment.block "@auto-disable a, b" ++ Comment.block "@auto-enable-dependencies" },
   { identifier := "b", content := "Tea.", enabled := true },
   { identifier := "c", content := "Milk." }]

theorem toggles_self_vainSet :
    ∃ issues, issuesOf Directives.ofContent "a" vainSet = .ok issues ∧
      ∃ plan, Plan.ofIssues? issues (Session.saidOf vainSet "a") = some plan ∧
        "a" ∉ plan.toDisable ∧ ("a" ∈ plan.toEnable ↔ MissesItself Session.said vainSet "a") ∧
        ∀ b, ("a", b) ∈ plan.toggles ↔ b = true ∧ MissesItself Session.said vainSet "a" := by
  have hissues : issuesOf Directives.ofContent "a" vainSet =
      .ok (issuesBy Session.said "a" vainSet) :=
    (issuesOf_eq_ok_iff rfl (by decide)).2 ⟨by decide, rfl⟩
  have hplan : Plan.ofIssues? (issuesBy Session.said "a" vainSet) (Session.saidOf vainSet "a") =
      some ⟨["b"], ["c"]⟩ := by
    decide +kernel
  exact ⟨_, hissues, _, hplan, toggles_self_iff hissues hplan⟩

/-- A prompt that requires itself, and may enable what it requires. -/
def selfishSet : List Prompt :=
  [{ identifier := "a"
     content := Comment.block "@requires a" ++ Comment.block "@auto-enable-dependencies" }]

/-- The plan of such a prompt, which can be carried out, enables the prompt. -/
theorem self_mem_toEnable_selfishSet :
    ∃ issues, issuesOf Directives.ofContent "a" selfishSet = .ok issues ∧
      Issue.allClearable issues (Session.saidOf selfishSet "a") = true ∧
      ∃ plan, Plan.ofIssues? issues (Session.saidOf selfishSet "a") = some plan ∧
        "a" ∈ plan.toEnable := by
  have hissues : issuesOf Directives.ofContent "a" selfishSet =
      .ok (issuesBy Session.said "a" selfishSet) :=
    (issuesOf_eq_ok_iff rfl (by decide)).2 ⟨by decide, rfl⟩
  have hplan : Plan.ofIssues? (issuesBy Session.said "a" selfishSet)
      (Session.saidOf selfishSet "a") = some ⟨[], ["a"]⟩ := by
    decide
  have hclear : Issue.allClearable (issuesBy Session.said "a" selfishSet)
      (Session.saidOf selfishSet "a") = true := by
    rw [← Plan.ofIssues?_isSome, hplan]
    rfl
  exact ⟨_, hissues, hclear, _, hplan, List.mem_singleton.2 rfl⟩

end Activation

end PromptRules
