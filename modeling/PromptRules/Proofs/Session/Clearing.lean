import PromptRules.Proofs.Directive.Texts
import PromptRules.Proofs.Store.Switching

/-!
# Checking a prompt again after its plan

A plan clears the errors that were reported, and is not weighed against the state that it
leads to. What it enables may be a rival of the prompt, and what it disables may be required
by it; one of these is the case whenever a second check finds an error, and only then.

Results:
* `anyError_settled_iff`: what stands in the way of a prompt after its plan.
* `leads_clearing`: a check, the plan and another check, without the memory.
* `anyError_after_iff`: the second check finds an error iff the plan enabled a rival or disabled
  what the prompt requires.
-/

namespace PromptRules

open Directive Activation

/-! ## The prompts after a plan -/

section Settled

variable {D : String → Directives} {d : Directives} {p : Prompt} {ps : List Prompt} {plan : Plan}

theorem rivals_settled_iff {o : Prompt} :
    Rivals D (plan.settled p) (plan.settled o) ↔ Rivals D p o := by
  simp only [Rivals, Plan.identifier_settled, Plan.content_settled]

theorem enabled_settled_iff {o : Prompt} :
    (plan.settled o).enabled = true ↔
      o.identifier ∈ plan.toEnable ∨ o.identifier ∉ plan.toDisable ∧ o.enabled = true := by
  rw [Plan.enabled_settled]
  by_cases he : o.identifier ∈ plan.toEnable <;> by_cases hd : o.identifier ∈ plan.toDisable <;>
    simp [he, hd]

variable (hD : D "" = .empty) (hd : Distinct ps) (hp : p ∈ ps) (hc : p.content ≠ "")
  (h : Plan.ofIssues? (issuesBy D p.identifier ps) d = some plan)

include hD hd hp hc h

/-- The rivals that are enabled after a plan are those that it has enabled. -/
theorem enabled_rival_settled_iff :
    (∃ o ∈ ps.map plan.settled, o.enabled = true ∧ Rivals D (plan.settled p) o) ↔
      ∃ o ∈ ps, o.identifier ∈ plan.toEnable ∧ Rivals D p o := by
  have hf := hd.find?_iff.2 ⟨hp, rfl⟩
  constructor
  · rintro ⟨o', ho', hen, hr⟩
    obtain ⟨o, ho, rfl⟩ := List.mem_map.1 ho'
    rw [rivals_settled_iff] at hr
    rcases enabled_settled_iff.1 hen with he | ⟨hnot, hoe⟩
    · exact ⟨o, ho, he, hr⟩
    · exact absurd ((mem_toDisable_issuesBy hD hd hf hc h).2 ⟨o, ho, rfl, hoe, hr⟩) hnot
  · rintro ⟨o, ho, he, hr⟩
    exact ⟨plan.settled o, List.mem_map_of_mem ho, enabled_settled_iff.2 (.inl he),
      rivals_settled_iff.2 hr⟩

/-- The required prompts that are off after a plan are those that it has disabled. -/
theorem off_settled_iff {r : String} (hr : r ∈ (D p.content).list .requires) :
    (∀ t ∈ Prompt.find? (ps.map plan.settled) r, t.enabled = false) ↔ r ∈ plan.toDisable := by
  have hf := hd.find?_iff.2 ⟨hp, rfl⟩
  rw [Prompt.find?_map plan.identifier_settled]
  constructor
  · intro hoff
    cases ht : Prompt.find? ps r with
    | none =>
      -- A required prompt that does not exist leaves no plan.
      have hnone : ∀ t ∈ Prompt.find? ps r, t.enabled = false := by simp [ht]
      obtain ⟨_, t, ht'⟩ := known_of_plan hf hc h hr hnone
      rw [ht] at ht'
      cases ht'
    | some t =>
      have hid := (Prompt.mem_of_find? ht).2
      rw [ht] at hoff
      have hset := hoff (plan.settled t) rfl
      rw [← Bool.not_eq_true, enabled_settled_iff, not_or, hid] at hset
      by_contra hnot
      have hte : t.enabled = false := by
        rw [← Bool.not_eq_true]
        exact fun hte => hset.2 ⟨hnot, hte⟩
      exact hset.1 ((mem_toEnable_issuesBy hf hc h).2 ⟨hr, t, ht, hte⟩)
  · intro hdis
    obtain ⟨o, ho, rfl, hoe, _⟩ := (mem_toDisable_issuesBy hD hd hf hc h).1 hdis
    have hfo := hd.find?_iff.2 ⟨ho, rfl⟩
    rw [hfo]
    rintro _ ⟨⟩
    rw [← Bool.not_eq_true, enabled_settled_iff]
    rintro (he | ⟨hnot, _⟩)
    · -- What a plan enables was off, and this prompt was on.
      obtain ⟨_, t, ht, hte⟩ := (mem_toEnable_issuesBy hf hc h).1 he
      rw [hfo] at ht
      cases ht
      rw [hoe] at hte
      cases hte
    · exact hnot hdis

/-- **What stands in the way of a prompt after its plan** is what the plan has brought about. -/
theorem anyError_settled_iff :
    Issue.anyError (issuesBy D p.identifier (ps.map plan.settled)) = true ↔
      (∃ o ∈ ps, o.identifier ∈ plan.toEnable ∧ Rivals D p o) ∨
        ∃ r ∈ (D p.content).list .requires, r ∈ plan.toDisable := by
  have hf : Prompt.find? (ps.map plan.settled) p.identifier = some (plan.settled p) := by
    rw [Prompt.find?_map plan.identifier_settled, hd.find?_iff.2 ⟨hp, rfl⟩]
    rfl
  have hc' : (plan.settled p).content ≠ "" := by rwa [Plan.content_settled]
  rw [anyError_iff hD (hd.map plan.identifier_settled) hf hc',
    enabled_rival_settled_iff hD hd hp hc h, Plan.content_settled]
  refine or_congr_right (exists_congr fun r => and_congr_right fun hr => ?_)
  exact off_settled_iff hD hd hp hc h hr

end Settled

/-! ## A check, the plan, and another check -/

namespace Session

variable {σ : Type}

/-- What a check, the plan of the prompt and another check come to. -/
structure Clearing where
  before : List Issue
  able : Bool
  done : Except Fault Plan
  after : List Issue

/-- Checks a prompt, clears the errors against it by its plan, and checks it again. -/
def clearing (host : Host σ) (identifier : String) : Action σ Clearing := do
  let ps ← prompts host
  let before ← check ps identifier
  let able ← canClear ps before identifier
  let done ← (apply host none (some ps) before identifier).run
  return { before := before, able := able, done := done
           after := ← check (← prompts host) identifier }

/-- In a store, clearing runs without the memory. -/
theorem leads_clearing (identifier : String) (w : Store) :
    let before := issuesBy said identifier w.prompts
    let d := saidOf w.prompts identifier
    let r := resolved Store.set before d w
    Leads (clearing Store.host identifier) w
      { before := before, able := Issue.allClearable before d, done := r.1
        after := issuesBy said identifier r.2.prompts } r.2 := by
  intro before d r
  refine (leads_prompts Store.host w).bind ?_
  refine (leads_check w.prompts identifier w).bind ?_
  refine (leads_canClear w.prompts before identifier w).bind ?_
  refine (leads_apply rfl w.prompts before identifier w).bind ?_
  refine (leads_prompts Store.host r.2).bind ?_
  exact (leads_check r.2.prompts identifier r.2).bind (leads_pure _ r.2)

/-- **After its plan a prompt has an error against it** iff the plan has enabled a rival of the
    prompt or disabled what the prompt requires. The plan is always carried out, toggle by
    toggle, if a check finds that it can be. -/
theorem anyError_after_iff {s : Session Store} (hm : s.memo.Faithful Directives.ofContent)
    (hd : Distinct s.world.prompts) {p : Prompt} (hp : p ∈ s.world.prompts) (hc : p.content ≠ "")
    (ha : (clearing Store.host p.identifier s).1.able = true) :
    ∃ plan, (clearing Store.host p.identifier s).1.done = .ok plan ∧
      (clearing Store.host p.identifier s).2.world.toggles = s.world.toggles ++ plan.toggles ∧
      (Issue.anyError (clearing Store.host p.identifier s).1.after = true ↔
        (∃ o ∈ s.world.prompts, o.identifier ∈ plan.toEnable ∧ Rivals said p o) ∨
          ∃ r ∈ (said p.content).list .requires, r ∈ plan.toDisable) := by
  obtain ⟨hres, hw, _⟩ := leads_clearing p.identifier s.world s ⟨rfl, hm⟩
  rw [hres] at ha ⊢
  rw [hw]
  rw [← Plan.ofIssues?_isSome] at ha
  obtain ⟨plan, hplan⟩ := Option.isSome_iff_exists.1 ha
  obtain ⟨w', happ, hps⟩ := Store.applied_plan rfl hd (hd.find?_iff.2 ⟨hp, rfl⟩) hc hplan
  have hr : resolved Store.set (issuesBy said p.identifier s.world.prompts)
      (saidOf s.world.prompts p.identifier) s.world = (.ok plan, w') := by
    rw [resolved, hplan]
    simp only [happ]
    rfl
  rw [hr]
  refine ⟨plan, rfl, Store.toggles_applied happ, ?_⟩
  simp only [hps]
  exact anyError_settled_iff rfl hd hp hc hplan

/-- A prompt that may enable the other one, which it requires. -/
def needy : Prompt where
  identifier := "a"
  content := Comment.block "@requires b" ++ Comment.block "@auto-enable-dependencies"

/-- A session on a prompt that requires another one, which says the rest. -/
def needySession (rest : String) : Session Store :=
  fresh { prompts := [needy, { identifier := "b", content := rest }] }

theorem anyError_after_needy :
    (clearing Store.host "a" (needySession "Help.")).1.able = true ∧
      ∃ plan, (clearing Store.host "a" (needySession "Help.")).1.done = .ok plan ∧
        (clearing Store.host "a" (needySession "Help.")).2.world.toggles = [] ++ plan.toggles ∧
        (Issue.anyError (clearing Store.host "a" (needySession "Help.")).1.after = true ↔
          (∃ o ∈ (needySession "Help.").world.prompts,
            o.identifier ∈ plan.toEnable ∧ Rivals said needy o) ∨
            ∃ r ∈ (said needy.content).list .requires, r ∈ plan.toDisable) := by
  have ha : (clearing Store.host "a" (needySession "Help.")).1.able = true := by
    rw [(leads_clearing "a" _ (needySession "Help.") (stands_fresh _)).1]
    decide
  exact ⟨ha, anyError_after_iff (stands_fresh _).2 (by decide) (p := needy) List.mem_cons_self
    (by decide) ha⟩

/-- The plan itself can bring about an error: here the second prompt excludes the first, which
    nobody sees as long as it is off. -/
theorem anyError_after_needy_of_rival :
    let s := needySession (Comment.block "@exclusive-with a")
    let c := (clearing Store.host "a" s).1
    (s.memo.Faithful Directives.ofContent ∧ Distinct s.world.prompts ∧
      needy ∈ s.world.prompts ∧ needy.content ≠ "") ∧
      Issue.anyError c.before = true ∧ c.able = true ∧ c.done = .ok ⟨[], ["b"]⟩ ∧
      Issue.anyError c.after = true := by
  intro s c
  have hs : s.Stands s.world := stands_fresh _
  have hc := (leads_clearing "a" s.world s hs).1
  refine ⟨⟨hs.2, by decide, List.mem_cons_self, by decide⟩, ?_⟩
  unfold c
  rw [hc]
  decide

end Session

end PromptRules
