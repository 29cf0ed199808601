import PromptRules.Proofs.Prompt.ExactPlans
import PromptRules.Proofs.Session.Failures
import PromptRules.Proofs.Store.Switching

/-!
# Resolutions of a session

A resolution checks a prompt and clears the errors against it by its own plan. Either some
issue leaves no plan, and then nothing is asked of the sink, or the plan is carried out; in a
store this flips the states of the prompts that the plan lists and changes nothing else.

Results:
* `resolved_notResolvable_iff`: clearing calls no sink and fails iff there is no plan.
* `settled_eq_flipped`: an exact plan flips whom it lists.
* `resolution_exact`: when a resolution fails, and what it does otherwise.
-/

namespace PromptRules

open Directive

variable {σ : Type}

/-! ## Calls of a sink -/

/-- The sink, where the surroundings also keep what it is called with. -/
def Sink.recorded (sink : Sink σ) : Sink (σ × List (String × Bool)) := fun identifier enabled w =>
  (sink identifier enabled w.1).map fun v => (v, w.2 ++ [(identifier, enabled)])

/-- Calls are only added. -/
theorem prefix_calls_applied (sink : Sink σ) (ts : List (String × Bool))
    (w : σ × List (String × Bool)) : w.2 <+: (applied sink.recorded ts w).2.2 := by
  induction ts generalizing w with
  | nil => exact List.prefix_rfl
  | cons t ts ih =>
    have hcall : w.2 <+: (sink.recorded t.1 t.2 w).world.2 := List.prefix_append _ _
    rw [applied]
    cases (sink.recorded t.1 t.2 w).answer with
    | error e => exact hcall
    | ok _ => exact hcall.trans (ih _)

/-- A sink is called unless there is nothing to toggle. -/
theorem eq_nil_of_no_calls {sink : Sink σ} {ts : List (String × Bool)}
    {w : σ × List (String × Bool)} (h : (applied sink.recorded ts w).2.2 = w.2) : ts = [] := by
  cases ts with
  | nil => rfl
  | cons t ts =>
    have hlater : w.2 ++ [t] <+: (applied sink.recorded (t :: ts) w).2.2 := by
      rw [applied]
      cases (sink.recorded t.1 t.2 w).answer with
      | error e => exact List.prefix_rfl
      | ok _ => exact prefix_calls_applied sink ts (sink.recorded t.1 t.2 w).world
    rw [h] at hlater
    have hlength := hlater.length_le
    rw [List.length_append, List.length_singleton] at hlength
    omega

/-- Clearing fails for want of a plan, and calls nobody, iff there is no plan. -/
theorem Session.resolved_notResolvable_iff {sink : Sink σ} {issues : List Issue} {d : Directives}
    {w : σ × List (String × Bool)} :
    (resolved sink.recorded issues d w).1 = .error .notResolvable ∧
        (resolved sink.recorded issues d w).2.2 = w.2 ↔
      Plan.ofIssues? issues d = none := by
  constructor
  · intro h
    obtain ⟨hfails, hcalls⟩ := h
    rcases resolved_error_iff.1 hfails with ⟨hnone, _⟩ | ⟨plan, hplan, hfails⟩
    · exact hnone
    · -- The failure could only be that of a toggle, but there was none.
      rw [resolved, hplan] at hcalls
      rw [eq_nil_of_no_calls hcalls] at hfails
      cases hfails
  · intro hnone
    rw [resolved, hnone]
    exact ⟨rfl, rfl⟩

/-! ## Flipping prompts -/

/-- The prompt with its state flipped if the plan lists it. -/
def Plan.flipped (plan : Plan) (p : Prompt) : Prompt :=
  if p.identifier ∈ plan.toDisable ∨ p.identifier ∈ plan.toEnable then
    { p with enabled := !p.enabled }
  else p

theorem Plan.Exact.settled_eq_flipped {plan : Plan} {ps : List Prompt} {issues : List Issue}
    (h : plan.Exact ps issues) (hd : Distinct ps) {q : Prompt} (hq : q ∈ ps) :
    plan.settled q = plan.flipped q := by
  have hsettled : plan.settled q = { q with enabled := (plan.settled q).enabled } :=
    Prompt.switchAll_eq plan.toggles q
  rw [hsettled, Plan.enabled_settled, Plan.flipped]
  by_cases hen : q.identifier ∈ plan.toEnable
  · obtain ⟨r, hr, hid, hoff⟩ := h.off _ hen
    rw [hd.eq hr hq hid] at hoff
    rw [if_pos hen, if_pos (.inr hen), hoff]
    rfl
  · by_cases hdis : q.identifier ∈ plan.toDisable
    · obtain ⟨r, hr, hid, hon⟩ := h.on _ hdis
      rw [hd.eq hr hq hid] at hon
      rw [if_neg hen, if_pos hdis, if_pos (.inl hdis), hon]
      rfl
    · rw [if_neg hen, if_neg hdis, if_neg (not_or.2 ⟨hdis, hen⟩)]

/-! ## A resolution -/

namespace Session

/-- Checks a prompt and clears the errors against it, through a sink of the caller's or that of
    the host. -/
def resolution (host : Host σ) (other : Option (Sink σ)) (ps : List Prompt) (identifier : String) :
    Action σ (List Issue × Except Fault Plan) := do
  let issues ← check ps identifier
  return (issues, ← (apply host other (some ps) issues identifier).run)

theorem leads_resolution (host : Host σ) (other : Option (Sink σ)) (ps : List Prompt)
    (identifier : String) (w : σ) :
    let issues := Activation.issuesBy said identifier ps
    let done := applying host other (some ps) issues identifier w
    Leads (resolution host other ps identifier) w (issues, done.1) done.2 := by
  intro issues done
  refine (leads_check ps identifier w).bind ?_
  exact (leads_applying host other (some ps) issues identifier w).bind (leads_pure _ _)

section Exact

variable {ps : List Prompt} {p : Prompt} (hd : Distinct ps) (hp : p ∈ ps)

include hd hp

theorem saidOf_of_mem : saidOf ps p.identifier = said p.content := by
  rw [saidOf, hd.find?_iff.2 ⟨hp, rfl⟩]

/-- Through any sink, a resolution fails for want of a plan, and without a call, iff some issue
    leaves none. -/
theorem resolution_notResolvable_iff (host : Host (σ × List (String × Bool))) (sink : Sink σ)
    {s : Session (σ × List (String × Bool))} (hs : s.memo.Faithful Directives.ofContent) :
    let r := resolution host (some sink.recorded) ps p.identifier s
    r.1.2 = .error .notResolvable ∧ r.2.world.2 = s.world.2 ↔
      Issue.Blocked r.1.1 (said p.content) := by
  intro r
  let issues := Activation.issuesBy said p.identifier ps
  obtain ⟨hr, hw, _⟩ := leads_resolution host (some sink.recorded) ps p.identifier s.world s
    ⟨rfl, hs⟩
  have hdone : applying host (some sink.recorded) (some ps) issues p.identifier s.world =
      resolved sink.recorded issues (said p.content) s.world := by
    rw [← saidOf_of_mem hd hp]
    rfl
  rw [hr, hw, hdone, resolved_notResolvable_iff, Activation.ofIssues?_issuesBy_eq_none_iff]

/-- In a store nothing else can keep the plan from being carried out. -/
theorem resolution_of_not_blocked (hc : p.content ≠ "") {s : Session Store}
    (hs : s.memo.Faithful Directives.ofContent) (hps : s.world.prompts = ps) :
    let r := resolution Store.host none ps p.identifier s
    ¬ Issue.Blocked r.1.1 (said p.content) →
      ∃ plan, r.1.2 = .ok plan ∧ plan.Exact ps r.1.1 ∧
        r.2.world.prompts = ps.map plan.flipped ∧
        r.2.world.toggles = s.world.toggles ++ plan.toggles := by
  intro r hfree
  subst hps
  let issues := Activation.issuesBy said p.identifier s.world.prompts
  obtain ⟨hr, hw, _⟩ := leads_resolution Store.host none s.world.prompts p.identifier s.world s
    ⟨rfl, hs⟩
  rw [hr, ← Activation.ofIssues?_issuesBy_eq_none_iff] at hfree
  obtain ⟨plan, hplan⟩ := Option.ne_none_iff_exists'.1 hfree
  have hexact := Activation.exact_of_plan hd hp hc hplan
  have happ := Store.applied_plan_eq (D := said) rfl hd (hd.find?_iff.2 ⟨hp, rfl⟩) hc hplan
  have hdone : applying Store.host none (some s.world.prompts) issues p.identifier s.world =
      (.ok plan, s.world.switched plan.toggles) := by
    show resolved Store.set issues (saidOf s.world.prompts p.identifier) s.world = _
    rw [saidOf_of_mem hd hp, resolved, hplan]
    simp only [happ]
    rfl
  rw [hr, hw, hdone]
  refine ⟨plan, rfl, hexact, ?_, rfl⟩
  exact List.map_congr_left fun q hq => hexact.settled_eq_flipped hd hq

/-- **A resolution is exact.** Through any sink, it fails for want of a plan, and without a call,
    iff some issue leaves none. Otherwise it succeeds in a store, with the plan that lists
    exactly what the issues name, and it flips the states of these prompts and does nothing else
    to any prompt. -/
theorem resolution_exact (hc : p.content ≠ "") :
    (∀ (σ : Type) (host : Host (σ × List (String × Bool))) (sink : Sink σ)
        (s : Session (σ × List (String × Bool))), s.memo.Faithful Directives.ofContent →
      let r := resolution host (some sink.recorded) ps p.identifier s
      r.1.2 = .error .notResolvable ∧ r.2.world.2 = s.world.2 ↔
        Issue.Blocked r.1.1 (said p.content)) ∧
      ∀ s : Session Store, s.memo.Faithful Directives.ofContent → s.world.prompts = ps →
        let r := resolution Store.host none ps p.identifier s
        ¬ Issue.Blocked r.1.1 (said p.content) →
          ∃ plan, r.1.2 = .ok plan ∧ plan.Exact ps r.1.1 ∧
            r.2.world.prompts = ps.map plan.flipped ∧
            r.2.world.toggles = s.world.toggles ++ plan.toggles :=
  ⟨fun _ host sink _ hs => resolution_notResolvable_iff hd hp host sink hs,
    fun _ hs hps => resolution_of_not_blocked hd hp hc hs hps⟩

end Exact

/-- A prompt that may disable its rival and enable what it requires. -/
def able : Prompt where
  identifier := "a"
  content := Comment.block "@exclusive-with b, d" ++ Comment.block "@requires c, b, c" ++
    Comment.block "@mutual-exclusive-group main" ++ Comment.block "@auto-disable b" ++
    Comment.block "@auto-enable-dependencies"

/-- The prompt among others. One of them it excludes, as that one does the prompt; they are of one
    group as well, and the prompt even requires it. -/
def ableSet : List Prompt :=
  [able,
   { identifier := "b"
     content := Comment.block "@exclusive-with a" ++ Comment.block "@mutual-exclusive-group main"
     enabled := true },
   { identifier := "c", content := Comment.block "@mutual-exclusive-group main" },
   { identifier := "d" }]

/-- The resolution of the prompt in a store that holds these prompts. -/
def ableResolution : (List Issue × Except Fault Plan) × Session Store :=
  resolution Store.host none ableSet able.identifier (fresh { prompts := ableSet })

/-- The resolution of the prompt through a sink whose calls are kept. -/
def ableCalls : (List Issue × Except Fault Plan) × Session (Store × List (String × Bool)) :=
  resolution { list? := none, toggle? := none } (some (Sink.recorded Store.set)) ableSet
    able.identifier (fresh ({ prompts := ableSet }, []))

theorem resolution_exact_ableSet :
    (ableCalls.1.2 = .error .notResolvable ∧ ableCalls.2.world.2 = [] ↔
        Issue.Blocked ableCalls.1.1 (said able.content)) ∧
      ¬ Issue.Blocked ableResolution.1.1 (said able.content) ∧
      ∃ plan, ableResolution.1.2 = .ok plan ∧ plan.Exact ableSet ableResolution.1.1 ∧
        ableResolution.2.world.prompts = ableSet.map plan.flipped ∧
        ableResolution.2.world.toggles = [] ++ plan.toggles := by
  have hd : Distinct ableSet := by decide
  have hp : able ∈ ableSet := List.mem_cons_self
  have hfree : ¬ Issue.Blocked ableResolution.1.1 (said able.content) := by
    unfold ableResolution
    rw [(leads_resolution Store.host none ableSet able.identifier _ _ (stands_fresh _)).1]
    decide +kernel
  obtain ⟨hblocked, hplan⟩ := resolution_exact hd hp (by decide)
  unfold ableCalls
  unfold ableResolution at hfree ⊢
  refine ⟨?_, hfree, ?_⟩
  · exact hblocked Store _ Store.set _ (stands_fresh _).2
  · exact hplan _ (stands_fresh _).2 rfl hfree

end Session

end PromptRules
