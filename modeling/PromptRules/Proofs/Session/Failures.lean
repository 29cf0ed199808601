import PromptRules.Proofs.Session.Afresh
import PromptRules.Proofs.Session.Consent

/-!
# Failures that come out

The surroundings may fail whenever they are asked for something: listing the prompts, toggling
one, asking a person, counting the messages. Nearly everywhere a session makes do without an
answer. What is left are the failures of plans that a program has carried out itself, without
enabling the prompt: there is no sink, the issues cannot be cleared, or the sink refuses a
toggle, when its failure comes out of the session as it is.

Results:
* `applied_error_iff`: how a list of toggles fails.
* `leads_applying`: what carrying out a plan comes to, through any sink.
* `faithful_run`: in every run the memory holds only what contents say.
* `failure_iff`: in every run, an operation lets out a failure iff it is one of these.
-/

namespace PromptRules

open Decimal Directive

variable {σ τ : Type}

/-! ## Toggles that fail -/

/-- Toggles that go through are out of the way. -/
theorem applied_append {sink : Sink σ} {before : List (String × Bool)} {w v : σ}
    (h : Applies sink before w v) (after : List (String × Bool)) :
    applied sink (before ++ after) w = applied sink after v := by
  induction h with
  | nil w => rfl
  | @cons t ts w w' ht _ ih => rw [List.cons_append, applied, ht, ih]

/-- A list of toggles fails with the failure of one of them, when those before it have been
    applied. -/
theorem applied_error_iff {sink : Sink σ} {ts : List (String × Bool)} {w : σ} {e : Fault} :
    (applied sink ts w).1 = .error e ↔
      ∃ before t after v, ts = before ++ t :: after ∧ Applies sink before w v ∧
        (sink t.1 t.2 v).answer = .error e := by
  constructor
  · intro h
    exact applied_error (Prod.ext h rfl)
  · rintro ⟨before, t, after, v, rfl, hb, ht⟩
    rw [applied_append hb, applied, ht]

namespace Session

/-- The prompts that are known already, or those that the host lists; and the surroundings
    after that. -/
def given (host : Host σ) (known : Option (List Prompt)) (w : σ) : List Prompt × σ :=
  (host.showing known).listed w

/-- The host with another sink in the place of its own, if there is one. -/
def withSink (host : Host σ) (other : Option (Sink σ)) : Host σ :=
  { host with toggle? := other <|> host.toggle? }

/-- A plan for issues fails if there is none, or if one of its toggles fails. -/
theorem resolved_error_iff {sink : Sink σ} {issues : List Issue} {d : Directives} {w : σ}
    {e : Fault} :
    (resolved sink issues d w).1 = .error e ↔
      Plan.ofIssues? issues d = none ∧ e = .notResolvable ∨
        ∃ plan, Plan.ofIssues? issues d = some plan ∧
          (applied sink plan.toggles w).1 = .error e := by
  unfold resolved
  cases Plan.ofIssues? issues d with
  | none => simp [eq_comm]
  | some plan =>
    cases h : (applied sink plan.toggles w).1 <;> simp [Except.map, h]

theorem leads_promptsOr (host : Host σ) (known : Option (List Prompt)) (w : σ) :
    Leads (promptsOr host known) w (given host known w).1 (given host known w).2 := by
  cases known with
  | none => exact leads_prompts host w
  | some ps => exact leads_pure ps w

/-- What carrying out a plan comes to, through another sink or that of the host. -/
def applying (host : Host σ) (other : Option (Sink σ)) (known : Option (List Prompt))
    (issues : List Issue) (identifier : String) (w : σ) : Except Fault Plan × σ :=
  match other <|> host.toggle? with
  | none => (.error .noSink, w)
  | some sink =>
    resolved sink issues (saidOf (given host known w).1 identifier) (given host known w).2

theorem leads_applying (host : Host σ) (other : Option (Sink σ)) (known : Option (List Prompt))
    (issues : List Issue) (identifier : String) (w : σ) :
    Leads (apply host other known issues identifier).run w
      (applying host other known issues identifier w).1
      (applying host other known issues identifier w).2 := by
  unfold apply applying
  cases other <|> host.toggle? with
  | none => exact leads_pure _ w
  | some sink =>
    refine Leads.bind_ok (leads_promptsOr host known w).lift ?_
    exact leads_carryOutPlan sink _ issues identifier _

/-! ## The memory in a run -/

theorem faithful_perform (host : Host σ) (w : Watcher) (op : Operation σ τ) {s : Session σ}
    (h : s.memo.Faithful Directives.ofContent) :
    (op.perform host w s).2.memo.Faithful Directives.ofContent := by
  have hagree := Operation.agree_performThrough reads_remembered reads_remembered host w op
  exact (hagree s s ⟨rfl, rfl, h, h⟩).2.left

/-- In every run the memory holds only what contents say. -/
theorem faithful_run (host : Host σ) (ops : List (Operation σ τ)) {start : Watcher × Session σ}
    (h : start.2.memo.Faithful Directives.ofContent) :
    (Performer.run (Operation.perform host) ops start).2.memo.Faithful Directives.ofContent := by
  induction ops generalizing start with
  | nil => exact h
  | cons op ops ih =>
    obtain ⟨w, s⟩ := start
    exact @ih ((op.perform host w s).1.2, (op.perform host w s).2) (faithful_perform host w op h)

end Session

/-! ## What comes out -/

/-- A failure that comes out of an operation. -/
inductive Failure where
  | fault (e : Fault)
  /-- A number in a content is too long to be read. -/
  | digits (e : TooManyDigits)

/-- The failure that an operation answers, if it does. -/
def Answer.failure? : Answer τ → Option Failure
  | .reading (.error e) => some (.digits e)
  | .plan (.error e) => some (.fault e)
  | .outside (.error e) => some (.fault e)
  | _ => none

open Session

/-- The ways in which an operation lets out a failure, in the surroundings `w`. -/
inductive Operation.Fails (host : Host σ) (w : σ) : Operation σ τ → Failure → Prop
  /-- A content is read without the memory, and has too long a number in it. -/
  | digits {content : Option String} {e : TooManyDigits} :
      Directives.ofContent (content.getD "") = .error e →
      Fails host w (.read content) (.digits e)
  | noSink {known : Option (List Prompt)} {issues : List Issue} {identifier : String} :
      host.toggle? = none → Fails host w (.apply none known issues identifier) (.fault .noSink)
  | notResolvable {other : Option (Sink σ)} {known : Option (List Prompt)} {issues : List Issue}
      {identifier : String} :
      (withSink host other).toggle?.isSome →
      Plan.ofIssues? issues (saidOf (given host known w).1 identifier) = none →
      Fails host w (.apply other known issues identifier) (.fault .notResolvable)
  /-- A toggle of a plan fails when those before it have been applied. -/
  | toggle {other : Option (Sink σ)} {known : Option (List Prompt)} {issues : List Issue}
      {identifier : String} {e : Fault} :
      PlanFailed (withSink host other) issues (saidOf (given host known w).1 identifier)
        (given host known w).2 e →
      Fails host w (.apply other known issues identifier) (.fault e)
  /-- The program does something with the surroundings itself, and that fails. -/
  | outside {request : Request σ τ} {e : Fault} :
      (request w).answer = .error e → Fails host w (.outside request) (.fault e)

theorem answer_aside {α : Type} (w : Watcher) (answer : α → Answer τ) (x : Action σ α)
    (s : Session σ) : (Operation.aside w answer x s).1.1 = answer (x s).1 := rfl

theorem answer_watching (x : Action σ (Option Transitions × Watcher)) (s : Session σ) :
    (Operation.watching x s : (Answer τ × Watcher) × Session σ).1.1 = .transitions (x s).1.1 := rfl

theorem failure?_reading {r : Except TooManyDigits Directives} {f : Failure} :
    (Answer.reading r : Answer τ).failure? = some f ↔ ∃ e, r = .error e ∧ f = .digits e := by
  cases r <;> simp [Answer.failure?, eq_comm]

theorem failure?_plan {r : Except Fault Plan} {f : Failure} :
    (Answer.plan r : Answer τ).failure? = some f ↔ ∃ e, r = .error e ∧ f = .fault e := by
  cases r <;> simp [Answer.failure?, eq_comm]

theorem failure?_outside {r : Except Fault τ} {f : Failure} :
    (Answer.outside r).failure? = some f ↔ ∃ e, r = .error e ∧ f = .fault e := by
  cases r <;> simp [Answer.failure?, eq_comm]

theorem fails_apply_iff {host : Host σ} {other : Option (Sink σ)} {known : Option (List Prompt)}
    {issues : List Issue} {identifier : String} {w : σ} {e : Fault} :
    (Operation.apply other known issues identifier : Operation σ τ).Fails host w (.fault e) ↔
      (applying host other known issues identifier w).1 = .error e := by
  unfold applying
  constructor
  · rintro (_ | hs | ⟨hs, hplan⟩ | ⟨sink, plan, before, t, after, v, hs, hplan, hts, hb, ht⟩)
    · simp [hs]
    · obtain ⟨sink, hs⟩ := Option.isSome_iff_exists.1 hs
      simp only [show (other <|> host.toggle?) = some sink from hs]
      exact resolved_error_iff.2 (.inl ⟨hplan, rfl⟩)
    · simp only [show (other <|> host.toggle?) = some sink from hs]
      have hfails := applied_error_iff.2 ⟨before, t, after, v, hts, hb, ht⟩
      exact resolved_error_iff.2 (.inr ⟨plan, hplan, hfails⟩)
  · intro h
    cases hs : other <|> host.toggle? with
    | none =>
      rw [hs] at h
      obtain rfl : Fault.noSink = e := Except.error.inj h
      obtain ⟨ho, hhost⟩ : other = none ∧ host.toggle? = none := by
        cases other with
        | none => exact ⟨rfl, hs⟩
        | some sink => cases hs
      rw [ho]
      exact .noSink hhost
    | some sink =>
      rw [hs] at h
      rcases resolved_error_iff.1 h with ⟨hplan, rfl⟩ | ⟨plan, hplan, hfails⟩
      · exact .notResolvable (Option.isSome_iff_exists.2 ⟨sink, hs⟩) hplan
      · obtain ⟨before, t, after, v, hts, hb, ht⟩ := applied_error_iff.1 hfails
        exact .toggle ⟨sink, plan, before, t, after, v, hs, hplan, hts, hb, ht⟩

/-- **What comes out of a session.** In every run, whatever the surroundings do and however often
    they fail, an operation lets out a failure iff that is announced, like a missing sink, or is
    the failure of a toggle of a plan that is being carried out without enabling the prompt. All
    other operations answer. -/
theorem failure_iff (host : Host σ) (w : σ) (journal : Journal) (limits : Limits)
    (clock : Nat → Float) (ops : List (Operation σ τ)) (op : Operation σ τ) (f : Failure) :
    let reached := Performer.run (Operation.perform host) ops ({}, begun w journal limits clock)
    (op.perform host reached.1 reached.2).1.1.failure? = some f ↔
      op.Fails host reached.2.world f := by
  intro reached
  have hm : reached.2.memo.Faithful Directives.ofContent :=
    faithful_run host ops (Memo.faithful_new limits)
  cases op with
  | read content =>
    rw [Operation.perform, Operation.performThrough, answer_aside, failure?_reading]
    constructor
    · rintro ⟨e, h, rfl⟩
      exact .digits h
    · rintro (h | _)
      exact ⟨_, h, rfl⟩
  | apply other known issues identifier =>
    rw [Operation.perform, Operation.performThrough, answer_aside, failure?_plan,
      (leads_applying host other known issues identifier reached.2.world reached.2 ⟨rfl, hm⟩).1]
    constructor
    · rintro ⟨e, h, rfl⟩
      exact fails_apply_iff.2 h
    · intro h
      cases f with
      | fault e => exact ⟨e, fails_apply_iff.1 h, rfl⟩
      | digits e => cases h
  | outside request =>
    rw [Operation.perform, Operation.performThrough, answer_aside, failure?_outside]
    constructor
    · rintro ⟨e, h, rfl⟩
      exact .outside h
    · rintro (_ | _ | _ | _ | h)
      exact ⟨_, h, rfl⟩
  | reset => exact ⟨nofun, nofun⟩
  | _ =>
    simp only [Operation.perform, Operation.performThrough, answer_aside, answer_watching,
      Function.comp]
    exact ⟨nofun, nofun⟩

/-- The refusal of a toggle comes out, although it is not announced: here that of the only
    toggle of a plan for the issues that the check of the prompt has found. -/
theorem refusal_comes_out :
    let issues := (check stuckSession.world.store.prompts "a" remembered stuckSession).1
    let op : Operation Store.Served Unit := .apply none none issues "a"
    ∃ e, (op.perform servedHost {} stuckSession).1.1.failure? = some (.fault e) ∧
      e = .outside "toggle refused b" ∧ e ≠ .noSink ∧ e ≠ .notResolvable := by
  intro issues op
  have hissues : issues = Activation.issuesBy said "a" stuckSession.world.store.prompts :=
    (leads_check _ "a" stuckSession.world stuckSession (stands_fresh _)).1
  have hplan : Plan.ofIssues? issues (saidOf stuckSession.world.store.prompts "a") =
      some ⟨["b"], []⟩ := by
    rw [hissues]
    decide
  have hrefused : (applied Store.Served.set [("b", false)] stuckSession.world).1 =
      .error (.outside "toggle refused b") := rfl
  have happly := (leads_applying servedHost none none issues "a" _ stuckSession (stands_fresh _)).1
  refine ⟨_, ?_, rfl, by decide, by decide⟩
  rw [Operation.perform, Operation.performThrough, answer_aside, happly]
  exact failure?_plan.2 ⟨_, resolved_error_iff.2 (.inr ⟨_, hplan, hrefused⟩), rfl⟩

end PromptRules
