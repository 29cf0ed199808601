import PromptRules.Proofs.Directive.Texts
import PromptRules.Proofs.Store.Switching

/-!
# The decision table of enabling

On a store that does not fail, and with somebody who answers every question or with nobody to
ask, a request to enable a prompt has few ways to end. The issues of the prompt, its own plan
and the answer decide which one it is.

Results:
* `line_weighed`: weighing the issues of a prompt follows a line of the table.
* `decided_concluded`: what such a line leads to, for a known prompt and for an unknown one.
* `enable_decides`: a prompt is enabled in the cases of the table and in no other, and the
  toggles applied are those of its plan and then its own.
-/

namespace PromptRules

open Directive

/-! ## A store and somebody to ask -/

/-- A store, and the questions that somebody beside it has been asked. -/
structure Attended where
  store : Store
  questions : List (String × List Issue) := []

namespace Attended

/-- How somebody answers, by all that has been asked, the present question last. -/
abbrev Answering := List (String × List Issue) → Bool

/-- Lists the prompts of the store. -/
def list : Request Attended (List Prompt) := fun w =>
  (Store.list w.store).map fun s => { w with store := s }

/-- Switches a prompt of the store. -/
def set : Sink Attended := fun identifier enabled w =>
  (Store.set identifier enabled w.store).map fun s => { w with store := s }

/-- Answers a question, which is kept. -/
def ask (answering : Answering) : Asker Attended := fun identifier issues w =>
  let questions := w.questions ++ [(identifier, issues)]
  { answer := .ok (answering questions), world := { w with questions := questions } }

/-- The store offers all it can. -/
def host : Host Attended where
  list? := some list
  toggle? := some set

theorem applied_set (ts : List (String × Bool)) (w : Attended) :
    applied set ts w =
      ((applied Store.set ts w.store).1, { w with store := (applied Store.set ts w.store).2 }) := by
  induction ts generalizing w with
  | nil => rfl
  | cons t ts ih =>
    rw [applied, applied]
    cases h : (Store.set t.1 t.2 w.store).answer with
    | ok _ =>
      have ha : (set t.1 t.2 w).answer = .ok () := h
      rw [ha]
      exact ih _
    | error e =>
      have ha : (set t.1 t.2 w).answer = .error e := h
      rw [ha]
      rfl

theorem switched_of_known {w : Attended} (hd : Distinct w.store.prompts) {p : Prompt}
    (hp : p ∈ w.store.prompts) :
    host.switched p.identifier true w =
      (true, { w with store := w.store.switched [(p.identifier, true)] }) := by
  have h := Store.switched_of_mem hd (List.mem_map_of_mem hp) true
  exact congrArg (fun r : Bool × Store => (r.1, { w with store := r.2 })) h

theorem switched_of_unknown {w : Attended} {identifier : String}
    (h : ∀ p ∈ w.store.prompts, p.identifier ≠ identifier) :
    host.switched identifier true w = (false, w) := by
  obtain ⟨ha, hw⟩ := Store.set_of_not_mem h true
  show ((Store.set identifier true w.store).answer.isOk,
    { w with store := (Store.set identifier true w.store).world }) = _
  rw [ha, hw]
  rfl

end Attended

/-! ## The table -/

/-- The cases in which issues let a prompt through: there are none; they only warn, and
    nobody who is asked says no; the prompt clears the errors itself; or somebody says yes to
    errors that it cannot clear. -/
def LetsThrough (issues : List Issue) (clears : Bool) (answer : Option Bool) : Prop :=
  issues = [] ∨
    (issues ≠ [] ∧ Issue.anyError issues = false ∧ answer ≠ some false) ∨
    (Issue.anyError issues = true ∧ clears = true) ∨
    (Issue.anyError issues = true ∧ clears = false ∧ answer = some true)

instance (issues : List Issue) (clears : Bool) (answer : Option Bool) :
    Decidable (LetsThrough issues clears answer) :=
  inferInstanceAs (Decidable (_ ∨ _ ∨ _ ∨ _))

namespace LetsThrough

variable {issues : List Issue} {clears : Bool} {answer : Option Bool}

theorem iff_of_warnings (hi : issues ≠ []) (he : Issue.anyError issues = false) :
    LetsThrough issues clears answer ↔ answer.getD true = true := by
  cases answer <;> simp [LetsThrough, hi, he]

theorem iff_of_errors (he : Issue.anyError issues = true) (hc : clears = false) :
    LetsThrough issues clears answer ↔ answer.getD false = true := by
  have hi : issues ≠ [] := by
    rintro rfl
    cases he
  cases answer <;> simp [LetsThrough, hi, he, hc]

end LetsThrough

namespace Session

open Activation

/-- The plan that is carried out against issues: none unless they hold an error, and none if
    the directives do not clear every error. -/
def planAgainst (issues : List Issue) (d : Directives) : Option Plan :=
  if Issue.anyError issues then Plan.ofIssues? issues d else none

/-- The toggles of a plan, if there is one. -/
def planToggles (plan : Option Plan) : List (String × Bool) := plan.elim [] Plan.toggles

/-- The answer of somebody, if there is one, after the questions so far. -/
def answerTo (answering : Option Attended.Answering) (question : String × List Issue)
    (questions : List (String × List Issue)) : Option Bool :=
  answering.map fun answers => answers (questions ++ [question])

/-- One line of the table: whether issues let a prompt through, the outcome so far, and the
    store and the questions by then. -/
structure Line (answering : Option Attended.Answering) (identifier : String) (issues : List Issue)
    (d : Directives) (w : Attended) (v : (Bool × Outcome) × Attended) : Prop where
  go : v.1.1 = true ↔ LetsThrough issues (Plan.ofIssues? issues d).isSome
    (answerTo answering (identifier, issues) w.questions)
  plan : v.1.2.plan = planAgainst issues d
  enabled : v.1.2.enabled = false
  store : v.2.store = w.store.switched (planToggles v.1.2.plan)
  asked : (v.1.2.asked = true ∧ v.2.questions = w.questions ++ [(identifier, issues)]) ∨
    (v.1.2.asked = false ∧ v.2.questions = w.questions)

section Table

variable {answering : Option Attended.Answering} {identifier : String} {issues : List Issue}
  {d : Directives} {w : Attended}

theorem line_free (hi : issues = []) :
    Line answering identifier issues d w
      ((true, { identifier := identifier, issues := issues }), w) where
  go := iff_of_true rfl (.inl hi)
  plan := by
    rw [planAgainst, hi]
    rfl
  enabled := rfl
  store := (Store.switched_nil _).symm
  asked := .inr ⟨rfl, rfl⟩

theorem line_cleared {plan : Plan} (he : Issue.anyError issues = true)
    (hp : Plan.ofIssues? issues d = some plan)
    (happ : applied Store.set plan.toggles w.store = (.ok (), w.store.switched plan.toggles)) :
    Line answering identifier issues d w
      (cleared Attended.set plan { identifier := identifier, issues := issues } w) := by
  have hc : cleared Attended.set plan { identifier := identifier, issues := issues } w =
      ((true, { identifier := identifier, issues := issues, plan := some plan }),
       { w with store := w.store.switched plan.toggles }) := by
    rw [cleared, Attended.applied_set, happ]
  rw [hc]
  constructor
  · exact iff_of_true rfl (.inr (.inr (.inl ⟨he, by rw [hp]; rfl⟩)))
  · rw [planAgainst, he, if_pos rfl, hp]
  · rfl
  · rfl
  · exact .inr ⟨rfl, rfl⟩

theorem line_asked {default : Bool} (hp : planAgainst issues d = none)
    (hgo : LetsThrough issues (Plan.ofIssues? issues d).isSome
        (answerTo answering (identifier, issues) w.questions) ↔
      (answerTo answering (identifier, issues) w.questions).getD default = true) :
    Line answering identifier issues d w (askedOr default (answering.map Attended.ask)
      { identifier := identifier, issues := issues } w) := by
  cases answering with
  | none => exact ⟨hgo.symm, hp.symm, rfl, (Store.switched_nil _).symm, .inr ⟨rfl, rfl⟩⟩
  | some answers => exact ⟨hgo.symm, hp.symm, rfl, (Store.switched_nil _).symm, .inl ⟨rfl, rfl⟩⟩

/-- **Weighing follows a line of the table.** -/
theorem line_weighed (hd : Distinct w.store.prompts) (answering : Option Attended.Answering)
    (identifier : String) :
    Line answering identifier (issuesBy said identifier w.store.prompts)
      (saidOf w.store.prompts identifier) w
      (weighed Attended.host (answering.map Attended.ask) (saidOf w.store.prompts identifier)
        (opening w.store.prompts identifier) w) := by
  have hissues : (opening w.store.prompts identifier).issues =
      issuesBy said identifier w.store.prompts := rfl
  unfold weighed
  rw [hissues]
  split
  · rename_i hi
    exact line_free hi
  · rename_i hi
    cases he : Issue.anyError (issuesBy said identifier w.store.prompts) with
    | false =>
      refine line_asked ?_ (LetsThrough.iff_of_warnings hi he)
      rw [planAgainst, he]
      rfl
    | true =>
      rw [if_pos rfl, weighedErrors, hissues]
      cases hp : Plan.ofIssues? (issuesBy said identifier w.store.prompts)
          (saidOf w.store.prompts identifier) with
      | none =>
        refine line_asked ?_ (LetsThrough.iff_of_errors he ?_)
        · rw [planAgainst, he, if_pos rfl, hp]
        · rw [hp, Option.isSome_none]
      | some plan =>
        obtain ⟨p, hfind, hc⟩ := exists_find_of_issuesBy said hi
        exact line_cleared he hp (Store.applied_plan_eq rfl hd hfind hc hp)

/-- A plan that is carried out lets the prompt through. -/
theorem planAgainst_eq_none {answer : Option Bool}
    (h : ¬ LetsThrough issues (Plan.ofIssues? issues d).isSome answer) :
    planAgainst issues d = none := by
  unfold planAgainst
  split
  · rename_i he
    refine Option.not_isSome_iff_eq_none.1 fun hp => h ?_
    exact .inr (.inr (.inl ⟨he, hp⟩))
  · rfl

end Table

/-! ## The request -/

/-- What a request to enable a prompt comes to on an attended store: `granted` tells whether
    the prompt is enabled, `plan` what is carried out before. -/
structure Decided (granted : Prop) (plan : Option Plan) (identifier : String)
    (issues : List Issue) (w : Attended) (r : Outcome × Attended) : Prop where
  /-- The prompt's own toggle is the last one applied, if the request is granted. -/
  commits_iff : (∃ before, r.2.store.toggles =
    w.store.toggles ++ (before ++ [(identifier, true)])) ↔ granted
  /-- Then the toggles are those of the plan and the prompt's own. -/
  switched : granted → r.2.store = w.store.switched (planToggles plan ++ [(identifier, true)])
  unchanged : ¬ granted → r.2.store = w.store
  enabled_iff : r.1.enabled = true ↔ granted
  asked : (r.1.asked = true ∧ r.2.questions = w.questions ++ [(identifier, issues)]) ∨
    (r.1.asked = false ∧ r.2.questions = w.questions)

section Request

variable {answering : Option Attended.Answering} {identifier : String} {issues : List Issue}
  {d : Directives} {w : Attended} {v : (Bool × Outcome) × Attended} {granted : Prop}

theorem commits_of_switched {plan : Option Plan} {s : Store}
    (h : s = w.store.switched (planToggles plan ++ [(identifier, true)])) :
    ∃ before, s.toggles = w.store.toggles ++ (before ++ [(identifier, true)]) :=
  ⟨planToggles plan, by rw [h, Store.switched]⟩

theorem not_commits_of_unchanged {s : Store} (h : s = w.store) :
    ¬ ∃ before, s.toggles = w.store.toggles ++ (before ++ [(identifier, true)]) := by
  rintro ⟨before, hb⟩
  rw [h] at hb
  have hnil := List.append_right_eq_self.1 hb.symm
  exact List.append_ne_nil_of_right_ne_nil before (List.cons_ne_nil _ _) hnil

theorem decided_of_granted (hl : Line answering identifier issues d w v)
    (hd : Distinct w.store.prompts) {p : Prompt} (hp : p ∈ w.store.prompts)
    (hid : p.identifier = identifier) (hgo : v.1.1 = true) (hg : granted) :
    Decided granted (planAgainst issues d) identifier issues w
      (concluded Attended.host identifier v) := by
  obtain ⟨⟨go, o⟩, w'⟩ := v
  obtain rfl : go = true := hgo
  have hstore : w'.store = w.store.switched (planToggles (planAgainst issues d)) :=
    hl.plan ▸ hl.store
  have hend : concluded Attended.host identifier ((true, o), w') =
      ({ o with enabled := true },
       { w' with store := w.store.switched (planToggles (planAgainst issues d) ++
          [(identifier, true)]) }) := by
    have hd' : Distinct w'.store.prompts := hstore ▸ Store.distinct_switched hd _
    have hp' : p.switchAll (planToggles (planAgainst issues d)) ∈ w'.store.prompts :=
      hstore ▸ List.mem_map_of_mem hp
    have hsw := Attended.switched_of_known hd' hp'
    rw [Prompt.identifier_switchAll, hid] at hsw
    rw [concluded, hsw, hstore, Store.switched_switched]
  rw [hend]
  exact ⟨iff_of_true (commits_of_switched rfl) hg, fun _ => rfl, fun h => absurd hg h,
    iff_of_true rfl hg, hl.asked⟩

theorem decided_of_refused (hl : Line answering identifier issues d w v)
    (hplan : planAgainst issues d = none) (hg : ¬ granted)
    (hend : concluded Attended.host identifier v = (v.1.2, v.2)) :
    Decided granted (planAgainst issues d) identifier issues w
      (concluded Attended.host identifier v) := by
  have hstore : v.2.store = w.store := by
    rw [hl.store, hl.plan, hplan]
    exact Store.switched_nil _
  rw [hend]
  exact ⟨iff_of_false (not_commits_of_unchanged hstore) hg, fun h => absurd h hg, fun _ => hstore,
    iff_of_false (by simp [hl.enabled]) hg, hl.asked⟩

theorem decided_concluded (hl : Line answering identifier
      (issuesBy said identifier w.store.prompts) d w v) (hd : Distinct w.store.prompts) :
    Decided ((∃ p ∈ w.store.prompts, p.identifier = identifier) ∧
        LetsThrough (issuesBy said identifier w.store.prompts)
          (Plan.ofIssues? (issuesBy said identifier w.store.prompts) d).isSome
          (answerTo answering (identifier, issuesBy said identifier w.store.prompts) w.questions))
      (planAgainst (issuesBy said identifier w.store.prompts) d) identifier
      (issuesBy said identifier w.store.prompts) w (concluded Attended.host identifier v) := by
  by_cases hk : ∃ p ∈ w.store.prompts, p.identifier = identifier
  · cases hgo : v.1.1 with
    | true =>
      obtain ⟨p, hp, hid⟩ := hk
      exact decided_of_granted hl hd hp hid hgo ⟨⟨p, hp, hid⟩, hl.go.1 hgo⟩
    | false =>
      have hno := mt hl.go.2 (by simp [hgo])
      refine decided_of_refused hl (planAgainst_eq_none hno) (fun h => hno h.2) ?_
      obtain ⟨⟨go, o⟩, w'⟩ := v
      obtain rfl : go = false := hgo
      rfl
  · -- Nothing is raised against an unknown prompt, and the store refuses its toggle.
    have hnone : issuesBy said identifier w.store.prompts = [] := by
      by_contra hi
      obtain ⟨p, hp, _⟩ := exists_find_of_issuesBy said hi
      exact hk ⟨p, Prompt.mem_of_find? hp⟩
    have hplan : planAgainst (issuesBy said identifier w.store.prompts) d = none := by
      rw [planAgainst, hnone]
      rfl
    refine decided_of_refused hl hplan (fun h => hk h.1) ?_
    have hstore : v.2.store = w.store := by
      rw [hl.store, hl.plan, hplan]
      exact Store.switched_nil _
    have hen := hl.enabled
    obtain ⟨⟨go, o⟩, w'⟩ := v
    have hne : ∀ p ∈ w'.store.prompts, p.identifier ≠ identifier := by
      intro p hp hid
      exact hk ⟨p, hstore ▸ hp, hid⟩
    cases go with
    | false => rfl
    | true =>
      rw [concluded, Attended.switched_of_unknown hne, ← hen]

end Request

/-- A session on a prompt that excludes another one and may disable it, and on that other one,
    which is on. -/
def rivalSession : Session Attended :=
  fresh
    { store := { prompts :=
        [{ identifier := "a"
           content := Comment.block "@exclusive-with b" ++ Comment.block "@auto-disable b" },
         { identifier := "b", content := "Tea.", enabled := true }] } }

end Session

end PromptRules
