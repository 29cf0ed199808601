import PromptRules.Proofs.Journal.Toggles
import PromptRules.Proofs.Session.Failures
import PromptRules.Proofs.Session.Moves
import PromptRules.Proofs.Store.Replay

/-!
# What plans leave behind

A plan that is carried out toggles prompts one by one, but is recorded as a whole, at its end.
If one of its toggles fails, those before it have been applied and nothing is recorded. Here is
what plans and requests to enable a prompt add to the log of a store, and what they add to the
journal, each in terms of what they answer.

Results:
* `Host.Holds.toggles_resolved`, `Host.Holds.toggles_enabling`: what they add to the log.
* `journal_apply`, `journal_enable`: what they add to the journal.
* `toggles_noted`, `toggles_recorded`: what the journal tells of it.
-/

namespace PromptRules

open Directive Session

variable {σ : Type} {host : Host σ} {store : σ → Store}

/-! ## Toggles that get through -/

/-- Those of the toggles that are applied, up to the first that fails. -/
def gotThrough (sink : Sink σ) : List (String × Bool) → σ → List (String × Bool)
  | [], _ => []
  | t :: ts, w =>
    match (sink t.1 t.2 w).answer with
    | .ok () => t :: gotThrough sink ts (sink t.1 t.2 w).world
    | .error _ => []

theorem gotThrough_of_ok {sink : Sink σ} {ts : List (String × Bool)} {w : σ}
    (h : (applied sink ts w).1 = .ok ()) : gotThrough sink ts w = ts := by
  induction ts generalizing w with
  | nil => rfl
  | cons t ts ih =>
    rw [applied] at h
    rw [gotThrough]
    cases ha : (sink t.1 t.2 w).answer with
    | ok _ =>
      rw [ha] at h
      exact congrArg (t :: ·) (ih h)
    | error e =>
      rw [ha] at h
      cases h

namespace Host.Holds

/-- The store logs the toggles that get through. -/
theorem toggles_applied (h : host.Holds store) {sink : Sink σ} (hs : sink ∈ host.toggle?)
    (ts : List (String × Bool)) (w : σ) :
    (store (applied sink ts w).2).toggles = (store w).toggles ++ gotThrough sink ts w := by
  induction ts generalizing w with
  | nil => exact (List.append_nil _).symm
  | cons t ts ih =>
    rw [applied, gotThrough]
    rcases h.toggle sink hs t.1 t.2 w with ⟨ha, hstore⟩ | ⟨⟨e, ha⟩, hstore⟩
    · rw [ha]
      simp only
      rw [ih, (Store.toggle?_eq_some_iff.1 hstore).2.2, List.append_assoc, List.singleton_append]
    · rw [ha]
      simp only
      rw [hstore, List.append_nil]

end Host.Holds

/-! ## What the log of a store gets -/

/-- The toggles of a plan for the issues that are applied before the plan breaks off; none if
    it is carried out, or if there is no plan. -/
def brokenOff (host : Host σ) (ps : List Prompt) (issues : List Issue) (identifier : String)
    (w : σ) : List (String × Bool) :=
  match host.toggle?, Plan.ofIssues? issues (saidOf ps identifier) with
  | some sink, some plan =>
    if (applied sink plan.toggles w).1.isOk then [] else gotThrough sink plan.toggles w
  | _, _ => []

/-- The toggles of the plan that was carried out, if one was. -/
def Plan.carried (plan : Option Plan) : List (String × Bool) :=
  match plan with
  | some plan => plan.toggles
  | none => []

/-- The toggles that an outcome tells of: those of its plan, then that of the prompt. -/
def Outcome.toggles (o : Outcome) : List (String × Bool) :=
  Plan.carried o.plan ++ if o.enabled then [(o.identifier, true)] else []

section BrokenOff

variable {ps : List Prompt} {issues : List Issue} {identifier : String} {w : σ}

theorem brokenOff_of_no_plan
    (h : host.toggle? = none ∨ Plan.ofIssues? issues (saidOf ps identifier) = none) :
    brokenOff host ps issues identifier w = [] := by
  unfold brokenOff
  rcases h with h | h
  · rw [h]
  · rw [h]
    cases host.toggle? <;> rfl

/-- Without an error the plan is empty, and does not break off. -/
theorem brokenOff_of_no_error (h : Issue.anyError issues = false) :
    brokenOff host ps issues identifier w = [] := by
  have hnone : issues.filter Issue.isError = [] := by
    simpa [Issue.anyError, List.filter_eq_nil_iff] using h
  have hplan : Plan.ofIssues? issues (saidOf ps identifier) = some ⟨[], []⟩ := by
    rw [Plan.ofIssues?, Issue.allClearable, hnone]
    rfl
  unfold brokenOff
  rw [hplan]
  cases host.toggle? <;> rfl

end BrokenOff

namespace Host.Holds

theorem store_given (h : host.Holds store) (known : Option (List Prompt)) (w : σ) :
    store (given host known w).2 = store w := by
  cases known with
  | some ps => rfl
  | none =>
    show store (host.listed w).2 = store w
    unfold Host.listed
    cases hl : host.list? with
    | none => rfl
    | some list => exact h.list list hl w

theorem toggles_resolved (h : host.Holds store) {sink : Sink σ} (hs : host.toggle? = some sink)
    (ps : List Prompt) (issues : List Issue) (identifier : String) (w : σ) :
    (store (resolved sink issues (saidOf ps identifier) w).2).toggles =
      (store w).toggles ++ (brokenOff host ps issues identifier w ++
        Plan.carried (resolved sink issues (saidOf ps identifier) w).1.toOption) := by
  unfold resolved brokenOff
  rw [hs]
  cases hp : Plan.ofIssues? issues (saidOf ps identifier) with
  | none => exact (List.append_nil _).symm
  | some plan =>
    have hlog := h.toggles_applied hs plan.toggles w
    simp only
    rw [hlog]
    cases ha : (applied sink plan.toggles w).1 with
    | ok _ =>
      rw [gotThrough_of_ok ha]
      rfl
    | error e => exact congrArg _ (List.append_nil _).symm

/-- What carrying out a plan adds to the log. -/
theorem toggles_applying (h : host.Holds store) (known : Option (List Prompt))
    (issues : List Issue) (identifier : String) (w : σ) :
    let listed := given host known w
    (store (applying host none known issues identifier w).2).toggles =
      (store w).toggles ++ (brokenOff host listed.1 issues identifier listed.2 ++
        Plan.carried (applying host none known issues identifier w).1.toOption) := by
  intro listed
  have hlisted : store listed.2 = store w := h.store_given known w
  unfold applying
  cases hs : host.toggle? with
  | none =>
    rw [brokenOff_of_no_plan (.inl hs)]
    exact (List.append_nil _).symm
  | some sink =>
    rw [← hlisted]
    exact h.toggles_resolved hs listed.1 issues identifier listed.2

theorem store_askedOr {default : Bool} {asker : Option (Asker σ)}
    (ha : ∀ ask ∈ asker, ∀ identifier issues w, store (ask identifier issues w).world = store w)
    (o : Outcome) (w : σ) : store (askedOr default asker o w).2 = store w := by
  cases asker with
  | none => rfl
  | some ask => exact ha ask rfl o.identifier o.issues w

theorem plan_askedOr (default : Bool) (asker : Option (Asker σ)) (o : Outcome) (w : σ) :
    (askedOr default asker o w).1.2.plan = o.plan := by
  cases asker with
  | none => rfl
  | some ask =>
    unfold askedOr asked
    simp only
    split <;> rfl

theorem toggles_cleared (h : host.Holds store) {sink : Sink σ} (hs : host.toggle? = some sink)
    {ps : List Prompt} {o : Outcome} {plan : Plan} (ho : o.plan = none)
    (hp : Plan.ofIssues? o.issues (saidOf ps o.identifier) = some plan) (w : σ) :
    (store (cleared sink plan o w).2).toggles = (store w).toggles ++
      (brokenOff host ps o.issues o.identifier w ++
        Plan.carried (cleared sink plan o w).1.2.plan) := by
  have hlog := h.toggles_resolved hs ps o.issues o.identifier w
  rw [resolved, hp] at hlog
  simp only at hlog
  unfold cleared
  rcases ha : applied sink plan.toggles w with ⟨r, v⟩
  rw [ha] at hlog
  cases r with
  | ok _ => exact hlog
  | error e =>
    simp only [ho]
    exact hlog

/-- What weighing the issues of a prompt adds to the log: the toggles of a plan, whole or broken
    off. -/
theorem toggles_weighed (h : host.Holds store) {asker : Option (Asker σ)}
    (ha : ∀ ask ∈ asker, ∀ identifier issues w, store (ask identifier issues w).world = store w)
    (ps : List Prompt) {o : Outcome} (ho : o.plan = none) (w : σ) :
    let v := weighed host asker (saidOf ps o.identifier) o w
    (store v.2).toggles = (store w).toggles ++
      (brokenOff host ps o.issues o.identifier w ++ Plan.carried v.1.2.plan) := by
  intro v
  -- Somebody is asked only where no plan can break off.
  have hasked : ∀ default, v = askedOr default asker o w →
      brokenOff host ps o.issues o.identifier w = [] →
      (store v.2).toggles = (store w).toggles ++
        (brokenOff host ps o.issues o.identifier w ++ Plan.carried v.1.2.plan) := by
    intro default hv hnone
    rw [hv, hnone, store_askedOr ha, plan_askedOr, ho]
    exact (List.append_nil _).symm
  by_cases hi : o.issues = []
  · have hv : v = ((true, o), w) := if_pos hi
    rw [hv, brokenOff_of_no_error (by rw [hi]; rfl), ho]
    exact (List.append_nil _).symm
  have hv : v = if Issue.anyError o.issues then
      weighedErrors host asker (saidOf ps o.identifier) o w else askedOr true asker o w := if_neg hi
  cases he : Issue.anyError o.issues with
  | false => exact hasked true (by rw [hv, he]; rfl) (brokenOff_of_no_error he)
  | true =>
    rw [he, if_pos rfl, weighedErrors] at hv
    cases hs : host.toggle? with
    | none =>
      rw [hs] at hv
      exact hasked false hv (brokenOff_of_no_plan (.inl hs))
    | some sink =>
      cases hp : Plan.ofIssues? o.issues (saidOf ps o.identifier) with
      | none =>
        rw [hs, hp] at hv
        exact hasked false hv (brokenOff_of_no_plan (.inr hp))
      | some plan =>
        rw [hs, hp] at hv
        rw [hv]
        exact h.toggles_cleared hs ho hp w

theorem toggles_switched (h : host.Holds store) (identifier : String) (enabled : Bool) (w : σ) :
    (store (host.switched identifier enabled w).2).toggles = (store w).toggles ++
      if (host.switched identifier enabled w).1 then [(identifier, enabled)] else [] := by
  unfold Host.switched
  cases hs : host.toggle? with
  | none => exact (List.append_nil _).symm
  | some sink =>
    rcases h.toggle sink hs identifier enabled w with ⟨ha, hstore⟩ | ⟨⟨e, ha⟩, hstore⟩
    · simp [ha, (Store.toggle?_eq_some_iff.1 hstore).2.2, Except.isOk, Except.toBool]
    · simp [ha, hstore, Except.isOk, Except.toBool]

/-- What a request to enable a prompt adds to the log. -/
theorem toggles_enabling (h : host.Holds store) {asker : Option (Asker σ)}
    (ha : ∀ ask ∈ asker, ∀ identifier issues w, store (ask identifier issues w).world = store w)
    (identifier : String) (w : σ) :
    let listed := host.listed w
    (store (enabling host asker identifier w).2).toggles = (store w).toggles ++
      (brokenOff host listed.1 (Activation.issuesBy said identifier listed.1) identifier
        listed.2 ++ (enabling host asker identifier w).1.toggles) := by
  intro listed
  let v := verdict host asker identifier w
  have hkeeps : v.1.2.issues = (opening listed.1 identifier).issues ∧ v.1.2.enabled = false ∧
      v.1.2.identifier = identifier := weighed_keeps _ _ _ _ _
  have hweighed : (store v.2).toggles = (store listed.2).toggles ++
      (brokenOff host listed.1 (Activation.issuesBy said identifier listed.1) identifier
        listed.2 ++ Plan.carried v.1.2.plan) :=
    h.toggles_weighed ha listed.1 (o := opening listed.1 identifier) rfl listed.2
  have hlisted : store listed.2 = store w := h.store_given none w
  rw [hlisted] at hweighed
  show (store (concluded host identifier v).2).toggles = _ ++ (_ ++
    (concluded host identifier v).1.toggles)
  obtain ⟨⟨go, o⟩, u⟩ := v
  obtain ⟨-, hdisabled, hidentifier⟩ : _ ∧ o.enabled = false ∧ o.identifier = identifier := hkeeps
  cases go with
  | false =>
    show (store u).toggles = _ ++ (_ ++ o.toggles)
    rw [Outcome.toggles, hdisabled, if_neg Bool.false_ne_true, List.append_nil]
    exact hweighed
  | true =>
    have hswitched := h.toggles_switched identifier true u
    have houtcome : (concluded host identifier ((true, o), u)).1.toggles =
        Plan.carried o.plan ++
          if (host.switched identifier true u).1 then [(o.identifier, true)] else [] := rfl
    rw [houtcome, hidentifier]
    refine hswitched.trans ?_
    rw [hweighed, List.append_assoc, List.append_assoc]

end Host.Holds

/-! ## What the journal gets -/

namespace Session

variable {α β : Type}

theorem run_bind_lift (act : Action σ α) (f : α → ExceptT Fault (Action σ) β) (s : Session σ) :
    (ExceptT.lift act >>= f).run s = (f (act s).1).run (act s).2 := by
  rw [ExceptT.run_bind, ExceptT.run_lift]
  rfl

theorem run_bind_of_ok {x : ExceptT Fault (Action σ) α} {s t : Session σ} {a : α}
    (h : x.run s = (.ok a, t)) (f : α → ExceptT Fault (Action σ) β) :
    (x >>= f).run s = (f a).run t := by
  rw [ExceptT.run_bind, run_bind, h]

theorem run_bind_of_error {x : ExceptT Fault (Action σ) α} {s t : Session σ} {e : Fault}
    (h : x.run s = (.error e, t)) (f : α → ExceptT Fault (Action σ) β) :
    (x >>= f).run s = (.error e, t) := by
  rw [ExceptT.run_bind, run_bind, h]
  rfl

/-- What leaves the journal alone. -/
theorem overlooks_journal : Overlooks fun s t : Session σ => t.journal = s.journal where
  quiet := fun _ hj => hj
  trans := fun hst htu => htu.trans hst

/-- The journal after a plan for a prompt was carried out, if one was. -/
def noted (identifier : String) (plan : Option Plan) (j : Journal) : Journal :=
  match plan with
  | some plan => Journal.resolution identifier plan j
  | none => j

theorem journal_carryOutPlan (sink : Sink σ) (ps : List Prompt) (issues : List Issue)
    (identifier : String) (s : Session σ) :
    ((carryOutPlan sink ps issues identifier).run s).2.journal =
      noted identifier ((carryOutPlan sink ps issues identifier).run s).1.toOption s.journal := by
  unfold carryOutPlan
  rw [run_bind_lift]
  have hasked : (directivesOf ps identifier remembered s).2.journal = s.journal :=
    overlooks_journal.directivesOf ps identifier s
  generalize directivesOf ps identifier remembered s = asked at hasked ⊢
  rw [← hasked]
  cases Plan.ofIssues? issues asked.1 with
  | none => rfl
  | some plan =>
    have hcarried : ((plan.carryOut (planned sink)).run asked.2).2.journal = asked.2.journal :=
      overlooks_journal.carryOut (fun _ _ _ => rfl) plan asked.2
    rcases hc : (plan.carryOut (planned sink)).run asked.2 with ⟨r, t⟩
    rw [hc] at hcarried
    cases r with
    | ok _ =>
      simp only
      rw [run_bind_of_ok hc, ← hcarried]
      rfl
    | error e =>
      simp only
      rw [run_bind_of_error hc]
      exact hcarried

/-- Carrying out a plan is recorded iff it works. -/
theorem journal_apply (host : Host σ) (other : Option (Sink σ)) (known : Option (List Prompt))
    (issues : List Issue) (identifier : String) (s : Session σ) :
    ((apply host other known issues identifier).run s).2.journal =
      noted identifier ((apply host other known issues identifier).run s).1.toOption
        s.journal := by
  unfold apply
  cases other <|> host.toggle? with
  | none => rfl
  | some sink =>
    have hlisted : (promptsOr host known s).2.journal = s.journal :=
      overlooks_journal.promptsOr (fun _ _ _ => rfl) known s
    simp only
    rw [run_bind_lift, journal_carryOutPlan, hlisted]

/-- Somebody who is asked neither touches the journal nor carries out a plan. -/
theorem journal_askAbout (ask : Asker σ) {o : Outcome} (ho : o.plan = none) (s : Session σ) :
    (askAbout ask o s).2.journal = noted o.identifier (askAbout ask o s).1.2.plan s.journal := by
  unfold askAbout
  rw [run_bind]
  cases (consult (ask o.identifier o.issues) s).1 with
  | ok answer => exact congrArg (noted o.identifier · s.journal) ho.symm
  | error e => exact congrArg (noted o.identifier · s.journal) ho.symm

/-- Errors that can be cleared are cleared, others are asked about. -/
theorem journal_clearOrAsk (host : Host σ) (asker : Option (Asker σ)) (ps : List Prompt)
    {o : Outcome} (ho : o.plan = none) (clears : Bool) (s : Session σ) :
    let act := clearOrAsk host asker ps o clears
    (act s).2.journal = noted o.identifier (act s).1.2.plan s.journal := by
  intro act
  cases clears with
  | true =>
    have happly := journal_apply host none (some ps) o.issues o.identifier s
    unfold act clearOrAsk
    rw [if_pos rfl, run_bind]
    generalize (apply host none (some ps) o.issues o.identifier).run s = r at happly ⊢
    obtain ⟨r, t⟩ := r
    cases r with
    | ok plan => exact happly
    | error e => exact happly.trans (congrArg (noted o.identifier · s.journal) ho.symm)
  | false =>
    cases asker with
    | some ask => exact journal_askAbout ask ho s
    | none => exact congrArg (noted o.identifier · s.journal) ho.symm

theorem journal_weighErrors (host : Host σ) (asker : Option (Asker σ)) (ps : List Prompt)
    {o : Outcome} (ho : o.plan = none) (s : Session σ) :
    (weighErrors host asker ps o remembered s).2.journal =
      noted o.identifier (weighErrors host asker ps o remembered s).1.2.plan s.journal := by
  unfold weighErrors
  simp only
  split
  · have hclears : (canClear ps o.issues o.identifier remembered s).2.journal = s.journal :=
      overlooks_journal.canClear ps o.issues o.identifier s
    rw [← hclears]
    exact journal_clearOrAsk host asker ps ho _ _
  · exact journal_clearOrAsk host asker ps ho false s

theorem journal_weigh (host : Host σ) (asker : Option (Asker σ)) (ps : List Prompt) {o : Outcome}
    (ho : o.plan = none) (s : Session σ) :
    (weigh host asker ps o remembered s).2.journal =
      noted o.identifier (weigh host asker ps o remembered s).1.2.plan s.journal := by
  unfold weigh
  split
  · exact congrArg (noted o.identifier · s.journal) ho.symm
  · split
    · exact journal_weighErrors host asker ps ho s
    · cases asker with
      | some ask => exact journal_askAbout ask ho s
      | none => exact congrArg (noted o.identifier · s.journal) ho.symm

theorem journal_commit (host : Host σ) (source : String) (enabled : Bool) (identifier : String)
    (s : Session σ) :
    (commit host source enabled identifier s).2.journal =
      if (commit host source enabled identifier s).1
      then Journal.toggle identifier enabled source s.journal else s.journal := by
  unfold commit
  cases host.toggle? with
  | none => rfl
  | some sink =>
    rcases hc : consult (sink identifier enabled) s with ⟨r, t⟩
    have ht : s.journal = t.journal := congrArg (fun reply => reply.2.journal) hc
    simp only [run_bind, hc, ht]
    cases r <;> rfl

/-- What an outcome leaves in the journal: its plan, then the toggle of the prompt. -/
def recorded (o : Outcome) (j : Journal) : Journal :=
  let j := noted o.identifier o.plan j
  if o.enabled then Journal.toggle o.identifier true "user" j else j

theorem journal_check (ps : List Prompt) (identifier : String) (s : Session σ) :
    (check ps identifier remembered s).2.journal =
      Journal.validation identifier (check ps identifier remembered s).1 s.journal := by
  have hasked : (Activation.issuesOf remembered identifier ps s).2.journal = s.journal :=
    overlooks_journal.issuesOf identifier ps s
  unfold check
  rw [run_bind, ← hasked]
  split <;> rfl

/-- What a request to enable a prompt leaves in the journal. -/
theorem journal_enable (host : Host σ) (asker : Option (Asker σ)) (identifier : String)
    {s : Session σ} (hm : s.memo.Faithful Directives.ofContent) :
    ∃ issues, (enable host asker identifier remembered s).2.journal =
      recorded (enable host asker identifier remembered s).1
        (Journal.validation identifier issues s.journal) := by
  obtain ⟨-, hlisted⟩ := leads_prompts host s.world s ⟨rfl, hm⟩
  have hj : (prompts host s).2.journal = s.journal :=
    overlooks_journal.prompts (fun _ _ _ => rfl) s
  unfold enable
  simp only [run_bind]
  generalize prompts host s = listed at hlisted hj ⊢
  obtain ⟨-, hchecked⟩ := leads_check listed.1 identifier _ listed.2 hlisted
  have hj' := journal_check listed.1 identifier listed.2
  rw [hj] at hj'
  generalize check listed.1 identifier remembered listed.2 = checked at hchecked hj' ⊢
  obtain ⟨issues, t⟩ := checked
  refine ⟨issues, ?_⟩
  rw [← hj']
  -- The outcome is that of the plain course, and so it is not enabled before the last step.
  have hweighed := (leads_weigh host asker listed.1
    { identifier := identifier, issues := issues } _ t hchecked).1
  have hkeeps := weighed_keeps host asker (saidOf listed.1 identifier)
    { identifier := identifier, issues := issues } (host.listed s.world).2
  rw [← hweighed] at hkeeps
  have hplan := journal_weigh host asker listed.1
    (o := { identifier := identifier, issues := issues }) rfl t
  generalize
    weigh host asker listed.1 { identifier := identifier, issues := issues } remembered t = v
    at hkeeps hplan ⊢
  obtain ⟨⟨go, o⟩, u⟩ := v
  obtain ⟨-, hdisabled, hidentifier⟩ : _ ∧ o.enabled = false ∧ o.identifier = identifier := hkeeps
  cases go with
  | false =>
    show u.journal = recorded o t.journal
    rw [recorded, hdisabled, if_neg Bool.false_ne_true, hidentifier]
    exact hplan
  | true =>
    have hcommit := journal_commit host "user" true identifier u
    have henabled : ∀ done, recorded { o with enabled := done } t.journal =
        if done then Journal.toggle identifier true "user" u.journal else u.journal := by
      intro done
      rw [show u.journal = noted o.identifier o.plan t.journal from hidentifier ▸ hplan]
      rw [← hidentifier]
      rfl
    exact hcommit.trans (henabled _).symm

/-! ## What the journal tells of it -/

variable {j : Journal}

theorem isOpen_noted (identifier : String) (plan : Option Plan) (j : Journal) :
    (noted identifier plan j).isOpen = j.isOpen := by
  cases plan with
  | none => rfl
  | some plan => exact Journal.isOpen_write _ j

/-- A small plan with short identifiers tells of its toggles. -/
theorem toggles_noted (hj : j.isOpen = true) (identifier : String) {plan : Option Plan}
    (hsmall : ∀ p ∈ plan, p.Small)
    (hshort : ∀ t ∈ Plan.carried plan, t.1.length ≤ Journal.maxText) :
    (noted identifier plan j).toggles = j.toggles ++ Plan.carried plan := by
  cases plan with
  | none => exact (List.append_nil _).symm
  | some plan => exact Journal.toggles_resolution hj identifier (hsmall plan rfl) hshort

theorem isOpen_recorded (o : Outcome) (j : Journal) : (recorded o j).isOpen = j.isOpen := by
  unfold recorded
  simp only
  split
  · exact (Journal.isOpen_write _ _).trans (isOpen_noted _ _ _)
  · exact isOpen_noted _ _ _

/-- An outcome with a small plan and short identifiers tells of its toggles. -/
theorem toggles_recorded (hj : j.isOpen = true) {o : Outcome} (hsmall : ∀ p ∈ o.plan, p.Small)
    (hshort : ∀ t ∈ o.toggles, t.1.length ≤ Journal.maxText) :
    (recorded o j).toggles = j.toggles ++ o.toggles := by
  have hnoted : (noted o.identifier o.plan j).toggles = j.toggles ++ Plan.carried o.plan :=
    toggles_noted hj o.identifier hsmall fun t ht => hshort t (List.mem_append_left _ ht)
  have hopen : (noted o.identifier o.plan j).isOpen = true := (isOpen_noted _ _ _).trans hj
  unfold recorded Outcome.toggles
  simp only
  split
  · rw [Journal.toggles_toggle hopen, hnoted, List.append_assoc]
  · rw [hnoted, List.append_nil]

end Session

end PromptRules
