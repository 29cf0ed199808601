import PromptRules.Proofs.Session.Standing

/-!
# The course of a toggle

What is left of enabling a prompt when memory, journal and notes are set aside: the prompts
are listed, their issues are weighed, and unless that stops the prompt it is switched on. Each
failure of the surroundings has its place in these definitions, so what a request comes to can
be read off them.

Results:
* `leads_enable`, `leads_disable`: requests follow this course, in any surroundings.
* `goesOn_weighed`: the ways in which a prompt goes on to be switched on.
* `applied_ok_iff`: a list of toggles goes through iff each of them does.
-/

namespace PromptRules

variable {σ α β : Type}

/-! ## What the surroundings do -/

/-- The prompts that a host lists, none if it cannot, and the surroundings after that. -/
def Host.listed (host : Host σ) (w : σ) : List Prompt × σ :=
  match host.list? with
  | none => ([], w)
  | some list => ((list w).answer.toOption.getD [], (list w).world)

/-- Whether a host switches a prompt, and the surroundings after that. -/
def Host.switched (host : Host σ) (identifier : String) (enabled : Bool) (w : σ) : Bool × σ :=
  match host.toggle? with
  | none => (false, w)
  | some toggle => ((toggle identifier enabled w).answer.isOk, (toggle identifier enabled w).world)

/-- Toggles applied one after the other, up to the first that fails. -/
def applied (sink : Sink σ) : List (String × Bool) → σ → Except Fault Unit × σ
  | [], w => (.ok (), w)
  | t :: ts, w =>
    match (sink t.1 t.2 w).answer with
    | .ok () => applied sink ts (sink t.1 t.2 w).world
    | .error e => (.error e, (sink t.1 t.2 w).world)

/-- Every one of the toggles is applied, one after the other, from `w` to `w'`. -/
inductive Applies (sink : Sink σ) : List (String × Bool) → σ → σ → Prop
  | nil (w : σ) : Applies sink [] w w
  | cons {t : String × Bool} {ts : List (String × Bool)} {w w' : σ} :
      (sink t.1 t.2 w).answer = .ok () → Applies sink ts (sink t.1 t.2 w).world w' →
      Applies sink (t :: ts) w w'

theorem applied_ok_iff {sink : Sink σ} {ts : List (String × Bool)} {w w' : σ} :
    applied sink ts w = (.ok (), w') ↔ Applies sink ts w w' := by
  induction ts generalizing w with
  | nil =>
    constructor
    · rintro ⟨⟩
      exact .nil _
    · rintro ⟨⟩
      rfl
  | cons t ts ih =>
    rw [applied]
    constructor
    · intro h
      split at h
      · rename_i ht
        exact .cons ht (ih.1 h)
      · cases h
    · rintro (_ | ⟨ht, hts⟩)
      rw [ht]
      exact ih.2 hts

/-- A failure stops at one of the toggles, when those before it have been applied. -/
theorem applied_error {sink : Sink σ} {ts : List (String × Bool)} {w w' : σ} {e : Fault}
    (h : applied sink ts w = (.error e, w')) :
    ∃ before t after v, ts = before ++ t :: after ∧ Applies sink before w v ∧
      (sink t.1 t.2 v).answer = .error e := by
  induction ts generalizing w with
  | nil => cases h
  | cons t ts ih =>
    rw [applied] at h
    split at h
    · rename_i ht
      obtain ⟨before, t', after, v, rfl, hb, he⟩ := ih h
      exact ⟨t :: before, t', after, v, rfl, .cons ht hb, he⟩
    · rename_i e' ht
      cases h
      exact ⟨[], t, ts, w, rfl, .nil w, ht⟩

/-! ## Weighing issues -/

namespace Session

/-- A question about an outcome so far: whether to go on, and the outcome then. -/
def asked (asker : Asker σ) (o : Outcome) (w : σ) : (Bool × Outcome) × σ :=
  (match (asker o.identifier o.issues w).answer with
    | .ok answer => (answer, { o with asked := true })
    | .error e => (true, { o with asked := true, error := some e.message }),
   (asker o.identifier o.issues w).world)

/-- A plan carried out; whether that works or not, the prompt goes on. -/
def cleared (sink : Sink σ) (plan : Plan) (o : Outcome) (w : σ) : (Bool × Outcome) × σ :=
  match applied sink plan.toggles w with
  | (.ok (), w) => ((true, { o with plan := some plan }), w)
  | (.error e, w) => ((true, { o with error := some e.message }), w)

/-- What clearing issues by a plan comes to, for a prompt with directives `d`. -/
def resolved (sink : Sink σ) (issues : List Issue) (d : Directive.Directives) (w : σ) :
    Except Fault Plan × σ :=
  match Plan.ofIssues? issues d with
  | none => (.error .notResolvable, w)
  | some plan =>
    ((applied sink plan.toggles w).1.map fun _ => plan, (applied sink plan.toggles w).2)

/-- A question if there is someone to ask, else the given answer. -/
def askedOr (default : Bool) (asker : Option (Asker σ)) (o : Outcome) (w : σ) :
    (Bool × Outcome) × σ :=
  match asker with
  | some asker => asked asker o w
  | none => ((default, o), w)

/-- Errors weighed, for a prompt with directives `d`: they are cleared by a plan if there is
    one and a sink to carry it out. -/
def weighedErrors (host : Host σ) (asker : Option (Asker σ)) (d : Directive.Directives)
    (o : Outcome) (w : σ) : (Bool × Outcome) × σ :=
  match host.toggle?, Plan.ofIssues? o.issues d with
  | some sink, some plan => cleared sink plan o w
  | _, _ => askedOr false asker o w

/-- Issues weighed, for a prompt with directives `d`. -/
def weighed (host : Host σ) (asker : Option (Asker σ)) (d : Directive.Directives) (o : Outcome)
    (w : σ) : (Bool × Outcome) × σ :=
  if o.issues = [] then ((true, o), w)
  else if Issue.anyError o.issues then weighedErrors host asker d o w
  else askedOr true asker o w

/-- The outcome before anything is weighed. -/
def opening (ps : List Prompt) (identifier : String) : Outcome :=
  { identifier := identifier, issues := Activation.issuesBy said identifier ps }

/-- What weighing the issues of a prompt leads to, once the prompts are listed. -/
def verdict (host : Host σ) (asker : Option (Asker σ)) (identifier : String) (w : σ) :
    (Bool × Outcome) × σ :=
  weighed host asker (saidOf (host.listed w).1 identifier) (opening (host.listed w).1 identifier)
    (host.listed w).2

/-- The prompt is switched on unless its issues stop it. -/
def concluded (host : Host σ) (identifier : String) : (Bool × Outcome) × σ → Outcome × σ
  | ((true, o), w) =>
    ({ o with enabled := (host.switched identifier true w).1 },
     (host.switched identifier true w).2)
  | ((false, o), w) => (o, w)

/-- What a request to enable a prompt leads to. -/
def enabling (host : Host σ) (asker : Option (Asker σ)) (identifier : String) (w : σ) :
    Outcome × σ :=
  concluded host identifier (verdict host asker identifier w)

/-- What a request to disable a prompt leads to. -/
def disabling (host : Host σ) (identifier : String) (w : σ) : Outcome × σ :=
  let (done, w) := host.switched identifier false w
  ({ identifier := identifier, enabled := !done }, w)

/-! ## Ways to go on -/

section Ways

variable {host : Host σ} {asker : Option (Asker σ)} {d : Directive.Directives} {o : Outcome} {w : σ}

/-- The ways in which a prompt with issues goes on to be switched on, with the outcome so far
    and the surroundings then. -/
inductive GoesOn (host : Host σ) (asker : Option (Asker σ)) (d : Directive.Directives)
    (o : Outcome) (w : σ) : Outcome → σ → Prop
  /-- Nothing stands in the way, and nobody is asked about warnings. -/
  | free : Issue.anyError o.issues = false → GoesOn host asker d o w o w
  | cleared {sink : Sink σ} {plan : Plan} {w' : σ} :
      Issue.anyError o.issues = true → host.toggle? = some sink →
      Plan.ofIssues? o.issues d = some plan →
      applied sink plan.toggles w = (.ok (), w') →
      GoesOn host asker d o w { o with plan := some plan } w'
  /-- A toggle of the plan fails, and the prompt goes on all the same. -/
  | stuck {sink : Sink σ} {plan : Plan} {e : Fault} {w' : σ} :
      Issue.anyError o.issues = true → host.toggle? = some sink →
      Plan.ofIssues? o.issues d = some plan →
      applied sink plan.toggles w = (.error e, w') →
      GoesOn host asker d o w { o with error := some e.message } w'
  | agreed {ask : Asker σ} :
      asker = some ask → (ask o.identifier o.issues w).answer = .ok true →
      GoesOn host asker d o w { o with asked := true } (ask o.identifier o.issues w).world
  /-- The question fails, and the prompt goes on all the same. -/
  | unanswered {ask : Asker σ} {e : Fault} :
      asker = some ask → (ask o.identifier o.issues w).answer = .error e →
      GoesOn host asker d o w { o with asked := true, error := some e.message }
        (ask o.identifier o.issues w).world

/-- There is nothing to weigh, or a plan to carry out, or somebody is asked if possible. -/
theorem weighed_eq (host : Host σ) (asker : Option (Asker σ)) (d : Directive.Directives)
    (o : Outcome) (w : σ) :
    o.issues = [] ∧ weighed host asker d o w = ((true, o), w) ∨
      (∃ sink plan, Issue.anyError o.issues = true ∧ host.toggle? = some sink ∧
        Plan.ofIssues? o.issues d = some plan ∧
        weighed host asker d o w = cleared sink plan o w) ∨
      weighed host asker d o w = askedOr (!Issue.anyError o.issues) asker o w := by
  unfold weighed
  split
  · rename_i hi
    exact .inl ⟨hi, rfl⟩
  · right
    cases he : Issue.anyError o.issues with
    | false => exact .inr rfl
    | true =>
      rw [if_pos rfl]
      unfold weighedErrors
      split
      · rename_i sink plan hs hp
        exact .inl ⟨sink, plan, rfl, hs, hp, rfl⟩
      · exact .inr rfl

theorem goesOn_asked {ask : Asker σ} (h : (asked ask o w).1.1 = true) :
    GoesOn host (some ask) d o w (asked ask o w).1.2 (asked ask o w).2 := by
  unfold asked at h ⊢
  cases hr : (ask o.identifier o.issues w).answer with
  | ok answer =>
    rw [hr] at h
    obtain rfl : answer = true := h
    exact .agreed rfl hr
  | error e => exact .unanswered rfl hr

/-- A prompt goes on in one of these ways only. -/
theorem goesOn_weighed (h : (weighed host asker d o w).1.1 = true) :
    GoesOn host asker d o w (weighed host asker d o w).1.2 (weighed host asker d o w).2 := by
  rcases weighed_eq host asker d o w with ⟨hi, heq⟩ | ⟨sink, plan, he, hs, hp, heq⟩ | heq
  · rw [heq]
    exact .free (by rw [hi]; rfl)
  · rw [heq]
    unfold cleared
    rcases hr : applied sink plan.toggles w with ⟨r, v⟩
    cases r with
    | ok _ => exact .cleared he hs hp hr
    | error e => exact .stuck he hs hp hr
  · rw [heq] at h ⊢
    cases asker with
    | none => exact .free (by simpa [askedOr] using h)
    | some ask => exact goesOn_asked h

/-- A prompt that does not go on changes nothing, except through a question. -/
theorem world_of_stopped (h : (weighed host asker d o w).1.1 = false) :
    (weighed host asker d o w).2 = w ∨
      ∃ ask, asker = some ask ∧
        (weighed host asker d o w).2 = (ask o.identifier o.issues w).world := by
  rcases weighed_eq host asker d o w with ⟨_, heq⟩ | ⟨sink, plan, _, _, _, heq⟩ | heq
  · rw [heq]
    exact .inl rfl
  · rw [heq] at h
    unfold cleared at h
    split at h <;> cases h
  · rw [heq]
    cases asker with
    | none => exact .inl rfl
    | some ask => exact .inr ⟨ask, rfl, rfl⟩

end Ways

/-! ## Requests follow the course -/

/-- Two actions one after the other, the first of which does not fail. -/
theorem Leads.bind_ok {x : ExceptT Fault (Action σ) α} {f : α → ExceptT Fault (Action σ) β}
    {w₁ w₂ w₃ : σ} {a : α} {r : Except Fault β} (hx : Leads x.run w₁ (.ok a) w₂)
    (hf : Leads (f a).run w₂ r w₃) : Leads (x >>= f).run w₁ r w₃ := by
  rw [ExceptT.run_bind]
  exact Leads.bind hx hf

/-- A failure ends what was to follow. -/
theorem Leads.bind_error {x : ExceptT Fault (Action σ) α} {f : α → ExceptT Fault (Action σ) β}
    {w₁ w₂ : σ} {e : Fault} (hx : Leads x.run w₁ (.error e) w₂) :
    Leads (x >>= f).run w₁ (.error e) w₂ := by
  rw [ExceptT.run_bind]
  exact Leads.bind hx (leads_pure _ w₂)

theorem Leads.lift {act : Action σ α} {w w' : σ} {a : α} (h : Leads act w a w') :
    Leads (ExceptT.lift act : ExceptT Fault (Action σ) α).run w (.ok a) w' := by
  rw [ExceptT.run_lift]
  intro s hs
  obtain ⟨rfl, hs'⟩ := h s hs
  exact ⟨rfl, hs'⟩

theorem leads_prompts (host : Host σ) (w : σ) :
    Leads (prompts host) w (host.listed w).1 (host.listed w).2 := by
  unfold prompts Host.listed
  cases host.list? with
  | none => exact (leads_say _ _ w).bind (leads_pure [] w)
  | some list =>
    simp only
    refine (leads_consult list w).bind ?_
    cases (list w).answer with
    | ok ps => exact leads_pure ps _
    | error e => exact (leads_say _ _ _).bind (leads_pure [] _)

theorem leads_check (ps : List Prompt) (identifier : String) (w : σ) :
    Leads (check ps identifier) w (Activation.issuesBy said identifier ps) w := by
  unfold check
  refine (leads_issuesOf identifier ps w).bind ?_
  split
  · exact (leads_say _ _ w).bind ((leads_enter _ w).bind (leads_pure _ w))
  · exact (leads_enter _ w).bind (leads_pure _ w)

theorem leads_canClear (ps : List Prompt) (issues : List Issue) (identifier : String) (w : σ) :
    Leads (canClear ps issues identifier) w (Issue.allClearable issues (saidOf ps identifier)) w :=
  (leads_directivesOf ps identifier w).bind (leads_pure _ w)

theorem leads_commit (host : Host σ) (source : String) (enabled : Bool) (identifier : String)
    (w : σ) :
    Leads (commit host source enabled identifier) w (host.switched identifier enabled w).1
      (host.switched identifier enabled w).2 := by
  unfold commit Host.switched
  cases host.toggle? with
  | none => exact (leads_say _ _ w).bind (leads_pure false w)
  | some toggle =>
    simp only
    refine (leads_consult (toggle identifier enabled) w).bind ?_
    cases (toggle identifier enabled w).answer with
    | ok _ => exact (leads_enter _ _).bind (leads_pure true _)
    | error e => exact (leads_say _ _ _).bind (leads_pure false _)

theorem leads_planned (sink : Sink σ) (t : String × Bool) (w : σ) :
    Leads (planned sink t.1 t.2).run w (sink t.1 t.2 w).answer (sink t.1 t.2 w).world := by
  have hx := leads_consult (sink t.1 t.2) w
  unfold planned
  cases ha : (sink t.1 t.2 w).answer with
  | ok _ =>
    rw [ha] at hx
    exact Leads.bind_ok hx (leads_say _ _ _).lift
  | error e =>
    rw [ha] at hx
    exact Leads.bind_error hx

theorem leads_carryOut (sink : Sink σ) (ts : List (String × Bool)) (w : σ) :
    Leads (ts.forM fun t => planned sink t.1 t.2 : ExceptT Fault (Action σ) Unit).run w
      (applied sink ts w).1 (applied sink ts w).2 := by
  induction ts generalizing w with
  | nil => exact leads_pure _ w
  | cons t ts ih =>
    have ht := leads_planned sink t w
    rw [applied]
    show Leads (planned sink t.1 t.2 >>= fun _ => ts.forM fun t => planned sink t.1 t.2).run w _ _
    cases ha : (sink t.1 t.2 w).answer with
    | ok _ =>
      rw [ha] at ht
      exact Leads.bind_ok ht (ih _)
    | error e =>
      rw [ha] at ht
      exact Leads.bind_error ht

theorem leads_carryOutPlan (sink : Sink σ) (ps : List Prompt) (issues : List Issue)
    (identifier : String) (w : σ) :
    Leads (carryOutPlan sink ps issues identifier).run w
      (resolved sink issues (saidOf ps identifier) w).1
      (resolved sink issues (saidOf ps identifier) w).2 := by
  unfold carryOutPlan resolved
  refine Leads.bind_ok (leads_directivesOf ps identifier w).lift ?_
  cases Plan.ofIssues? issues (saidOf ps identifier) with
  | none => exact leads_pure _ w
  | some plan =>
    have hc := leads_carryOut sink plan.toggles w
    simp only
    cases ha : (applied sink plan.toggles w).1 with
    | ok _ =>
      rw [ha] at hc
      exact Leads.bind_ok hc (Leads.bind_ok (leads_enter _ _).lift (leads_pure _ _))
    | error e =>
      rw [ha] at hc
      exact Leads.bind_error hc

theorem leads_apply {host : Host σ} {sink : Sink σ} (hs : host.toggle? = some sink)
    (ps : List Prompt) (issues : List Issue) (identifier : String) (w : σ) :
    Leads (apply host none (some ps) issues identifier).run w
      (resolved sink issues (saidOf ps identifier) w).1
      (resolved sink issues (saidOf ps identifier) w).2 := by
  unfold apply
  rw [hs]
  exact Leads.bind_ok (leads_pure ps w).lift (leads_carryOutPlan sink ps issues identifier w)

theorem leads_goOn (o : Outcome) (e : Fault) (w : σ) :
    Leads (goOn o e) w (true, { o with error := some e.message }) w :=
  (leads_say _ _ w).bind (leads_pure _ w)

theorem leads_askAbout (asker : Asker σ) (o : Outcome) (w : σ) :
    Leads (askAbout asker o) w (asked asker o w).1 (asked asker o w).2 := by
  unfold askAbout asked
  refine (leads_consult (asker o.identifier o.issues) w).bind ?_
  cases (asker o.identifier o.issues w).answer with
  | ok answer => exact leads_pure _ _
  | error e => exact leads_goOn _ e _

theorem leads_askedOr (default : Bool) (asker : Option (Asker σ)) {o : Outcome}
    {unasked : Action σ (Bool × Outcome)} {w : σ} (h : Leads unasked w (default, o) w) :
    Leads (match asker with | some asker => askAbout asker o | none => unasked) w
      (askedOr default asker o w).1 (askedOr default asker o w).2 := by
  cases asker with
  | some asker => exact leads_askAbout asker o w
  | none => exact h

theorem leads_weighErrors (host : Host σ) (asker : Option (Asker σ)) (ps : List Prompt)
    (o : Outcome) (w : σ) :
    Leads (weighErrors host asker ps o) w
      (weighedErrors host asker (saidOf ps o.identifier) o w).1
      (weighedErrors host asker (saidOf ps o.identifier) o w).2 := by
  have hc := leads_canClear ps o.issues o.identifier w
  have hn : ∀ text, Leads (say .info text >>= fun _ => pure (false, o)) w (false, o) w :=
    fun text => (leads_say .info text w).bind (leads_pure _ w)
  rw [← Plan.ofIssues?_isSome] at hc
  unfold weighErrors weighedErrors
  cases hs : host.toggle? with
  | none => exact (leads_pure false w).bind (leads_askedOr false asker (hn _))
  | some sink =>
    cases hp : Plan.ofIssues? o.issues (saidOf ps o.identifier) with
    | none =>
      rw [hp] at hc
      exact hc.bind (leads_askedOr false asker (hn _))
    | some plan =>
      rw [hp] at hc
      have ha := leads_apply hs ps o.issues o.identifier w
      rw [resolved, hp] at ha
      refine Leads.bind hc ?_
      refine ha.bind ?_
      unfold cleared
      simp only
      obtain ⟨r, v⟩ := applied sink plan.toggles w
      cases r with
      | ok _ => exact leads_pure _ _
      | error e => exact leads_goOn o e _

theorem leads_weigh (host : Host σ) (asker : Option (Asker σ)) (ps : List Prompt) (o : Outcome)
    (w : σ) :
    Leads (weigh host asker ps o) w (weighed host asker (saidOf ps o.identifier) o w).1
      (weighed host asker (saidOf ps o.identifier) o w).2 := by
  unfold weigh weighed
  split
  · exact leads_pure _ w
  · split
    · exact leads_weighErrors host asker ps o w
    · exact leads_askedOr true asker (leads_pure _ w)

theorem leads_conclude (host : Host σ) (identifier : String) (v : (Bool × Outcome) × σ) :
    Leads (if v.1.1 then return { v.1.2 with enabled := ← commit host "user" true identifier }
      else return v.1.2) v.2 (concluded host identifier v).1 (concluded host identifier v).2 := by
  obtain ⟨⟨go, o⟩, w⟩ := v
  cases go with
  | false => exact leads_pure o w
  | true => exact (leads_commit host "user" true identifier w).bind (leads_pure _ _)

/-- **Enabling a prompt follows its course**, in any surroundings and with any memory that
    holds only what contents say. -/
theorem leads_enable (host : Host σ) (asker : Option (Asker σ)) (identifier : String) (w : σ) :
    Leads (enable host asker identifier) w (enabling host asker identifier w).1
      (enabling host asker identifier w).2 := by
  unfold enable enabling verdict
  refine (leads_prompts host w).bind ?_
  refine (leads_check _ identifier _).bind ?_
  refine (leads_weigh host asker _ (opening _ identifier) _).bind ?_
  exact leads_conclude host identifier _

theorem leads_disable (host : Host σ) (identifier : String) (w : σ) :
    Leads (disable host identifier) w (disabling host identifier w).1
      (disabling host identifier w).2 :=
  (leads_commit host "user" false identifier w).bind (leads_pure _ _)

end Session

end PromptRules
