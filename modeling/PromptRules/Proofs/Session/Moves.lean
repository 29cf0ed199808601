import PromptRules.Proofs.Session.Operation

/-!
# From session to session

Much of what is said about an action compares the session after it with the one before: that a
log has only grown, that nothing was toggled, that the journal tells of what happened. Such a
relation overlooks the memory, the clock and the notes, and goes on from session to session. If
it holds of the few steps that touch the surroundings and the journal, it holds of every action
that is made of them.

Results:
* `Overlooks.bind`, `Overlooks.mapM`, `Overlooks.forM`, `Overlooks.filterM`: actions made of
  others.
* `Finds.perform`: operations that only find something out.
* `finds_view`: to find something out does not show in surroundings where listing does not.
* `Tracks.perform`: operations that switch prompts one by one.
* `Finds.apply`, `Tracks.enable`: operations that may carry out a plan.
-/

namespace PromptRules

open Directive

variable {σ τ α β γ : Type} {host : Host σ} {R : Session σ → Session σ → Prop}

namespace Session

/-- Whatever the session, the action leads from it to one in relation `R` to it. -/
def Moves (R : Session σ → Session σ → Prop) (act : Action σ α) : Prop := ∀ s, R s (act s).2

/-- The relation overlooks memory, clock and notes, and goes on from session to session. -/
structure Overlooks (R : Session σ → Session σ → Prop) : Prop where
  quiet : ∀ {s t : Session σ}, t.world = s.world → t.journal = s.journal → R s t
  trans : ∀ {s t u : Session σ}, R s t → R t u → R s u

/-- The relation also holds of what finding something out does to the surroundings and the
    journal. -/
structure Finds (host : Host σ) (R : Session σ → Session σ → Prop) : Prop extends Overlooks R where
  list : ∀ list ∈ host.list?, Moves R (consult list)
  validation : ∀ identifier issues, Moves R (enter (Journal.validation identifier issues))
  triggers : ∀ t, Moves R (enter (Journal.triggers t))

/-- The relation also holds of switching a prompt. -/
structure Tracks (host : Host σ) (R : Session σ → Session σ → Prop) : Prop
    extends Finds host R where
  commit : ∀ source enabled identifier, Moves R (commit host source enabled identifier)

/-! ## Actions made of others -/

namespace Overlooks

variable (h : Overlooks R)

include h

theorem pure (a : α) : Moves R (Pure.pure a : Action σ α) := fun _ => h.quiet rfl rfl

theorem bind {x : Action σ α} {f : α → Action σ β} (hx : Moves R x) (hf : ∀ a, Moves R (f a)) :
    Moves R (x >>= f) := fun s => h.trans (hx s) (hf (x s).1 (x s).2)

/-- What is made of an answer does not matter. -/
theorem map {x : Action σ α} (hx : Moves R x) (f : α → β) :
    Moves R (do return f (← x) : Action σ β) := h.bind hx fun _ => h.pure _

theorem mapM {f : γ → Action σ α} (hf : ∀ c, Moves R (f c)) (cs : List γ) :
    Moves R (cs.mapM f) := by
  induction cs with
  | nil => exact h.pure []
  | cons c cs ih =>
    rw [List.mapM_cons]
    exact h.bind (hf c) fun _ => h.bind ih fun _ => h.pure _

/-- Answers kept beside what they are about. -/
theorem mapM_pair {f : γ → Action σ α} (hf : ∀ c, Moves R (f c)) (cs : List γ) :
    Moves R (cs.mapM fun c => do return (c, ← f c)) := h.mapM (fun c => h.map (hf c) (c, ·)) cs

theorem forM {f : γ → Action σ Unit} (hf : ∀ c, Moves R (f c)) (cs : List γ) :
    Moves R (cs.forM f) := by
  induction cs with
  | nil => exact h.pure ()
  | cons c cs ih => exact h.bind (hf c) fun _ => ih

theorem filterM {f : γ → Action σ Bool} (hf : ∀ c, Moves R (f c)) (cs : List γ) :
    Moves R (cs.filterM f) := by
  have haux : ∀ acc, Moves R (cs.filterAuxM f acc) := by
    induction cs with
    | nil => exact fun acc => h.pure acc
    | cons c cs ih => exact fun acc => h.bind (hf c) fun b => ih _
  exact h.bind (haux []) fun _ => h.pure _

theorem bind_run {x : ExceptT Fault (Action σ) α} {f : α → ExceptT Fault (Action σ) β}
    (hx : Moves R x.run) (hf : ∀ a, Moves R (f a).run) : Moves R (x >>= f).run := by
  rw [ExceptT.run_bind]
  refine h.bind hx fun r => ?_
  cases r with
  | ok a => exact hf a
  | error e => exact h.pure _

theorem lift {x : Action σ α} (hx : Moves R x) :
    Moves R (ExceptT.lift x : ExceptT Fault (Action σ) α).run := by
  rw [ExceptT.run_lift]
  exact h.bind hx fun a => h.pure (Except.ok a)

/-! ## Single steps -/

theorem say (level : Level) (text : String) : Moves R (say level text : Action σ Unit) :=
  fun _ => h.quiet rfl rfl

theorem remembered (content : String) : Moves R (remembered content : Action σ Directives) :=
  fun _ => h.quiet rfl rfl

theorem forget : Moves R (forget : Action σ Unit) := fun _ => h.quiet rfl rfl

theorem directivesOf (ps : List Prompt) (identifier : String) :
    Moves R (directivesOf ps identifier : Action σ Directives) := by
  unfold Session.directivesOf
  cases Prompt.find? ps identifier with
  | none => exact h.pure _
  | some p => exact h.remembered p.content

theorem canClear (ps : List Prompt) (issues : List Issue) (identifier : String) :
    Moves R (canClear ps issues identifier : Action σ Bool) :=
  h.map (h.directivesOf ps identifier) _

theorem goOn (o : Outcome) (e : Fault) : Moves R (goOn o e : Action σ _) :=
  h.bind (h.say _ _) fun _ => h.pure _

/-! ## Asking the memory -/

theorem annotate (ps : List Prompt) :
    Moves R (annotate Session.remembered ps : Action σ (List (Prompt × Directives))) :=
  h.mapM_pair (fun p : Prompt => h.remembered p.content) ps

theorem annotated (ps : List Prompt) :
    Moves R (annotated Session.remembered ps : Action σ (List (Prompt × Directives))) :=
  h.annotate _

theorem directivesOfPrompt (p : Prompt) :
    Moves R (PromptRules.directivesOf Session.remembered p : Action σ Directives) := by
  unfold PromptRules.directivesOf
  split
  · exact h.remembered p.content
  · exact h.pure _

theorem askFor (p : Prompt) (ps : List Prompt) (limit : Option String) :
    Moves R (Activation.askFor Session.remembered p ps limit
      : Action σ (List (Prompt × Directives))) := by
  cases limit with
  | none => exact h.pure []
  | some c => exact h.annotate _

theorem issuesOf (identifier : String) (ps : List Prompt) :
    Moves R (Activation.issuesOf Session.remembered identifier ps : Action σ (List Issue)) := by
  unfold Activation.issuesOf
  cases Prompt.find? ps identifier with
  | none => exact h.pure []
  | some p =>
    simp only
    split
    · refine h.map ?_ _
      refine h.bind (h.remembered p.content) fun d => ?_
      refine h.bind (h.annotate _) fun _ => ?_
      refine h.bind (h.askFor p ps _) fun _ => ?_
      refine h.bind (h.askFor p ps _) fun _ => ?_
      exact h.bind (h.annotate _) fun _ => h.pure _
    · exact h.pure []

theorem profileNames (ps : List Prompt) :
    Moves R (Profile.names Session.remembered ps : Action σ (List String)) :=
  h.map (h.annotated ps) _

theorem tokenBudget (ps : List Prompt) :
    Moves R (TokenBudget.ofPrompts Session.remembered ps : Action σ TokenBudget) :=
  h.map (h.annotated ps) _

theorem mostUsedTags (limit : Option Int) (ps : List Prompt) :
    Moves R (Tag.mostUsed Session.remembered limit ps : Action σ (List (String × Nat))) :=
  h.map (h.annotated ps) _

theorem groups (ps : List Prompt) :
    Moves R (Group.ofPrompts Session.remembered ps : Action σ (List (String × Group))) :=
  h.map (h.annotated ps) _

theorem profileChanges (profile : String) (ps : List Prompt) :
    Moves R (Profile.changes Session.remembered profile ps : Action σ Profile.Changes) :=
  h.map (h.mapM_pair h.directivesOfPrompt ps) _

theorem found (term : String) (ps : List Prompt) :
    Moves R (Search.find Session.remembered term ps : Action σ (List Prompt)) := by
  unfold Search.find
  simp only
  split
  · exact h.pure ps
  · exact h.map (h.mapM_pair h.directivesOfPrompt ps) _

theorem shownPrompts (ps : List Prompt) (api : Option String) :
    Moves R (Visibility.shown Session.remembered ps api : Action σ (List Prompt)) := by
  refine h.map (h.mapM_pair (fun p => ?_) ps) _
  unfold Visibility.isShown
  split
  · exact h.map (h.remembered p.content) _
  · exact h.pure true

end Overlooks

/-! ## Finding something out -/

theorem Overlooks.prompts (h : Overlooks R) (hl : ∀ list ∈ host.list?, Moves R (consult list)) :
    Moves R (prompts host) := by
  unfold Session.prompts
  cases hlist : host.list? with
  | none => exact h.bind (h.say _ _) fun _ => h.pure []
  | some list =>
    refine h.bind (hl list hlist) fun answer => ?_
    cases answer with
    | ok ps => exact h.pure ps
    | error e => exact h.bind (h.say _ _) fun _ => h.pure []

theorem Overlooks.promptsOr (h : Overlooks R) (hl : ∀ list ∈ host.list?, Moves R (consult list))
    (known : Option (List Prompt)) : Moves R (promptsOr host known) := by
  cases known with
  | none => exact h.prompts hl
  | some ps => exact h.pure ps

namespace Finds

variable (h : Finds host R)

include h

theorem prompts : Moves R (prompts host) := h.toOverlooks.prompts h.list

theorem promptsOr (known : Option (List Prompt)) : Moves R (promptsOr host known) :=
  h.toOverlooks.promptsOr h.list known

theorem check (ps : List Prompt) (identifier : String) : Moves R (check ps identifier) := by
  unfold Session.check
  refine h.bind (h.issuesOf identifier ps) fun issues => ?_
  split
  · exact h.bind (h.say _ _) fun _ => h.map (h.validation _ _) _
  · exact h.map (h.validation _ _) _

theorem survey {question : Lookup (Action σ) → List Prompt → Action σ α}
    (hq : ∀ ps, Moves R (question remembered ps)) : Moves R (survey host question) :=
  h.bind h.prompts hq

theorem due (count : Int) (fired : Trigger.Fired) : Moves R (due host count fired) := by
  unfold Session.due
  refine h.bind (h.survey fun ps => h.map (h.annotated ps) _) fun t => ?_
  refine h.bind (h.forM (fun _ => h.say _ _) t.firings) fun _ => ?_
  exact h.map (h.triggers t) _

/-- Prompts that are known already are not asked for. -/
theorem showing (known : Option (List Prompt)) : Finds (host.showing known) R := by
  cases known with
  | none => exact h
  | some ps =>
    refine { h with list := ?_ }
    rintro _ ⟨⟩ s
    exact h.quiet rfl rfl

end Finds

section View

variable {ν : Type} {view : σ → ν}

/-- That the surroundings look the same. -/
theorem overlooks_view : Overlooks fun s t : Session σ => view t.world = view s.world where
  quiet := fun hw _ => congrArg view hw
  trans := fun hst htu => htu.trans hst

/-- Where listing the prompts does not show, finding something out does not show. -/
theorem finds_view (hl : ∀ list ∈ host.list?, ∀ w, view (list w).world = view w) :
    Finds host fun s t : Session σ => view t.world = view s.world where
  toOverlooks := overlooks_view
  list := fun list h s => hl list h s.world
  validation := fun _ _ _ => rfl
  triggers := fun _ _ => rfl

end View

/-! ## Switching prompts -/

/-- Switching a prompt is a request to the sink and, if that is met, a line in the journal. -/
theorem Overlooks.commit (h : Overlooks R)
    (hs : ∀ sink ∈ host.toggle?, ∀ identifier enabled,
      Moves R (consult (sink identifier enabled)))
    (he : ∀ identifier enabled source, Moves R (enter (Journal.toggle identifier enabled source)))
    (source : String) (enabled : Bool) (identifier : String) :
    Moves R (commit host source enabled identifier) := by
  unfold Session.commit
  cases hsink : host.toggle? with
  | none => exact h.map (h.say _ _) _
  | some sink =>
    refine h.bind (hs sink hsink identifier enabled) fun answer => ?_
    cases answer with
    | ok _ => exact h.map (he identifier enabled source) _
    | error e => exact h.map (h.say _ _) _

namespace Tracks

variable (h : Tracks host R)

include h

theorem commitAll (source : String) (enabled : Bool) (identifiers : List String) :
    Moves R (commitAll host source enabled identifiers) :=
  h.filterM (h.commit source enabled) identifiers

theorem enableDefaults : Moves R (enableDefaults host) := by
  unfold Session.enableDefaults
  refine h.bind (h.survey fun ps => h.map (h.annotated ps) _) fun targets => ?_
  refine h.bind (h.commitAll "default" true targets) fun enabled => ?_
  split
  · exact h.map (h.say _ _) _
  · exact h.pure _

theorem activate (profile : String) : Moves R (activate host profile) := by
  unfold Session.activate
  refine h.bind (h.survey (h.profileChanges profile)) fun c => ?_
  refine h.bind (h.commitAll _ true c.toEnable) fun _ => ?_
  refine h.bind (h.commitAll _ false c.toDisable) fun _ => ?_
  split
  · exact h.map (h.say _ _) _
  · exact h.pure _

theorem fire (count : Int) (w : Watcher) : Moves R (Watcher.fire host count w) := by
  unfold Watcher.fire
  refine h.bind (h.due count _) fun t => ?_
  refine h.bind (h.commitAll "trigger" true t.toEnable) fun enabled => ?_
  refine h.bind (h.commitAll "trigger" false t.toDisable) fun disabled => ?_
  exact h.map (h.forM (fun _ => h.say _ _) t.firings) _

theorem process (count : Int) (w : Watcher) : Moves R (Watcher.process host count w) := by
  have hback : Moves R (Watcher.goBack count w : Action σ Watcher) := by
    unfold Watcher.goBack
    simp only
    split
    · exact h.map (h.say _ _) _
    · exact h.pure _
  unfold Watcher.process
  split
  · exact h.map (h.say _ _) _
  · split
    · exact h.bind hback fun w => h.fire count w
    · exact h.fire count w

theorem onMessage {counter : Option (Request σ Int)}
    (hc : ∀ request ∈ counter, Moves R (consult request)) (w : Watcher) :
    Moves R (Watcher.onMessage host counter w) := by
  unfold Watcher.onMessage
  cases counter with
  | none => exact h.map (h.say _ _) _
  | some request =>
    refine h.bind (hc request rfl) fun answer => ?_
    cases answer with
    | ok count => exact h.process count w
    | error e => exact h.map (h.say _ _) _

end Tracks

/-! ## Carrying out plans -/

theorem Overlooks.askAbout (h : Overlooks R) {asker : Asker σ}
    (ha : ∀ identifier issues, Moves R (consult (asker identifier issues))) (o : Outcome) :
    Moves R (askAbout asker o) := by
  unfold Session.askAbout
  refine h.bind (ha o.identifier o.issues) fun answer => ?_
  cases answer with
  | ok answer => exact h.pure _
  | error e => exact h.goOn _ e

theorem Overlooks.carryOut (h : Overlooks R) {sink : Sink σ}
    (hs : ∀ identifier enabled, Moves R (consult (sink identifier enabled))) (plan : Plan) :
    Moves R (plan.carryOut (planned sink)).run := by
  have hplanned : ∀ identifier enabled, Moves R (planned sink identifier enabled).run := by
    intro identifier enabled
    exact h.bind_run (hs identifier enabled) fun _ => h.lift (h.say _ _)
  unfold Plan.carryOut
  induction plan.toggles with
  | nil => exact h.pure _
  | cons t ts ih => exact h.bind_run (hplanned t.1 t.2) fun _ => ih

theorem Finds.apply (h : Finds host R) {other : Option (Sink σ)}
    (hs : ∀ sink ∈ other <|> host.toggle?, ∀ identifier enabled,
      Moves R (consult (sink identifier enabled)))
    (hr : ∀ identifier plan, Moves R (enter (Journal.resolution identifier plan)))
    (known : Option (List Prompt)) (issues : List Issue) (identifier : String) :
    Moves R (Session.apply host other known issues identifier).run := by
  unfold Session.apply
  cases hsink : other <|> host.toggle? with
  | none => exact h.pure _
  | some sink =>
    refine h.bind_run (h.lift (h.promptsOr known)) fun ps => ?_
    unfold carryOutPlan
    refine h.bind_run (h.lift (h.directivesOf ps identifier)) fun d => ?_
    cases Plan.ofIssues? issues d with
    | none => exact h.pure _
    | some plan =>
      refine h.bind_run (h.carryOut (hs sink hsink) plan) fun _ => ?_
      exact h.bind_run (h.lift (hr identifier plan)) fun _ => h.pure _

section Enabling

variable {asker : Option (Asker σ)}
  (ha : ∀ ask ∈ asker, ∀ identifier issues, Moves R (consult (ask identifier issues)))

include ha

/-- Whether somebody is asked or not. -/
theorem Overlooks.askOr (h : Overlooks R) {unasked : Action σ (Bool × Outcome)}
    (hu : Moves R unasked) (o : Outcome) :
    Moves R (match asker with | some ask => Session.askAbout ask o | none => unasked) := by
  cases asker with
  | none => exact hu
  | some ask => exact h.askAbout (ha ask rfl) o

variable (hp : ∀ ps issues identifier,
  Moves R (Session.apply host none (some ps) issues identifier).run)

include hp

theorem Overlooks.weighErrors (h : Overlooks R) (ps : List Prompt) (o : Outcome) :
    Moves R (weighErrors host asker ps o) := by
  have hasked := fun text => h.askOr ha (h.map (h.say .info text) fun _ => (false, o)) o
  unfold Session.weighErrors
  simp only
  split
  · refine h.bind (h.canClear ps o.issues o.identifier) fun clears => ?_
    cases clears with
    | true =>
      refine h.bind (hp ps o.issues o.identifier) fun r => ?_
      cases r with
      | ok plan => exact h.pure _
      | error e => exact h.goOn o e
    | false => exact hasked _
  · -- Without a sink nothing can be cleared.
    exact hasked _

theorem Overlooks.weigh (h : Overlooks R) (ps : List Prompt) (o : Outcome) :
    Moves R (weigh host asker ps o) := by
  unfold Session.weigh
  split
  · exact h.pure _
  · split
    · exact h.weighErrors ha hp ps o
    · exact h.askOr ha (h.pure _) o

theorem Tracks.enable (h : Tracks host R) (identifier : String) :
    Moves R (enable host asker identifier) := by
  unfold Session.enable
  refine h.bind h.prompts fun ps => ?_
  refine h.bind (h.check ps identifier) fun issues => ?_
  refine h.bind (h.weigh ha hp ps _) fun v => ?_
  obtain ⟨go, o⟩ := v
  cases go with
  | true => exact h.map (h.commit "user" true identifier) _
  | false => exact h.pure o

end Enabling

end Session

/-! ## Operations -/

namespace Operation

open Session

/-- Operations that only find something out, about contents or about prompts. -/
def finds : Operation σ τ → Bool
  | .look _ | .read _ | .directivesOf _ _ | .list | .forget | .check _ _ | .canClear _ _ _
  | .due _ _ _ | .profiles | .shown _ | .tokenBudget | .tags _ | .groups | .search _ | .reset =>
    true
  | _ => false

/-- Operations that switch prompts one by one. -/
def commits : Operation σ τ → Bool
  | .commit _ _ _ | .disable _ | .enableDefaults | .activate _ | .process _ => true
  | _ => false

end Operation

namespace Session

open Operation (aside watching)

theorem Overlooks.aside (h : Overlooks R) {x : Action σ α} (hx : Moves R x) (w : Watcher)
    (answer : α → Answer τ) : Moves R (aside w answer x) := h.map hx _

theorem Overlooks.watching (h : Overlooks R) {x : Action σ (Option Transitions × Watcher)}
    (hx : Moves R x) : Moves R (watching x : Action σ (Answer τ × Watcher)) := h.map hx _

theorem Finds.perform (h : Finds host R) (w : Watcher) {op : Operation σ τ}
    (hop : op.finds = true) : Moves R (op.perform host w) := by
  cases op with
  | look content => exact h.aside (h.remembered _) w _
  | read content => exact h.aside (h.pure _) w _
  | directivesOf known identifier =>
    exact h.aside (h.bind (h.promptsOr known) fun ps => h.directivesOf ps identifier) w _
  | list => exact h.aside h.prompts w _
  | forget => exact h.aside h.forget w _
  | check known identifier =>
    exact h.aside (h.bind (h.promptsOr known) fun ps => h.check ps identifier) w _
  | canClear known issues identifier =>
    exact h.aside (h.bind (h.promptsOr known) fun ps => h.canClear ps issues identifier) w _
  | due known count fired => exact h.aside ((h.showing known).due count fired) w _
  | profiles => exact h.aside (h.survey h.profileNames) w _
  | shown api => exact h.aside (h.survey fun ps => h.shownPrompts ps api) w _
  | tokenBudget => exact h.aside (h.survey h.tokenBudget) w _
  | tags limit => exact h.aside (h.survey (h.mostUsedTags limit)) w _
  | groups => exact h.aside (h.survey h.groups) w _
  | search term =>
    have hfound : Moves R (Session.survey host fun l ps => Search.find l term ps) :=
      h.survey (h.found term)
    exact h.aside hfound w _
  | reset => exact h.pure _
  | commit | apply | enable | disable | enableDefaults | activate | close | onMessage | process
  | outside => cases hop

theorem Tracks.perform (h : Tracks host R) (w : Watcher) {op : Operation σ τ}
    (hop : op.commits = true) : Moves R (op.perform host w) := by
  cases op with
  | commit source enabled identifier => exact h.aside (h.commit source enabled identifier) w _
  | disable identifier => exact h.aside (h.map (h.commit "user" false identifier) _) w _
  | enableDefaults => exact h.aside h.enableDefaults w _
  | activate profile => exact h.aside (h.activate profile) w _
  | process count => exact h.watching (h.process count w)
  | _ => cases hop

/-- What holds of the operations holds of a run of them. -/
theorem Overlooks.run (h : Overlooks R) {ops : List (Operation σ τ)}
    (hops : ∀ op ∈ ops, ∀ w, Moves R (op.perform host w)) (start : Watcher × Session σ) :
    R start.2 (Performer.run (Operation.perform host) ops start).2 := by
  induction ops generalizing start with
  | nil => exact h.quiet rfl rfl
  | cons op ops ih =>
    obtain ⟨w, s⟩ := start
    obtain ⟨hop, hrest⟩ := List.forall_mem_cons.1 hops
    exact h.trans (hop w s) (ih hrest ((op.perform host w s).1.2, (op.perform host w s).2))

end Session

end PromptRules
