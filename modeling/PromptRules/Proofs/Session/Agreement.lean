import PromptRules.Proofs.Session.Standing
import PromptRules.Session.Survey

/-!
# Sessions that differ in their memories only

Two sessions are alike if they work in the same surroundings and have recorded the same in
their journals; their memories, clocks and notes may differ in every way, as long as both
memories hold only what contents say. Two actions agree if from any two sessions that are alike
they give one answer and end in sessions that are alike. Agreement is carried through sequences
of actions, so it is enough to know it of the steps that an action is made of.

Results:
* `Agree.bind`, `Agree.mapM`, `Agree.filterM`, `Agree.forM`: actions made of actions that agree.
* `reads_remembered`, `reads_afresh`: asking a memory and reading a content afresh both tell
  what the content says.
* `agree_issuesOf`, `agree_annotated`: what is asked through two such lookups agrees.
-/

namespace PromptRules.Session

open Directive

variable {σ α β : Type}

/-- The sessions work in the same surroundings, with the same journal, and remember nothing
    but what contents say. -/
structure Alike (s t : Session σ) : Prop where
  world : s.world = t.world
  journal : s.journal = t.journal
  left : s.memo.Faithful Directives.ofContent
  right : t.memo.Faithful Directives.ofContent

/-- From sessions that are alike, the actions give one answer and end in sessions that are
    alike. -/
def Agree (x y : Action σ α) : Prop :=
  ∀ s t : Session σ, Alike s t → (x s).1 = (y t).1 ∧ Alike (x s).2 (y t).2

/-! ## Sequences of actions -/

theorem agree_pure (a : α) : Agree (pure a : Action σ α) (pure a) := fun _ _ h => ⟨rfl, h⟩

theorem Agree.bind {x y : Action σ α} {f g : α → Action σ β} (hx : Agree x y)
    (hf : ∀ a, Agree (f a) (g a)) : Agree (x >>= f) (y >>= g) := by
  intro s t h
  obtain ⟨ha, h'⟩ := hx s t h
  have hnext := hf (x s).1 _ _ h'
  rw [ha] at hnext
  show (f (x s).1 (x s).2).1 = (g (y t).1 (y t).2).1 ∧
    Alike (f (x s).1 (x s).2).2 (g (y t).1 (y t).2).2
  rw [ha]
  exact hnext

/-- What is made of an answer does not matter for agreement. -/
theorem Agree.map {x y : Action σ α} (hx : Agree x y) (f : α → β) :
    Agree (do return f (← x)) (do return f (← y)) := hx.bind fun _ => agree_pure _

theorem Agree.mapM {γ : Type} {f g : γ → Action σ α} (hf : ∀ c, Agree (f c) (g c)) (cs : List γ) :
    Agree (cs.mapM f) (cs.mapM g) := by
  induction cs with
  | nil => exact agree_pure []
  | cons c cs ih =>
    rw [List.mapM_cons, List.mapM_cons]
    exact (hf c).bind fun _ => ih.bind fun _ => agree_pure _

/-- Answers kept beside what they are about. -/
theorem Agree.mapM_pair {γ : Type} {f g : γ → Action σ α} (hf : ∀ c, Agree (f c) (g c))
    (cs : List γ) : Agree (cs.mapM fun c => do return (c, ← f c))
      (cs.mapM fun c => do return (c, ← g c)) :=
  Agree.mapM (fun c => (hf c).map (c, ·)) cs

theorem Agree.forM {γ : Type} {f g : γ → Action σ Unit} (hf : ∀ c, Agree (f c) (g c))
    (cs : List γ) : Agree (cs.forM f) (cs.forM g) := by
  induction cs with
  | nil => exact agree_pure ()
  | cons c cs ih => exact (hf c).bind fun _ => ih

theorem Agree.filterM {γ : Type} {f g : γ → Action σ Bool} (hf : ∀ c, Agree (f c) (g c))
    (cs : List γ) : Agree (cs.filterM f) (cs.filterM g) := by
  have haux : ∀ acc, Agree (cs.filterAuxM f acc) (cs.filterAuxM g acc) := by
    induction cs with
    | nil => exact fun acc => agree_pure acc
    | cons c cs ih => exact fun acc => (hf c).bind fun b => ih _
  exact (haux []).bind fun _ => agree_pure _

/-! ## Actions that can fail -/

theorem Agree.bind_run {x y : ExceptT Fault (Action σ) α} {f g : α → ExceptT Fault (Action σ) β}
    (hx : Agree x.run y.run) (hf : ∀ a, Agree (f a).run (g a).run) :
    Agree (x >>= f).run (y >>= g).run := by
  rw [ExceptT.run_bind, ExceptT.run_bind]
  refine Agree.bind hx fun r => ?_
  cases r with
  | ok a => exact hf a
  | error e => exact agree_pure _

theorem Agree.lift {x y : Action σ α} (hx : Agree x y) :
    Agree (ExceptT.lift x : ExceptT Fault (Action σ) α).run (ExceptT.lift y).run := by
  rw [ExceptT.run_lift, ExceptT.run_lift]
  exact Agree.bind hx fun a => agree_pure (Except.ok a)

/-! ## Single steps -/

theorem agree_say (level : Level) (text : String) :
    Agree (say level text : Action σ Unit) (say level text) :=
  fun _ _ h => ⟨rfl, h.world, h.journal, h.left, h.right⟩

theorem agree_enter (event : Journal → Journal) :
    Agree (enter event : Action σ Unit) (enter event) :=
  fun _ _ h => ⟨rfl, h.world, congrArg event h.journal, h.left, h.right⟩

theorem agree_consult (request : Request σ α) : Agree (consult request) (consult request) := by
  intro s t h
  have hreply : request s.world = request t.world := congrArg request h.world
  exact ⟨congrArg Reply.answer hreply, congrArg Reply.world hreply, h.journal, h.left, h.right⟩

theorem agree_forget : Agree (forget : Action σ Unit) forget :=
  fun _ _ h => ⟨rfl, h.world, h.journal, Memo.faithful_clear _, Memo.faithful_clear _⟩

theorem agree_close : Agree (close : Action σ (Option String)) close := by
  intro s t h
  have hfile : s.journal.close.1 = t.journal.close.1 := by rw [h.journal]
  have hjournal : s.journal.close.2 = t.journal.close.2 := by rw [h.journal]
  exact ⟨hfile, h.world, hjournal, h.left, h.right⟩

theorem agree_prompts (host : Host σ) : Agree (prompts host) (prompts host) := by
  unfold prompts
  cases host.list? with
  | none => exact (agree_say _ _).bind fun _ => agree_pure []
  | some list =>
    refine (agree_consult list).bind fun answer => ?_
    cases answer with
    | ok ps => exact agree_pure ps
    | error e => exact (agree_say _ _).bind fun _ => agree_pure []

theorem agree_promptsOr (host : Host σ) (known : Option (List Prompt)) :
    Agree (promptsOr host known) (promptsOr host known) := by
  cases known with
  | none => exact agree_prompts host
  | some ps => exact agree_pure ps

theorem agree_commit (host : Host σ) (source : String) (enabled : Bool) (identifier : String) :
    Agree (commit host source enabled identifier) (commit host source enabled identifier) := by
  unfold commit
  cases host.toggle? with
  | none => exact (agree_say _ _).bind fun _ => agree_pure false
  | some toggle =>
    refine (agree_consult (toggle identifier enabled)).bind fun answer => ?_
    cases answer with
    | ok _ => exact (agree_enter _).bind fun _ => agree_pure true
    | error e => exact (agree_say _ _).bind fun _ => agree_pure false

theorem agree_commitAll (host : Host σ) (source : String) (enabled : Bool)
    (identifiers : List String) :
    Agree (commitAll host source enabled identifiers) (commitAll host source enabled identifiers) :=
  Agree.filterM (agree_commit host source enabled) identifiers

theorem agree_planned (sink : Sink σ) (identifier : String) (enabled : Bool) :
    Agree (planned sink identifier enabled).run (planned sink identifier enabled).run :=
  Agree.bind_run (agree_consult (sink identifier enabled)) fun _ => (agree_say _ _).lift

theorem agree_carryOut (sink : Sink σ) (plan : Plan) :
    Agree (plan.carryOut (planned sink)).run (plan.carryOut (planned sink)).run := by
  unfold Plan.carryOut
  induction plan.toggles with
  | nil => exact agree_pure _
  | cons t ts ih => exact Agree.bind_run (agree_planned sink t.1 t.2) fun _ => ih

theorem agree_goOn (o : Outcome) (e : Fault) : Agree (goOn o e : Action σ _) (goOn o e) :=
  (agree_say _ _).bind fun _ => agree_pure _

theorem agree_askAbout (asker : Asker σ) (o : Outcome) :
    Agree (askAbout asker o) (askAbout asker o) := by
  unfold askAbout
  refine (agree_consult (asker o.identifier o.issues)).bind fun answer => ?_
  cases answer with
  | ok answer => exact agree_pure _
  | error e => exact agree_goOn _ e

/-! ## Lookups -/

/-- Reads a content afresh: nothing is asked of the memory, and nothing remembered. -/
def afresh : Lookup (Action σ) := fun content => pure (said content)

/-- From a faithful memory, the lookup tells what a content says, and leaves the surroundings,
    the journal and the faithfulness of the memory alone. -/
def Reads (lookup : Lookup (Action σ)) : Prop :=
  ∀ content (s : Session σ), s.memo.Faithful Directives.ofContent →
    (lookup content s).1 = said content ∧
    (lookup content s).2.world = s.world ∧ (lookup content s).2.journal = s.journal ∧
    (lookup content s).2.memo.Faithful Directives.ofContent

theorem reads_remembered : Reads (remembered : Lookup (Action σ)) :=
  fun content _ hm => ⟨Memo.get_directives hm _ content, rfl, rfl, hm.get _ content⟩

theorem reads_afresh : Reads (afresh : Lookup (Action σ)) := fun _ _ hm => ⟨rfl, rfl, rfl, hm⟩

section Lookups

variable {l l' : Lookup (Action σ)} (hl : Reads l) (hl' : Reads l')

include hl hl'

theorem agree_lookup (content : String) : Agree (l content) (l' content) := by
  intro s t h
  obtain ⟨hd, hw, hj, hm⟩ := hl content s h.left
  obtain ⟨hd', hw', hj', hm'⟩ := hl' content t h.right
  refine ⟨hd.trans hd'.symm, ?_, ?_, hm, hm'⟩
  · rw [hw, hw', h.world]
  · rw [hj, hj', h.journal]

theorem agree_annotate (ps : List Prompt) : Agree (annotate l ps) (annotate l' ps) :=
  Agree.mapM_pair (fun p : Prompt => agree_lookup hl hl' p.content) ps

theorem agree_annotated (ps : List Prompt) : Agree (annotated l ps) (annotated l' ps) :=
  agree_annotate hl hl' _

theorem agree_directivesOf (p : Prompt) :
    Agree (PromptRules.directivesOf l p) (PromptRules.directivesOf l' p) := by
  unfold PromptRules.directivesOf
  split
  · exact agree_lookup hl hl' p.content
  · exact agree_pure _

theorem agree_askFor (p : Prompt) (ps : List Prompt) (limit : Option String) :
    Agree (Activation.askFor l p ps limit) (Activation.askFor l' p ps limit) := by
  cases limit with
  | none => exact agree_pure []
  | some c => exact agree_annotate hl hl' _

theorem agree_rawIssues (p : Prompt) (ps : List Prompt) :
    Agree (Activation.rawIssues l p ps) (Activation.rawIssues l' p ps) := by
  rw [Activation.rawIssues_eq, Activation.rawIssues_eq]
  refine (agree_lookup hl hl' p.content).bind fun d => ?_
  refine (agree_annotate hl hl' _).bind fun _ => ?_
  refine (agree_askFor hl hl' p ps _).bind fun _ => ?_
  refine (agree_askFor hl hl' p ps _).bind fun _ => ?_
  exact (agree_annotate hl hl' _).bind fun _ => agree_pure _

theorem agree_issuesOf (identifier : String) (ps : List Prompt) :
    Agree (Activation.issuesOf l identifier ps) (Activation.issuesOf l' identifier ps) := by
  unfold Activation.issuesOf
  cases Prompt.find? ps identifier with
  | none => exact agree_pure []
  | some p =>
    simp only
    split
    · exact (agree_rawIssues hl hl' p ps).map _
    · exact agree_pure []

theorem agree_transitions (count : Int) (ps : List Prompt) (fired : Trigger.Fired) :
    Agree (Trigger.transitions l count ps fired) (Trigger.transitions l' count ps fired) :=
  (agree_annotated hl hl' ps).map _

theorem agree_defaults (ps : List Prompt) : Agree (defaults l ps) (defaults l' ps) :=
  (agree_annotated hl hl' ps).map _

theorem agree_profileNames (ps : List Prompt) : Agree (Profile.names l ps) (Profile.names l' ps) :=
  (agree_annotated hl hl' ps).map _

theorem agree_profileChanges (profile : String) (ps : List Prompt) :
    Agree (Profile.changes l profile ps) (Profile.changes l' profile ps) :=
  (Agree.mapM_pair (agree_directivesOf hl hl') ps).map _

theorem agree_tokenBudget (ps : List Prompt) :
    Agree (TokenBudget.ofPrompts l ps) (TokenBudget.ofPrompts l' ps) :=
  (agree_annotated hl hl' ps).map _

theorem agree_mostUsedTags (limit : Option Int) (ps : List Prompt) :
    Agree (Tag.mostUsed l limit ps) (Tag.mostUsed l' limit ps) :=
  (agree_annotated hl hl' ps).map _

theorem agree_groups (ps : List Prompt) : Agree (Group.ofPrompts l ps) (Group.ofPrompts l' ps) :=
  (agree_annotated hl hl' ps).map _

theorem agree_find (term : String) (ps : List Prompt) :
    Agree (Search.find l term ps) (Search.find l' term ps) := by
  unfold Search.find
  simp only
  split
  · exact agree_pure ps
  · exact (Agree.mapM_pair (agree_directivesOf hl hl') ps).map _

theorem agree_isShown (p : Prompt) (ps : List Prompt) (api : Option String) :
    Agree (Visibility.isShown l p ps api) (Visibility.isShown l' p ps api) := by
  unfold Visibility.isShown
  split
  · exact (agree_lookup hl hl' p.content).map _
  · exact agree_pure true

theorem agree_shownPrompts (ps : List Prompt) (api : Option String) :
    Agree (Visibility.shown l ps api) (Visibility.shown l' ps api) :=
  (Agree.mapM_pair (fun p => agree_isShown hl hl' p ps api) ps).map _

end Lookups

end PromptRules.Session
