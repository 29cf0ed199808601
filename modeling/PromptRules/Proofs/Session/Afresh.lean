import PromptRules.Proofs.Session.Agreement
import PromptRules.Proofs.Session.Operation

/-!
# The memory does not show

The actions of a session ask a lookup what contents say; in a session that is its memory. Two
lookups that tell what contents say, like the memory of one session, the memory of another and
reading every content afresh, lead to the same answers and surroundings, however long the run is.

Results:
* `Session.agree_enable`, `Watcher.agree_process`: through two lookups that tell what contents say,
  an action agrees.
* `Operation.agree_performThrough`: so does every operation.
* `Performer.reports_of_agree`: what agrees step by step shows the same in every run.
* `reports_eq_afresh`: limits and clock of the memory do not show in the reports of a run, and
  neither does the memory itself.
-/

namespace PromptRules

open Directive Session

variable {σ τ : Type}

section Agreement

variable {l l' : Lookup (Action σ)} (hl : Reads l) (hl' : Reads l')

include hl hl'

/-! ## Actions of a session -/

namespace Session

theorem agree_directivesIn (ps : List Prompt) (identifier : String) :
    Agree (directivesOf ps identifier l) (directivesOf ps identifier l') := by
  unfold directivesOf
  cases Prompt.find? ps identifier with
  | none => exact agree_pure _
  | some p => exact agree_lookup hl hl' p.content

theorem agree_check (ps : List Prompt) (identifier : String) :
    Agree (check ps identifier l) (check ps identifier l') := by
  unfold check
  refine (agree_issuesOf hl hl' identifier ps).bind fun issues => ?_
  split
  · exact (agree_say _ _).bind fun _ => (agree_enter _).map _
  · exact (agree_enter _).map _

theorem agree_canClear (ps : List Prompt) (issues : List Issue) (identifier : String) :
    Agree (canClear ps issues identifier l) (canClear ps issues identifier l') :=
  (agree_directivesIn hl hl' ps identifier).map _

theorem agree_carryOutPlan (sink : Sink σ) (ps : List Prompt) (issues : List Issue)
    (identifier : String) :
    Agree (carryOutPlan sink ps issues identifier l).run
      (carryOutPlan sink ps issues identifier l').run := by
  unfold carryOutPlan
  refine Agree.bind_run (agree_directivesIn hl hl' ps identifier).lift fun d => ?_
  cases Plan.ofIssues? issues d with
  | none => exact agree_pure _
  | some plan =>
    refine Agree.bind_run (agree_carryOut sink plan) fun _ => ?_
    exact Agree.bind_run (agree_enter _).lift fun _ => agree_pure _

theorem agree_apply (host : Host σ) (other : Option (Sink σ)) (known : Option (List Prompt))
    (issues : List Issue) (identifier : String) :
    Agree (apply host other known issues identifier l).run
      (apply host other known issues identifier l').run := by
  unfold apply
  cases other <|> host.toggle? with
  | none => exact agree_pure _
  | some sink =>
    refine Agree.bind_run (agree_promptsOr host known).lift fun ps => ?_
    exact agree_carryOutPlan hl hl' sink ps issues identifier

theorem agree_clearOrAsk (host : Host σ) (asker : Option (Asker σ)) (ps : List Prompt)
    (o : Outcome) (clears : Bool) :
    Agree (clearOrAsk host asker ps o clears l) (clearOrAsk host asker ps o clears l') := by
  unfold clearOrAsk
  cases clears with
  | true =>
    refine (agree_apply hl hl' host none (some ps) o.issues o.identifier).bind fun r => ?_
    cases r with
    | ok plan => exact agree_pure _
    | error e => exact agree_goOn o e
  | false =>
    cases asker with
    | some asker => exact agree_askAbout asker o
    | none => exact (agree_say _ _).map _

theorem agree_weighErrors (host : Host σ) (asker : Option (Asker σ)) (ps : List Prompt)
    (o : Outcome) : Agree (weighErrors host asker ps o l) (weighErrors host asker ps o l') := by
  have hrest := agree_clearOrAsk hl hl' host asker ps o
  unfold weighErrors
  simp only
  split
  · exact (agree_canClear hl hl' ps o.issues o.identifier).bind hrest
  · exact (agree_pure false).bind hrest

theorem agree_weigh (host : Host σ) (asker : Option (Asker σ)) (ps : List Prompt) (o : Outcome) :
    Agree (weigh host asker ps o l) (weigh host asker ps o l') := by
  unfold weigh
  split
  · exact agree_pure _
  · split
    · exact agree_weighErrors hl hl' host asker ps o
    · cases asker with
      | some asker => exact agree_askAbout asker o
      | none => exact agree_pure _

theorem agree_enable (host : Host σ) (asker : Option (Asker σ)) (identifier : String) :
    Agree (enable host asker identifier l) (enable host asker identifier l') := by
  unfold enable
  refine (agree_prompts host).bind fun ps => ?_
  refine (agree_check hl hl' ps identifier).bind fun issues => ?_
  refine (agree_weigh hl hl' host asker ps _).bind fun v => ?_
  obtain ⟨go, o⟩ := v
  cases go with
  | true => exact (agree_commit host "user" true identifier).map _
  | false => exact agree_pure o

omit hl hl' in
theorem agree_survey {α : Type} (host : Host σ)
    {question : Lookup (Action σ) → List Prompt → Action σ α}
    (hq : ∀ ps, Agree (question l ps) (question l' ps)) :
    Agree (survey host question l) (survey host question l') :=
  (agree_prompts host).bind hq

theorem agree_due (host : Host σ) (count : Int) (fired : Trigger.Fired) :
    Agree (due host count fired l) (due host count fired l') := by
  unfold due
  refine (agree_survey host fun ps =>
    agree_transitions hl hl' count ps fired).bind fun t => ?_
  refine (Agree.forM (fun _ => agree_say _ _) t.firings).bind fun _ => ?_
  exact (agree_enter _).map _

theorem agree_enableDefaults (host : Host σ) :
    Agree (enableDefaults host l) (enableDefaults host l') := by
  unfold enableDefaults
  refine (agree_survey host (agree_defaults hl hl')).bind fun targets => ?_
  refine (agree_commitAll host "default" true targets).bind fun enabled => ?_
  split
  · exact (agree_say _ _).map _
  · exact agree_pure _

theorem agree_activate (host : Host σ) (profile : String) :
    Agree (activate host profile l) (activate host profile l') := by
  unfold activate
  refine (agree_survey host (agree_profileChanges hl hl' profile)).bind fun c => ?_
  refine (agree_commitAll host _ true c.toEnable).bind fun _ => ?_
  refine (agree_commitAll host _ false c.toDisable).bind fun _ => ?_
  split
  · exact (agree_say _ _).map _
  · exact agree_pure _

end Session

/-! ## Actions of a watcher -/

namespace Watcher

theorem agree_fire (host : Host σ) (count : Int) (w : Watcher) :
    Agree (fire host count w l) (fire host count w l') := by
  unfold fire
  refine (agree_due hl hl' host count _).bind fun t => ?_
  refine (agree_commitAll host "trigger" true t.toEnable).bind fun enabled => ?_
  refine (agree_commitAll host "trigger" false t.toDisable).bind fun disabled => ?_
  exact (Agree.forM (fun _ => agree_say _ _) t.firings).map _

theorem agree_process (host : Host σ) (count : Int) (w : Watcher) :
    Agree (process host count w l) (process host count w l') := by
  have hback : Agree (goBack count w : Action σ Watcher) (goBack count w) := by
    unfold goBack
    simp only
    split
    · exact (agree_say _ _).map _
    · exact agree_pure _
  unfold process
  split
  · exact (agree_say _ _).map _
  · split
    · exact hback.bind fun w => agree_fire hl hl' host count w
    · exact agree_fire hl hl' host count w

theorem agree_onMessage (host : Host σ) (counter : Option (Request σ Int)) (w : Watcher) :
    Agree (onMessage host counter w l) (onMessage host counter w l') := by
  unfold onMessage
  cases counter with
  | none => exact (agree_say _ _).map _
  | some counter =>
    refine (agree_consult counter).bind fun answer => ?_
    cases answer with
    | ok count => exact agree_process hl hl' host count w
    | error e => exact (agree_say _ _).map _

end Watcher

/-! ## Operations -/

namespace Operation

omit hl hl' in
theorem agree_aside {α : Type} {x y : Action σ α} (hx : Agree x y) (w : Watcher)
    (answer : α → Answer τ) : Agree (aside w answer x) (aside w answer y) :=
  hx.map _

omit hl hl' in
theorem agree_watching {x y : Action σ (Option Transitions × Watcher)} (hx : Agree x y) :
    Agree (watching x : Action σ (Answer τ × Watcher)) (watching y) :=
  hx.map _

/-- **Through two lookups that tell what contents say, every operation agrees.** -/
theorem agree_performThrough (host : Host σ) (w : Watcher) (op : Operation σ τ) :
    Agree (performThrough l host w op) (performThrough l' host w op) := by
  unfold performThrough
  cases op with
  | look content => exact agree_aside (agree_lookup hl hl' _) w _
  | read content => exact agree_aside (agree_pure _) w _
  | directivesOf known identifier =>
    refine agree_aside ((agree_promptsOr host known).bind fun ps => ?_) w _
    exact agree_directivesIn hl hl' ps identifier
  | list => exact agree_aside (agree_prompts host) w _
  | forget => exact agree_aside agree_forget w _
  | commit source enabled identifier =>
    exact agree_aside (agree_commit host source enabled identifier) w _
  | check known identifier =>
    refine agree_aside ((agree_promptsOr host known).bind fun ps => ?_) w _
    exact agree_check hl hl' ps identifier
  | canClear known issues identifier =>
    refine agree_aside ((agree_promptsOr host known).bind fun ps => ?_) w _
    exact agree_canClear hl hl' ps issues identifier
  | apply other known issues identifier =>
    exact agree_aside (agree_apply hl hl' host other known issues identifier) w _
  | enable asker identifier => exact agree_aside (agree_enable hl hl' host asker identifier) w _
  | disable identifier =>
    exact agree_aside ((agree_commit host "user" false identifier).map _) w _
  | due known count fired =>
    exact agree_aside (agree_due hl hl' (host.showing known) count fired) w _
  | enableDefaults => exact agree_aside (agree_enableDefaults hl hl' host) w _
  | profiles => exact agree_aside (agree_survey host (agree_profileNames hl hl')) w _
  | activate profile => exact agree_aside (agree_activate hl hl' host profile) w _
  | shown api =>
    exact agree_aside (agree_survey host fun ps => agree_shownPrompts hl hl' ps api) w _
  | tokenBudget => exact agree_aside (agree_survey host (agree_tokenBudget hl hl')) w _
  | tags limit => exact agree_aside (agree_survey host (agree_mostUsedTags hl hl' limit)) w _
  | groups => exact agree_aside (agree_survey host (agree_groups hl hl')) w _
  | search term =>
    have hfind : Agree (survey host (fun lookup ps => Search.find lookup term ps) l)
        (survey host (fun lookup ps => Search.find lookup term ps) l') :=
      agree_survey host fun ps => agree_find hl hl' term ps
    exact agree_aside hfind w _
  | close => exact agree_aside agree_close w _
  | onMessage counter => exact agree_watching (Watcher.agree_onMessage hl hl' host counter w)
  | process count => exact agree_watching (Watcher.agree_process hl hl' host count w)
  | reset => exact agree_pure _
  | outside request => exact agree_aside (agree_consult request) w _

end Operation

end Agreement

/-! ## Runs -/

/-- Alike sessions with one watcher show the same in every run, if all operations agree. -/
theorem Performer.reports_of_agree {perform perform' : Performer σ τ}
    (hagree : ∀ w op, Agree (perform w op) (perform' w op)) (ops : List (Operation σ τ))
    (w : Watcher) {s t : Session σ} (h : Alike s t) :
    perform.reports ops (w, s) = perform'.reports ops (w, t) := by
  induction ops generalizing w s t with
  | nil => rfl
  | cons op ops ih =>
    obtain ⟨hanswer, hnext⟩ := hagree w op s t h
    rw [reports, reports, ← hanswer, ← hnext.world, ← hnext.journal, ih _ hnext]

/-- What can be seen of a run can be seen by reading every content afresh. -/
theorem reports_afresh (host : Host σ) (ops : List (Operation σ τ)) (w : Watcher) {s : Session σ}
    (hm : s.memo.Faithful Directives.ofContent) :
    Performer.reports (Operation.perform host) ops (w, s) =
      Performer.reports (Operation.performThrough afresh host) ops (w, s) :=
  Performer.reports_of_agree
    (Operation.agree_performThrough reads_remembered reads_afresh host) ops w ⟨rfl, rfl, hm, hm⟩

/-- A session that begins in some surroundings with an empty memory. -/
def Session.begun (w : σ) (journal : Journal) (limits : Limits) (clock : Nat → Float) :
    Session σ :=
  { world := w, memo := { limits := limits }, clock := clock, journal := journal }

theorem Session.alike_begun (w : σ) (journal : Journal) (limits limits' : Limits)
    (clock clock' : Nat → Float) :
    Alike (begun w journal limits clock) (begun w journal limits' clock') :=
  ⟨rfl, rfl, Memo.faithful_new limits, Memo.faithful_new limits'⟩

end PromptRules
