import PromptRules.Proofs.Session.Moves
import PromptRules.Store.Basic

/-!
# Logs of toggles

Surroundings can keep a log of the toggles that they carry out: a toggle that is answered
without a failure is written down, one that fails and everything else leaves the log alone.
The log tells from outside which of its toggles a session has got through.

Results:
* `log_commitAll`: several toggles write down exactly those that worked.
* `Watcher.process_eq_outcome`: what a watcher reports and remembers at another count, with the
  toggles that it gets through.
-/

namespace PromptRules

variable {σ α β : Type}

/-- The surroundings write down in `log` the toggles that they carry out, and nothing else. -/
structure Host.Logs (host : Host σ) (log : σ → List (String × Bool)) : Prop where
  list : ∀ list ∈ host.list?, ∀ w, log (list w).world = log w
  toggle : ∀ toggle ∈ host.toggle?, ∀ identifier enabled w,
    log (toggle identifier enabled w).world =
      if (toggle identifier enabled w).answer.isOk then log w ++ [(identifier, enabled)] else log w

namespace Session

variable {host : Host σ} {log : σ → List (String × Bool)}

/-- Whatever the session, the action leaves the log as it is. -/
def Calm (log : σ → List (String × Bool)) (act : Action σ α) : Prop :=
  ∀ s : Session σ, log (act s).2.world = log s.world

theorem run_bind (x : Action σ α) (f : α → Action σ β) (s : Session σ) :
    (x >>= f) s = f (x s).1 (x s).2 := rfl

theorem run_pure (a : α) (s : Session σ) : (pure a : Action σ α) s = (a, s) := rfl

/-! ## Calm actions -/

/-- The triggers that are due come from the prompts and what they are taken to say. -/
theorem due_firings (host : Host σ) (count : Int) (fired : Trigger.Fired) (s : Session σ) :
    ∃ around : List (Prompt × Directive.Directives),
      (due host count fired remembered s).1 =
        .ofFirings count (around.flatMap fun o => Trigger.due count fired o.1 o.2) := ⟨_, rfl⟩

theorem calm_due (h : host.Logs log) (count : Int) (fired : Trigger.Fired) :
    Calm log (due host count fired) := (finds_view h.list).due count fired

/-! ## Toggles -/

theorem log_commit (h : host.Logs log) (source : String) (enabled : Bool) (identifier : String)
    (s : Session σ) :
    log (commit host source enabled identifier s).2.world =
      if (commit host source enabled identifier s).1 then log s.world ++ [(identifier, enabled)]
      else log s.world := by
  unfold commit
  cases ht : host.toggle? with
  | none => rfl
  | some toggle =>
    have hlog := h.toggle toggle ht identifier enabled s.world
    cases ha : (toggle identifier enabled s.world).answer with
    | ok _ =>
      rw [ha] at hlog
      simp only [bind, StateT.bind, consult, modifyGet, MonadStateOf.modifyGet, StateT.modifyGet,
        ha]
      exact hlog
    | error e =>
      rw [ha] at hlog
      simp only [bind, StateT.bind, consult, modifyGet, MonadStateOf.modifyGet, StateT.modifyGet,
        ha]
      exact hlog

theorem filterAuxM_eq (f : α → Action σ Bool) (as acc : List α) (s : Session σ) :
    as.filterAuxM f acc s =
      ((as.filterAuxM f [] s).1 ++ acc, (as.filterAuxM f [] s).2) := by
  induction as generalizing acc s with
  | nil => rfl
  | cons a as ih =>
    have hstep : ∀ acc, (a :: as).filterAuxM f acc s =
        as.filterAuxM f (cond (f a s).1 (a :: acc) acc) (f a s).2 := fun _ => rfl
    rw [hstep, hstep, ih]
    cases (f a s).1 with
    | false => rfl
    | true =>
      rw [cond_true, cond_true, ih [a], List.append_assoc]
      rfl

theorem commitAll_cons (host : Host σ) (source : String) (enabled : Bool) (identifier : String)
    (identifiers : List String) (s : Session σ) :
    commitAll host source enabled (identifier :: identifiers) s =
      let first := commit host source enabled identifier s
      let rest := commitAll host source enabled identifiers first.2
      (if first.1 then identifier :: rest.1 else rest.1, rest.2) := by
  have hall : ∀ (ids : List String) (s : Session σ), commitAll host source enabled ids s =
      ((ids.filterAuxM (commit host source enabled) [] s).1.reverse,
        (ids.filterAuxM (commit host source enabled) [] s).2) := fun _ _ => rfl
  rw [hall]
  have hstep : (identifier :: identifiers).filterAuxM (commit host source enabled) [] s =
      identifiers.filterAuxM (commit host source enabled)
        (cond (commit host source enabled identifier s).1 [identifier] [])
        (commit host source enabled identifier s).2 := rfl
  rw [hstep, filterAuxM_eq]
  simp only [hall]
  cases (commit host source enabled identifier s).1 with
  | false => rw [cond_false, List.append_nil]; rfl
  | true => rw [cond_true, List.reverse_append]; rfl

/-- Several toggles write down exactly those that worked. -/
theorem log_commitAll (h : host.Logs log) (source : String) (enabled : Bool)
    (identifiers : List String) (s : Session σ) :
    log (commitAll host source enabled identifiers s).2.world =
      log s.world ++ (commitAll host source enabled identifiers s).1.map (·, enabled) := by
  induction identifiers generalizing s with
  | nil => exact (List.append_nil _).symm
  | cons identifier identifiers ih =>
    rw [commitAll_cons]
    simp only
    rw [ih, log_commit h]
    split
    · rw [List.map_cons, List.append_assoc, List.singleton_append]
    · rfl

end Session

/-! ## Watchers -/

namespace Watcher

variable {host : Host σ} {log : σ → List (String × Bool)}

/-- What a watcher reports and remembers at a count, for prompts that say these directives, if
    these toggles work. -/
def outcome (count : Int) (around : List (Prompt × Directive.Directives))
    (enabled disabled : List String) (w : Watcher) : Option Transitions × Watcher :=
  let firings := around.flatMap fun o => Trigger.due count (Data.Assoc.keys w.fired) o.1 o.2
  (some (.ofFirings count firings),
    { last := some count, fired := firings.foldl (mark enabled disabled) w.fired })

/-- The toggles of a count, from those that worked. -/
def toggles (enabled disabled : List String) : List (String × Bool) :=
  enabled.map (·, true) ++ disabled.map (·, false)

/-- What a watcher goes on with at another count. -/
def before (count : Int) (w : Watcher) : Watcher :=
  if w.last.any (count < ·) then rearm count w else w

theorem fire_eq_outcome (h : host.Logs log) (count : Int) (w : Watcher) (s : Session σ) :
    ∃ around enabled disabled,
      (fire host count w Session.remembered s).1 = outcome count around enabled disabled w ∧
      log (fire host count w Session.remembered s).2.world =
        log s.world ++ toggles enabled disabled := by
  obtain ⟨around, ht⟩ := Session.due_firings host count (Data.Assoc.keys w.fired) s
  have hdue := Session.calm_due h count (Data.Assoc.keys w.fired) s
  unfold fire
  simp only [Session.run_bind, Session.run_pure]
  generalize Session.due host count (Data.Assoc.keys w.fired) Session.remembered s = t at ht hdue ⊢
  have hon := Session.log_commitAll h "trigger" true t.1.toEnable t.2
  generalize Session.commitAll host "trigger" true t.1.toEnable t.2 = on at hon ⊢
  have hoff := Session.log_commitAll h "trigger" false t.1.toDisable on.2
  generalize Session.commitAll host "trigger" false t.1.toDisable on.2 = off at hoff ⊢
  have hsay : Session.Calm log (t.1.firings.forM fun f => Session.say .info (firingNote f)) :=
    Session.overlooks_view.forM (fun f => Session.overlooks_view.say .info (firingNote f)) _
  refine ⟨around, on.1, off.1, ?_, ?_⟩
  · rw [outcome, ht]
    rfl
  · rw [hsay, hoff, hon, hdue, toggles, List.append_assoc]

theorem goBack_world (count : Int) (w : Watcher) (s : Session σ) :
    (goBack count w s).1 = rearm count w ∧ (goBack count w s).2.world = s.world := by
  unfold goBack
  simp only
  split <;> exact ⟨rfl, rfl⟩

/-- **What a watcher reports and remembers at another count** are the triggers that are due for
    the prompts, with the toggles that it gets through. -/
theorem process_eq_outcome (h : host.Logs log) {count : Int} {w : Watcher}
    (hn : w.last ≠ some count) (s : Session σ) :
    ∃ around enabled disabled,
      (process host count w Session.remembered s).1 =
          outcome count around enabled disabled (w.before count) ∧
      log (process host count w Session.remembered s).2.world =
        log s.world ++ toggles enabled disabled := by
  unfold process before
  rw [if_neg hn]
  split
  · obtain ⟨hw, hs⟩ := goBack_world count w s
    rw [Session.run_bind, hw, ← hs]
    exact fire_eq_outcome h count (rearm count w) (goBack count w s).2
  · exact fire_eq_outcome h count w s

end Watcher

end PromptRules
