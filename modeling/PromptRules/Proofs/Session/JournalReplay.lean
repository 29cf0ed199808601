import PromptRules.Proofs.Session.Recording
import PromptRules.Proofs.Session.StoreLog

/-!
# Replaying the journal

An open journal tells of every toggle that a session gets through on a store, but for those of
plans that break off: they are in the log of the store, and the journal does not tell of them.
So the journal always tells of some of the toggles in the log, in their order, and it tells of
all of them iff no plan has broken off after one of its toggles was applied.

Results:
* `tells_apply`, `tells_enable`, `tells_perform`: what the journal tells of one operation.
* `tallies_run`: what it tells of a run, and how many toggles are missing.
* `told_eq_toggles_iff`: when it tells of all toggles.
* `told_of_broken_plan`: a plan that breaks off.
-/

namespace PromptRules

open Directive Session

variable {σ τ : Type} {host : Host σ} {store : σ → Store}

/-! ## Operations -/

namespace Operation

/-- The program brings along nothing that toggles the store, and leaves the journal open. -/
def Inward (store : σ → Store) : Operation σ τ → Prop
  | .apply other _ _ _ => other = none
  | .enable asker _ =>
    ∀ ask ∈ asker, ∀ identifier issues w, store (ask identifier issues w).world = store w
  | .onMessage counter => ∀ request ∈ counter, ∀ w, store (request w).world = store w
  | .close | .outside _ => False
  | _ => True

/-- The toggles that an operation applies, in the surroundings `w`, before its plan breaks off. -/
def untold (host : Host σ) (w : σ) : Operation σ τ → List (String × Bool)
  | .apply _ known issues identifier =>
    let listed := given host known w
    brokenOff host listed.1 issues identifier listed.2
  | .enable _ identifier =>
    let listed := host.listed w
    brokenOff host listed.1 (Activation.issuesBy said identifier listed.1) identifier listed.2
  | _ => []

end Operation

/-- The plan that an operation has carried out, by its answer. -/
def Answer.plan? : Answer τ → Option Plan
  | .plan r => r.toOption
  | .outcome o => o.plan
  | _ => none

/-! ## What is told from session to session -/

namespace Session

/-- The journal is open, and no identifier of the store is too long for it. -/
structure Recording (store : σ → Store) (s : Session σ) : Prop where
  isOpen : s.journal.isOpen = true
  short : ∀ e ∈ (store s.world).prompts.map Prompt.identifier, e.length ≤ Journal.maxText

/-- While the journal is recording, some toggles are applied that it does not tell of, and then
    others that it tells of. -/
def Tells (store : σ → Store) (untold : List (String × Bool)) (s t : Session σ) : Prop :=
  Recording store s → Recording store t ∧ ∃ told,
    (store t.world).toggles = (store s.world).toggles ++ (untold ++ told) ∧
    t.journal.toggles = s.journal.toggles ++ told

/-- The store is left alone, and the journal tells of nothing new. -/
structure Silent (store : σ → Store) (s t : Session σ) : Prop where
  store : store t.world = store s.world
  isOpen : t.journal.isOpen = s.journal.isOpen
  toggles : t.journal.toggles = s.journal.toggles

theorem Silent.tells {s t : Session σ} (h : Silent store s t) : Tells store [] s t := by
  rintro ⟨hopen, hshort⟩
  refine ⟨⟨h.isOpen.trans hopen, ?_⟩, [], ?_, ?_⟩
  · rwa [h.store]
  · rw [h.store]
    exact (List.append_nil _).symm
  · rw [h.toggles, List.append_nil]

theorem Tells.trans {s t u : Session σ} (hst : Tells store [] s t) (htu : Tells store [] t u) :
    Tells store [] s u := by
  intro hs
  obtain ⟨ht, told, hlog, hj⟩ := hst hs
  obtain ⟨hu, told', hlog', hj'⟩ := htu ht
  refine ⟨hu, told ++ told', ?_, ?_⟩
  · rw [hlog', hlog]
    exact List.append_assoc _ _ _
  · rw [hj', hj, List.append_assoc]

theorem overlooks_silent : Overlooks (Silent (σ := σ) store) where
  quiet := fun hw hj => ⟨congrArg store hw, congrArg Journal.isOpen hj, congrArg Journal.toggles hj⟩
  trans := fun hst htu =>
    ⟨htu.store.trans hst.store, htu.isOpen.trans hst.isOpen, htu.toggles.trans hst.toggles⟩

/-- The logged toggles are of prompts of the store, so what is told of them is short enough. -/
theorem tells_of_grown {s t : Session σ} {untold : List (String × Bool)}
    (told : List (String × Bool)) (hgrown : Grown store s t)
    (hlog : (store t.world).toggles = (store s.world).toggles ++ (untold ++ told))
    (hj : Recording store s → (∀ e ∈ told, e.1.length ≤ Journal.maxText) →
      t.journal.isOpen = true ∧ t.journal.toggles = s.journal.toggles ++ told) :
    Tells store untold s t := by
  intro hs
  have hids := hgrown.identifiers
  obtain ⟨added, hadded, -, hknown⟩ := hgrown
  obtain rfl : untold ++ told = added := List.append_cancel_left (hlog.symm.trans hadded)
  obtain ⟨hopen, htold⟩ := hj hs fun e he => hs.short _ (hknown e (List.mem_append_right _ he))
  exact ⟨⟨hopen, by rw [hids]; exact hs.short⟩, told, hlog, htold⟩

/-- A toggle is told as soon as it has been applied. -/
theorem tells_commit (h : host.Holds store) (source : String) (enabled : Bool)
    (identifier : String) : Moves (Tells store []) (commit host source enabled identifier) := by
  intro s
  have hgrown : Grown store s (commit host source enabled identifier s).2 :=
    h.tracks.commit source enabled identifier s
  have hlog := log_commit h.logs source enabled identifier s
  have hj := journal_commit host source enabled identifier s
  generalize commit host source enabled identifier s = committed at hgrown hlog hj ⊢
  obtain ⟨done, t⟩ := committed
  cases done with
  | true =>
    refine tells_of_grown [(identifier, enabled)] hgrown hlog fun hs _ => ?_
    rw [show t.journal = Journal.toggle identifier enabled source s.journal from hj]
    exact ⟨(Journal.isOpen_write _ _).trans hs.isOpen, Journal.toggles_toggle hs.isOpen _ _ _⟩
  | false =>
    refine tells_of_grown [] hgrown ?_ fun hs _ => ?_
    · exact hlog.trans (List.append_nil _).symm
    · rw [show t.journal = s.journal from hj]
      exact ⟨hs.isOpen, (List.append_nil _).symm⟩

end Session

namespace Host.Holds

theorem silent (h : host.Holds store) : Finds host (Silent store) where
  toOverlooks := overlooks_silent
  list := fun list hl s => ⟨h.list list hl s.world, rfl, rfl⟩
  validation := fun identifier issues s =>
    ⟨rfl, Journal.isOpen_write _ _, Journal.toggles_validation identifier issues s.journal⟩
  triggers := by
    intro t s
    refine ⟨rfl, ?_, Journal.toggles_triggers t s.journal⟩
    show (Journal.triggers t s.journal).isOpen = s.journal.isOpen
    unfold Journal.triggers
    split
    · rfl
    · exact Journal.isOpen_write _ _

theorem telling (h : host.Holds store) : Tracks host (Tells store []) where
  quiet := fun hw hj => (overlooks_silent.quiet hw hj).tells
  trans := Tells.trans
  list := fun list hl s => (h.silent.list list hl s).tells
  validation := fun identifier issues s => (h.silent.validation identifier issues s).tells
  triggers := fun t s => (h.silent.triggers t s).tells
  commit := tells_commit h

/-! ## What is told of an operation -/

/-- A plan is told as a whole, if it does not break off. -/
theorem tells_apply (h : host.Holds store) (known : Option (List Prompt)) (issues : List Issue)
    (identifier : String) {s : Session σ} (hm : s.memo.Faithful Directives.ofContent)
    (hsmall : ∀ plan ∈ ((Session.apply host none known issues identifier).run s).1.toOption,
      plan.Small) :
    let listed := given host known s.world
    Tells store (brokenOff host listed.1 issues identifier listed.2) s
      ((Session.apply host none known issues identifier).run s).2 := by
  intro listed
  have hgrown : Grown store s ((Session.apply host none known issues identifier).run s).2 :=
    h.moves_apply (by simp) known issues identifier s
  obtain ⟨hanswer, hstands⟩ :=
    leads_applying host none known issues identifier s.world s ⟨rfl, hm⟩
  have hlog := h.toggles_applying known issues identifier s.world
  rw [← hanswer, ← hstands.1] at hlog
  have hj := journal_apply host none known issues identifier s
  refine tells_of_grown _ hgrown hlog fun hs hshort => ?_
  rw [hj]
  exact ⟨(isOpen_noted _ _ _).trans hs.isOpen, toggles_noted hs.isOpen identifier hsmall hshort⟩

/-- So is a request to enable a prompt. -/
theorem tells_enable (h : host.Holds store) {asker : Option (Asker σ)}
    (ha : ∀ ask ∈ asker, ∀ identifier issues w, store (ask identifier issues w).world = store w)
    (identifier : String) {s : Session σ} (hm : s.memo.Faithful Directives.ofContent)
    (hsmall : ∀ plan ∈ (enable host asker identifier remembered s).1.plan, plan.Small) :
    let listed := host.listed s.world
    Tells store (brokenOff host listed.1 (Activation.issuesBy said identifier listed.1) identifier
      listed.2) s (enable host asker identifier remembered s).2 := by
  intro listed
  have hgrown : Grown store s (enable host asker identifier remembered s).2 := by
    have hlawful : (Operation.enable asker identifier : Operation σ Unit).Lawful store := by
      intro ask hask identifier issues w
      rw [ha ask hask identifier issues w]
      exact .refl _
    exact h.moves_perform hlawful {} s
  obtain ⟨hanswer, hstands⟩ := leads_enable host asker identifier s.world s ⟨rfl, hm⟩
  have hlog := h.toggles_enabling ha identifier s.world
  rw [← hanswer, ← hstands.1] at hlog
  obtain ⟨issues, hj⟩ := journal_enable host asker identifier hm
  refine tells_of_grown _ hgrown hlog fun hs hshort => ?_
  have hopen : (Journal.validation identifier issues s.journal).isOpen = true :=
    (Journal.isOpen_write _ _).trans hs.isOpen
  rw [hj, toggles_recorded hopen hsmall hshort, Journal.toggles_validation]
  exact ⟨(isOpen_recorded _ _).trans hopen, rfl⟩

theorem tells_perform (h : host.Holds store) {op : Operation σ τ} (hop : op.Inward store)
    (w : Watcher) {s : Session σ} (hm : s.memo.Faithful Directives.ofContent)
    (hsmall : ∀ plan ∈ (op.perform host w s).1.1.plan?, plan.Small) :
    Tells store (op.untold host s.world) s (op.perform host w s).2 := by
  by_cases hfinds : op.finds = true
  · have hsilent : Silent store s (op.perform host w s).2 := h.silent.perform w hfinds s
    cases op <;> first | exact hsilent.tells | cases hfinds
  by_cases hcommits : op.commits = true
  · have htells : Tells store [] s (op.perform host w s).2 := h.telling.perform w hcommits s
    cases op <;> first | exact htells | cases hcommits
  cases op with
  | apply other known issues identifier =>
    obtain rfl : other = none := hop
    exact h.tells_apply known issues identifier hm hsmall
  | enable asker identifier => exact h.tells_enable hop identifier hm hsmall
  | onMessage counter =>
    have hc : ∀ request ∈ counter, Moves (Tells store []) (consult request) := fun request hr s =>
      Silent.tells ⟨hop request hr s.world, rfl, rfl⟩
    exact h.telling.watching (h.telling.onMessage hc w) s
  | close => exact hop.elim
  | outside request => exact hop.elim
  | _ => first | exact absurd rfl hfinds | exact absurd rfl hcommits

end Host.Holds

/-! ## Runs -/

/-- The operations of a run, each with the surroundings that it meets. -/
def Performer.moments (perform : Performer σ τ) :
    List (Operation σ τ) → Watcher × Session σ → List (Operation σ τ × σ)
  | [], _ => []
  | op :: ops, (w, s) =>
    let answered := perform w op s
    (op, s.world) :: moments perform ops (answered.1.2, answered.2)

namespace Session

/-- The toggles that plans have applied at these moments before they broke off. -/
def missing (host : Host σ) (moments : List (Operation σ τ × σ)) : List (String × Bool) :=
  moments.flatMap fun m => m.1.untold host m.2

theorem missing_eq_nil_iff {moments : List (Operation σ τ × σ)} :
    missing host moments = [] ↔ ∀ m ∈ moments, m.1.untold host m.2 = [] :=
  List.flatMap_eq_nil_iff

/-- Toggles have been applied, and the journal tells of all of them but those that are missing,
    in order. -/
def Tallies (store : σ → Store) (missing : List (String × Bool)) (s t : Session σ) : Prop :=
  ∃ all told, (store t.world).toggles = (store s.world).toggles ++ all ∧
    t.journal.toggles = s.journal.toggles ++ told ∧
    told.Sublist all ∧ all.Perm (missing ++ told)

theorem Tallies.refl (s : Session σ) : Tallies store [] s s :=
  ⟨[], [], (List.append_nil _).symm, (List.append_nil _).symm, List.Sublist.refl _, .nil⟩

theorem Tallies.trans {s t u : Session σ} {m n : List (String × Bool)} (hst : Tallies store m s t)
    (htu : Tallies store n t u) : Tallies store (m ++ n) s u := by
  obtain ⟨all, told, hlog, hj, hsub, hperm⟩ := hst
  obtain ⟨all', told', hlog', hj', hsub', hperm'⟩ := htu
  refine ⟨all ++ all', told ++ told', ?_, ?_, hsub.append hsub', ?_⟩
  · rw [hlog', hlog, List.append_assoc]
  · rw [hj', hj, List.append_assoc]
  · refine (hperm.append hperm').trans (List.perm_iff_count.2 fun e => ?_)
    simp only [List.count_append]
    omega

theorem Tells.tallies {untold : List (String × Bool)} {s t : Session σ}
    (h : Tells store untold s t) (hs : Recording store s) : Tallies store untold s t := by
  obtain ⟨-, told, hlog, hj⟩ := h hs
  exact ⟨untold ++ told, told, hlog, hj, List.sublist_append_right _ _, .refl _⟩

/-- What the journal tells of a run. -/
theorem tallies_run (h : host.Holds store) {ops : List (Operation σ τ)}
    (hops : ∀ op ∈ ops, op.Inward store) {start : Watcher × Session σ}
    (hm : start.2.memo.Faithful Directives.ofContent) (hs : Recording store start.2)
    (hplans : ∀ report ∈ Performer.reports (Operation.perform host) ops start,
      ∀ plan ∈ report.answer.plan?, plan.Small) :
    Tallies store (missing host (Performer.moments (Operation.perform host) ops start)) start.2
      (Performer.run (Operation.perform host) ops start).2 := by
  induction ops generalizing start with
  | nil => exact .refl _
  | cons op ops ih =>
    obtain ⟨w, s⟩ := start
    obtain ⟨hop, hrest⟩ := List.forall_mem_cons.1 hops
    obtain ⟨hsmall, hsmalls⟩ := List.forall_mem_cons.1 hplans
    have htells := h.tells_perform hop w hm hsmall
    have hrun := @ih hrest ((op.perform host w s).1.2, (op.perform host w s).2)
      (faithful_perform host w op hm) (htells hs).1 hsmalls
    exact (htells.tallies hs).trans hrun

/-- **When the journal can be replayed.** A session begins with an open journal on a store that has
    toggled nothing and whose identifiers are not too long for the journal, and in its run no
    plan is too large for it. Whatever it is asked and whichever requests to the surroundings
    fail, the log of the store consists of what the journal tells, in the same order, and of the
    toggles that plans have applied before they broke off. So the journal tells of exactly the
    toggles of the store iff no plan has broken off after a toggle. -/
theorem told_eq_toggles_iff (h : host.Holds store) {w : σ} (hlog : (store w).toggles = [])
    (hshort : ∀ p ∈ (store w).prompts, p.identifier.length ≤ Journal.maxText) (name : String)
    (limits : Limits) (clock : Nat → Float) {ops : List (Operation σ τ)}
    (hops : ∀ op ∈ ops, op.Inward store)
    (hplans : ∀ report ∈ Performer.reports (Operation.perform host) ops
      ({}, begun w (Journal.start name) limits clock),
      ∀ plan ∈ report.answer.plan?, plan.Small) :
    let start : Watcher × Session σ := ({}, begun w (Journal.start name) limits clock)
    let reached := (Performer.run (Operation.perform host) ops start).2
    let moments := Performer.moments (Operation.perform host) ops start
    let log := (store reached.world).toggles
    let told := reached.journal.toggles
    told.Sublist log ∧ log.Perm (missing host moments ++ told) ∧
      (told = log ↔ ∀ m ∈ moments, m.1.untold host m.2 = []) := by
  intro start reached moments log told
  have hs : Recording store start.2 := ⟨rfl, List.forall_mem_map.2 hshort⟩
  obtain ⟨all, told', hall, htold, hsub, hperm⟩ :=
    tallies_run h hops (Memo.faithful_new limits) hs hplans
  obtain rfl : log = all := hall.trans (congrArg (· ++ all) hlog)
  obtain rfl : told = told' := htold
  rw [← missing_eq_nil_iff]
  refine ⟨hsub, hperm, ?_, ?_⟩
  · intro heq
    have hlen : log.length = (missing host moments).length + told.length :=
      hperm.length_eq.trans List.length_append
    rw [heq] at hlen
    exact List.length_eq_zero_iff.1 (Nat.right_eq_add.1 hlen)
  · intro hnone
    rw [hnone] at hperm
    exact hsub.eq_of_length hperm.length_eq.symm

/-! ## Plans that are carried out and plans that break off -/

/-- A prompt that excludes two others and may disable both; the toggles of one prompt may be
    refused. -/
def trio (refused : Option String) : Store.Served :=
  { store := { prompts :=
      [{ identifier := "a"
         content := Comment.block "@exclusive-with b, c" ++ Comment.block "@auto-disable b, c" },
       { identifier := "b", content := "Tea.", enabled := true },
       { identifier := "c", content := "Tea.", enabled := true }] }
    outage := { refusal := fun e => if refused = some e then some s!"toggle refused {e}" else none } }

/-- The first of the three prompts is enabled, by its plan, and disabled again. -/
def trioRun : List (Operation Store.Served Unit) := [.enable none "a", .disable "a"]

theorem told_eq_toggles_trioRun :
    ((Performer.reports (Operation.perform servedHost) trioRun
        ({}, begun (trio none) (Journal.start "tea") .standard fun _ => 0)).map fun report =>
          (report.answer.plan?, report.world.store.toggles)) =
      [(some ⟨["b", "c"], []⟩, [("b", false), ("c", false), ("a", true)]),
       (none, [("b", false), ("c", false), ("a", true), ("a", false)])] ∧
    let start : Watcher × Session Store.Served :=
      ({}, begun (trio none) (Journal.start "tea") .standard fun _ => 0)
    let reached := (Performer.run (Operation.perform servedHost) trioRun start).2
    let moments := Performer.moments (Operation.perform servedHost) trioRun start
    let log := reached.world.store.toggles
    let told := reached.journal.toggles
    told.Sublist log ∧ log.Perm (missing servedHost moments ++ told) ∧
      (told = log ↔ ∀ m ∈ moments, m.1.untold servedHost m.2 = []) := by
  have hops : ∀ op ∈ trioRun, op.Inward Store.Served.store := by
    simp [trioRun, Operation.Inward]
  have hplans : ∀ report ∈ Performer.reports (Operation.perform servedHost) trioRun
      ({}, begun (trio none) (Journal.start "tea") .standard fun _ => 0),
      ∀ plan ∈ report.answer.plan?, plan.Small := by
    rw [reports_afresh servedHost trioRun {} (Memo.faithful_new .standard)]
    decide
  refine ⟨?_, told_eq_toggles_iff (w := trio none) holds_servedHost rfl (by decide) "tea" .standard
    (fun _ => 0) hops hplans⟩
  rw [reports_afresh servedHost trioRun {} (Memo.faithful_new .standard)]
  decide

/-- A plan that breaks off: the second of its toggles is refused when the first has been applied.
    The prompt is enabled all the same, and the journal tells of that only. -/
theorem told_of_broken_plan :
    (Performer.reports (Operation.perform servedHost)
        [(.enable none "a" : Operation Store.Served Unit)]
        ({}, begun (trio (some "c")) (Journal.start "tea") .standard fun _ => 0)).map (fun report =>
          (report.answer.plan?, report.world.store.toggles, report.journal.toggles)) =
      [(none, [("b", false), ("a", true)], [("a", true)])] := by
  rw [reports_afresh servedHost _ {} (Memo.faithful_new .standard)]
  decide

end Session

end PromptRules
