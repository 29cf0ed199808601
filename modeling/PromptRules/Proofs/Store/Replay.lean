import PromptRules.Proofs.Session.ToggleLog
import PromptRules.Proofs.Session.Consent

/-!
# Replaying toggles

A list of toggles can be replayed on a list of prompts: each of them sets the flag of the first
prompt with its identifier, and does nothing if there is none. Toggling a store replays the
toggle that it logs, and so its prompts are always those that it began with and its log replayed.

Results:
* `Store.switchFirst_eq_some_iff`: a toggle goes through iff the prompt is known, and then sets
  its flag.
* `Prompt.replay_append`, `Prompt.off_replay`: toggles one after the other, and what they leave
  alone.
* `Store.grows_of_toggle?`: a toggle that goes through is logged and replayed.
* `Host.Holds.logs`: surroundings that hold a store write down its toggles.
-/

namespace PromptRules

variable {σ : Type}

/-! ## Prompts -/

namespace Prompt

/-- Sets the flag of the first prompt with an identifier. -/
def setFirst (identifier : String) (enabled : Bool) (ps : List Prompt) : List Prompt :=
  ps.modify (ps.findIdx fun p => p.identifier = identifier) fun p => { p with enabled := enabled }

/-- Sets flags one after the other. -/
def replay (ts : List (String × Bool)) (ps : List Prompt) : List Prompt :=
  ts.foldl (fun ps t => setFirst t.1 t.2 ps) ps

/-- The prompt with its flag put aside. -/
def off (p : Prompt) : Prompt := { p with enabled := false }

variable {identifier : String} {enabled : Bool} {p : Prompt} {ps : List Prompt}

theorem setFirst_cons_of_eq (h : p.identifier = identifier) :
    setFirst identifier enabled (p :: ps) = { p with enabled := enabled } :: ps := by
  simp [setFirst, List.findIdx_cons, h]

theorem setFirst_cons_of_ne (h : p.identifier ≠ identifier) :
    setFirst identifier enabled (p :: ps) = p :: setFirst identifier enabled ps := by
  simp [setFirst, List.findIdx_cons, h]

theorem off_setFirst (identifier : String) (enabled : Bool) (ps : List Prompt) :
    (setFirst identifier enabled ps).map off = ps.map off := by
  induction ps with
  | nil => rfl
  | cons p ps ih =>
    by_cases h : p.identifier = identifier
    · rw [setFirst_cons_of_eq h]
      rfl
    · rw [setFirst_cons_of_ne h, List.map_cons, ih]
      rfl

theorem replay_append (ts us : List (String × Bool)) (ps : List Prompt) :
    replay (ts ++ us) ps = replay us (replay ts ps) := List.foldl_append

/-- Toggles change no prompt but for its flag, and keep the order. -/
theorem off_replay (ts : List (String × Bool)) (ps : List Prompt) :
    (replay ts ps).map off = ps.map off := by
  induction ts generalizing ps with
  | nil => rfl
  | cons t ts ih => exact (ih (setFirst t.1 t.2 ps)).trans (off_setFirst t.1 t.2 ps)

theorem identifiers_replay (ts : List (String × Bool)) (ps : List Prompt) :
    (replay ts ps).map Prompt.identifier = ps.map Prompt.identifier := by
  have h := congrArg (List.map Prompt.identifier) (off_replay ts ps)
  rwa [List.map_map, List.map_map] at h

end Prompt

/-! ## Stores -/

namespace Store

theorem switchFirst_eq_some_iff {identifier : String} {enabled : Bool} {ps qs : List Prompt} :
    switchFirst identifier enabled ps = some qs ↔
      (∃ p ∈ ps, p.identifier = identifier) ∧ qs = Prompt.setFirst identifier enabled ps := by
  induction ps generalizing qs with
  | nil => simp [switchFirst]
  | cons p ps ih =>
    by_cases h : p.identifier = identifier
    · rw [switchFirst, if_pos h, Prompt.setFirst_cons_of_eq h]
      simp [h, eq_comm]
    · have hmem : (∃ q ∈ p :: ps, q.identifier = identifier) ↔
          ∃ q ∈ ps, q.identifier = identifier := by simp [h]
      rw [switchFirst, if_neg h, Prompt.setFirst_cons_of_ne h, Option.map_eq_some_iff, hmem]
      simp only [ih]
      constructor
      · rintro ⟨rs, ⟨hmem, rfl⟩, rfl⟩
        exact ⟨hmem, rfl⟩
      · rintro ⟨hmem, rfl⟩
        exact ⟨_, ⟨hmem, rfl⟩, rfl⟩

/-- From one store to another: prompts of it have been toggled and the toggles logged, and nothing
    else. -/
def Grows (s t : Store) : Prop :=
  ∃ ts, t.toggles = s.toggles ++ ts ∧ t.prompts = Prompt.replay ts s.prompts ∧
    ∀ e ∈ ts, e.1 ∈ s.prompts.map Prompt.identifier

theorem Grows.refl (s : Store) : s.Grows s :=
  ⟨[], (List.append_nil _).symm, rfl, List.forall_mem_nil _⟩

theorem Grows.identifiers {s t : Store} (h : s.Grows t) :
    t.prompts.map Prompt.identifier = s.prompts.map Prompt.identifier := by
  obtain ⟨ts, _, hprompts, _⟩ := h
  rw [hprompts, Prompt.identifiers_replay]

theorem Grows.trans {s t u : Store} (hst : s.Grows t) (htu : t.Grows u) : s.Grows u := by
  have hids := hst.identifiers
  obtain ⟨ts, hlog, hprompts, hknown⟩ := hst
  obtain ⟨us, hlog', hprompts', hknown'⟩ := htu
  refine ⟨ts ++ us, ?_, ?_, ?_⟩
  · rw [hlog', hlog, List.append_assoc]
  · rw [hprompts', hprompts, Prompt.replay_append]
  · rw [hids] at hknown'
    exact List.forall_mem_append.2 ⟨hknown, hknown'⟩

theorem toggle?_eq_some_iff {identifier : String} {enabled : Bool} {s t : Store} :
    s.toggle? identifier enabled = some t ↔
      (∃ p ∈ s.prompts, p.identifier = identifier) ∧
        t.prompts = Prompt.setFirst identifier enabled s.prompts ∧
        t.toggles = s.toggles ++ [(identifier, enabled)] := by
  simp only [toggle?, Option.map_eq_some_iff, switchFirst_eq_some_iff]
  constructor
  · rintro ⟨qs, ⟨hmem, rfl⟩, rfl⟩
    exact ⟨hmem, rfl, rfl⟩
  · rintro ⟨hmem, hprompts, htoggles⟩
    refine ⟨_, ⟨hmem, rfl⟩, ?_⟩
    rw [← hprompts, ← htoggles]

theorem grows_of_toggle? {identifier : String} {enabled : Bool} {s t : Store}
    (h : s.toggle? identifier enabled = some t) : s.Grows t := by
  obtain ⟨⟨p, hp, hid⟩, hprompts, htoggles⟩ := toggle?_eq_some_iff.1 h
  refine ⟨[(identifier, enabled)], htoggles, hprompts, ?_⟩
  rw [List.forall_mem_singleton]
  exact List.mem_map.2 ⟨p, hp, hid⟩

theorem toggle?_eq_none_iff {identifier : String} {enabled : Bool} {s : Store} :
    s.toggle? identifier enabled = none ↔ ∀ p ∈ s.prompts, p.identifier ≠ identifier := by
  rw [toggle?, Option.map_eq_none_iff, switchFirst_eq_none_iff]

/-- The log of a store tells it from the store after a toggle. -/
theorem ne_of_toggle? {identifier : String} {enabled : Bool} {s t : Store}
    (h : s.toggle? identifier enabled = some t) : t ≠ s := by
  have hlog := (toggle?_eq_some_iff.1 h).2.2
  intro heq
  rw [heq] at hlog
  simpa using congrArg List.length hlog

/-- A toggle makes no prompt known. -/
theorem exists_toggle?_of_toggle? {identifier other : String} {enabled b : Bool} {s t u : Store}
    (h : s.toggle? identifier enabled = some t) (h' : t.toggle? other b = some u) :
    ∃ v, s.toggle? other b = some v := by
  obtain ⟨p, hp, hother⟩ := (toggle?_eq_some_iff.1 h').1
  have hknown : other ∈ s.prompts.map Prompt.identifier := by
    rw [← (grows_of_toggle? h).identifiers, ← hother]
    exact List.mem_map_of_mem hp
  obtain ⟨q, hq, hq'⟩ := List.mem_map.1 hknown
  rw [← Option.ne_none_iff_exists', ne_eq, toggle?_eq_none_iff]
  exact fun hunknown => hunknown q hq hq'

end Store

/-! ## Surroundings with a store -/

/-- The surroundings hold a store. To list leaves it alone; a toggle is carried out on the store,
    or it fails and leaves the store alone. -/
structure Host.Holds (host : Host σ) (store : σ → Store) : Prop where
  list : ∀ list ∈ host.list?, ∀ w, store (list w).world = store w
  toggle : ∀ toggle ∈ host.toggle?, ∀ identifier enabled w,
    (toggle identifier enabled w).answer = .ok () ∧
        (store w).toggle? identifier enabled = some (store (toggle identifier enabled w).world) ∨
      (∃ e, (toggle identifier enabled w).answer = .error e) ∧
        store (toggle identifier enabled w).world = store w

theorem Host.Holds.logs {host : Host σ} {store : σ → Store} (h : host.Holds store) :
    host.Logs fun w => (store w).toggles where
  list := fun list hl w => congrArg Store.toggles (h.list list hl w)
  toggle := by
    intro toggle ht identifier enabled w
    rcases h.toggle toggle ht identifier enabled w with ⟨ha, hs⟩ | ⟨⟨e, ha⟩, hs⟩
    · rw [ha]
      exact (Store.toggle?_eq_some_iff.1 hs).2.2
    · rw [ha, hs]
      rfl

/-- A toggle only makes the store grow. -/
theorem Host.Holds.grows {host : Host σ} {store : σ → Store} (h : host.Holds store)
    {toggle : Sink σ} (ht : toggle ∈ host.toggle?) (identifier : String) (enabled : Bool) (w : σ) :
    (store w).Grows (store (toggle identifier enabled w).world) := by
  rcases h.toggle toggle ht identifier enabled w with ⟨_, hs⟩ | ⟨_, hs⟩
  · exact Store.grows_of_toggle? hs
  · rw [hs]
    exact Store.Grows.refl _

theorem Store.set_cases (identifier : String) (enabled : Bool) (s : Store) :
    (Store.set identifier enabled s).answer = .ok () ∧
        s.toggle? identifier enabled = some (Store.set identifier enabled s).world ∨
      (∃ e, (Store.set identifier enabled s).answer = .error e) ∧
        (Store.set identifier enabled s).world = s := by
  unfold Store.set
  cases s.toggle? identifier enabled with
  | none => exact .inr ⟨⟨_, rfl⟩, rfl⟩
  | some t => exact .inl ⟨rfl, rfl⟩

theorem Store.holds_host : Store.host.Holds id where
  list := by
    rintro _ ⟨⟩ w
    rfl
  toggle := by
    rintro _ ⟨⟩ identifier enabled w
    exact Store.set_cases identifier enabled w

theorem holds_servedHost : Session.servedHost.Holds Store.Served.store where
  list := by
    rintro _ ⟨⟩ w
    unfold Store.Served.list
    split <;> rfl
  toggle := by
    rintro _ ⟨⟩ identifier enabled w
    unfold Store.Served.set
    split
    · exact .inr ⟨⟨_, rfl⟩, rfl⟩
    · exact Store.set_cases identifier enabled w.store

end PromptRules
