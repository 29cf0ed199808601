import PromptRules.Proofs.Prompt.Clearance
import PromptRules.Proofs.Session.ToggleFlow
import PromptRules.Store.Basic

/-!
# Switching the prompts of a store

A store goes through its prompts to find the first one to switch. When no two prompts have
one identifier this is the same as switching each prompt on its own, and a list of toggles
leaves each prompt as the last toggle about it says.

Results:
* `set_prompts`: a toggle switches the prompts one by one, also when it fails.
* `applied_set`, `applied_plan`: toggles of known prompts go through, and so does a plan.
* `enabled_settled`: what a plan leaves enabled.
* `switched_of_mem`, `applied_plan_eq`: the store after a toggle, and after a plan.
-/

namespace PromptRules

/-! ## One prompt -/

/-- The prompt after a toggle, which may be about another one. -/
def Prompt.switch (identifier : String) (enabled : Bool) (p : Prompt) : Prompt :=
  if p.identifier = identifier then { p with enabled := enabled } else p

/-- The prompt after several toggles. -/
def Prompt.switchAll (ts : List (String × Bool)) (p : Prompt) : Prompt :=
  ts.foldl (fun p t => p.switch t.1 t.2) p

namespace Prompt

@[simp] theorem identifier_switch (e : String) (b : Bool) (p : Prompt) :
    (p.switch e b).identifier = p.identifier := by
  unfold switch
  split <;> rfl

@[simp] theorem content_switch (e : String) (b : Bool) (p : Prompt) :
    (p.switch e b).content = p.content := by
  unfold switch
  split <;> rfl

theorem enabled_switch (e : String) (b : Bool) (p : Prompt) :
    (p.switch e b).enabled = if p.identifier = e then b else p.enabled := by
  unfold switch
  split <;> rfl

theorem switch_of_ne {e : String} {p : Prompt} (h : p.identifier ≠ e) (b : Bool) :
    p.switch e b = p := if_neg h

@[simp] theorem identifier_switchAll (ts : List (String × Bool)) (p : Prompt) :
    (p.switchAll ts).identifier = p.identifier := by
  induction ts generalizing p with
  | nil => rfl
  | cons t ts ih => exact (ih (p.switch t.1 t.2)).trans (identifier_switch t.1 t.2 p)

@[simp] theorem content_switchAll (ts : List (String × Bool)) (p : Prompt) :
    (p.switchAll ts).content = p.content := by
  induction ts generalizing p with
  | nil => rfl
  | cons t ts ih => exact (ih (p.switch t.1 t.2)).trans (content_switch t.1 t.2 p)

/-- Toggles change nothing about a prompt but its state. -/
theorem switchAll_eq (ts : List (String × Bool)) (p : Prompt) :
    p.switchAll ts = { p with enabled := (p.switchAll ts).enabled } := by
  have hswitch : ∀ (e : String) (b : Bool) (p : Prompt),
      p.switch e b = { p with enabled := (p.switch e b).enabled } := by
    intro e b p
    unfold switch
    split <;> rfl
  induction ts generalizing p with
  | nil => rfl
  | cons t ts ih =>
    show (p.switch t.1 t.2).switchAll ts =
      { p with enabled := ((p.switch t.1 t.2).switchAll ts).enabled }
    rw [ih (p.switch t.1 t.2), hswitch]

theorem switchAll_append (ts us : List (String × Bool)) (p : Prompt) :
    p.switchAll (ts ++ us) = (p.switchAll ts).switchAll us := List.foldl_append

/-- Toggles that all say the same. -/
theorem enabled_switchAll_map (es : List String) (b : Bool) (p : Prompt) :
    (p.switchAll (es.map (·, b))).enabled = if p.identifier ∈ es then b else p.enabled := by
  induction es generalizing p with
  | nil => rfl
  | cons e es ih =>
    show ((p.switch e b).switchAll (es.map (·, b))).enabled = _
    rw [ih, identifier_switch, enabled_switch]
    by_cases he : p.identifier = e <;> by_cases hes : p.identifier ∈ es <;> simp [he, hes]

end Prompt

/-- The prompt after all toggles of a plan. -/
def Plan.settled (plan : Plan) (p : Prompt) : Prompt := p.switchAll plan.toggles

namespace Plan

variable (plan : Plan) (p : Prompt)

@[simp] theorem identifier_settled : (plan.settled p).identifier = p.identifier :=
  Prompt.identifier_switchAll _ p

@[simp] theorem content_settled : (plan.settled p).content = p.content :=
  Prompt.content_switchAll _ p

/-- A plan enables after it disables, so a prompt that it lists twice ends up enabled. -/
theorem enabled_settled :
    (plan.settled p).enabled =
      if p.identifier ∈ plan.toEnable then true
      else if p.identifier ∈ plan.toDisable then false else p.enabled := by
  unfold settled toggles
  rw [Prompt.switchAll_append, Prompt.enabled_switchAll_map, Prompt.identifier_switchAll,
    Prompt.enabled_switchAll_map]

end Plan

/-! ## A list of prompts -/

theorem Distinct.map {ps : List Prompt} (hd : Distinct ps) {f : Prompt → Prompt}
    (hf : ∀ p, (f p).identifier = p.identifier) : Distinct (ps.map f) := by
  unfold Distinct at hd ⊢
  rw [List.map_map]
  convert hd using 2
  exact funext hf

theorem Prompt.find?_map {f : Prompt → Prompt} (hf : ∀ p, (f p).identifier = p.identifier)
    (ps : List Prompt) (e : String) :
    Prompt.find? (ps.map f) e = (Prompt.find? ps e).map f := by
  unfold Prompt.find?
  rw [List.find?_map]
  congr 2
  funext p
  simp [hf]

namespace Store

theorem switchFirst_eq_map {ps : List Prompt} (hd : Distinct ps) {q : Prompt} (hq : q ∈ ps)
    (b : Bool) :
    switchFirst q.identifier b ps = some (ps.map (Prompt.switch q.identifier b)) := by
  induction ps with
  | nil => cases hq
  | cons p ps ih =>
    obtain ⟨hp, hd'⟩ := List.nodup_cons.1 hd
    unfold switchFirst
    split
    · rename_i he
      have hrest : ps.map (Prompt.switch q.identifier b) = ps := by
        refine (List.map_congr_left ?_).trans (List.map_id ps)
        intro r hr
        have hne : r.identifier ≠ q.identifier := by
          intro h
          rw [he, ← h] at hp
          exact hp (List.mem_map_of_mem hr)
        exact Prompt.switch_of_ne hne b
      rw [List.map_cons, hrest, Prompt.switch, if_pos he]
    · rename_i he
      have hq' : q ∈ ps := (List.mem_cons.1 hq).resolve_left fun h => he (h ▸ rfl)
      rw [ih hd' hq', List.map_cons, Prompt.switch_of_ne he]
      rfl

/-! ## A store -/

variable {s : Store} {e : String}

theorem set_of_mem (hd : Distinct s.prompts) {q : Prompt} (hq : q ∈ s.prompts) (b : Bool) :
    (set q.identifier b s).answer = .ok () ∧
      (set q.identifier b s).world.prompts = s.prompts.map (Prompt.switch q.identifier b) := by
  unfold set toggle?
  rw [switchFirst_eq_map hd hq]
  exact ⟨rfl, rfl⟩

theorem set_of_not_mem (h : ∀ p ∈ s.prompts, p.identifier ≠ e) (b : Bool) :
    (set e b s).answer = .error (.unknownPrompt e) ∧ (set e b s).world = s := by
  unfold set toggle?
  rw [switchFirst_eq_none_iff.2 h]
  exact ⟨rfl, rfl⟩

/-- A toggle of an unknown prompt fails and switches none, as it should. -/
theorem set_prompts (hd : Distinct s.prompts) (e : String) (b : Bool) :
    (set e b s).world.prompts = s.prompts.map (Prompt.switch e b) := by
  by_cases h : ∃ q ∈ s.prompts, q.identifier = e
  · obtain ⟨q, hq, rfl⟩ := h
    exact (set_of_mem hd hq b).2
  · have hne : ∀ p ∈ s.prompts, p.identifier ≠ e := fun p hp he => h ⟨p, hp, he⟩
    rw [(set_of_not_mem hne b).2]
    refine (List.map_id s.prompts).symm.trans (List.map_congr_left ?_)
    exact fun p hp => (Prompt.switch_of_ne (hne p hp) b).symm

theorem applied_set {ts : List (String × Bool)} (hd : Distinct s.prompts)
    (hk : ∀ t ∈ ts, ∃ p ∈ s.prompts, p.identifier = t.1) :
    ∃ s', applied set ts s = (.ok (), s') ∧
      s'.prompts = s.prompts.map (Prompt.switchAll ts) := by
  induction ts generalizing s with
  | nil => exact ⟨s, rfl, (List.map_id s.prompts).symm⟩
  | cons t ts ih =>
    obtain ⟨q, hq, he⟩ := hk t List.mem_cons_self
    obtain ⟨hok, hps⟩ := set_of_mem hd hq t.2
    rw [he] at hok hps
    have hd' : Distinct (set t.1 t.2 s).world.prompts :=
      hps ▸ hd.map (Prompt.identifier_switch t.1 t.2)
    have hk' : ∀ u ∈ ts, ∃ p ∈ (set t.1 t.2 s).world.prompts, p.identifier = u.1 := by
      intro u hu
      obtain ⟨p, hp, hpu⟩ := hk u (List.mem_cons_of_mem t hu)
      rw [hps]
      exact ⟨_, List.mem_map_of_mem hp, (Prompt.identifier_switch _ _ p).trans hpu⟩
    obtain ⟨s', hs', hps'⟩ := ih hd' hk'
    refine ⟨s', ?_, ?_⟩
    · rw [applied, hok]
      exact hs'
    · rw [hps', hps, List.map_map]
      rfl

/-- What goes through is logged. -/
theorem toggles_applied {ts : List (String × Bool)} {s' : Store}
    (h : applied set ts s = (.ok (), s')) : s'.toggles = s.toggles ++ ts := by
  induction ts generalizing s with
  | nil =>
    cases h
    exact (List.append_nil _).symm
  | cons t ts ih =>
    rw [applied] at h
    cases ht : s.toggle? t.1 t.2 with
    | none =>
      simp only [set, ht] at h
      cases h
    | some s₁ =>
      simp only [set, ht] at h
      obtain ⟨qs, _, rfl⟩ := Option.map_eq_some_iff.1 ht
      rw [ih h, List.append_assoc]
      rfl

/-- The plan against the issues of a prompt can be carried out. -/
theorem applied_plan {D : String → Directive.Directives} {d : Directive.Directives} {p : Prompt}
    {plan : Plan} (hD : D "" = .empty) (hd : Distinct s.prompts)
    (hp : Prompt.find? s.prompts e = some p) (hc : p.content ≠ "")
    (h : Plan.ofIssues? (Activation.issuesBy D e s.prompts) d = some plan) :
    ∃ s', applied set plan.toggles s = (.ok (), s') ∧
      s'.prompts = s.prompts.map plan.settled := by
  refine applied_set hd ?_
  intro t ht
  rcases List.mem_append.1 ht with ht | ht
  · obtain ⟨x, hx, rfl⟩ := List.mem_map.1 ht
    obtain ⟨o, ho, he, _⟩ := (Activation.mem_toDisable_issuesBy hD hd hp hc h).1 hx
    exact ⟨o, ho, he⟩
  · obtain ⟨x, hx, rfl⟩ := List.mem_map.1 ht
    obtain ⟨_, o, ho, _⟩ := (Activation.mem_toEnable_issuesBy hp hc h).1 hx
    exact ⟨o, Prompt.mem_of_find? ho⟩

/-! ## Toggles that go through -/

/-- A store with every prompt switched by toggles, which are logged. -/
def switched (ts : List (String × Bool)) (w : Store) : Store where
  prompts := w.prompts.map (Prompt.switchAll ts)
  toggles := w.toggles ++ ts

variable {w : Store}

theorem switched_nil (w : Store) : w.switched [] = w := by
  simp only [switched, List.append_nil]
  exact congrArg (Store.mk · w.toggles) (List.map_id w.prompts)

theorem switched_switched (ts us : List (String × Bool)) (w : Store) :
    (w.switched ts).switched us = w.switched (ts ++ us) := by
  simp only [switched, List.map_map, List.append_assoc, mk.injEq, and_true]
  exact List.map_congr_left fun p _ => (Prompt.switchAll_append ts us p).symm

theorem distinct_switched (hd : Distinct w.prompts) (ts : List (String × Bool)) :
    Distinct (w.switched ts).prompts := hd.map (Prompt.identifier_switchAll ts)

theorem identifiers_switched (ts : List (String × Bool)) (w : Store) :
    (w.switched ts).prompts.map Prompt.identifier = w.prompts.map Prompt.identifier := by
  simp only [switched, List.map_map]
  exact List.map_congr_left fun p _ => Prompt.identifier_switchAll ts p

theorem switched_of_mem (hd : Distinct w.prompts) {e : String}
    (he : e ∈ w.prompts.map Prompt.identifier) (b : Bool) :
    Store.host.switched e b w = (true, w.switched [(e, b)]) := by
  obtain ⟨q, hq, rfl⟩ := List.mem_map.1 he
  show ((set q.identifier b w).answer.isOk, (set q.identifier b w).world) = _
  unfold set toggle?
  rw [switchFirst_eq_map hd hq]
  rfl

/-- What a plan against the issues of a prompt leaves. -/
theorem applied_plan_eq {D : String → Directive.Directives} {d : Directive.Directives} {p : Prompt}
    {plan : Plan} (hD : D "" = .empty) (hd : Distinct s.prompts)
    (hp : Prompt.find? s.prompts e = some p) (hc : p.content ≠ "")
    (h : Plan.ofIssues? (Activation.issuesBy D e s.prompts) d = some plan) :
    applied set plan.toggles s = (.ok (), s.switched plan.toggles) := by
  obtain ⟨s', happ, hps⟩ := applied_plan hD hd hp hc h
  have hps : s'.prompts = s.prompts.map (Prompt.switchAll plan.toggles) := hps
  rw [happ, switched, ← hps, ← toggles_applied happ]

end Store

end PromptRules
