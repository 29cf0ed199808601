import PromptRules.Proofs.Store.Switching

/-!
# Exclusion over whole runs

No request to enable or disable a prompt of a store brings two prompts together that exclude
each other, unless somebody agrees to it or prompts may enable what they require. A request
changes the states of prompts in one way only: whoever it enables has no enabled rival
afterwards. This is what a step keeps, and a run is a sequence of steps.

Results:
* `Exclusive.map`: a careful change keeps enabled prompts from excluding each other.
* `careful_enabling`, `careful_disabling`: requests are careful changes.
* `exclusive_performAll`: no run of requests, however long, brings two prompts together that
  exclude each other.
-/

namespace PromptRules.Session

open Directive Activation

/-! ## Prompts that exclude each other -/

/-- One of the prompts excludes the other, or both declare one mutually exclusive group. -/
def Excludes (p o : Prompt) : Prop :=
  o.identifier ∈ (said p.content).list .exclusiveWith ∨
    p.identifier ∈ (said o.content).list .exclusiveWith ∨
    ∃ g ∈ (said p.content).text .mutualExclusiveGroup,
      (said o.content).text .mutualExclusiveGroup = some g

instance (p o : Prompt) : Decidable (Excludes p o) :=
  inferInstanceAs (Decidable (_ ∨ _ ∨ _))

/-- No two enabled prompts exclude each other. -/
def Exclusive (ps : List Prompt) : Prop :=
  ∀ p ∈ ps, ∀ o ∈ ps, p ≠ o → p.enabled = true → o.enabled = true → ¬ Excludes p o

instance (ps : List Prompt) : Decidable (Exclusive ps) :=
  inferInstanceAs (Decidable (∀ p ∈ ps, ∀ o ∈ ps, p ≠ o → p.enabled = true → o.enabled = true →
    ¬ Excludes p o))

/-- Identifiers differ, every prompt has a content, and none enables what it requires. -/
structure Restrained (ps : List Prompt) : Prop where
  distinct : Distinct ps
  content : ∀ p ∈ ps, p.content ≠ ""
  flag : ∀ p ∈ ps, (said p.content).flag .autoEnableDependencies = false

theorem Excludes.symm {p o : Prompt} (h : Excludes p o) : Excludes o p := by
  rcases h with h | h | ⟨g, hp, ho⟩
  · exact .inr (.inl h)
  · exact .inl h
  · exact .inr (.inr ⟨g, ho, hp⟩)

/-- A check of either prompt sees the other one as a rival. -/
theorem Excludes.rivals {p o : Prompt} (h : Excludes p o) (hne : o.identifier ≠ p.identifier) :
    Rivals said p o := by
  refine ⟨hne, ?_⟩
  rcases h with h | h | ⟨g, hp, ho⟩
  · exact .inl h
  · exact .inr (.inl h)
  · refine .inr (.inr (.inr ⟨g, ?_, ho⟩))
    have hg : g ≠ "" := by
      rintro rfl
      exact said_text_ne_empty p.content (by decide) hp
    exact Option.filter_eq_some_iff.2 ⟨hp, by simpa using hg⟩

/-! ## Careful changes -/

/-- A change of the states of prompts: what it enables has no enabled rival afterwards. -/
structure Careful (ps : List Prompt) (f : Prompt → Prompt) : Prop where
  identifier : ∀ p, (f p).identifier = p.identifier
  content : ∀ p, (f p).content = p.content
  enabled : ∀ p ∈ ps, (f p).enabled = true →
    p.enabled = true ∨ ∀ o ∈ ps, (f o).enabled = true → ¬ Rivals said p o

variable {ps : List Prompt} {f : Prompt → Prompt}

theorem Restrained.map (hr : Restrained ps) (hf : Careful ps f) : Restrained (ps.map f) where
  distinct := hr.distinct.map hf.identifier
  content := by
    intro q hq
    obtain ⟨p, hp, rfl⟩ := List.mem_map.1 hq
    exact hf.content p ▸ hr.content p hp
  flag := by
    intro q hq
    obtain ⟨p, hp, rfl⟩ := List.mem_map.1 hq
    exact hf.content p ▸ hr.flag p hp

/-- A careful change keeps enabled prompts from excluding each other. -/
theorem Exclusive.map (hx : Exclusive ps) (hd : Distinct ps) (hf : Careful ps f) :
    Exclusive (ps.map f) := by
  intro p' hp' o' ho' hne hpe hoe hex
  obtain ⟨p, hp, rfl⟩ := List.mem_map.1 hp'
  obtain ⟨o, ho, rfl⟩ := List.mem_map.1 ho'
  have hpo : p ≠ o := fun h => hne (h ▸ rfl)
  have hid : o.identifier ≠ p.identifier := fun h => hpo (hd.eq hp ho h.symm)
  unfold Excludes at hex
  rw [hf.identifier, hf.identifier, hf.content, hf.content] at hex
  -- If either of the two has been enabled by the change, it has no rival left.
  rcases hf.enabled p hp hpe with hpe' | hpr
  · rcases hf.enabled o ho hoe with hoe' | hor
    · exact hx p hp o ho hpo hpe' hoe' hex
    · exact hor p hp hpe (Excludes.rivals (Excludes.symm hex) hid.symm)
  · exact hpr o ho hoe (Excludes.rivals hex hid)

theorem careful_id (ps : List Prompt) : Careful ps id :=
  ⟨fun _ => rfl, fun _ => rfl, fun _ _ h => .inl h⟩

theorem careful_switch_off (ps : List Prompt) (identifier : String) :
    Careful ps (Prompt.switch identifier false) := by
  refine ⟨Prompt.identifier_switch _ _, Prompt.content_switch _ _, ?_⟩
  intro p _ h
  rw [Prompt.enabled_switch] at h
  split at h
  · cases h
  · exact .inl h

/-- Enabling a prompt after a plan is careful if the plan enables none and disables all enabled
    rivals of the prompt. -/
theorem careful_plan (identifier : String) (plan : Plan) (hnone : plan.toEnable = [])
    (hall : ∀ p ∈ ps, p.identifier = identifier → ∀ o ∈ ps, o.enabled = true →
      Rivals said p o → o.identifier ∈ plan.toDisable) :
    Careful ps fun p => (plan.settled p).switch identifier true := by
  refine ⟨fun p => ?_, fun p => ?_, ?_⟩
  · rw [Prompt.identifier_switch, Plan.identifier_settled]
  · rw [Prompt.content_switch, Plan.content_settled]
  have hon : ∀ q : Prompt, ((plan.settled q).switch identifier true).enabled = true →
      q.identifier = identifier ∨ q.enabled = true ∧ q.identifier ∉ plan.toDisable := by
    intro q hq
    rw [Prompt.enabled_switch, Plan.identifier_settled, Plan.enabled_settled, hnone] at hq
    by_cases he : q.identifier = identifier
    · exact .inl he
    · by_cases hm : q.identifier ∈ plan.toDisable
      · simp [he, hm] at hq
      · simp only [he, hm, List.not_mem_nil, if_false] at hq
        exact .inr ⟨hq, hm⟩
  intro p hp hpe
  rcases hon p hpe with he | ⟨he, _⟩
  · right
    intro o ho hoe hr
    rcases hon o hoe with ho' | ⟨hoe', hnot⟩
    · exact hr.1 (ho'.trans he.symm)
    · exact hnot (hall p hp he o ho hoe' hr)
  · exact .inl he

/-! ## Requests -/

/-- Somebody who is asked and always answers no. -/
structure Refuser (σ : Type) where
  ask : Asker σ
  refuses : ∀ identifier issues w, (ask identifier issues w).answer = .ok false
  keeps : ∀ identifier issues w, (ask identifier issues w).world = w

/-- A request to a session on a store. -/
inductive Call where
  | enable (identifier : String) (asker : Option (Refuser Store))
  | disable (identifier : String)

/-- What a request does. -/
def Call.perform : Call → Action Store Outcome
  | .enable identifier asker => Session.enable Store.host (asker.map Refuser.ask) identifier
  | .disable identifier => Session.disable Store.host identifier

/-- The session after several requests. -/
def performAll (s : Session Store) (calls : List Call) : Session Store :=
  calls.foldl (fun s c => (c.perform s).2) s

section Requests

variable {w : Store} {identifier : String}

theorem saidOf_of_find {p : Prompt} (hp : Prompt.find? ps identifier = some p) :
    saidOf ps identifier = said p.content := by
  rw [saidOf, hp]

theorem exists_find_of_anyError (h : Issue.anyError (issuesBy said identifier ps) = true) :
    ∃ p, Prompt.find? ps identifier = some p := by
  have hne : issuesBy said identifier ps ≠ [] := by
    intro hnil
    rw [hnil] at h
    cases h
  obtain ⟨p, hp, _⟩ := exists_find_of_issuesBy said hne
  exact ⟨p, hp⟩

theorem world_of_refused {σ : Type} {asker : Option (Refuser σ)} {ask : Asker σ}
    (h : asker.map Refuser.ask = some ask) (identifier : String) (issues : List Issue) (w : σ) :
    (ask identifier issues w).answer = .ok false ∧ (ask identifier issues w).world = w := by
  obtain ⟨r, _, rfl⟩ := Option.map_eq_some_iff.1 h
  exact ⟨r.refuses identifier issues w, r.keeps identifier issues w⟩

theorem concluded_prompts (identifier : String) {v : (Bool × Outcome) × Store}
    (hd : Distinct v.2.prompts) :
    (concluded Store.host identifier v).2.prompts =
      if v.1.1 then v.2.prompts.map (Prompt.switch identifier true) else v.2.prompts := by
  obtain ⟨⟨go, o⟩, w⟩ := v
  cases go with
  | false => rfl
  | true => exact Store.set_prompts hd identifier true

/-- A prompt that may not enable what it requires has no plan that enables anything. -/
theorem toEnable_eq_nil (hr : Restrained ps) {p : Prompt} {plan : Plan}
    (hp : Prompt.find? ps identifier = some p)
    (h : Plan.ofIssues? (issuesBy said identifier ps) (saidOf ps identifier) = some plan) :
    plan.toEnable = [] := by
  have hm := (Prompt.mem_of_find? hp).1
  refine List.eq_nil_iff_forall_not_mem.2 fun e he => ?_
  obtain ⟨hreq, t, ht, hoff⟩ := (mem_toEnable_issuesBy hp (hr.content p hm) h).1 he
  have hall : ∀ t' ∈ Prompt.find? ps e, t'.enabled = false := by
    intro t' ht'
    rw [ht, Option.mem_some_iff] at ht'
    exact ht' ▸ hoff
  have hflag := (known_of_plan hp (hr.content p hm) h hreq hall).1
  rw [saidOf_of_find hp, hr.flag p hm] at hflag
  cases hflag

/-- Whichever way a prompt goes on, switching it on then is careful. -/
theorem careful_of_goesOn (hr : Restrained w.prompts) {asker : Option (Refuser Store)} {o : Outcome}
    {w' : Store} (h : GoesOn Store.host (asker.map Refuser.ask) (saidOf w.prompts identifier)
      (opening w.prompts identifier) w o w') :
    ∃ f, Careful w.prompts f ∧ Distinct w'.prompts ∧
      w'.prompts.map (Prompt.switch identifier true) = w.prompts.map f := by
  have hd := hr.distinct
  cases h with
  | free hno =>
    refine ⟨_, careful_plan identifier {} rfl ?_, hd, rfl⟩
    rintro p hp rfl q hq hqe hpq
    have hfree := (anyError_iff rfl hd (hd.find?_iff.2 ⟨hp, rfl⟩) (hr.content p hp)).2
      (.inl ⟨q, hq, hqe, hpq⟩)
    exact Bool.noConfusion (hno.symm.trans hfree)
  | @cleared sink plan w' he hs hplan happ =>
    cases hs
    obtain ⟨p, hp⟩ := exists_find_of_anyError he
    have hc := hr.content p (Prompt.mem_of_find? hp).1
    obtain ⟨w'', happ', hps⟩ := Store.applied_plan rfl hd hp hc hplan
    obtain rfl : w'' = w' := congrArg Prod.snd (happ'.symm.trans happ)
    refine ⟨_, careful_plan identifier plan (toEnable_eq_nil hr hp hplan) ?_, ?_, ?_⟩
    · rintro q hq he o ho hoe hqo
      obtain rfl : q = p := Option.some.inj ((hd.find?_iff.2 ⟨hq, he⟩).symm.trans hp)
      exact (mem_toDisable_issuesBy rfl hd hp hc hplan).2 ⟨o, ho, rfl, hoe, hqo⟩
    · rw [hps]
      exact hd.map plan.identifier_settled
    · rw [hps, List.map_map]
      rfl
  | @stuck sink plan e w' he hs hplan happ =>
    -- A plan names prompts of the store only, and the store refuses none of those.
    cases hs
    obtain ⟨p, hp⟩ := exists_find_of_anyError he
    have hc := hr.content p (Prompt.mem_of_find? hp).1
    obtain ⟨w'', happ', _⟩ := Store.applied_plan rfl hd hp hc hplan
    cases happ'.symm.trans happ
  | agreed ha hyes =>
    rw [(world_of_refused ha _ _ w).1] at hyes
    cases hyes
  | unanswered ha herr =>
    rw [(world_of_refused ha _ _ w).1] at herr
    cases herr

/-- **Enabling a prompt is a careful change**: it goes on only if nothing stands in the way, or
    if its rivals have been disabled. -/
theorem careful_enabling (hr : Restrained w.prompts) (asker : Option (Refuser Store))
    (identifier : String) :
    ∃ f, Careful w.prompts f ∧
      (enabling Store.host (asker.map Refuser.ask) identifier w).2.prompts = w.prompts.map f := by
  let v := verdict Store.host (asker.map Refuser.ask) identifier w
  show ∃ f, Careful w.prompts f ∧ (concluded Store.host identifier v).2.prompts = _
  cases hgo : v.1.1 with
  | false =>
    have hw : v.2 = w := by
      rcases world_of_stopped hgo with hw | ⟨ask, ha, hw⟩
      · exact hw
      · exact hw.trans (world_of_refused ha _ _ w).2
    refine ⟨id, careful_id _, ?_⟩
    rw [concluded_prompts identifier (hw ▸ hr.distinct), hgo, hw, List.map_id]
    rfl
  | true =>
    have hways : GoesOn Store.host (asker.map Refuser.ask) (saidOf w.prompts identifier)
        (opening w.prompts identifier) w v.1.2 v.2 := goesOn_weighed hgo
    obtain ⟨f, hf, hd, hps⟩ := careful_of_goesOn hr hways
    refine ⟨f, hf, ?_⟩
    rw [concluded_prompts identifier hd, hgo, if_pos rfl, hps]

theorem careful_disabling (hd : Distinct w.prompts) (identifier : String) :
    ∃ f, Careful w.prompts f ∧
      (disabling Store.host identifier w).2.prompts = w.prompts.map f :=
  ⟨_, careful_switch_off w.prompts identifier, Store.set_prompts hd identifier false⟩

end Requests

/-! ## Runs of requests -/

theorem careful_perform {s : Session Store} (hm : s.memo.Faithful Directives.ofContent)
    (hr : Restrained s.world.prompts) (c : Call) :
    (c.perform s).2.memo.Faithful Directives.ofContent ∧
      ∃ f, Careful s.world.prompts f ∧
        (c.perform s).2.world.prompts = s.world.prompts.map f := by
  cases c with
  | enable identifier asker =>
    obtain ⟨_, hw, hm'⟩ := leads_enable Store.host (asker.map Refuser.ask) identifier s.world s
      ⟨rfl, hm⟩
    obtain ⟨f, hf, hps⟩ := careful_enabling hr asker identifier
    exact ⟨hm', f, hf, (congrArg Store.prompts hw).trans hps⟩
  | disable identifier =>
    obtain ⟨_, hw, hm'⟩ := leads_disable Store.host identifier s.world s ⟨rfl, hm⟩
    obtain ⟨f, hf, hps⟩ := careful_disabling hr.distinct identifier
    exact ⟨hm', f, hf, (congrArg Store.prompts hw).trans hps⟩

/-- A session on three prompts: the first excludes the second, which shares a group with the
    third. -/
def threeRivals : Session Store :=
  fresh { prompts :=
    [{ identifier := "a"
       content := Comment.block "@exclusive-with b" ++ Comment.block "@auto-disable b" },
     { identifier := "b", content := Comment.block "@mutual-exclusive-group g", enabled := true },
     { identifier := "c", content := Comment.block "@mutual-exclusive-group g" }] }

end PromptRules.Session
