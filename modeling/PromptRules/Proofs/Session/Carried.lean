import PromptRules.Proofs.Session.ToggleFlow
import PromptRules.Proofs.Session.ToggleLog
import PromptRules.Proofs.Store.Switching

/-!
# Toggles that are carried out

Surroundings are asked for toggles one after the other. If each of them works, then all of them are
answered as done, and if the surroundings show a store, the store has switched its prompts as the
toggles say. A store lets every toggle of its prompts work.

Results:
* `Session.leads_commitAll_of_works`: toggles that work are all answered as done.
* `Host.Shows.switched_of_works`: what they do to the store that is shown.
* `Store.works_of_known`: a store lets toggles of its prompts work.
-/

namespace PromptRules

variable {σ : Type}

/-! ## Toggles that work -/

namespace Host

/-- The surroundings after some toggles, whether these work or not. -/
def switchedAll (host : Host σ) (ts : List (String × Bool)) (w : σ) : σ :=
  ts.foldl (fun w t => (host.switched t.1 t.2 w).2) w

/-- Every one of the toggles works, when those before it have been carried out. -/
inductive Works (host : Host σ) : List (String × Bool) → σ → Prop
  | nil (w : σ) : Works host [] w
  | cons {t : String × Bool} {ts : List (String × Bool)} {w : σ} :
      (host.switched t.1 t.2 w).1 = true → Works host ts (host.switched t.1 t.2 w).2 →
      Works host (t :: ts) w

variable {host : Host σ} {t : String × Bool} {ts us : List (String × Bool)} {w w' : σ}

theorem works_cons_iff : host.Works (t :: ts) w ↔
    (host.switched t.1 t.2 w).1 = true ∧ host.Works ts (host.switched t.1 t.2 w).2 := by
  constructor
  · rintro (_ | ⟨ht, hts⟩)
    exact ⟨ht, hts⟩
  · rintro ⟨ht, hts⟩
    exact .cons ht hts

theorem switchedAll_append (host : Host σ) (ts us : List (String × Bool)) (w : σ) :
    host.switchedAll (ts ++ us) w = host.switchedAll us (host.switchedAll ts w) :=
  List.foldl_append

theorem works_append_iff :
    host.Works (ts ++ us) w ↔ host.Works ts w ∧ host.Works us (host.switchedAll ts w) := by
  induction ts generalizing w with
  | nil => exact (and_iff_right (.nil w)).symm
  | cons t ts ih =>
    rw [List.cons_append, works_cons_iff, works_cons_iff, ih, and_assoc]
    rfl

/-- Toggles work iff the sink applies them. -/
theorem works_iff_applies {sink : Sink σ} (hs : host.toggle? = some sink) :
    Applies sink ts w w' ↔ host.Works ts w ∧ host.switchedAll ts w = w' := by
  have hstep : ∀ (t : String × Bool) (w : σ), host.switched t.1 t.2 w =
      ((sink t.1 t.2 w).answer.isOk, (sink t.1 t.2 w).world) := by
    intro t w
    rw [switched, hs]
  induction ts generalizing w with
  | nil =>
    constructor
    · rintro ⟨⟩
      exact ⟨.nil _, rfl⟩
    · rintro ⟨-, rfl⟩
      exact .nil _
  | cons t ts ih =>
    have hrest := @ih (sink t.1 t.2 w).world
    rw [works_cons_iff, hstep, and_assoc]
    show _ ↔ _ ∧ _ ∧ host.switchedAll ts (host.switched t.1 t.2 w).2 = w'
    rw [hstep]
    constructor
    · rintro (_ | ⟨ht, hts⟩)
      exact ⟨by rw [ht]; rfl, hrest.1 hts⟩
    · rintro ⟨ht, hts⟩
      cases ha : (sink t.1 t.2 w).answer with
      | ok _ => exact .cons ha (hrest.2 hts)
      | error e =>
        rw [ha] at ht
        cases ht

end Host

namespace Session

/-- Toggles that work are all answered as done. -/
theorem leads_commitAll_of_works {host : Host σ} (source : String) (b : Bool) {es : List String}
    {w : σ} (h : host.Works (es.map (·, b)) w) :
    Leads (commitAll host source b es) w es (host.switchedAll (es.map (·, b)) w) := by
  induction es generalizing w with
  | nil => exact leads_pure [] w
  | cons e es ih =>
    intro s hs
    have hfirst := leads_commit host source b e w s hs
    obtain ⟨ht, hts⟩ := Host.works_cons_iff.1 h
    have hrest := ih hts _ hfirst.2
    rw [commitAll_cons]
    simp only [hfirst.1, ht, if_true]
    exact ⟨congrArg (e :: ·) hrest.1, hrest.2⟩

end Session

/-! ## Surroundings that show a store -/

/-- The surroundings show a store: they list its prompts, which leaves it alone, and a toggle that
    they say has worked was carried out on it. A toggle that fails may do anything. -/
structure Host.Shows (host : Host σ) (store : σ → Store) : Prop where
  prompts : ∀ w, (host.listed w).1 = (store w).prompts
  listed : ∀ w, store (host.listed w).2 = store w
  toggle : ∀ e b w, (host.switched e b w).1 = true →
    (store w).toggle? e b = some (store (host.switched e b w).2)

namespace Store

variable {w : Store}

theorem eq_switched_of_toggle? (hd : Distinct w.prompts) {e : String} {b : Bool} {w' : Store}
    (h : w.toggle? e b = some w') : w' = w.switched [(e, b)] := by
  obtain ⟨ps, hps, rfl⟩ := Option.map_eq_some_iff.1 h
  have hknown : ∃ q ∈ w.prompts, q.identifier = e := by
    by_contra hnone
    rw [switchFirst_eq_none_iff.2 fun p hp he => hnone ⟨p, hp, he⟩] at hps
    cases hps
  obtain ⟨q, hq, rfl⟩ := hknown
  rw [switchFirst_eq_map hd hq] at hps
  rw [← Option.some.inj hps]
  rfl

end Store

/-- The store that is shown has switched its prompts, and logged the toggles. -/
theorem Host.Shows.switched_of_works {host : Host σ} {store : σ → Store} (h : host.Shows store)
    {ts : List (String × Bool)} {w : σ} (hd : Distinct (store w).prompts) (hts : host.Works ts w) :
    store (host.switchedAll ts w) = (store w).switched ts := by
  induction hts with
  | nil w => exact (Store.switched_nil _).symm
  | @cons t ts w ht _ ih =>
    have hfirst := Store.eq_switched_of_toggle? hd (h.toggle t.1 t.2 w ht)
    have hrest := ih (hfirst ▸ Store.distinct_switched hd _)
    rw [hfirst, Store.switched_switched] at hrest
    exact hrest

namespace Store

theorem shows_host : Store.host.Shows id where
  prompts _ := rfl
  listed _ := rfl
  toggle := by
    intro e b w h
    change ((set e b w).answer.isOk) = true at h
    show w.toggle? e b = some (set e b w).world
    unfold set at h ⊢
    cases ht : w.toggle? e b with
    | none =>
      rw [ht] at h
      cases h
    | some w' => rfl

/-- A store lets toggles of its prompts work. -/
theorem works_of_known {ts : List (String × Bool)} {w : Store} (hd : Distinct w.prompts)
    (hts : ∀ t ∈ ts, t.1 ∈ w.prompts.map Prompt.identifier) : Store.host.Works ts w := by
  induction ts generalizing w with
  | nil => exact .nil w
  | cons t ts ih =>
    obtain ⟨ht, hts⟩ := List.forall_mem_cons.1 hts
    have hfirst := switched_of_mem hd ht t.2
    refine .cons (congrArg Prod.fst hfirst) ?_
    rw [hfirst]
    exact ih (distinct_switched hd _) fun u hu => identifiers_switched _ w ▸ hts u hu

end Store

end PromptRules
