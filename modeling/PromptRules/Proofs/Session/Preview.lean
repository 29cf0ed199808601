import PromptRules.Proofs.Session.Settling

/-!
# Previews

The triggers that are due at a count can be previewed before they are applied. A preview leaves the
prompts alone. If the toggles that it lists work, a fresh watcher reports the same transitions, and
the prompts that change their state are those on the lists, each of them to the side on which it is
listed: the lists are disjoint, and no prompt is listed that is in its state already.

Results:
* `leads_preview`: what a preview tells.
* `realised_previewed`: what the listed toggles do to the prompts.
* `foretells_of_works`: a preview foretells what a fresh watcher does.
-/

namespace PromptRules

open Data Directive Session

variable {σ : Type}

/-! ## The listed toggles -/

namespace Transitions

/-- The toggles that transitions list. -/
def toggles (t : Transitions) : List (String × Bool) := Watcher.toggles t.toEnable t.toDisable

/-- Between two states of the prompts, the transitions have come about. They list prompts that
    exist, and the prompts on either list are those that have changed to its side; nothing else
    about a prompt has changed. -/
structure Realised (t : Transitions) (ps qs : List Prompt) : Prop where
  known : ∀ e ∈ t.toEnable ++ t.toDisable, e ∈ ps.map Prompt.identifier
  changed : List.Forall₂ (fun p q => q = { p with enabled := q.enabled } ∧
    (p.identifier ∈ t.toEnable ↔ p.enabled = false ∧ q.enabled = true) ∧
    (p.identifier ∈ t.toDisable ↔ p.enabled = true ∧ q.enabled = false)) ps qs

theorem listed_of_mem_toggles {t : Transitions} {u : String × Bool} (h : u ∈ t.toggles) :
    u.1 ∈ t.toEnable ++ t.toDisable := by
  rcases List.mem_append.1 h with h | h <;> obtain ⟨e, he, rfl⟩ := List.mem_map.1 h
  · exact List.mem_append_left _ he
  · exact List.mem_append_right _ he

end Transitions

namespace Session

/-- The transitions of a count, when no rule has fired yet. -/
def previewed (count : Int) (ps : List Prompt) : Transitions :=
  .ofFirings count (Trigger.dueFor count [] ps)

variable {count : Int} {ps : List Prompt}

theorem mem_toEnable_previewed {e : String} : e ∈ (previewed count ps).toEnable ↔
    e ∈ Transitions.idsOf true (Trigger.dueFor count [] ps) := Iff.rfl

theorem mem_toDisable_previewed {e : String} : e ∈ (previewed count ps).toDisable ↔
    e ∈ Transitions.idsOf false (Trigger.dueFor count [] ps) := Iff.rfl

/-- Every firing lists a toggle. -/
theorem toggles_previewed_eq_nil_iff :
    (previewed count ps).toggles = [] ↔ (previewed count ps).firings = [] := by
  constructor
  · intro h
    obtain ⟨henable, hdisable⟩ := List.append_eq_nil_iff.1 h
    rw [List.map_eq_nil_iff] at henable hdisable
    refine List.eq_nil_iff_forall_not_mem.2 fun f hf => ?_
    have hlisted : f.id ∈ Transitions.idsOf f.enable (previewed count ps).firings :=
      Transitions.mem_idsOf.2 ⟨f, hf, rfl, rfl⟩
    cases he : f.enable with
    | true => exact List.eq_nil_iff_forall_not_mem.1 henable _ (he ▸ hlisted)
    | false => exact List.eq_nil_iff_forall_not_mem.1 hdisable _ (he ▸ hlisted)
  · intro h
    replace h : Trigger.dueFor count [] ps = [] := h
    rw [previewed, h]
    rfl

/-- A fresh watcher asks for what is previewed. -/
theorem toggles_previewed : (previewed count ps).toggles = ({} : Watcher).asked count ps := rfl

theorem realised_previewed (hd : Distinct ps) :
    (previewed count ps).Realised ps (ps.map (Prompt.switchAll (previewed count ps).toggles)) where
  known e he := by
    rcases List.mem_append.1 he with he | he
    · exact Watcher.known_of_mem_idsOf (mem_toEnable_previewed.1 he)
    · exact Watcher.known_of_mem_idsOf (mem_toDisable_previewed.1 he)
  changed := by
    rw [List.forall₂_map_right_iff]
    refine List.forall₂_same.2 fun p hp => ⟨Prompt.switchAll_eq _ p, ?_⟩
    have hside : ∀ enable, p.identifier ∈ Transitions.idsOf enable (Trigger.dueFor count [] ps) ↔
        Watcher.dueOf count {} p ≠ [] ∧ enable = !p.enabled :=
      fun enable => Watcher.mem_idsOf_dueFor (w := {}) hd hp
    rw [mem_toEnable_previewed, mem_toDisable_previewed, hside, hside, toggles_previewed,
      Watcher.enabled_asked hd hp]
    by_cases hdue : Watcher.dueOf count {} p = [] <;> cases p.enabled <;> simp [hdue]

/-! ## Preview and application -/

variable {host : Host σ} {store : σ → Store} {w : σ}

theorem leads_preview (h : host.Shows store) (count : Int) (w : σ) :
    Leads (due host count []) w (previewed count (store w).prompts) (host.listed w).2 := by
  rw [← h.prompts]
  exact leads_due host count [] w

/-- If the toggles of the preview work, a fresh watcher gets them through and reports the same. -/
theorem leads_process_fresh (h : host.Shows store)
    (hw : host.Works (previewed count (store w).prompts).toggles (host.listed w).2) :
    Leads (Watcher.process host count {}) w
      (some (previewed count (store w).prompts), ({} : Watcher).after count (store w).prompts)
      (host.switchedAll (previewed count (store w).prompts).toggles (host.listed w).2) := by
  rw [← h.prompts] at hw ⊢
  exact Watcher.leads_fire_of_works hw

/-- A preview of a session foretells what a fresh watcher does. Both tell the same transitions; the
    preview leaves the store alone, and for the watcher they come about. -/
structure Foretells (host : Host σ) (store : σ → Store) (count : Int) (s : Session σ) : Prop where
  same : (Watcher.process host count {} remembered s).1.1 = some (due host count [] remembered s).1
  untouched : store (due host count [] remembered s).2.world = store s.world
  realised : (due host count [] remembered s).1.Realised (store s.world).prompts
    (store (Watcher.process host count {} remembered s).2.world).prompts

/-- **A preview foretells what a fresh watcher does**, if the listed toggles work. -/
theorem foretells_of_works (h : host.Shows store) {s : Session σ}
    (hm : s.memo.Faithful Directives.ofContent) (hd : Distinct (store s.world).prompts)
    (hw : host.Works (due host count [] remembered s).1.toggles (host.listed s.world).2) :
    Foretells host store count s := by
  obtain ⟨hshown, hworld, -⟩ := leads_preview h count s.world s ⟨rfl, hm⟩
  rw [hshown] at hw
  obtain ⟨hsame, hworld', -⟩ := leads_process_fresh h hw s ⟨rfl, hm⟩
  have hlisted : Distinct (store (host.listed s.world).2).prompts := by rwa [h.listed]
  refine ⟨by rw [hsame, hshown], by rw [hworld, h.listed], ?_⟩
  rw [hshown, hworld', h.switched_of_works hlisted hw, h.listed]
  exact realised_previewed hd

end Session

end PromptRules
