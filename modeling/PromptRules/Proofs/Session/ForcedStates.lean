import PromptRules.Proofs.Prompt.ExactTriggers
import PromptRules.Proofs.Session.Failures
import PromptRules.Proofs.Session.Settling
import PromptRules.Proofs.Session.StoreLog

/-!
# Forced states

Windows and after-rules keep no account of what has fired. At another count they bring a prompt to
the state that they ask for, whatever state it is in: whoever has toggled it, and whichever counts
came before. Only at-rules look back, so a prompt without them is in a state that the count alone
decides, unless none of its rules says anything at that count.

Results:
* `enabled_of_asks`: a prompt comes to the state that alone is asked for.
* `forced_asked`: what becomes of one prompt.
* `distinct_of_run`: in a run of toggles, prompts keep their identifiers.
* `forced_process`: after every run, at every other count.
-/

namespace PromptRules

open Data Directive Session

/-! ## Rules that look at the count alone -/

namespace Directive.Directives

/-- The only trigger is a window. -/
structure OnlyWindow (d : Directives) (w : Window) : Prop where
  window : d.window = some w
  enableAt : d.int .enableAtMessage = none
  disableAt : d.int .disableAtMessage = none
  enableAfter : d.int .enableAfterMessage = none
  disableAfter : d.int .disableAfterMessage = none

/-- The only triggers are after-rules. -/
structure OnlyAfter (d : Directives) : Prop where
  window : d.window = none
  enableAt : d.int .enableAtMessage = none
  disableAt : d.int .disableAtMessage = none

/-- The threshold of an after-rule has been reached. -/
def AfterReached (d : Directives) (count : Int) : Prop :=
  ∃ f ∈ [IntField.enableAfterMessage, .disableAfterMessage], ∃ t ∈ d.int f, t ≤ count

end Directive.Directives

namespace Trigger

variable {count : Int} {fired : Fired} {identifier : String} {d : Directives} {b : Bool}

theorem not_atAsks (hon : d.int .enableAtMessage = none) (hoff : d.int .disableAtMessage = none) :
    ¬ AtAsks count fired identifier d b := by
  rintro ⟨t, ht, -⟩
  cases b with
  | true => cases hon.symm.trans ht
  | false => cases hoff.symm.trans ht

theorem not_afterAsks (h : ¬ d.AfterReached count) : ¬ AfterAsks count d b := by
  intro hasks
  cases b with
  | true =>
    obtain ⟨e, he, hle, -⟩ := hasks
    exact h ⟨.enableAfterMessage, by decide, e, he, hle⟩
  | false =>
    obtain ⟨n, hn, hle, -⟩ := hasks
    exact h ⟨.disableAfterMessage, by decide, n, hn, hle⟩

theorem asks_iff_of_onlyWindow {w : Window} (h : d.OnlyWindow w) :
    Asks count fired identifier d b ↔ (w.contains count = true ↔ b = true) := by
  have hafter : ¬ d.AfterReached count := by
    rintro ⟨f, hf, t, ht, -⟩
    rcases List.mem_cons.1 hf with rfl | hf
    · cases h.enableAfter.symm.trans ht
    · cases h.disableAfter.symm.trans (List.mem_singleton.1 hf ▸ ht)
  rw [Asks, or_iff_right (not_atAsks h.enableAt h.disableAt), or_iff_left (not_afterAsks hafter),
    WindowAsks, h.window, Window.contains_iff]
  constructor
  · rintro ⟨_, ⟨⟩, hw⟩
    exact hw
  · exact fun hw => ⟨w, rfl, hw⟩

theorem asks_iff_of_onlyAfter (h : d.OnlyAfter) :
    Asks count fired identifier d b ↔ AfterAsks count d b := by
  have hwindow : ¬ WindowAsks count d b := by
    rintro ⟨w, hw, -⟩
    cases h.window.symm.trans hw
  rw [Asks, or_iff_right (not_atAsks h.enableAt h.disableAt), or_iff_right hwindow]

/-- Once a threshold has been reached, the after-rules ask for just one state. -/
theorem afterAsks_false_iff (h : d.AfterReached count) :
    AfterAsks count d false ↔ ¬ AfterAsks count d true := by
  have hsome : (∃ e ∈ d.int .enableAfterMessage, e ≤ count) ∨
      ∃ n ∈ d.int .disableAfterMessage, n ≤ count := by
    obtain ⟨f, hf, t, ht, hle⟩ := h
    rcases List.mem_cons.1 hf with rfl | hf
    · exact .inl ⟨t, ht, hle⟩
    · exact .inr ⟨t, List.mem_singleton.1 hf ▸ ht, hle⟩
  unfold AfterAsks
  generalize d.int .enableAfterMessage = enable at hsome ⊢
  generalize d.int .disableAfterMessage = disable at hsome ⊢
  cases enable with
  | none =>
    cases disable with
    | none => simp at hsome
    | some n => simpa using hsome
  | some e =>
    cases disable with
    | none => simpa using hsome
    | some n =>
      simp only [Option.mem_def, Option.some.injEq, exists_eq_left', forall_eq'] at hsome ⊢
      omega

end Trigger

namespace Watcher

open Trigger

variable {ps : List Prompt} {p : Prompt} {count : Int} {w : Watcher} {b : Bool}

/-- A prompt comes to the state that its rules ask for, if they do not ask for the other one. -/
theorem enabled_of_asks (hd : Distinct ps) (hp : p ∈ ps)
    (h : Asks count (Assoc.keys w.fired) p.identifier (said p.content) b)
    (hother : ¬ Asks count (Assoc.keys w.fired) p.identifier (said p.content) (!b)) :
    (p.switchAll (w.asked count ps)).enabled = b := by
  have hdue : dueOf count w p ≠ [] ↔
      Asks count (Assoc.keys w.fired) p.identifier (said p.content) (!p.enabled) := due_ne_nil_iff
  rw [enabled_asked hd hp]
  by_cases hb : p.enabled = b
  · have hnil : dueOf count w p = [] := by
      rw [hb] at hdue
      exact Classical.not_not.1 fun hne => hother (hdue.1 hne)
    rw [if_pos hnil, hb]
  · have hb' : (!p.enabled) = b := Bool.not_eq.2 hb
    rw [hb'] at hdue
    rw [if_neg (hdue.2 h), hb']

/-- A prompt for which nothing is due stays as it is. -/
theorem switchAll_asked_eq_self (hd : Distinct ps) (hp : p ∈ ps) (h : dueOf count w p = []) :
    p.switchAll (w.asked count ps) = p := by
  rw [Prompt.switchAll_eq, enabled_asked hd hp, if_pos h]

/-- From `p` to `q` a count has forced the state of a prompt where its rules look at the count
    alone; nothing else about the prompt has changed. -/
structure Forced (count : Int) (p q : Prompt) : Prop where
  same : q = { p with enabled := q.enabled }
  window : ∀ w, (said p.content).OnlyWindow w →
    (q.enabled = true ↔ w.first ≤ count ∧ ∀ l ∈ w.last, count ≤ l)
  after : (said p.content).OnlyAfter → (said p.content).AfterReached count →
    (q.enabled = true ↔ AfterAsks count (said p.content) true)
  notYet : (said p.content).OnlyAfter → ¬ (said p.content).AfterReached count → q = p
  quiet : (said p.content).hasTriggers = false → q = p

theorem forced_asked (hd : Distinct ps) (hp : p ∈ ps) :
    Forced count p (p.switchAll (w.asked count ps)) where
  same := Prompt.switchAll_eq _ p
  window := by
    intro v hv
    have hasks : ∀ b, Asks count (Assoc.keys w.fired) p.identifier (said p.content) b ↔
        (v.contains count = true ↔ b = true) := fun b => asks_iff_of_onlyWindow hv
    have hstate : (p.switchAll (w.asked count ps)).enabled = v.contains count := by
      refine enabled_of_asks hd hp ((hasks _).2 Iff.rfl) ?_
      rw [hasks]
      cases v.contains count <;> decide
    rw [hstate, Window.contains_iff]
  after := by
    intro honly hreached
    have hasks : ∀ b, Asks count (Assoc.keys w.fired) p.identifier (said p.content) b ↔
        AfterAsks count (said p.content) b := fun b => asks_iff_of_onlyAfter honly
    have hone := afterAsks_false_iff hreached
    by_cases hon : AfterAsks count (said p.content) true
    · have hoff : ¬ AfterAsks count (said p.content) false := fun h => hone.1 h hon
      have hstate := enabled_of_asks hd hp ((hasks true).2 hon) (mt (hasks false).1 hoff)
      exact iff_of_true hstate hon
    · have hstate := enabled_of_asks hd hp ((hasks false).2 (hone.2 hon)) (mt (hasks true).1 hon)
      rw [hstate]
      exact iff_of_false Bool.false_ne_true hon
  notYet := by
    intro honly hreached
    refine switchAll_asked_eq_self hd hp (Classical.not_not.1 fun hdue => ?_)
    exact not_afterAsks hreached ((asks_iff_of_onlyAfter honly).1 (due_ne_nil_iff.1 hdue))
  quiet h := switchAll_asked_eq_self hd hp (due_of_no_triggers h _ _ p)

/-! ## Runs -/

variable {τ : Type}

/-- In a run that only toggles the store, prompts keep their identifiers. -/
theorem distinct_of_run {start : Watcher × Session Store} (hd : Distinct start.2.world.prompts)
    {ops : List (Operation Store τ)} (hops : ∀ op ∈ ops, op.Lawful id) :
    Distinct (Performer.run (Operation.perform Store.host) ops start).2.world.prompts := by
  have hgrows : start.2.world.Grows
      (Performer.run (Operation.perform Store.host) ops start).2.world :=
    overlooks_grown.run (fun op hop w => Store.holds_host.moves_perform (hops op hop) w) start
  unfold Distinct at hd ⊢
  rw [hgrows.identifiers]
  exact hd

/-- **Windows and after-rules force the state, whatever came before.** After every run on a store,
    in which prompts may be toggled at any time and counts may rise and fall, another count leaves
    each prompt with a window only enabled iff it lies in the window, each with after-rules only
    in the state of the one that was reached last, and each without triggers as it was. -/
theorem forced_process {start : Store} (hd : Distinct start.prompts) (journal : Journal)
    (limits : Limits) (clock : Nat → Float) {ops : List (Operation Store τ)}
    (hops : ∀ op ∈ ops, op.Lawful id) (count : Int) :
    let reached := Performer.run (Operation.perform Store.host) ops
      ({}, begun start journal limits clock)
    reached.1.last ≠ some count →
    List.Forall₂ (Forced count) reached.2.world.prompts
      (process Store.host count reached.1 remembered reached.2).2.world.prompts := by
  intro reached hn
  have hm : reached.2.memo.Faithful Directives.ofContent :=
    faithful_run Store.host ops (Memo.faithful_new limits)
  have hd' : Distinct reached.2.world.prompts := distinct_of_run hd hops
  obtain ⟨-, hworld, -⟩ := leads_process hd' hn reached.2 ⟨rfl, hm⟩
  rw [hworld, Store.switched, List.forall₂_map_right_iff]
  exact List.forall₂_same.2 fun p hp => forced_asked hd' hp

/-- Prompts with a window, with after-rules that hold in turn, with after-rules that tie, and with
    nothing but an at-rule or no rule. -/
def shelf : Store where
  prompts :=
    [{ identifier := "span", content := Comment.block "@message-range 2-3" },
     { identifier := "turns", content := Comment.block "@enable-after-message 1" ++
        Comment.block "@disable-after-message 4" },
     { identifier := "tied", content := Comment.block "@enable-after-message 1" ++
        Comment.block "@disable-after-message 1" },
     { identifier := "once", content := Comment.block "@enable-at-message 1" },
     { identifier := "tea", content := "Tea.", enabled := true }]

/-- A count past every threshold, toggles by the program and by hand, and a lower count. -/
def shelfRun : List (Operation Store Unit) :=
  [.process 5, .outside (Store.set "span" true), .commit "user" true "tied", .process 4,
   .disable "tea", .outside (Store.set "turns" true)]

theorem lawful_shelfRun : ∀ op ∈ shelfRun, op.Lawful id := by
  have hset : ∀ e b, Request.Toggles id (Store.set e b) := fun e b w =>
    Store.holds_host.grows rfl e b w
  unfold shelfRun
  simp only [List.forall_mem_cons]
  exact ⟨trivial, hset _ _, trivial, trivial, trivial, hset _ _, List.forall_mem_nil _⟩

theorem forced_process_shelfRun :
    let reached := Performer.run (Operation.perform Store.host) shelfRun
      ({}, begun shelf Journal.off .standard fun _ => 0)
    Distinct shelf.prompts ∧ (∀ op ∈ shelfRun, op.Lawful id) ∧ reached.1.last ≠ some 2 ∧
      List.Forall₂ (Forced 2) reached.2.world.prompts
        (process Store.host 2 reached.1 remembered reached.2).2.world.prompts := by
  have hd : Distinct shelf.prompts := by decide
  have hn : (Performer.run (Operation.perform Store.host) shelfRun
      ({}, begun shelf Journal.off .standard fun _ => 0)).1.last ≠ some 2 := by
    decide
  exact ⟨hd, lawful_shelfRun, hn, forced_process hd _ _ _ lawful_shelfRun 2 hn⟩

end Watcher

end PromptRules
