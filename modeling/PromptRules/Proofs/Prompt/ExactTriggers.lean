import PromptRules.Proofs.Prompt.Answered
import PromptRules.Proofs.Prompt.DueTriggers
import PromptRules.Proofs.Prompt.Rivals

/-!
# Triggers, exactly

Something is due for a prompt iff a rule asks for its other state: its at-rule at a threshold that
has been reached and has not fired, its window by whether the count lies in it, or the after-rule
that holds. What is reported are the prompts for which something is due, in their order and each
once, on the side of the state that they are to have.

Results:
* `due_ne_nil_iff`: when something is due for a prompt.
* `idsOf_flatMap_due`: which prompts are to have a state.
* `ExactTransitions`: what the transitions have to say.
* `transitions_exact`: a plain lookup, a reading of the contents, and the memory of a session.
-/

namespace PromptRules

open Data Directive

/-! ## What the rules ask for -/

namespace Trigger

variable {count : Int} {fired : Fired} {p : Prompt} {d : Directives} {enable : Bool}

/-- The field of the at-rule for a state. -/
def atField (enable : Bool) : IntField := if enable then .enableAtMessage else .disableAtMessage

/-- The at-rule for a state asks for it: its threshold has been reached, and it has not fired. -/
def AtAsks (count : Int) (fired : Fired) (identifier : String) (d : Directives) (enable : Bool) :
    Prop :=
  ∃ t ∈ d.int (atField enable), t ≤ count ∧ (identifier, Rule.atFor enable) ∉ fired

/-- The window asks for a state: to be enabled inside, and disabled outside. -/
def WindowAsks (count : Int) (d : Directives) (enable : Bool) : Prop :=
  ∃ w ∈ d.window, (w.first ≤ count ∧ ∀ l ∈ w.last, count ≤ l) ↔ enable = true

/-- The after-rule for a state holds: its threshold is the larger of those that have been reached.
    If both are the same, the prompt is to be disabled. -/
def AfterAsks (count : Int) (d : Directives) : Bool → Prop
  | true => ∃ e ∈ d.int .enableAfterMessage, e ≤ count ∧
      ∀ n ∈ d.int .disableAfterMessage, n ≤ count → n < e
  | false => ∃ n ∈ d.int .disableAfterMessage, n ≤ count ∧
      ∀ e ∈ d.int .enableAfterMessage, e ≤ count → e ≤ n

/-- A rule of a prompt asks for a state. -/
def Asks (count : Int) (fired : Fired) (identifier : String) (d : Directives) (enable : Bool) :
    Prop :=
  AtAsks count fired identifier d enable ∨ WindowAsks count d enable ∨ AfterAsks count d enable

instance (count : Int) (d : Directives) : (enable : Bool) → Decidable (AfterAsks count d enable)
  | true => inferInstanceAs (Decidable (∃ e ∈ d.int .enableAfterMessage, e ≤ count ∧ _))
  | false => inferInstanceAs (Decidable (∃ n ∈ d.int .disableAfterMessage, n ≤ count ∧ _))

instance (count : Int) (fired : Fired) (identifier : String) (d : Directives) (enable : Bool) :
    Decidable (Asks count fired identifier d enable) :=
  inferInstanceAs (Decidable ((∃ t ∈ d.int (atField enable), _) ∨ (∃ w ∈ d.window, _) ∨
    AfterAsks count d enable))

/-! ## What is due -/

theorem atRule_ne_nil_iff {rule : Rule} {threshold : Option Int} :
    atRule count fired p enable rule threshold ≠ [] ↔
      p.enabled ≠ enable ∧ ∃ t ∈ threshold, t ≤ count ∧ (p.identifier, rule) ∉ fired := by
  unfold atRule
  cases threshold with
  | none => simp
  | some t => simp

theorem windowRule_ne_nil_iff :
    windowRule count p d.window ≠ [] ↔ WindowAsks count d (!p.enabled) := by
  unfold windowRule WindowAsks
  cases d.window with
  | none => simp
  | some w =>
    simp only [Option.mem_some_iff, exists_eq_left', ← Window.contains_iff]
    cases w.contains count <;> cases p.enabled <;> simp

theorem passed_some (t : Int) : passed count (some t) = if t ≤ count then some t else none := by
  simp [passed, Option.filter_some]

/-- The after-rules that hold are those that ask for a state. -/
theorem afterRules_ne_none_iff :
    ((afterRules count d).1 ≠ none ↔ AfterAsks count d true) ∧
      ((afterRules count d).2 ≠ none ↔ AfterAsks count d false) := by
  unfold afterRules AfterAsks
  cases d.int .enableAfterMessage with
  | none =>
    cases d.int .disableAfterMessage with
    | none => simp [passed]
    | some n => by_cases hn : n ≤ count <;> simp [passed, hn]
  | some e =>
    cases d.int .disableAfterMessage with
    | none => by_cases he : e ≤ count <;> simp [passed, he]
    | some n =>
      rw [passed_some, passed_some]
      rcases Int.lt_or_le n e with hlt | hle
      · by_cases he : e ≤ count <;> by_cases hn : n ≤ count <;>
          simp [he, hn, hlt, Int.not_le.2 hlt]
      · by_cases he : e ≤ count <;> by_cases hn : n ≤ count <;>
          simp [he, hn, hle, Int.not_lt.2 hle]

theorem afterRule_ne_nil_iff {rule : Rule} {holds : Option Int} :
    afterRule count p enable rule holds ≠ [] ↔ p.enabled ≠ enable ∧ holds ≠ none := by
  rw [Ne, afterRule_eq_nil_iff, not_or, and_comm]

/-- **Something is due iff a rule asks for the other state of the prompt.** -/
theorem due_ne_nil_iff :
    due count fired p d ≠ [] ↔ Asks count fired p.identifier d (!p.enabled) := by
  obtain ⟨hon, hoff⟩ := @afterRules_ne_none_iff count d
  have hany : ∀ {α : Type} (xs ys : List α), xs ++ ys ≠ [] ↔ xs ≠ [] ∨ ys ≠ [] := by
    intro α xs ys
    rw [Ne, List.append_eq_nil_iff, Classical.not_and_iff_not_or_not]
  unfold due Asks AtAsks
  simp only [hany, atRule_ne_nil_iff, windowRule_ne_nil_iff, afterRule_ne_nil_iff, hon, hoff]
  cases p.enabled with
  | true => simp [atField, Rule.atFor, or_assoc]
  | false => simp [atField, Rule.atFor, or_assoc]

/-! ## Which prompts are to have a state -/

/-- Of a run of one element, its first occurrence is kept. -/
theorem distinct_run {xs ys : List String} {x : String} (hxs : ∀ a ∈ xs, a = x) (hx : x ∉ ys) :
    distinct (xs ++ ys) = if xs = [] then distinct ys else x :: distinct ys := by
  induction xs with
  | nil => rfl
  | cons a xs ih =>
    obtain ⟨rfl, hxs⟩ := List.forall_mem_cons.1 hxs
    have hkept : (distinct ys).filter (fun y => decide (y ≠ a)) = distinct ys := by
      refine List.filter_eq_self.2 fun y hy => decide_eq_true ?_
      rintro rfl
      exact hx (mem_distinct.1 hy)
    rw [if_neg (List.cons_ne_nil _ _), List.cons_append]
    show a :: (distinct (xs ++ ys)).filter (fun y => decide (y ≠ a)) = _
    rw [ih hxs]
    split
    · rw [hkept]
    · rw [List.filter_cons_of_neg (by simp), hkept]

/-- The prompts that are to have a state, in their order: those in the other state that a rule
    asks for it. -/
def askedFor (D : String → Directives) (count : Int) (fired : Fired) (enable : Bool)
    (ps : List Prompt) : List String :=
  (ps.filter fun p => p.content ≠ "" ∧ p.enabled = !enable ∧
    Asks count fired p.identifier (D p.content) enable).map Prompt.identifier

theorem mem_askedFor {D : String → Directives} {ps : List Prompt} {e : String} :
    e ∈ askedFor D count fired enable ps ↔ ∃ p ∈ ps, (p.content ≠ "" ∧ p.enabled = !enable ∧
      Asks count fired p.identifier (D p.content) enable) ∧ p.identifier = e := by
  simp only [askedFor, List.mem_map, List.mem_filter, decide_eq_true_eq, and_assoc]

/-- A prompt is reported on the side of its other state, and if a rule asks for it. -/
theorem reported_ne_nil_iff :
    ((due count fired p d).filter fun f => f.enable == enable).map Firing.id ≠ [] ↔
      p.enabled = !enable ∧ Asks count fired p.identifier d enable := by
  rw [Ne, List.map_eq_nil_iff]
  by_cases hside : p.enabled = !enable
  · have hall : (due count fired p d).filter (fun f => f.enable == enable) =
        due count fired p d := by
      refine List.filter_eq_self.2 fun f hf => ?_
      rw [(shape_of_mem_due hf).2, hside, Bool.not_not]
      exact beq_self_eq_true enable
    rw [hall, ← Ne, due_ne_nil_iff, hside, Bool.not_not]
    exact (and_iff_right rfl).symm
  · have hnone : (due count fired p d).filter (fun f => f.enable == enable) = [] := by
      refine List.filter_eq_nil_iff.2 fun f hf heq => hside ?_
      rw [← beq_iff_eq.1 heq, (shape_of_mem_due hf).2, Bool.not_not]
    exact iff_of_false (fun h => h hnone) fun h => hside h.1

/-- **What is reported for some prompts.** -/
theorem idsOf_flatMap_due {around : List (Prompt × Directives)}
    (h : (around.map fun o => o.1.identifier).Nodup) :
    Transitions.idsOf enable (around.flatMap fun o => due count fired o.1 o.2) =
      (around.filter fun o => o.1.enabled = !enable ∧
        Asks count fired o.1.identifier o.2 enable).map fun o => o.1.identifier := by
  unfold Transitions.idsOf
  induction around with
  | nil => rfl
  | cons o around ih =>
    obtain ⟨hnew, hnodup⟩ := List.nodup_cons.1 h
    have hown : ∀ e ∈ ((due count fired o.1 o.2).filter fun f => f.enable == enable).map Firing.id,
        e = o.1.identifier := by
      intro e he
      obtain ⟨f, hf, rfl⟩ := List.mem_map.1 he
      exact (shape_of_mem_due (List.mem_filter.1 hf).1).1
    have hothers : o.1.identifier ∉ ((around.flatMap fun o => due count fired o.1 o.2).filter
        fun f => f.enable == enable).map Firing.id := by
      intro he
      obtain ⟨f, hf, hid⟩ := List.mem_map.1 he
      obtain ⟨q, hq, hdue⟩ := List.mem_flatMap.1 (List.mem_filter.1 hf).1
      exact hnew (List.mem_map.2 ⟨q, hq, (shape_of_mem_due hdue).1.symm.trans hid⟩)
    rw [List.flatMap_cons, List.filter_append, List.map_append, distinct_run hown hothers,
      ih hnodup]
    by_cases ho : o.1.enabled = !enable ∧ Asks count fired o.1.identifier o.2 enable
    · rw [if_neg (reported_ne_nil_iff.2 ho), List.filter_cons_of_pos (by simpa using ho),
        List.map_cons]
    · rw [if_pos (Classical.not_not.1 (mt reported_ne_nil_iff.1 ho)),
        List.filter_cons_of_neg (by simpa using ho)]

/-! ## Transitions -/

/-- The transitions of a count are exact about some prompts: on either side stand, in order and
    each once, the prompts in the other state that a rule asks for it; none stands on both sides,
    and each that stands on one has a firing that switches it there. -/
structure ExactTransitions (D : String → Directives) (count : Int) (fired : Fired)
    (ps : List Prompt) (t : Transitions) : Prop where
  toEnable : t.toEnable = askedFor D count fired true ps
  toDisable : t.toDisable = askedFor D count fired false ps
  nodup : t.toEnable.Nodup ∧ t.toDisable.Nodup
  disjoint : t.toEnable.Disjoint t.toDisable
  mem_toEnable : ∀ e, e ∈ t.toEnable ↔ ∃ f ∈ t.firings, f.id = e ∧ f.action = "enable"
  mem_toDisable : ∀ e, e ∈ t.toDisable ↔ ∃ f ∈ t.firings, f.id = e ∧ f.action = "disable"

section Transitions

variable {D : String → Directives} {ps : List Prompt}

theorem idsOf_answered (hd : Distinct ps) :
    Transitions.idsOf enable ((answered D ps).flatMap fun o => due count fired o.1 o.2) =
      askedFor D count fired enable ps := by
  have hnodup : ((answered D ps).map fun o => o.1.identifier).Nodup := by
    rw [answered, List.map_map]
    exact List.Nodup.sublist (List.filter_sublist.map _) hd
  rw [idsOf_flatMap_due hnodup, askedFor, answered, List.filter_map, List.map_map,
    List.filter_filter]
  refine congrArg (List.map _) (List.filter_congr fun p _ => ?_)
  rw [Bool.eq_iff_iff]
  simp only [Bool.and_eq_true, decide_eq_true_eq, Prompt.hasContent, bne_iff_ne, Function.comp]
  exact and_comm

theorem disjoint_askedFor (hd : Distinct ps) :
    (askedFor D count fired true ps).Disjoint (askedFor D count fired false ps) := by
  intro e hon hoff
  obtain ⟨p, hp, ⟨_, hdisabled, _⟩, rfl⟩ := mem_askedFor.1 hon
  obtain ⟨q, hq, ⟨_, henabled, _⟩, hid⟩ := mem_askedFor.1 hoff
  obtain rfl : q = p := List.inj_on_of_nodup_map hd hq hp hid
  rw [hdisabled] at henabled
  cases henabled

/-- A firing is named after the state that it gives. -/
theorem action_eq_iff {f : Firing} :
    f.action = (if enable then "enable" else "disable") ↔ f.enable = enable := by
  unfold Firing.action
  cases f.enable <;> cases enable <;> decide

theorem mem_idsOf_iff_action {firings : List Firing} {e : String} :
    e ∈ Transitions.idsOf enable firings ↔
      ∃ f ∈ firings, f.id = e ∧ f.action = if enable then "enable" else "disable" := by
  simp only [Transitions.mem_idsOf, action_eq_iff, and_comm]

theorem exactTransitions_answered (hd : Distinct ps) :
    ExactTransitions D count fired ps
      (.ofFirings count ((answered D ps).flatMap fun o => due count fired o.1 o.2)) where
  toEnable := idsOf_answered hd
  toDisable := idsOf_answered hd
  nodup := ⟨Transitions.nodup_idsOf _ _, Transitions.nodup_idsOf _ _⟩
  disjoint := by
    show (Transitions.idsOf true _).Disjoint (Transitions.idsOf false _)
    rw [idsOf_answered hd, idsOf_answered hd]
    exact disjoint_askedFor hd
  mem_toEnable _ := mem_idsOf_iff_action
  mem_toDisable _ := mem_idsOf_iff_action

/-! ## Any lookup -/

open Session (Leads said)

/-- A reading that may fail needs the contents of the prompts, and no more. -/
theorem transitions_eq_ok_iff {ε : Type} {read : Lookup (Except ε)} {t : Transitions} :
    transitions read count ps fired = .ok t ↔
      (∀ p ∈ ps, p.content ≠ "" → (read p.content).isOk = true) ∧
        t = .ofFirings count
          ((answered (Memo.reading read) ps).flatMap fun o => due count fired o.1 o.2) := by
  unfold transitions
  rw [bind_eq_ok_iff]
  constructor
  · rintro ⟨answers, hanswers, ht⟩
    obtain ⟨hok, rfl⟩ := annotated_eq_ok_iff.1 hanswers
    exact ⟨hok, (Except.ok.inj ht).symm⟩
  · rintro ⟨hok, rfl⟩
    exact ⟨_, annotated_eq_ok_iff.2 ⟨hok, rfl⟩, rfl⟩

theorem leads_transitions {σ : Type} (count : Int) (fired : Fired) (ps : List Prompt) (w : σ) :
    Leads (transitions Session.remembered count ps fired) w
      (.ofFirings count ((answered said ps).flatMap fun o => due count fired o.1 o.2)) w :=
  (Session.leads_annotated ps w).bind (Session.leads_pure _ w)

/-- **Transitions are exact**, at every count and whatever has fired. A plain lookup always gives
    them, a reading that may fail does if it can read the contents, and the memory of a session
    always does. -/
theorem transitions_exact (hd : Distinct ps) (count : Int) (fired : Fired) :
    (∀ D : String → Directives,
      ExactTransitions D count fired ps (transitions (m := Id) D count ps fired)) ∧
    (∀ (ε : Type) (read : Lookup (Except ε)),
      ((transitions read count ps fired).isOk = true ↔
        ∀ p ∈ ps, p.content ≠ "" → (read p.content).isOk = true) ∧
      ∀ t, transitions read count ps fired = .ok t →
        ExactTransitions (Memo.reading read) count fired ps t) ∧
    ∀ (σ : Type) (s : Session σ), s.memo.Faithful Directives.ofContent →
      ExactTransitions said count fired ps (transitions Session.remembered count ps fired s).1 := by
  refine ⟨fun D => ?_, fun ε read => ⟨⟨fun hok => ?_, fun hok => ?_⟩, fun t ht => ?_⟩,
    fun σ s hs => ?_⟩
  · have hplain : transitions (m := Id) D count ps fired =
        .ofFirings count ((answered D ps).flatMap fun o => due count fired o.1 o.2) := by
      unfold transitions annotated
      rw [annotate_id]
      rfl
    rw [hplain]
    exact exactTransitions_answered hd
  · cases ht : transitions read count ps fired with
    | error e =>
      rw [ht] at hok
      cases hok
    | ok t => exact (transitions_eq_ok_iff.1 ht).1
  · rw [transitions_eq_ok_iff.2 ⟨hok, rfl⟩]
    rfl
  · rw [(transitions_eq_ok_iff.1 ht).2]
    exact exactTransitions_answered hd
  · rw [(leads_transitions count fired ps s.world s ⟨rfl, hs⟩).1]
    exact exactTransitions_answered hd

end Transitions

/-- Prompts with thresholds that tie below zero, an at-rule that has fired and one that has not, an
    open window, and after-rules of which the later one enables. -/
def mixedSet : List Prompt :=
  let tied := Comment.block "@enable-after-message -2" ++ Comment.block "@disable-after-message -2"
  [{ identifier := "tied", content := tied, enabled := true },
   { identifier := "off", content := tied },
   { identifier := "spent", content := Comment.block "@enable-at-message 1" },
   { identifier := "due", content := Comment.block "@disable-at-message 1", enabled := true },
   { identifier := "open", content := Comment.block "@message-range 0-" },
   { identifier := "late", content := Comment.block "@enable-after-message 2" ++
      Comment.block "@disable-after-message 1" },
   { identifier := "plain", content := "Tea.", enabled := true }]

theorem transitions_exact_mixedSet :
    Distinct mixedSet ∧
      ∃ t, transitions Directives.ofContent 2 mixedSet [("spent", .enableAt)] = .ok t ∧
        ExactTransitions Session.said 2 [("spent", .enableAt)] mixedSet t ∧
        t.toEnable = ["open", "late"] ∧ t.toDisable = ["tied", "due"] := by
  have hd : Distinct mixedSet := by decide
  have hsides : (transitions Directives.ofContent 2 mixedSet [("spent", .enableAt)]).toOption.map
      (fun t => (t.toEnable, t.toDisable)) = some (["open", "late"], ["tied", "due"]) := by
    decide
  obtain ⟨_, hread, _⟩ := transitions_exact hd 2 [("spent", .enableAt)]
  cases ht : transitions Directives.ofContent 2 mixedSet [("spent", .enableAt)] with
  | error e =>
    rw [ht] at hsides
    cases hsides
  | ok t =>
    rw [ht] at hsides
    obtain ⟨hon, hoff⟩ := Prod.mk.inj (Option.some.inj hsides)
    exact ⟨hd, t, rfl, (hread _ _).2 t ht, hon, hoff⟩

end Trigger

end PromptRules
