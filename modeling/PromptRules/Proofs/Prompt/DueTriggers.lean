import PromptRules.Prompt.Trigger

/-!
# What is due

What is due for a prompt asks for its other state. An at-rule fires at a threshold that has been
reached, and only if it has not fired before. Once a count is past every threshold, at-rules may
still fire, and the other rules last: an open window and an after-rule that holds ask for one
state at every count, and a window that is over asks for the prompt to be disabled. A prompt is
opposed if such rules ask for both states.

Results:
* `shape_of_mem_due`: what is due asks for the other state of the prompt.
* `oneShot_of_mem_due`: when an at-rule fires.
* `due_ne_nil_of_lasts`: a rule that lasts fires whenever the prompt is in the other state.
* `oneShot_of_not_lasts`: without such a rule only an at-rule fires.
-/

namespace PromptRules

open Directive

/-! ## Rules that last -/

namespace Directive.Directives

/-- Every threshold has been reached, and every window is over or, if it is open, has begun. -/
def Past (d : Directives) (count : Int) : Prop :=
  (∀ f ∈ [IntField.enableAtMessage, .disableAtMessage, .enableAfterMessage, .disableAfterMessage],
    ∀ t ∈ d.int f, t ≤ count) ∧
  ∀ w ∈ d.window, (∀ last ∈ w.last, last < count) ∧ (w.last = none → w.first ≤ count)

instance (d : Directives) (count : Int) : Decidable (d.Past count) := by
  unfold Past
  infer_instance

/-- Whether the window asks for a state at every later count: an open one for the prompt to be
    enabled, any other for it to be disabled. -/
def windowLasts (d : Directives) (enable : Bool) : Bool :=
  d.window.any fun w => w.last.isNone == enable

/-- Whether an after-rule asks for a state at every later count. -/
def afterLasts (d : Directives) : Bool → Bool
  | true => (d.int .enableAfterMessage).any fun e => (d.int .disableAfterMessage).all (· < e)
  | false => (d.int .disableAfterMessage).any fun n => (d.int .enableAfterMessage).all (· ≤ n)

/-- Whether a rule asks for a state at every later count. -/
def lasts (d : Directives) (enable : Bool) : Bool := d.windowLasts enable || d.afterLasts enable

/-- Rules ask for either state at every later count. -/
def Opposed (d : Directives) : Prop := ∀ enable, d.lasts enable = true

instance (d : Directives) : Decidable d.Opposed := by
  unfold Opposed
  infer_instance

end Directive.Directives

/-- The at-rule that asks for a state. -/
def Rule.atFor (enable : Bool) : Rule := if enable then .enableAt else .disableAt

theorem Rule.atFor_injective {a b : Bool} (h : atFor a = atFor b) : a = b := by
  cases a <;> cases b <;> first | rfl | cases h

namespace Transitions

theorem mem_idsOf {enable : Bool} {firings : List Firing} {e : String} :
    e ∈ idsOf enable firings ↔ ∃ f ∈ firings, f.enable = enable ∧ f.id = e := by
  simp [idsOf, Data.mem_distinct, and_assoc]

theorem nodup_idsOf (enable : Bool) (firings : List Firing) : (idsOf enable firings).Nodup :=
  Data.nodup_distinct _

end Transitions

namespace Trigger

variable {count : Int} {fired : Fired} {p : Prompt} {d : Directives} {f : Firing}

/-! ## Single rules -/

/-- A firing of a prompt asks for its other state. -/
def AsksOther (p : Prompt) (f : Firing) : Prop := f.id = p.identifier ∧ f.enable = !p.enabled

theorem mem_atRule {enable : Bool} {rule : Rule} {threshold : Option Int}
    (h : f ∈ atRule count fired p enable rule threshold) :
    AsksOther p f ∧ f.enable = enable ∧ f.rule = rule ∧ (∃ t ≤ count, f.threshold = some t) ∧
      (f.id, f.rule) ∉ fired := by
  unfold atRule at h
  split at h
  · rename_i t
    split at h
    · rename_i hdue
      obtain rfl := List.mem_singleton.1 h
      refine ⟨⟨rfl, ?_⟩, rfl, rfl, ⟨t, hdue.2.1, rfl⟩, hdue.2.2⟩
      exact (Bool.eq_not.2 (Ne.symm hdue.1))
    · cases h
  · cases h

theorem mem_windowRule {window : Option Window} (h : f ∈ windowRule count p window) :
    AsksOther p f ∧ f.rule = .window := by
  unfold windowRule at h
  unfold AsksOther
  grind [firing]

theorem mem_afterRule {enable : Bool} {rule : Rule} {holds : Option Int}
    (h : f ∈ afterRule count p enable rule holds) : AsksOther p f ∧ f.rule = rule := by
  unfold afterRule at h
  split at h
  · split at h
    · rename_i hdue
      obtain rfl := List.mem_singleton.1 h
      exact ⟨⟨rfl, Bool.eq_not.2 (Ne.symm hdue)⟩, rfl⟩
    · cases h
  · cases h

theorem afterRule_eq_nil_iff {enable : Bool} {rule : Rule} {holds : Option Int} :
    afterRule count p enable rule holds = [] ↔ holds = none ∨ p.enabled = enable := by
  unfold afterRule
  cases holds with
  | none => simp
  | some n => simp

/-! ## All rules -/

/-- What is due asks for the other state of the prompt. -/
theorem shape_of_mem_due (h : f ∈ due count fired p d) : AsksOther p f := by
  unfold due at h
  simp only [List.mem_append] at h
  rcases h with (((h | h) | h) | h) | h
  · exact (mem_atRule h).1
  · exact (mem_atRule h).1
  · exact (mem_windowRule h).1
  · exact (mem_afterRule h).1
  · exact (mem_afterRule h).1

/-- What an at-rule does is told by the rule; it fires at a threshold that has been reached, and
    only if it has not fired. -/
theorem oneShot_of_mem_due (h : f ∈ due count fired p d) (hf : f.rule.isOneShot = true) :
    f.rule = .atFor f.enable ∧ (∃ t ≤ count, f.threshold = some t) ∧ (f.id, f.rule) ∉ fired := by
  unfold due at h
  simp only [List.mem_append] at h
  rcases h with (((h | h) | h) | h) | h
  · obtain ⟨_, he, hr, hfires⟩ := mem_atRule h
    exact ⟨by rw [hr, he]; rfl, hfires⟩
  · obtain ⟨_, he, hr, hfires⟩ := mem_atRule h
    exact ⟨by rw [hr, he]; rfl, hfires⟩
  · rw [(mem_windowRule h).2] at hf
    cases hf
  · rw [(mem_afterRule h).2] at hf
    cases hf
  · rw [(mem_afterRule h).2] at hf
    cases hf

/-! ## Past every threshold -/

theorem windowRule_eq_nil_iff (h : d.Past count) :
    windowRule count p d.window = [] ↔ d.windowLasts (!p.enabled) = false := by
  unfold windowRule Directives.windowLasts
  cases hw : d.window with
  | none => simp
  | some w =>
    obtain ⟨hclosed, hopen⟩ := h.2 w hw
    cases hl : w.last with
    | none =>
      have hin : w.contains count = true := by
        simpa [Window.contains, hl] using hopen hl
      cases he : p.enabled <;> simp [hin, hl]
    | some l =>
      have hout : w.contains count = false := by
        have hlt := hclosed l hl
        simp only [Window.contains, hl, Option.all_some, Bool.and_eq_false_iff,
          decide_eq_false_iff_not]
        omega
      cases he : p.enabled <;> simp [hout, hl]

theorem passed_eq (h : d.Past count) {f : IntField}
    (hf : f ∈ [IntField.enableAtMessage, .disableAtMessage, .enableAfterMessage,
      .disableAfterMessage]) :
    passed count (d.int f) = d.int f := by
  cases ht : d.int f with
  | none => rfl
  | some t => exact Option.filter_some_pos (by simpa using h.1 f hf t ht)

theorem afterRules_isSome (h : d.Past count) :
    (afterRules count d).1.isSome = d.afterLasts true ∧
      (afterRules count d).2.isSome = d.afterLasts false := by
  unfold afterRules
  rw [passed_eq h (by decide), passed_eq h (by decide)]
  unfold Directives.afterLasts
  cases d.int .enableAfterMessage with
  | none => cases d.int .disableAfterMessage <;> exact ⟨rfl, rfl⟩
  | some e =>
    cases d.int .disableAfterMessage with
    | none => exact ⟨rfl, rfl⟩
    | some n =>
      by_cases hlt : n < e
      · simp [hlt]
      · simp [hlt, Int.not_lt.1 hlt]

/-- What an after-rule does is told by the state of the prompt: the other rule is quiet. -/
theorem afterRules_due_eq_nil_iff (h : d.Past count) :
    (afterRule count p true .enableAfter (afterRules count d).1 = [] ∧
      afterRule count p false .disableAfter (afterRules count d).2 = []) ↔
      d.afterLasts (!p.enabled) = false := by
  obtain ⟨hon, hoff⟩ := afterRules_isSome h
  simp only [afterRule_eq_nil_iff, ← Option.isNone_iff_eq_none, ← Option.not_isSome]
  cases p.enabled <;> simp [hon, hoff]

/-- **A rule that lasts fires whenever the prompt is in the other state.** -/
theorem due_ne_nil_of_lasts (h : d.Past count) (hl : d.lasts (!p.enabled) = true) :
    due count fired p d ≠ [] := by
  intro hnil
  simp only [due, List.append_eq_nil_iff] at hnil
  obtain ⟨⟨⟨_, hwindow⟩, hon⟩, hoff⟩ := hnil
  rw [Directives.lasts, (windowRule_eq_nil_iff h).1 hwindow,
    (afterRules_due_eq_nil_iff h).1 ⟨hon, hoff⟩] at hl
  cases hl

/-- **Without a rule that lasts only an at-rule fires.** -/
theorem oneShot_of_not_lasts (h : d.Past count) (hl : d.lasts (!p.enabled) = false)
    (hf : f ∈ due count fired p d) : f.rule.isOneShot = true := by
  rw [Directives.lasts, Bool.or_eq_false_iff] at hl
  obtain ⟨hon, hoff⟩ := (afterRules_due_eq_nil_iff h).2 hl.2
  simp only [due, (windowRule_eq_nil_iff h).2 hl.1, hon, hoff, List.append_nil,
    List.mem_append] at hf
  rcases hf with hf | hf
  · rw [(mem_atRule hf).2.2.1]
    rfl
  · rw [(mem_atRule hf).2.2.1]
    rfl

end Trigger

end PromptRules
