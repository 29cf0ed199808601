import Mathlib.Data.List.Induction
import Mathlib.Data.List.Nodup
import PromptRules.Proofs.Prompt.DueTriggers
import PromptRules.Proofs.Store.Replay

/-!
# The history of at-rules

A watcher remembers which at-rules have fired. Seen from outside it does two things: it forgets
everything, or it processes a count, reports what fires and gets some toggles through. What it
remembers can be read off these sights: the at-rules whose toggle was applied, with the latest
threshold, unless a reset or a count below that threshold came later.

Results:
* `spent_concat`: how one more sight changes what is spent.
* `kept_take`, `kept_watch`: every turn, and so every run, keeps the memory in step with what was
  seen.
* `oneShots_watch`: in every run, at-rules are remembered exactly as long as they are spent, are
  not applied again before, and stay armed when their toggle is refused.
-/

namespace PromptRules

open Data

namespace Watcher

variable {σ : Type}

/-! ## Sights -/

/-- What a watcher is seen doing: it forgets everything, or it processes a count, with the
    firings that it reports and the toggles that it gets through. -/
inductive Sight where
  | reset
  | counted (count : Int) (firings : List Firing) (toggles : List (String × Bool))

/-- Whether a firing is one of an at-rule of a prompt, and its toggle was applied. -/
def took (key : String × Rule) (toggles : List (String × Bool)) (f : Firing) : Bool :=
  f.rule.isOneShot && decide ((f.id, f.rule) = key) && decide ((f.id, f.enable) ∈ toggles)

namespace Sight

/-- The last firing of an at-rule of a prompt whose toggle was applied. -/
def applied? (key : String × Rule) : Sight → Option Firing
  | reset => none
  | counted _ firings toggles => (firings.filter (took key toggles)).getLast?

/-- An at-rule of a prompt fires at a threshold, and its toggle is applied. -/
def FiresAt (key : String × Rule) (t : Int) (x : Sight) : Prop :=
  ∃ f ∈ x.applied? key, f.threshold = some t

/-- At-rules that fired at a threshold are armed again: everything is forgotten, or the count is
    below the threshold. -/
def Rearms (t : Int) : Sight → Prop
  | reset => True
  | counted n _ _ => n < t

end Sight

/-- An at-rule of a prompt has fired at a threshold, its toggle was applied, and since then it has
    neither fired so again nor been armed again. -/
def Spent (key : String × Rule) (t : Int) (seen : List Sight) : Prop :=
  ∃ earlier x later, seen = earlier ++ x :: later ∧ x.FiresAt key t ∧
    ∀ y ∈ later, y.applied? key = none ∧ ¬ y.Rearms t

/-- What a watcher remembers, `fired`, is what can be read off the sights so far. -/
structure OneShots (fired : List ((String × Rule) × Option Int)) (seen : List Sight) : Prop where
  /-- An at-rule is remembered as fired, with its threshold, as long as it is spent. -/
  fired_iff : ∀ key threshold, Assoc.get? fired key = some threshold ↔
    ∃ t, threshold = some t ∧ Spent key t seen
  /-- An at-rule is not applied again before it has been armed again. -/
  rearmed : ∀ key t earlier x between y later, seen = earlier ++ x :: (between ++ y :: later) →
    x.FiresAt key t → (y.applied? key).isSome → ∃ z ∈ between ++ [y], z.Rearms t
  /-- An at-rule whose toggle was refused is armed. -/
  armed : ∀ earlier count firings toggles, seen = earlier ++ [.counted count firings toggles] →
    ∀ f ∈ firings, f.rule.isOneShot → (f.id, f.enable) ∉ toggles →
      Assoc.get? fired (f.id, f.rule) = none

/-! ## Runs -/

/-- A watcher in a session, with what it was seen doing so far. -/
structure Watched (σ : Type) where
  session : Session σ
  watcher : Watcher := {}
  seen : List Sight := []

/-- What happens: a count is to be processed, everything is to be forgotten, or something else
    happens to the session and its surroundings. -/
inductive Turn (σ : Type) where
  | count (n : Int)
  | reset
  | meanwhile (change : Session σ → Session σ)

/-- One turn. -/
def Watched.take (host : Host σ) (log : σ → List (String × Bool)) (w : Watched σ) :
    Turn σ → Watched σ
  | .count n =>
    let r := process host n w.watcher Session.remembered w.session
    let toggles := (log r.2.world).drop (log w.session.world).length
    { session := r.2
      watcher := r.1.2
      seen := w.seen ++ (r.1.1.map fun t => Sight.counted n t.firings toggles).toList }
  | .reset => { w with watcher := Watcher.reset, seen := w.seen ++ [.reset] }
  | .meanwhile change => { w with session := change w.session }

/-- Turns one after the other, from a new watcher on. -/
def watch (host : Host σ) (log : σ → List (String × Bool)) (s : Session σ) (turns : List (Turn σ)) :
    Watched σ :=
  turns.foldl (Watched.take host log) { session := s }

/-! ## What is remembered -/

section Memory

variable {fired : List ((String × Rule) × Option Int)} {key : String × Rule}

theorem get?_filter (hn : (Assoc.keys fired).Nodup) (keeps : Option Int → Bool) :
    Assoc.get? (fired.filter fun e => keeps e.2) key = (Assoc.get? fired key).filter keeps := by
  induction fired with
  | nil => rfl
  | cons e fired ih =>
    obtain ⟨hnot, hrest⟩ := List.nodup_cons.1 hn
    have ih := ih hrest
    obtain ⟨k, th⟩ := e
    by_cases hk : k = key
    · subst hk
      rw [Assoc.get?_cons_self]
      cases hkeep : keeps th with
      | true =>
        rw [List.filter_cons_of_pos (by exact hkeep), Assoc.get?_cons_self,
          Option.filter_some_pos hkeep]
      | false =>
        rw [List.filter_cons_of_neg (by simp [hkeep]), ih, Option.filter_some_neg (by simp [hkeep])]
        have hnone : Assoc.get? fired k = none := by
          rw [← Option.not_isSome_iff_eq_none, ← Assoc.mem_keys_iff]
          exact hnot
        rw [hnone]
        rfl
    · rw [Assoc.get?_cons_of_ne _ _ hk, ← ih]
      cases hkeep : keeps th with
      | true => rw [List.filter_cons_of_pos (by exact hkeep), Assoc.get?_cons_of_ne _ _ hk]
      | false => rw [List.filter_cons_of_neg (by simp [hkeep])]

theorem nodup_put (hn : (Assoc.keys fired).Nodup) (k : String × Rule) (t : Option Int) :
    (Assoc.keys (Assoc.put fired k t)).Nodup := by
  by_cases hk : k ∈ Assoc.keys fired
  · rwa [Assoc.keys_put_of_mem t hk]
  · rw [Assoc.keys_put_of_not_mem t hk]
    exact List.nodup_append.2 ⟨hn, List.nodup_singleton k, by
      rintro a ha b hb rfl
      exact hk (List.mem_singleton.1 hb ▸ ha)⟩

theorem contains_iff_mem_toggles {enabled disabled : List String} {id : String} {enable : Bool} :
    (if enable then enabled else disabled).contains id = true ↔
      (id, enable) ∈ toggles enabled disabled := by
  cases enable <;> simp [toggles]

theorem mark_eq (enabled disabled : List String) (fired : List ((String × Rule) × Option Int))
    (f : Firing) : mark enabled disabled fired f =
      if took (f.id, f.rule) (toggles enabled disabled) f then
        Assoc.put fired (f.id, f.rule) f.threshold
      else fired := by
  unfold mark took
  simp only [Bool.and_eq_true, contains_iff_mem_toggles, decide_eq_true_eq, and_true]

theorem took_iff {toggles : List (String × Bool)} {f : Firing} :
    took key toggles f = true ↔ key = (f.id, f.rule) ∧ took (f.id, f.rule) toggles f = true := by
  simp only [took, Bool.and_eq_true, decide_eq_true_eq]
  grind

theorem nodup_foldl_mark (enabled disabled : List String) (hn : (Assoc.keys fired).Nodup)
    (firings : List Firing) : (Assoc.keys (firings.foldl (mark enabled disabled) fired)).Nodup := by
  induction firings generalizing fired with
  | nil => exact hn
  | cons f firings ih =>
    refine ih ?_
    rw [mark_eq]
    split
    · exact nodup_put hn _ _
    · exact hn

/-- Remembering firings one after the other remembers the last one whose toggle was applied. -/
theorem get?_foldl_mark (enabled disabled : List String) (firings : List Firing) :
    Assoc.get? (firings.foldl (mark enabled disabled) fired) key =
      match (firings.filter (took key (toggles enabled disabled))).getLast? with
      | some f => some f.threshold
      | none => Assoc.get? fired key := by
  induction firings using List.reverseRecOn with
  | nil => rfl
  | append_singleton firings f ih =>
    rw [List.foldl_concat, List.filter_append, mark_eq]
    by_cases htook : took (f.id, f.rule) (toggles enabled disabled) f = true
    · rw [if_pos htook]
      by_cases hkey : key = (f.id, f.rule)
      · subst hkey
        rw [Assoc.get?_put_self, List.filter_singleton, htook]
        simp
      · have hnot : took key (toggles enabled disabled) f = false :=
          Bool.eq_false_iff.2 fun h => hkey (took_iff.1 h).1
        rw [Assoc.get?_put_of_ne _ _ hkey, ih, List.filter_singleton, hnot]
        simp
    · have hnot : took key (toggles enabled disabled) f = false :=
        Bool.eq_false_iff.2 fun h => htook (took_iff.1 h).2
      rw [if_neg htook, ih, List.filter_singleton, hnot]
      simp

/-- What is remembered after firings was remembered before or has fired with its toggle applied. -/
theorem mem_keys_foldl_mark {enabled disabled : List String} {firings : List Firing} :
    key ∈ Assoc.keys (firings.foldl (mark enabled disabled) fired) ↔
      key ∈ Assoc.keys fired ∨ ∃ f ∈ firings, took key (toggles enabled disabled) f = true := by
  rw [Assoc.mem_keys_iff, Assoc.mem_keys_iff, get?_foldl_mark]
  cases hlast : (firings.filter (took key (toggles enabled disabled))).getLast? with
  | none =>
    rw [List.getLast?_eq_none_iff, List.filter_eq_nil_iff] at hlast
    constructor
    · exact .inl
    · rintro (h | ⟨f, hf, htook⟩)
      · exact h
      · exact absurd htook (hlast f hf)
  | some f =>
    obtain ⟨hf, htook⟩ := List.mem_filter.1 (List.mem_of_getLast? hlast)
    exact ⟨fun _ => .inr ⟨f, hf, htook⟩, fun _ => rfl⟩

end Memory

/-! ## What is spent -/

section Spending

variable {key : String × Rule} {t : Int} {seen : List Sight} {x : Sight}

/-- A list with one more element is split at that element or before it. -/
theorem concat_eq_split {α : Type} {as bs cs : List α} {a b : α} (h : as ++ [a] = bs ++ b :: cs) :
    (as = bs ∧ a = b ∧ cs = []) ∨ ∃ ds, cs = ds ++ [a] ∧ as = bs ++ b :: ds := by
  rcases List.eq_nil_or_concat cs with rfl | ⟨ds, d, rfl⟩
  · obtain ⟨hinit, hlast⟩ := List.append_inj' h rfl
    exact .inl ⟨hinit, List.singleton_injective hlast, rfl⟩
  · rw [List.concat_eq_append, ← List.cons_append, ← List.append_assoc] at h
    obtain ⟨hinit, hlast⟩ := List.append_inj' h rfl
    obtain rfl := List.singleton_injective hlast
    exact .inr ⟨ds, List.concat_eq_append, hinit⟩

theorem not_spent_nil : ¬ Spent key t [] := by
  rintro ⟨earlier, x, later, h, _⟩
  exact List.cons_ne_nil _ _ (List.append_eq_nil_iff.1 h.symm).2

/-- One more sight spends an at-rule if it shows it applied, and leaves it spent if it neither
    does so nor arms it again. -/
theorem spent_concat :
    Spent key t (seen ++ [x]) ↔
      x.FiresAt key t ∨ Spent key t seen ∧ x.applied? key = none ∧ ¬ x.Rearms t := by
  constructor
  · rintro ⟨earlier, y, later, h, hfires, hquiet⟩
    rcases concat_eq_split h with ⟨_, rfl, _⟩ | ⟨later, rfl, rfl⟩
    · exact .inl hfires
    · obtain ⟨hlater, hx⟩ := List.forall_mem_append.1 hquiet
      exact .inr ⟨⟨earlier, y, later, rfl, hfires, hlater⟩, hx x List.mem_cons_self⟩
  · rintro (hfires | ⟨⟨earlier, y, later, rfl, hfires, hquiet⟩, hx⟩)
    · exact ⟨seen, x, [], rfl, hfires, by rintro _ ⟨⟩⟩
    · refine ⟨earlier, y, later ++ [x], by simp, hfires, ?_⟩
      exact List.forall_mem_append.2 ⟨hquiet, by simpa using hx⟩

/-- A sight that fits what was seen before: an at-rule that is reported fires at a threshold that
    has been reached, and is not spent at that count; what it does is told by the rule. -/
def Sight.Fits (seen : List Sight) : Sight → Prop
  | .reset => True
  | .counted n firings _ => ∀ f ∈ firings, f.rule.isOneShot = true →
      f.rule = .atFor f.enable ∧ (∃ t ≤ n, f.threshold = some t) ∧
        ∀ t ≤ n, ¬ Spent (f.id, f.rule) t seen

/-- Every sight fits what was seen before. -/
def Coherent (seen : List Sight) : Prop :=
  ∀ earlier x later, seen = earlier ++ x :: later → x.Fits earlier

theorem coherent_nil : Coherent [] := by
  rintro earlier x later h
  exact absurd (List.append_eq_nil_iff.1 h.symm).2 (List.cons_ne_nil _ _)

theorem Coherent.concat (h : Coherent seen) (hx : x.Fits seen) : Coherent (seen ++ [x]) := by
  rintro earlier y later heq
  rcases concat_eq_split heq with ⟨rfl, rfl, _⟩ | ⟨later, _, rfl⟩
  · exact hx
  · exact h earlier y later rfl

theorem Coherent.last (h : Coherent (seen ++ [x])) : Coherent seen ∧ x.Fits seen :=
  ⟨fun earlier y later heq => h earlier y (later ++ [x]) (by rw [heq]; simp),
    h seen x [] rfl⟩

/-- The count of the last sight. -/
def lastCount (seen : List Sight) : Option Int :=
  match seen.getLast? with
  | some (.counted n _ _) => some n
  | _ => none

theorem lastCount_concat (seen : List Sight) (n : Int) (firings : List Firing)
    (toggles : List (String × Bool)) :
    lastCount (seen ++ [.counted n firings toggles]) = some n := by
  simp [lastCount]

/-- The firing that shows an at-rule applied is among those reported, and is one of the rule. -/
theorem mem_of_applied? {n : Int} {firings : List Firing} {toggles : List (String × Bool)}
    {f : Firing} (h : f ∈ (Sight.counted n firings toggles).applied? key) :
    f ∈ firings ∧ f.rule.isOneShot = true ∧ (f.id, f.rule) = key ∧ (f.id, f.enable) ∈ toggles := by
  obtain ⟨hmem, htook⟩ := List.mem_filter.1 (List.mem_of_getLast? h)
  simp only [took, Bool.and_eq_true, decide_eq_true_eq] at htook
  exact ⟨hmem, htook.1.1, htook.1.2, htook.2⟩

/-- What is spent has been reached by the last count. -/
theorem Coherent.le_last (h : Coherent seen) (hs : Spent key t seen) :
    ∃ n, lastCount seen = some n ∧ t ≤ n := by
  rcases List.eq_nil_or_concat' seen with rfl | ⟨seen, x, rfl⟩
  · exact absurd hs not_spent_nil
  · cases x with
    | reset =>
      rcases spent_concat.1 hs with ⟨f, ⟨⟩, _⟩ | ⟨_, _, hnot⟩
      exact absurd trivial hnot
    | counted n firings toggles =>
      refine ⟨n, lastCount_concat seen n firings toggles, ?_⟩
      rcases spent_concat.1 hs with ⟨f, hf, ht⟩ | ⟨_, _, hnot⟩
      · obtain ⟨hmem, hone, _, _⟩ := mem_of_applied? hf
        obtain ⟨_, ⟨t', hle, ht'⟩, _⟩ := h.last.2 f hmem hone
        obtain rfl : t' = t := Option.some.inj (ht'.symm.trans ht)
        exact hle
      · exact Int.not_lt.1 hnot

end Spending

/-! ## What every turn keeps -/

/-- A watcher in step with what it was seen doing. -/
structure Kept (w : Watcher) (seen : List Sight) : Prop where
  nodup : (Assoc.keys w.fired).Nodup
  last : w.last = lastCount seen
  coherent : Coherent seen
  fired_iff : ∀ key threshold, Assoc.get? w.fired key = some threshold ↔
    ∃ t, threshold = some t ∧ Spent key t seen

section Turns

variable {w : Watcher} {seen : List Sight} {host : Host σ} {log : σ → List (String × Bool)}

theorem kept_reset {seen : List Sight} (h : Coherent seen) : Kept reset (seen ++ [.reset]) where
  nodup := List.nodup_nil
  last := by simp [reset, lastCount]
  coherent := h.concat trivial
  fired_iff key threshold := by
    constructor
    · rintro ⟨⟩
    · rintro ⟨t, _, hs⟩
      rcases spent_concat.1 hs with ⟨f, ⟨⟩, _⟩ | ⟨_, _, hnot⟩
      exact absurd trivial hnot

theorem Kept.before_nodup (h : Kept w seen) (n : Int) :
    (Assoc.keys (w.before n).fired).Nodup := by
  unfold before
  split
  · exact h.nodup.sublist (List.filter_sublist.map Prod.fst)
  · exact h.nodup

/-- At another count, what is spent stays remembered unless the count is below its threshold. -/
theorem Kept.get?_before (h : Kept w seen) (n : Int) (key : String × Rule)
    (threshold : Option Int) :
    Assoc.get? (w.before n).fired key = some threshold ↔
      ∃ t, threshold = some t ∧ t ≤ n ∧ Spent key t seen := by
  unfold before
  split
  · rw [rearm]
    simp only
    rw [get?_filter h.nodup, Option.filter_eq_some_iff, h.fired_iff]
    constructor
    · rintro ⟨⟨t, rfl, hs⟩, hreached⟩
      exact ⟨t, rfl, by simpa [reached] using hreached, hs⟩
    · rintro ⟨t, rfl, hle, hs⟩
      exact ⟨⟨t, rfl, hs⟩, by simpa [reached] using hle⟩
  · rename_i hback
    rw [h.fired_iff]
    -- The count has not gone back, so it has reached whatever the last count had reached.
    have hle : ∀ t, Spent key t seen → t ≤ n := fun t hs => by
      obtain ⟨m, hm, htm⟩ := h.coherent.le_last hs
      rw [h.last, hm] at hback
      simp only [Option.any_some, decide_eq_true_eq] at hback
      omega
    constructor
    · rintro ⟨t, rfl, hs⟩
      exact ⟨t, rfl, hle t hs, hs⟩
    · rintro ⟨t, rfl, _, hs⟩
      exact ⟨t, rfl, hs⟩

/-- What a watcher reports at another count fits what was seen before. -/
theorem Kept.fits (h : Kept w seen) (n : Int)
    (around : List (Prompt × Directive.Directives)) (toggles : List (String × Bool)) :
    (Sight.counted n
      (around.flatMap fun o => Trigger.due n (Assoc.keys (w.before n).fired) o.1 o.2)
      toggles).Fits seen := by
  intro f hf hone
  obtain ⟨o, _, hdue⟩ := List.mem_flatMap.1 hf
  obtain ⟨he, ht, hnot⟩ := Trigger.oneShot_of_mem_due hdue hone
  refine ⟨he, ht, fun t hle hs => hnot ?_⟩
  rw [Assoc.mem_keys_iff, (h.get?_before n _ _).2 ⟨t, rfl, hle, hs⟩]
  rfl

/-- **Processing another count keeps a watcher in step.** -/
theorem Kept.outcome (h : Kept w seen) (n : Int)
    (around : List (Prompt × Directive.Directives)) (enabled disabled : List String) :
    Kept (outcome n around enabled disabled (w.before n)).2
      (seen ++ [.counted n
        (around.flatMap fun o => Trigger.due n (Assoc.keys (w.before n).fired) o.1 o.2)
        (toggles enabled disabled)]) := by
  have hfits := h.fits n around (toggles enabled disabled)
  refine ⟨nodup_foldl_mark _ _ (h.before_nodup n) _, (lastCount_concat _ _ _ _).symm,
    h.coherent.concat hfits, fun key threshold => ?_⟩
  rw [Watcher.outcome]
  simp only
  rw [get?_foldl_mark]
  simp only [spent_concat]
  split
  · rename_i f hf
    obtain ⟨hmem, hone, _, _⟩ := @mem_of_applied? key n _ _ f hf
    obtain ⟨_, ⟨t, _, ht⟩, _⟩ := hfits f hmem hone
    constructor
    · rintro ⟨⟩
      exact ⟨t, ht, .inl ⟨f, hf, ht⟩⟩
    · rintro ⟨t', rfl, ⟨f', hf', ht'⟩ | ⟨_, hnone, _⟩⟩
      · obtain rfl : f = f' := Option.some.inj (hf.symm.trans hf')
        rw [ht']
      · rw [Sight.applied?, hf] at hnone
        cases hnone
  · rename_i hnone
    rw [h.get?_before]
    constructor
    · rintro ⟨t, rfl, hle, hs⟩
      exact ⟨t, rfl, .inr ⟨hs, hnone, Int.not_lt.2 hle⟩⟩
    · rintro ⟨t, rfl, ⟨f, hf, _⟩ | ⟨hs, _, hle⟩⟩
      · rw [Sight.applied?, hnone] at hf
        cases hf
      · exact ⟨t, rfl, Int.not_lt.1 hle, hs⟩

/-- **Every turn keeps a watcher in step.** -/
theorem kept_take (hlog : host.Logs log) {w : Watched σ} (h : Kept w.watcher w.seen)
    (turn : Turn σ) : Kept (w.take host log turn).watcher (w.take host log turn).seen := by
  cases turn with
  | count n =>
    by_cases hn : w.watcher.last = some n
    · have hr : (process host n w.watcher Session.remembered w.session).1 = (none, w.watcher) :=
        process_unchanged hn w.session
      simp only [Watched.take, hr, Option.map_none, Option.toList_none, List.append_nil]
      exact h
    · obtain ⟨around, enabled, disabled, hr, htoggles⟩ := process_eq_outcome hlog hn w.session
      simp only [Watched.take, htoggles, List.drop_left, hr]
      exact h.outcome n around enabled disabled
  | reset => exact kept_reset h.coherent
  | meanwhile change => exact h

theorem kept_watch (hlog : host.Logs log) (s : Session σ) (turns : List (Turn σ)) :
    Kept (watch host log s turns).watcher (watch host log s turns).seen := by
  have hrun : ∀ w : Watched σ, Kept w.watcher w.seen →
      Kept (turns.foldl (Watched.take host log) w).watcher
        (turns.foldl (Watched.take host log) w).seen := by
    induction turns with
    | nil => exact fun _ h => h
    | cons turn turns ih => exact fun w h => ih _ (kept_take hlog h turn)
  refine hrun _ ⟨List.nodup_nil, rfl, coherent_nil, fun key threshold => ?_⟩
  constructor
  · rintro ⟨⟩
  · rintro ⟨t, _, hs⟩
    exact absurd hs not_spent_nil

end Turns

/-! ## What a history tells -/

section History

variable {seen earlier later : List Sight} {y : Sight} {key : String × Rule} {t : Int}

/-- What is spent is not applied, unless the count arms it again. -/
theorem Coherent.applied?_eq_none (h : Coherent (earlier ++ y :: later)) (hs : Spent key t earlier)
    (hy : ¬ y.Rearms t) : y.applied? key = none := by
  cases y with
  | reset => exact absurd trivial hy
  | counted n firings toggles =>
    refine Option.eq_none_iff_forall_not_mem.2 fun f hf => ?_
    obtain ⟨hmem, hone, rfl, _⟩ := mem_of_applied? hf
    obtain ⟨_, _, hfresh⟩ := h earlier _ later rfl f hmem hone
    exact hfresh t (Int.not_lt.1 hy) hs

/-- What is spent stays spent, and is not applied, until it is armed again. -/
theorem Coherent.rearms_of_applied {between : List Sight}
    (h : Coherent (earlier ++ (between ++ y :: later))) (hs : Spent key t earlier)
    (hy : (y.applied? key).isSome) : ∃ z ∈ between ++ [y], z.Rearms t := by
  by_contra hnone
  push Not at hnone
  induction between generalizing earlier with
  | nil =>
    rw [h.applied?_eq_none hs (hnone y List.mem_cons_self)] at hy
    cases hy
  | cons z between ih =>
    have hz : ¬ z.Rearms t := hnone z List.mem_cons_self
    have hnext : Coherent ((earlier ++ [z]) ++ (between ++ y :: later)) := by simpa using h
    have hspent : Spent key t (earlier ++ [z]) :=
      spent_concat.2 (.inr ⟨hs, h.applied?_eq_none hs hz, hz⟩)
    exact ih hnext hspent fun u hu => hnone u (List.mem_cons_of_mem z hu)

/-- An at-rule that is reported and not applied is not spent. -/
theorem Coherent.not_spent_of_refused {n : Int} {firings : List Firing}
    {toggles : List (String × Bool)} (h : Coherent (earlier ++ [.counted n firings toggles]))
    {f : Firing} (hf : f ∈ firings) (hone : f.rule.isOneShot = true)
    (hrefused : (f.id, f.enable) ∉ toggles) :
    ¬ Spent (f.id, f.rule) t (earlier ++ [.counted n firings toggles]) := by
  obtain ⟨he, _, hfresh⟩ := h.last.2 f hf hone
  rw [spent_concat]
  rintro (⟨g, hg, _⟩ | ⟨hs, _, hle⟩)
  · obtain ⟨hmem, hgone, hkey, htook⟩ := mem_of_applied? hg
    obtain ⟨hid, hrule⟩ := Prod.mk.inj hkey
    have hge : g.enable = f.enable :=
      Rule.atFor_injective ((h.last.2 g hmem hgone).1.symm.trans (hrule.trans he))
    exact hrefused (hid ▸ hge ▸ htook)
  · exact hfresh t (Int.not_lt.1 hle) hs

end History

/-- **In every run the memory of a watcher is what can be read off what it was seen doing**:
    at-rules stay quiet as long as they are spent, are not applied twice without being armed
    again, and stay armed when their toggle is refused. -/
theorem oneShots_watch {host : Host σ} {log : σ → List (String × Bool)} (hlog : host.Logs log)
    (s : Session σ) (turns : List (Turn σ)) :
    OneShots (watch host log s turns).watcher.fired (watch host log s turns).seen := by
  have h := kept_watch hlog s turns
  have hcoherent := h.coherent
  refine ⟨h.fired_iff, ?_, ?_⟩
  · intro key t earlier x between y later heq hx hy
    rw [heq] at hcoherent
    have hspent : Spent key t (earlier ++ [x]) := spent_concat.2 (.inl hx)
    exact Coherent.rearms_of_applied (by simpa using hcoherent) hspent hy
  · intro earlier n firings toggles heq f hf hone hrefused
    rw [heq] at hcoherent
    rw [Option.eq_none_iff_forall_not_mem]
    intro threshold hget
    obtain ⟨t, _, hs⟩ := (h.fired_iff _ _).1 hget
    exact hcoherent.not_spent_of_refused hf hone hrefused (heq ▸ hs)

theorem logs_servedHost : Session.servedHost.Logs fun w => w.store.toggles := holds_servedHost.logs

/-- A prompt that is to be enabled at the third message; its toggle is refused at first. -/
def lateTea : Session Store.Served :=
  Session.fresh
    { store := { prompts :=
        [{ identifier := "tea", content := Directive.Comment.block "@enable-at-message 3" }] }
      outage := { refusal := fun _ => some "busy" } }

/-- The toggle is refused, then applied; the prompt is disabled by hand and stays so, until the
    count has gone back. -/
def lateTurns : List (Turn Store.Served) :=
  [.count 4, .meanwhile fun s => { s with world := { s.world with outage := {} } }, .count 5,
   .meanwhile fun s => { s with world := (Store.Served.set "tea" false s.world).world }, .count 6,
   .count 2, .count 3]

theorem oneShots_lateTea :
    Assoc.get? (watch Session.servedHost (·.store.toggles) lateTea lateTurns).watcher.fired
        ("tea", .enableAt) = some (some 3) ∧
      ((watch Session.servedHost (·.store.toggles) lateTea lateTurns).session.world.store.toggles =
        [("tea", true), ("tea", false), ("tea", true)]) ∧
      OneShots (watch Session.servedHost (·.store.toggles) lateTea lateTurns).watcher.fired
        (watch Session.servedHost (·.store.toggles) lateTea lateTurns).seen :=
  ⟨by decide +kernel, by decide +kernel, oneShots_watch logs_servedHost lateTea lateTurns⟩

end Watcher

end PromptRules
