import Mathlib.Data.List.Basic
import Mathlib.Data.List.Induction
import PromptRules.Data.Assoc
import PromptRules.Data.Distinct

/-!
# Gathering by key

An overview takes the elements of a list one by one and works each into the entry of its key, if
it has a key. What comes out has an entry for every key, where the key is first met, and the entry
has taken up the elements of the key in their order, and no others.

Results:
* `pairwise_idxOf_distinct`: first occurrences stand in the order in which they are met.
* `flatMap_filter_perm`: taken key by key, elements are neither lost nor taken twice.
* `gathered_eq`: what comes out.
-/

namespace PromptRules.Data

variable {α β κ : Type} [DecidableEq κ]

/-! ## First occurrences -/

theorem distinct_concat (ks : List κ) (k : κ) :
    distinct (ks ++ [k]) = if k ∈ ks then distinct ks else distinct ks ++ [k] := by
  induction ks with
  | nil => rfl
  | cons k' ks ih =>
    show k' :: (distinct (ks ++ [k])).filter (fun b => decide (b ≠ k')) = _
    rw [ih]
    by_cases hk : k = k'
    · subst hk
      rw [if_pos List.mem_cons_self]
      split
      · rfl
      · rw [List.filter_append, List.filter_cons_of_neg (by simp), List.filter_nil,
          List.append_nil]
        rfl
    · by_cases hks : k ∈ ks
      · rw [if_pos hks, if_pos (List.mem_cons_of_mem k' hks)]
        rfl
      · rw [if_neg hks, if_neg (by simp [hk, hks]), List.filter_append,
          List.filter_cons_of_pos (by simpa using hk), List.filter_nil]
        rfl

theorem pairwise_idxOf_distinct (ks : List κ) :
    (distinct ks).Pairwise fun a b => ks.idxOf a < ks.idxOf b := by
  induction ks with
  | nil => exact List.Pairwise.nil
  | cons k ks ih =>
    have hlater : ∀ a ∈ (distinct ks).filter (fun b => decide (b ≠ k)),
        (k :: ks).idxOf a = ks.idxOf a + 1 := by
      intro a ha
      have hne : k ≠ a := Ne.symm (of_decide_eq_true (List.mem_filter.1 ha).2)
      exact List.idxOf_cons_ne ks hne
    refine List.Pairwise.cons (fun a ha => ?_) ?_
    · rw [List.idxOf_cons_self, hlater a ha]
      exact Nat.succ_pos _
    · refine (ih.filter _).imp_of_mem fun {a b} ha hb hab => ?_
      rw [hlater a ha, hlater b hb]
      exact Nat.succ_lt_succ hab

/-! ## Elements by key -/

/-- Whatever the keys, and in whatever order they are taken, each element whose key is among them
    comes out once. -/
theorem flatMap_filter_perm (key : α → Option κ) (xs : List α) {ks : List κ} (hks : ks.Nodup) :
    (ks.flatMap fun k => xs.filter fun x => key x = some k).Perm
      (xs.filter fun x => ∃ k ∈ ks, key x = some k) := by
  induction ks with
  | nil =>
    rw [List.filter_eq_nil_iff.2 (by simp)]
    exact .refl []
  | cons k ks ih =>
    obtain ⟨hk, hks⟩ := List.nodup_cons.1 hks
    -- The elements of the first key, and those of the others.
    have hsplit := List.filter_append_perm (fun x => decide (key x = some k))
      (xs.filter fun x => ∃ k' ∈ k :: ks, key x = some k')
    have hown : (xs.filter fun x => ∃ k' ∈ k :: ks, key x = some k').filter
        (fun x => key x = some k) = xs.filter fun x => key x = some k := by
      rw [List.filter_filter]
      refine List.filter_congr fun x _ => ?_
      simp only [List.exists_mem_cons_iff, ← Bool.decide_and]
      exact decide_eq_decide.2 ⟨And.left, fun h => ⟨h, .inl h⟩⟩
    have hothers : (xs.filter fun x => ∃ k' ∈ k :: ks, key x = some k').filter
        (fun x => !decide (key x = some k)) = xs.filter fun x => ∃ k' ∈ ks, key x = some k' := by
      rw [List.filter_filter]
      refine List.filter_congr fun x _ => ?_
      simp only [List.exists_mem_cons_iff, ← decide_not, ← Bool.decide_and]
      refine decide_eq_decide.2 ⟨fun h => h.2.resolve_left h.1, fun h => ⟨fun he => ?_, .inr h⟩⟩
      obtain ⟨k', hk', hkey⟩ := h
      exact hk (Option.some.inj (he.symm.trans hkey) ▸ hk')
    rw [hown, hothers] at hsplit
    rw [List.flatMap_cons]
    exact ((ih hks).append_left _).trans hsplit

/-! ## Gathering -/

variable (key : α → Option κ) (start : κ → β) (step : β → α → β)

/-- Works an element into the entry of its key, which starts out as `start` says. -/
def gatherStep (entries : List (κ × β)) (x : α) : List (κ × β) :=
  match key x with
  | none => entries
  | some k => Assoc.put entries k (step ((Assoc.get? entries k).getD (start k)) x)

/-- The keys, each once, with the elements of the key worked into one another. -/
def byKey (xs : List α) : List (κ × β) :=
  (distinct (xs.filterMap key)).map fun k =>
    (k, (xs.filter fun x => key x = some k).foldl step (start k))

theorem get?_map_keys (f : κ → β) (ks : List κ) (k : κ) :
    Assoc.get? (ks.map fun k => (k, f k)) k = if k ∈ ks then some (f k) else none := by
  induction ks with
  | nil => rfl
  | cons k' ks ih =>
    rw [List.map_cons, Assoc.get?]
    by_cases hk : k' = k
    · simp [hk]
    · simp [hk, Ne.symm hk, ih]

theorem put_map_keys (f : κ → β) {ks : List κ} (hks : ks.Nodup) {k : κ} (hk : k ∈ ks) (b : β) :
    Assoc.put (ks.map fun k => (k, f k)) k b =
      ks.map fun k' => (k', if k' = k then b else f k') := by
  induction ks with
  | nil => cases hk
  | cons k' ks ih =>
    obtain ⟨hnew, hks⟩ := List.nodup_cons.1 hks
    rw [List.map_cons, List.map_cons, Assoc.put]
    by_cases he : k' = k
    · subst he
      rw [if_pos rfl, if_pos rfl]
      congr 1
      refine List.map_congr_left fun k hk => ?_
      rw [if_neg (fun he : k = k' => hnew (he ▸ hk))]
    · rw [if_neg he, if_neg he, ih hks (List.mem_of_ne_of_mem (Ne.symm he) hk)]

/-- **What gathering comes to.** The induction is on the last element: a known key keeps its place
    and its entry takes the element up; a new key stands last, with an entry of its own. -/
theorem gathered_eq (xs : List α) :
    xs.foldl (gatherStep key start step) [] = byKey key start step xs := by
  induction xs using List.reverseRecOn with
  | nil => rfl
  | append_singleton xs x ih =>
    rw [List.foldl_append, ih, List.foldl_cons, List.foldl_nil, gatherStep]
    cases hx : key x with
    | none =>
      have hkeys : (xs ++ [x]).filterMap key = xs.filterMap key := by simp [hx]
      have hown : ∀ k, (xs ++ [x]).filter (fun y => key y = some k) =
          xs.filter fun y => key y = some k := fun k => by simp [hx]
      simp only [byKey, hkeys, hown]
    | some k =>
      have hkeys : (xs ++ [x]).filterMap key = xs.filterMap key ++ [k] := by simp [hx]
      have hown : ∀ k', ((xs ++ [x]).filter fun y => key y = some k').foldl step (start k') =
          if k' = k then step ((xs.filter fun y => key y = some k).foldl step (start k)) x
          else (xs.filter fun y => key y = some k').foldl step (start k') := by
        intro k'
        by_cases hk : k' = k
        · subst hk
          simp [hx]
        · simp [hx, hk, Ne.symm hk]
      simp only [byKey, hkeys, hown, distinct_concat, get?_map_keys, mem_distinct]
      by_cases hk : k ∈ xs.filterMap key
      · rw [if_pos hk, if_pos hk, put_map_keys _ (nodup_distinct _) (mem_distinct.2 hk),
          Option.getD_some]
      · have hnone : xs.filter (fun y => key y = some k) = [] := by
          refine List.filter_eq_nil_iff.2 fun y hy hkey => hk ?_
          exact List.mem_filterMap.2 ⟨y, hy, of_decide_eq_true hkey⟩
        have hold : (distinct (xs.filterMap key)).map (fun k' => (k', if k' = k then
              step ((xs.filter fun y => key y = some k).foldl step (start k)) x
              else (xs.filter fun y => key y = some k').foldl step (start k'))) =
            (distinct (xs.filterMap key)).map fun k' =>
              (k', (xs.filter fun y => key y = some k').foldl step (start k')) := by
          refine List.map_congr_left fun k' hk' => ?_
          rw [if_neg (fun he : k' = k => hk (he ▸ mem_distinct.1 hk'))]
        rw [if_neg hk, if_neg hk, Option.getD_none, List.map_append, hold, List.map_singleton,
          if_pos rfl, hnone, List.foldl_nil]
        refine Assoc.put_eq_append ?_ _
        rw [get?_map_keys, if_neg (mt mem_distinct.1 hk)]

end PromptRules.Data
