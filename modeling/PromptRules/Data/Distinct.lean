/-!
# First occurrences

A list without its repetitions, each element at the place of its first occurrence.

Results:
* `mem_distinct`: nothing is lost and nothing is added.
* `nodup_distinct`: no element is left twice.
* `distinct_eq_self`: a list without repetitions is kept as it is.
-/

namespace PromptRules.Data

variable {α β : Type} [DecidableEq β]

/-- Keeps, for every key, the first element that has it. -/
def distinctBy (key : α → β) : List α → List α
  | [] => []
  | x :: xs => x :: (distinctBy key xs).filter fun y => decide (key y ≠ key x)

/-- Keeps the first occurrence of every element. -/
def distinct (xs : List β) : List β := distinctBy id xs

theorem mem_map_distinctBy {key : α → β} {xs : List α} {b : β} :
    b ∈ (distinctBy key xs).map key ↔ b ∈ xs.map key := by
  induction xs with
  | nil => simp [distinctBy]
  | cons x xs ih =>
    simp only [distinctBy, List.map_cons, List.mem_cons, List.mem_map, List.mem_filter,
      decide_eq_true_eq] at ih ⊢
    constructor
    · rintro (h | ⟨y, ⟨hy, _⟩, rfl⟩)
      · exact .inl h
      · exact .inr (ih.1 ⟨y, hy, rfl⟩)
    · rintro (h | h)
      · exact .inl h
      · by_cases hb : b = key x
        · exact .inl hb
        · obtain ⟨y, hy, rfl⟩ := ih.2 h
          exact .inr ⟨y, ⟨hy, hb⟩, rfl⟩

theorem distinctBy_subset {key : α → β} {xs : List α} {x : α} (h : x ∈ distinctBy key xs) :
    x ∈ xs := by
  induction xs with
  | nil => exact h
  | cons y ys ih =>
    simp only [distinctBy, List.mem_cons, List.mem_filter] at h
    rcases h with h | ⟨h, _⟩
    · exact List.mem_cons.2 (.inl h)
    · exact List.mem_cons.2 (.inr (ih h))

theorem nodup_map_distinctBy (key : α → β) (xs : List α) : ((distinctBy key xs).map key).Nodup := by
  induction xs with
  | nil => simp [distinctBy]
  | cons x xs ih =>
    simp only [distinctBy, List.map_cons, List.nodup_cons]
    refine ⟨by simp, ?_⟩
    exact List.Sublist.nodup (List.Sublist.map key List.filter_sublist) ih

theorem mem_distinct {xs : List β} {b : β} : b ∈ distinct xs ↔ b ∈ xs := by
  have h : b ∈ (distinctBy id xs).map id ↔ b ∈ xs.map id := mem_map_distinctBy
  rwa [List.map_id, List.map_id] at h

theorem nodup_distinct (xs : List β) : (distinct xs).Nodup := by
  have := nodup_map_distinctBy (id : β → β) xs
  rwa [List.map_id] at this

/-- The keys of what is kept are the keys, each once. -/
theorem map_distinctBy (key : α → β) (xs : List α) :
    (distinctBy key xs).map key = distinct (xs.map key) := by
  induction xs with
  | nil => rfl
  | cons x xs ih =>
    have hfilter : ((distinctBy key xs).filter fun y => decide (key y ≠ key x)).map key =
        ((distinctBy key xs).map key).filter fun b => decide (b ≠ key x) := by
      rw [List.filter_map]
      rfl
    rw [distinctBy, List.map_cons, hfilter, ih]
    rfl

/-- Only the keys count: elements may be replaced if their keys are those of what they replace. -/
theorem distinctBy_map {γ : Type} (key : α → β) (f : γ → α) (xs : List γ) :
    distinctBy key (xs.map f) = (distinctBy (fun x => key (f x)) xs).map f := by
  induction xs with
  | nil => rfl
  | cons x xs ih =>
    rw [List.map_cons, distinctBy, distinctBy, ih, List.filter_map, List.map_cons]
    rfl

theorem distinctBy_eq_self {key : α → β} {xs : List α} (h : (xs.map key).Nodup) :
    distinctBy key xs = xs := by
  induction xs with
  | nil => rfl
  | cons x xs ih =>
    rw [List.map_cons, List.nodup_cons] at h
    simp only [distinctBy, ih h.2]
    congr 1
    apply List.filter_eq_self.2
    intro y hy
    have : key y ≠ key x := fun he => h.1 (he ▸ List.mem_map_of_mem hy)
    simpa using this

theorem distinct_eq_self {xs : List β} (h : xs.Nodup) : distinct xs = xs :=
  distinctBy_eq_self (by simpa using h)

end PromptRules.Data
