/-!
# Association lists

Finite maps as lists of key and value pairs in order of insertion. Writing a known key
keeps its place; a new key goes to the end.

Results:
* `get?_put_self`, `get?_put_of_ne`: what a lookup finds after a write.
* `keys_put_of_mem`, `keys_put_of_not_mem`: a write changes the keys only by appending a
  new one.
* `put_put`, `put_eq_append`: a second write replaces the first, and a new key goes to the end.
* `nodup_keys_put`, `forall_mem_put`: no key is there twice after a write, and what holds of every
  entry and of the new one holds of every entry then.
-/

namespace PromptRules.Data.Assoc

variable {κ α : Type} [DecidableEq κ]

/-- The value of the first entry with this key. -/
def get? : List (κ × α) → κ → Option α
  | [], _ => none
  | e :: es, k => if e.1 = k then some e.2 else get? es k

/-- Writes a value: in place if the key is known, at the end if it is new. -/
def put : List (κ × α) → κ → α → List (κ × α)
  | [], k, a => [(k, a)]
  | e :: es, k, a => if e.1 = k then (k, a) :: es else e :: put es k a

/-- Removes the entries with this key. -/
def erase (m : List (κ × α)) (k : κ) : List (κ × α) := m.filter fun e => decide (e.1 ≠ k)

/-- The keys, in order. -/
def keys (m : List (κ × α)) : List κ := m.map Prod.fst

/-- Writes the entries of `new` one after the other. -/
def putAll (m new : List (κ × α)) : List (κ × α) := new.foldl (fun m e => put m e.1 e.2) m

@[simp] theorem get?_nil (k : κ) : get? ([] : List (κ × α)) k = none := rfl

theorem get?_cons_self (k : κ) (a : α) (m : List (κ × α)) : get? ((k, a) :: m) k = some a := by
  simp [get?]

theorem get?_cons_of_ne {k k' : κ} (a : α) (m : List (κ × α)) (h : k' ≠ k) :
    get? ((k', a) :: m) k = get? m k := by
  simp [get?, h]

@[simp] theorem get?_put_self (m : List (κ × α)) (k : κ) (a : α) : get? (put m k a) k = some a := by
  induction m with
  | nil => simp [put, get?]
  | cons e es ih =>
    by_cases h : e.1 = k
    · simp [put, get?, h]
    · simpa [put, get?, h] using ih

theorem get?_put_of_ne (m : List (κ × α)) {k k' : κ} (a : α) (h : k' ≠ k) :
    get? (put m k a) k' = get? m k' := by
  induction m with
  | nil => simp [put, get?, Ne.symm h]
  | cons e es ih =>
    by_cases he : e.1 = k
    · have : k ≠ k' := Ne.symm h
      simp [put, get?, he, this]
    · by_cases he' : e.1 = k'
      · simp [put, get?, he', h]
      · simpa [put, get?, he, he'] using ih

theorem mem_keys_iff {m : List (κ × α)} {k : κ} : k ∈ keys m ↔ (get? m k).isSome := by
  induction m with
  | nil => simp [keys]
  | cons e es ih =>
    by_cases h : e.1 = k
    · simp [keys, get?, h]
    · have hk : k ≠ e.1 := Ne.symm h
      simpa [keys, get?, h, hk] using ih

theorem mem_of_get?_eq_some {m : List (κ × α)} {k : κ} {a : α} (h : get? m k = some a) :
    (k, a) ∈ m := by
  induction m with
  | nil => cases h
  | cons e es ih =>
    unfold get? at h
    split at h
    · rename_i he
      cases h
      simp [← he]
    · exact List.mem_cons_of_mem e (ih h)

theorem keys_put_of_mem {m : List (κ × α)} {k : κ} (a : α) (h : k ∈ keys m) :
    keys (put m k a) = keys m := by
  induction m with
  | nil => simp [keys] at h
  | cons e es ih =>
    by_cases he : e.1 = k
    · simp [put, keys, he]
    · have hk : k ≠ e.1 := Ne.symm he
      have hes : k ∈ keys es := by simpa [keys, hk] using h
      simpa [put, keys, he] using ih hes

theorem keys_put_of_not_mem {m : List (κ × α)} {k : κ} (a : α) (h : k ∉ keys m) :
    keys (put m k a) = keys m ++ [k] := by
  induction m with
  | nil => simp [put, keys]
  | cons e es ih =>
    have he : e.1 ≠ k := fun heq => h (by simp [keys, heq])
    have hes : k ∉ keys es := fun hm =>
      h (by simp only [keys, List.map_cons, List.mem_cons]; exact .inr hm)
    simpa [put, keys, he] using ih hes

theorem put_put (m : List (κ × α)) (k : κ) (a b : α) : put (put m k a) k b = put m k b := by
  induction m with
  | nil => simp [put]
  | cons e es ih =>
    by_cases h : e.1 = k
    · simp [put, h]
    · simpa [put, h] using ih

theorem put_eq_append {m : List (κ × α)} {k : κ} (h : get? m k = none) (a : α) :
    put m k a = m ++ [(k, a)] := by
  induction m with
  | nil => rfl
  | cons e es ih =>
    rw [get?] at h
    split at h
    · cases h
    · rw [put, if_neg ‹_›, ih h, List.cons_append]

theorem nodup_keys_put {m : List (κ × α)} (h : (keys m).Nodup) (k : κ) (a : α) :
    (keys (put m k a)).Nodup := by
  by_cases hk : k ∈ keys m
  · rwa [keys_put_of_mem a hk]
  · rw [keys_put_of_not_mem a hk]
    exact List.nodup_append.2 ⟨h, by simp, fun b hb c hc hbc =>
      hk (List.mem_singleton.1 hc ▸ hbc ▸ hb)⟩

theorem forall_mem_put {P : κ × α → Prop} {m : List (κ × α)} {k : κ} {a : α}
    (h : ∀ e ∈ m, P e) (ha : P (k, a)) : ∀ e ∈ put m k a, P e := by
  induction m with
  | nil => simpa [put] using ha
  | cons e es ih =>
    obtain ⟨he, hes⟩ := List.forall_mem_cons.1 h
    rw [put]
    split
    · exact List.forall_mem_cons.2 ⟨ha, hes⟩
    · exact List.forall_mem_cons.2 ⟨he, ih hes⟩

end PromptRules.Data.Assoc
