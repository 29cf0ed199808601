import PromptRules.Proofs.Data.Outcome
import PromptRules.Proofs.PresetFile.Places

/-!
# The selected order list after a write

Which order list a preset uses depends on the number of its entries, on the values that the
search for the character meets, and on whether the order list is null. Selecting leaves a preset
in which the entry has its order list, and in such a preset the same selection changes nothing.

Results:
* `find_set`, `find_append`: a search in a list of which one item was changed or added.
* `exists_find_iff`: a search goes through iff it meets nothing but maps.
* `selected_of_select`, `select_of_selected`: what a selection leaves is selected again.
* `Selected.of_prompts`, `Selected.of_order`: writes to prompts and to the order list keep the
  selection.
-/

namespace PromptRules.PresetFile

open Data

variable {key : String} {value : Node}

/-! ## Searching a list -/

theorem find_cons (entry : Node) (entries : List Node) :
    find key value (entry :: entries)
      = match hasField key value entry with
        | .error e => .error e
        | .ok true => .ok (some 0)
        | .ok false => (find key value entries).map fun place => place.map (· + 1) := by
  rw [find]
  cases hasField key value entry with
  | error e => rfl
  | ok b =>
    cases b with
    | true => rfl
    | false => cases find key value entries <;> rfl

theorem find_cons_eq_ok {entry : Node} {entries : List Node} {place : Option Nat}
    (h : find key value (entry :: entries) = .ok place) :
    (hasField key value entry = .ok true ∧ place = some 0) ∨
      (hasField key value entry = .ok false ∧
        ∃ rest, find key value entries = .ok rest ∧ place = rest.map (· + 1)) := by
  rw [find_cons] at h
  split at h
  · cases h
  · cases h
    exact .inl ⟨‹_›, rfl⟩
  · obtain ⟨rest, hf, h⟩ := bind_eq_ok_iff.1 h
    cases h
    exact .inr ⟨‹_›, rest, hf, rfl⟩

theorem hasField_eq_true {entry : Node} (h : hasField key value entry = .ok true) :
    ∃ fields, entry = .map fields ∧ (field fields key).same value = true := by
  cases entry with
  | map fields => exact ⟨fields, rfl, by simpa [hasField, fieldsOf, Except.map] using h⟩
  | _ => cases h

theorem getElem?_of_find {l : List Node} {i : Nat} (h : find key value l = .ok (some i)) :
    ∃ fields, l[i]? = some (.map fields) ∧ (field fields key).same value = true := by
  induction l generalizing i with
  | nil => cases h
  | cons entry entries ih =>
    obtain ⟨hb, hi⟩ | ⟨_, rest, hr, hi⟩ := find_cons_eq_ok h
    · cases hi
      obtain ⟨fields, rfl, hv⟩ := hasField_eq_true hb
      exact ⟨fields, rfl, hv⟩
    · obtain ⟨j, rfl, rfl⟩ := Option.map_eq_some_iff.1 hi.symm
      simpa using ih hr

/-- A search does not see a change of an item that keeps its value under the key. -/
theorem find_set {l : List Node} {i : Nat} {t t' : Node} (hi : l[i]? = some t)
    (h : hasField key value t' = hasField key value t) :
    find key value (l.set i t') = find key value l := by
  induction l generalizing i with
  | nil => rfl
  | cons entry entries ih =>
    cases i with
    | zero =>
      cases hi
      rw [List.set_cons_zero, find_cons, find_cons, h]
    | succ i => rw [List.set_cons_succ, find_cons, find_cons, ih hi]

/-- A new item at the end is found if nothing was found before. -/
theorem find_append {l : List Node} {place : Option Nat} (h : find key value l = .ok place)
    {t : Node} {b : Bool} (hb : hasField key value t = .ok b) :
    find key value (l ++ [t]) = .ok (place.or (if b then some l.length else none)) := by
  induction l generalizing place with
  | nil =>
    cases h
    rw [List.nil_append, find_cons, hb]
    cases b <;> rfl
  | cons entry entries ih =>
    rw [List.cons_append, find_cons]
    obtain ⟨he, rfl⟩ | ⟨he, rest, hr, rfl⟩ := find_cons_eq_ok h
    · simp [he]
    · simp only [he, ih hr, Except.map, List.length_cons]
      cases rest <;> cases b <;> rfl

/-- Every item is a map, up to the first one that has the value under the key. -/
def Searchable (key : String) (value : Node) (items : List Node) : Prop :=
  ∀ done t rest, items = done ++ t :: rest → (∀ s ∈ done, hasField key value s ≠ .ok true) →
    ∃ fields, t = .map fields

theorem searchable_cons {t : Node} {ts : List Node} :
    Searchable key value (t :: ts) ↔
      (∃ fields, t = .map fields) ∧
        (hasField key value t ≠ .ok true → Searchable key value ts) := by
  constructor
  · intro h
    refine ⟨h [] t ts rfl (by simp), fun ht done s rest hs hdone => ?_⟩
    exact h (t :: done) s rest (by rw [hs, List.cons_append]) (List.forall_mem_cons.2 ⟨ht, hdone⟩)
  · rintro ⟨hmap, hrest⟩ done s rest hs hdone
    cases done with
    | nil =>
      cases hs
      exact hmap
    | cons u done =>
      cases hs
      obtain ⟨hu, hdone⟩ := List.forall_mem_cons.1 hdone
      exact hrest hu done s rest rfl hdone

/-- A search goes through iff it meets nothing but maps. -/
theorem exists_find_iff {items : List Node} :
    (∃ found, find key value items = .ok found) ↔ Searchable key value items := by
  induction items with
  | nil => exact iff_of_true ⟨none, rfl⟩ fun done t rest h => by simp at h
  | cons t ts ih =>
    rw [searchable_cons, find_cons, ← ih]
    cases t with
    | map fields =>
      cases hfield : (field fields key).same value with
      | true => simp [hasField, fieldsOf, Except.map, hfield]
      | false =>
        cases find key value ts <;> simp [hasField, fieldsOf, Except.map, hfield]
    | _ => simp [hasField, fieldsOf, Except.map]

/-! ## Selecting -/

/-- The order list of the preset is selected: a preset without entries has none, and the entry
    of the character has one, which may be null. -/
inductive Selected (character : Option Node) (data : Document) (place : Option Nat) : Prop
  | noOrders (h : orders data = []) (hp : place = none)
  | entry {entries : List Node} {k : Nat} {fields : Fields} {order : Node}
      (he : field data.fields "prompt_order" = .list entries)
      (hk : placeOf character entries = .ok (some k)) (hf : entries[k]? = some (.map fields))
      (ho : Assoc.get? fields (.text "order") = some order)
      (hp : place = if order.isNull then none else some k)

variable {character : Option Node} {data d : Document} {place : Option Nat} {entries : List Node}
  {k : Nat} {fields : Fields} {order : Node}

theorem orders_of_field (h : field data.fields "prompt_order" = .list entries) :
    orders data = entries := by
  simp [orders, h]

theorem field_of_orders (h : orders data ≠ []) :
    field data.fields "prompt_order" = .list (orders data) := by
  unfold orders at h ⊢
  split <;> simp_all

theorem entryAt_eq (he : field data.fields "prompt_order" = .list entries)
    (hf : entries[k]? = some (.map fields)) : entryAt data k = fields := by
  simp [entryAt, orders_of_field he, List.getD_eq_getElem?_getD, hf]

theorem orderAt_eq (he : field data.fields "prompt_order" = .list entries)
    (hf : entries[k]? = some (.map fields)) (ho : Assoc.get? fields (.text "order") = some order) :
    orderAt data k = order := by
  rw [orderAt, entryAt_eq he hf, field_of_get? ho]

theorem select_of_selected (h : Selected character data place) :
    select character data = .ok (data, place) := by
  cases h with
  | noOrders h hp => rw [select_of_no_orders h, hp]
  | @entry entries k fields order he hk hf ho hp =>
    have hne : entries.isEmpty = false := by
      cases entries with
      | nil => cases hf
      | cons => rfl
    have hwith : withOrder k data = data := by simp [withOrder, entryAt_eq he hf, ho]
    simp [select, orders_of_field he, hne, hk, hf, hwith, orderAt_eq he hf ho, hp, bind,
      Except.bind, pure, Except.pure, Except.mapError, List.getD_eq_getElem?_getD, fieldsOf]

/-- What the search for the character does not meet can be changed. -/
theorem placeOf_set {fields' : Fields} (hf : entries[k]? = some (.map fields))
    (h : field fields' "character_id" = field fields "character_id") :
    placeOf character (entries.set k (.map fields')) = placeOf character entries := by
  cases character with
  | none => simp [placeOf]
  | some c => exact find_set hf (by simp [hasField, fieldsOf, Except.map, h])

/-- The selected entry after its order list has been written. -/
theorem Selected.entry_set {fields' : Fields} (hk : placeOf character entries = .ok (some k))
    (hf : entries[k]? = some (.map fields))
    (hd : OnlyField "prompt_order" (.list (entries.set k (.map fields'))) data d)
    (hc : field fields' "character_id" = field fields "character_id")
    (ho : Assoc.get? fields' (.text "order") = some order) :
    orderAt d k = order ∧ Selected character d (if order.isNull then none else some k) := by
  have hlt : k < entries.length := (List.getElem?_eq_some_iff.1 hf).1
  have hf' : (entries.set k (.map fields'))[k]? = some (.map fields') :=
    List.getElem?_set_self hlt
  exact ⟨orderAt_eq hd.self hf' ho,
    .entry hd.self ((placeOf_set hf hc).trans hk) hf' ho rfl⟩

/-- What a selection can lead to: a preset without entries stays as it is, and an entry gets its
    order list. -/
theorem select_eq_ok (h : select character data = .ok (d, place)) :
    (orders data = [] ∧ d = data ∧ place = none) ∨
      ∃ entries k fields, field data.fields "prompt_order" = .list entries ∧
        placeOf character entries = .ok (some k) ∧ entries[k]? = some (.map fields) ∧
        d = withOrder k data ∧ place = if (orderAt d k).isNull then none else some k := by
  by_cases hne : orders data = []
  · rw [select_of_no_orders hne] at h
    cases h
    exact .inl ⟨hne, rfl, rfl⟩
  · have hempty : (orders data).isEmpty = false := by simpa using hne
    simp only [select, hempty] at h
    cases hk : placeOf character (orders data) with
    | error e => simp [hk, bind, Except.bind, Except.mapError] at h
    | ok found =>
      cases found with
      | none => simp [hk, bind, Except.bind, Except.mapError] at h
      | some k =>
        cases hf : (orders data)[k]? with
        | none => simp [hk, hf, bind, Except.bind, Except.mapError, fieldsOf] at h
        | some t =>
          cases t with
          | map fields =>
            simp [hk, hf, bind, Except.bind, Except.mapError, fieldsOf, pure, Except.pure] at h
            obtain ⟨rfl, rfl⟩ := h
            exact .inr ⟨_, k, fields, field_of_orders hne, hk, hf, rfl, rfl⟩
          | _ => simp [hk, hf, bind, Except.bind, Except.mapError, fieldsOf] at h

theorem withOrder_selected (hl : data.links = [])
    (he : field data.fields "prompt_order" = .list entries)
    (hk : placeOf character entries = .ok (some k)) (hf : entries[k]? = some (.map fields)) :
    ∃ v, OnlyField "prompt_order" v data (withOrder k data) ∧
      Selected character (withOrder k data)
        (if (orderAt (withOrder k data) k).isNull then none else some k) := by
  unfold withOrder
  rw [entryAt_eq he hf]
  cases ho : Assoc.get? fields (.text "order") with
  | some order =>
    refine ⟨_, ⟨hl, he, fun _ => rfl⟩, ?_⟩
    exact .entry he hk hf ho (by simp only [orderAt_eq he hf ho])
  | none =>
    have hd := onlyField_putField_index hl he hf "order" (.list [])
    obtain ⟨horder, hs⟩ := Selected.entry_set hk hf hd (field_put_of_ne fields _ (by decide))
      (Assoc.get?_put_self _ _ _)
    refine ⟨_, hd, ?_⟩
    simp only [entryPath, horder]
    exact hs

/-- A selection changes no other field of the preset, and is the same when it is made again. -/
theorem selected_of_select (hl : data.links = []) (h : select character data = .ok (d, place)) :
    ∃ v, OnlyField "prompt_order" v data d ∧ Selected character d place := by
  obtain ⟨hno, rfl, rfl⟩ | ⟨entries, k, fields, he, hk, hf, rfl, rfl⟩ := select_eq_ok h
  · exact ⟨_, ⟨hl, rfl, fun _ => rfl⟩, .noOrders hno rfl⟩
  · exact withOrder_selected hl he hk hf

/-! ## Writes -/

/-- A write to the prompts keeps the selection. -/
theorem Selected.of_prompts {v : Node} (h : Selected character data place)
    (hd : OnlyField "prompts" v data d) : Selected character d place := by
  have hsame : field d.fields "prompt_order" = field data.fields "prompt_order" :=
    hd.others (by decide)
  cases h with
  | noOrders h hp => exact .noOrders (by rw [← h, orders, orders, hsame]) hp
  | entry he hk hf ho hp => exact .entry (hsame.trans he) hk hf ho hp

theorem Selected.exists_entry (h : Selected character data (some k)) :
    ∃ entries fields order, field data.fields "prompt_order" = .list entries ∧
      placeOf character entries = .ok (some k) ∧ entries[k]? = some (.map fields) ∧
      Assoc.get? fields (.text "order") = some order := by
  cases h with
  | noOrders _ hp => cases hp
  | @entry entries i fields order he hk hf ho hp =>
    split at hp
    · cases hp
    · cases hp
      exact ⟨entries, fields, order, he, hk, hf, ho⟩

/-- A write to the selected order list that leaves a list keeps the selection. -/
theorem Selected.of_order {p : Path} {v : Node} {items : List Node}
    (hk : placeOf character entries = .ok (some k)) (hf : entries[k]? = some (.map fields))
    (ho : Assoc.get? fields (.text "order") = some order)
    (hd : OnlyField "prompt_order"
      (Node.setAt (.index k :: .key "order" :: p) v (.list entries)) data d)
    (hv : Node.setAt p v order = .list items) :
    orderAt d k = .list items ∧ Selected character d (some k) := by
  obtain ⟨fields', hset, hself, hothers⟩ := exists_setAt_key ho p v
  rw [setAt_index hf, hset] at hd
  exact Selected.entry_set hk hf hd (hothers (by decide)) (get?_of_field (hself.trans hv) rfl)

end PromptRules.PresetFile
