import PromptRules.Proofs.PresetFile.Marking

/-!
# Properties that toggles keep

Some properties of values pass between a container and its parts: that no integer is too long, or
that nothing is beyond data trees. What a toggle writes is a truth value, or a new entry of two
scalars, and an entry without an order list gets an empty list. So all of the data has such a
property after a toggle if it had it before.

Results:
* `Hereditary.at?`, `Hereditary.setAt`: values at a place, and writes to it.
* `Document.Has.putField`, `Document.Has.append`: writes to documents without links.
* `Document.Has.write`, `Document.Has.select`: toggles, and the selection of an order list.
-/

namespace PromptRules.Data

/-- A property of values and the room for containers in them: scalars like those of a toggle have
    it, and a container has it iff its parts have it, and its keys a property that goes on to new
    names. -/
structure Node.Hereditary (keys : List Key → Prop) (P : Nat → Node → Prop) : Prop where
  bool {room : Nat} (b : Bool) : P room (.bool b)
  text {room : Nat} (s : String) : P room (.text s)
  list_iff {room : Nat} {items : List Node} :
    P (room + 1) (.list items) ↔ ∀ t ∈ items, P room t
  map_iff {room : Nat} {fields : Fields} :
    P (room + 1) (.map fields) ↔ keys (Assoc.keys fields) ∧ ∀ e ∈ fields, P room e.2
  keys_nil : keys []
  keys_concat {ks : List Key} {name : String} :
    keys ks → .text name ∉ ks → keys (ks ++ [.text name])

namespace Node.Hereditary

variable {keys : List Key → Prop} {P : Nat → Node → Prop} {room : Nat} {t u v : Node} {p : Path}

theorem at? (h : Hereditary keys P) (ht : P (room + p.length) t) (hu : t.at? p = some u) :
    P room u := by
  induction p generalizing t with
  | nil =>
    cases hu
    exact ht
  | cons s p ih =>
    cases s with
    | key key =>
      cases t with
      | map fields =>
        obtain ⟨v, hv, hu⟩ := Option.bind_eq_some_iff.1 hu
        exact ih ((h.map_iff.1 ht).2 _ (Assoc.mem_of_get?_eq_some hv)) hu
      | _ => cases hu
    | index i =>
      cases t with
      | list items =>
        obtain ⟨v, hv, hu⟩ := Option.bind_eq_some_iff.1 hu
        exact ih (h.list_iff.1 ht _ (List.mem_of_getElem? hv)) hu
      | _ => cases hu

theorem keys_map_at (fields : Fields) (k : Key) (g : Node → Node) :
    Assoc.keys (fields.map fun e => if e.1 = k then (e.1, g e.2) else e) = Assoc.keys fields := by
  rw [Assoc.keys, List.map_map]
  refine List.map_congr_left fun e _ => ?_
  rw [Function.comp_apply]
  split <;> rfl

theorem setAt (h : Hereditary keys P) (ht : P (room + p.length) t) (hv : P room v) :
    P (room + p.length) (Node.setAt p v t) := by
  induction p generalizing t with
  | nil => exact hv
  | cons s p ih =>
    cases s with
    | key key =>
      cases t with
      | map fields =>
        -- the map keeps its keys, and so what they are required to be
        obtain ⟨hkeys, hfields⟩ := h.map_iff.1 ht
        rw [Node.setAt]
        refine h.map_iff.2 ⟨(keys_map_at fields key _).symm ▸ hkeys, fun e he => ?_⟩
        obtain ⟨old, hold, rfl⟩ := List.mem_map.1 he
        split
        · exact ih (hfields old hold)
        · exact hfields old hold
      | _ => exact ht
    | index i =>
      cases t with
      | list items =>
        rw [Node.setAt]
        refine h.list_iff.2 fun u hu => ?_
        obtain ⟨j, hj⟩ := List.mem_iff_getElem?.1 hu
        rw [List.getElem?_modify] at hj
        obtain ⟨old, hold, rfl⟩ := Option.map_eq_some_iff.1 hj
        have hitem := h.list_iff.1 ht old (List.mem_of_getElem? hold)
        split
        · exact ih hitem
        · exact hitem
      | _ => exact ht

theorem put (h : Hereditary keys P) {fields : Fields} (hf : P (room + 1) (.map fields))
    (name : String) (hv : P room v) : P (room + 1) (.map (Assoc.put fields (.text name) v)) := by
  obtain ⟨hkeys, hfields⟩ := h.map_iff.1 hf
  refine h.map_iff.2 ⟨?_, Assoc.forall_mem_put hfields hv⟩
  by_cases hk : .text name ∈ Assoc.keys fields
  · rwa [Assoc.keys_put_of_mem v hk]
  · rw [Assoc.keys_put_of_not_mem v hk]
    exact h.keys_concat hkeys hk

/-- What an order list holds about a prompt has the property. -/
theorem newEntry (h : Hereditary keys P) (e : String) (b : Bool) :
    P (room + 1) (PresetFile.newEntry e b) := by
  have hone : keys ([] ++ [.text "identifier"]) := h.keys_concat h.keys_nil List.not_mem_nil
  have htwo : keys ([.text "identifier"] ++ [.text "enabled"]) := h.keys_concat hone (by decide)
  exact h.map_iff.2
    ⟨htwo, List.forall_mem_cons.2 ⟨h.text e, List.forall_mem_singleton.2 (h.bool b)⟩⟩

end Node.Hereditary

/-! ## Documents -/

/-- A document without links whose value has a property. -/
structure Document.Has (P : Nat → Node → Prop) (size : Nat) (d : Document) : Prop where
  links : d.links = []
  root : P size d.root

namespace Document.Has

variable {keys : List Key → Prop} {P : Nat → Node → Prop} {size : Nat} {v : Node} {p : Path}
  {d d' : Document}

theorem put (h : d.Has P size) (hv : P size (Node.setAt p v d.root)) : (d.put p v).Has P size := by
  rw [put_of_links h.links]
  exact ⟨rfl, hv⟩

theorem putField (h : d.Has P size) (hP : Node.Hereditary keys P) (room : Nat)
    (hp : room + 1 + p.length = size) (name : String) (hv : P room v) :
    (d.putField p name v).Has P size := by
  subst hp
  unfold Document.putField
  split
  · rename_i entries hat
    have hfields := hP.put (hP.at? h.root hat) name hv
    exact put ⟨by rw [h.links, List.filter_nil], h.root⟩ (hP.setAt h.root hfields)
  · exact h

theorem append (h : d.Has P size) (hP : Node.Hereditary keys P) (room : Nat)
    (hp : room + 1 + p.length = size) (hv : P room v) : (d.append p v).Has P size := by
  subst hp
  unfold Document.append
  split
  · rename_i items hat
    have hitems := hP.list_iff.1 (hP.at? h.root hat)
    exact h.put (hP.setAt h.root (hP.list_iff.2 (List.forall_mem_append.2
      ⟨hitems, List.forall_mem_singleton.2 hv⟩)))
  · exact h

/-! ## Toggles -/

open PresetFile

variable {room : Nat} {e : String} {b : Bool} {place : Option Nat} {character : Option Node}

theorem markPrompts (h : d.Has P (room + 3)) (hP : Node.Hereditary keys P) (i : Nat)
    (items : List Node) : (markPrompts e b i items d).Has P (room + 3) := by
  induction items generalizing i d with
  | nil => exact h
  | cons item items ih =>
    rw [PresetFile.markPrompts]
    split
    · exact ih (h.putField hP room (by rfl) _ (hP.bool b)) (i + 1)
    · exact ih h (i + 1)

/-- **Toggles.** The data with the state of a prompt has the property if the data had it. -/
theorem write (h : d.Has P (room + 5)) (hP : Node.Hereditary keys P)
    (hw : write place e b d = .ok d') : d'.Has P (room + 5) := by
  cases place with
  | none =>
    cases hw
    exact h.markPrompts hP 0 _
  | some k =>
    obtain ⟨items, _, ⟨j, _, rfl⟩ | ⟨_, rfl⟩⟩ := mark_eq_ok hw
    · exact h.putField hP room (by rfl) _ (hP.bool b)
    · exact h.append hP (room + 1) (by rfl) (hP.newEntry e b)

/-- The data with the order list that is selected has the property too. -/
theorem select (h : d.Has P (room + 4)) (hP : Node.Hereditary keys P)
    (hs : select character d = .ok (d', place)) : d'.Has P (room + 4) := by
  obtain ⟨-, rfl, -⟩ | ⟨_, k, _, -, -, -, rfl, -⟩ := select_eq_ok hs
  · exact h
  · unfold withOrder
    split
    · exact h
    · exact h.putField hP (room + 1) (by rfl) _ (hP.list_iff.2 (List.forall_mem_nil _))

end Document.Has

end PromptRules.Data
