import PromptRules.Proofs.PresetFile.Selection

/-!
# What a toggle writes

A toggle writes one truth value: into the entry of the selected order list that is about the
prompt, into a new entry at its end, or, without an order list, into every item of the preset that
has the identifier. Here each of these writes is a change of a list.

Results:
* `onlyField_markPrompts`: without an order list the items are marked one by one.
* `recorded_write`: with an order list one entry of it is written.
* `stateIn_of_recorded`: what the order list then says about each prompt.
-/

namespace PromptRules.PresetFile

open Data

/-- The fields of an item or an entry with a new state. -/
def marked (b : Bool) (fields : Fields) : Fields := Assoc.put fields (.text "enabled") (.bool b)

@[simp] theorem field_marked_enabled (b : Bool) (fields : Fields) :
    field (marked b fields) "enabled" = .bool b := field_put_self fields "enabled" (.bool b)

@[simp] theorem field_marked_identifier (b : Bool) (fields : Fields) :
    field (marked b fields) "identifier" = field fields "identifier" :=
  field_put_of_ne fields (.bool b) (by decide)

/-- An item of the preset after a toggle, which may be about another prompt. -/
def markItem (e : String) (b : Bool) : Node → Node
  | .map raw => .map (if (field raw "identifier").same (.text e) then marked b raw else raw)
  | t => t

variable {e : String} {b : Bool} {d d' : Document}

/-! ## Without an order list -/

theorem onlyField_mark_item {done ts : List Node} {t : Node} (hl : d.links = [])
    (hf : field d.fields "prompts" = .list (done ++ t :: ts)) :
    OnlyField "prompts" (.list (done ++ markItem e b t :: ts)) d
      (if isNamed e t then d.putField [.key "prompts", .index done.length] "enabled" (.bool b)
        else d) := by
  cases t with
  | map raw =>
    cases hn : isNamed e (.map raw) with
    | true =>
      have hi : (done ++ .map raw :: ts)[done.length]? = some (.map raw) := by simp
      have h := onlyField_putField_index hl hf hi "enabled" (.bool b)
      have hmark : markItem e b (.map raw) = .map (marked b raw) :=
        congrArg Node.map (if_pos hn)
      rw [hmark, if_pos rfl]
      simpa [marked] using h
    | false =>
      have hmark : markItem e b (.map raw) = .map raw :=
        congrArg Node.map (if_neg (by simpa [isNamed] using hn))
      rw [hmark]
      exact ⟨hl, hf, fun _ => rfl⟩
  | _ => exact ⟨hl, hf, fun _ => rfl⟩

/-- The induction is on the items that are left; those before them are marked already. -/
theorem onlyField_markPrompts (done ts : List Node) (hl : d.links = [])
    (hf : field d.fields "prompts" = .list (done ++ ts)) :
    OnlyField "prompts" (.list (done ++ ts.map (markItem e b))) d
      (markPrompts e b done.length ts d) := by
  induction ts generalizing done d with
  | nil =>
    rw [markPrompts, List.map_nil]
    exact ⟨hl, hf, fun _ => rfl⟩
  | cons t ts ih =>
    have hone := onlyField_mark_item (e := e) (b := b) hl hf
    have hrest := ih (done ++ [markItem e b t]) hone.links (by simpa using hone.self)
    simpa [markPrompts] using hone.trans hrest

/-! ## With an order list -/

/-- An order list and what it is after a toggle. -/
inductive Recorded (e : String) (b : Bool) (items : List Node) : List Node → Prop
  | listed {j : Nat} {fields : Fields}
      (hj : find "identifier" (.text e) items = .ok (some j))
      (hf : items[j]? = some (.map fields)) :
      Recorded e b items (items.set j (.map (marked b fields)))
  | unlisted (h : find "identifier" (.text e) items = .ok none) :
      Recorded e b items (items ++ [newEntry e b])

variable {character : Option Node} {k : Nat}

/-- Only a list takes the state of a prompt. -/
theorem mark_eq_ok {path : Path} {order : Node} (h : mark path e b order d = .ok d') :
    ∃ items, order = .list items ∧
      ((∃ j, find "identifier" (.text e) items = .ok (some j) ∧
          d' = d.putField (path ++ [.index j]) "enabled" (.bool b)) ∨
        (find "identifier" (.text e) items = .ok none ∧ d' = d.append path (newEntry e b))) := by
  cases hi : itemsOf order with
  | error fault => simp [mark, hi, bind, Except.bind] at h
  | ok items =>
    cases hf : find "identifier" (.text e) items with
    | error fault => simp [mark, hi, hf, bind, Except.bind] at h
    | ok found =>
      simp only [mark, hi, hf, bind, Except.bind, pure, Except.pure] at h
      split at h
      · cases hi
        cases h
        exact ⟨_, rfl, .inl ⟨_, ‹_›, rfl⟩⟩
      · cases hi
        cases h
        exact ⟨_, rfl, .inr ⟨‹_›, rfl⟩⟩
      · cases h

/-- A toggle writes at one place, in the order list of the entry or at its end. -/
theorem exists_recorded {entries : List Node} {fields : Fields} {order : Node} (hl : d.links = [])
    (he : field d.fields "prompt_order" = .list entries) (hk : entries[k]? = some (.map fields))
    (ho : Assoc.get? fields (.text "order") = some order) (h : write (some k) e b d = .ok d') :
    ∃ items items' p v, order = .list items ∧ Recorded e b items items' ∧
      Node.setAt p v order = .list items' ∧
      OnlyField "prompt_order" (Node.setAt (.index k :: .key "order" :: p) v (.list entries)) d
        d' := by
  have hroot := get?_of_field he rfl
  obtain ⟨items, hi, hcases⟩ := mark_eq_ok h
  rw [orderAt_eq he hk ho] at hi
  subst hi
  have hat : Node.at? [.index k, .key "order"] (.list entries) = some (.list items) := by
    simp [Node.at?, hk, ho]
  rcases hcases with ⟨j, hj, rfl⟩ | ⟨hnone, rfl⟩
  · obtain ⟨entry, hentry, _⟩ := getElem?_of_find hj
    have hatj : Node.at? [.index k, .key "order", .index j] (.list entries)
        = some (.map entry) := by simp [Node.at?, hk, ho, hentry]
    have hd := onlyField_putField hl hroot hatj "enabled" (.bool b)
    exact ⟨items, _, _, _, rfl, .listed hj hentry, setAt_index hentry _ _, hd⟩
  · have hd := onlyField_append hl hroot hat (newEntry e b)
    exact ⟨items, _, _, _, rfl, .unlisted hnone, rfl, hd⟩

/-- A toggle writes the selected order list and nothing else. -/
theorem recorded_write (hl : d.links = []) (hs : Selected character d (some k))
    (h : write (some k) e b d = .ok d') :
    ∃ items items' v, orderAt d k = .list items ∧ Recorded e b items items' ∧
      OnlyField "prompt_order" v d d' ∧ orderAt d' k = .list items' ∧
      Selected character d' (some k) := by
  obtain ⟨entries, fields, order, he, hk, hf, ho⟩ := hs.exists_entry
  obtain ⟨items, items', p, v, rfl, hrec, hset, hd⟩ := exists_recorded hl he hf ho h
  obtain ⟨horder, hs'⟩ := Selected.of_order hk hf ho hd hset
  exact ⟨_, _, _, orderAt_eq he hf ho, hrec, hd, horder, hs'⟩

/-- After a toggle the same order list is selected. -/
theorem selected_write (hl : d.links = []) (hs : Selected character d place)
    (h : write place e b d = .ok d') : d'.links = [] ∧ Selected character d' place := by
  cases place with
  | none =>
    cases h
    by_cases hp : ∃ items, field d.fields "prompts" = .list items
    · obtain ⟨items, hi⟩ := hp
      have hd := onlyField_markPrompts (e := e) (b := b) [] items hl hi
      rw [promptItems, hi]
      exact ⟨hd.links, hs.of_prompts hd⟩
    · have hnone : promptItems d = [] := by
        unfold promptItems
        split
        · exact absurd ⟨_, ‹_›⟩ hp
        · rfl
      rw [hnone]
      exact ⟨hl, hs⟩
  | some k =>
    obtain ⟨_, _, _, _, _, hd, _, hs'⟩ := recorded_write hl hs h
    exact ⟨hd.links, hs'⟩

/-! ## The state of a prompt -/

/-- The state that an order list gives the prompt of an identifier; none if it does not list the
    prompt, or if there is no order list. -/
def stateIn (order : Option Node) (id : Node) : Except ShapeFault (Option Bool) :=
  match order with
  | none => .ok none
  | some order =>
    (listed order id).map fun entry => entry.map fun fields => (field fields "enabled").isTrue

variable {items items' : List Node} {id : Node} {i : Nat} {fields : Fields}

theorem stateIn_of_find (h : find "identifier" id items = .ok (some i))
    (hf : items[i]? = some (.map fields)) :
    stateIn (some (.list items)) id = .ok (some (field fields "enabled").isTrue) := by
  simp [stateIn, listed, itemsOf, h, List.getD_eq_getElem?_getD, hf, fieldsOf, bind, Except.bind,
    pure, Except.pure, Except.map]

theorem stateIn_of_find_none (h : find "identifier" id items = .ok none) :
    stateIn (some (.list items)) id = .ok none := by
  simp [stateIn, listed, itemsOf, h, bind, Except.bind, pure, Except.pure, Except.map]

theorem exists_find_of_stateIn {st : Option Bool} (h : stateIn (some (.list items)) id = .ok st) :
    ∃ found, find "identifier" id items = .ok found := by
  cases hf : find "identifier" id items with
  | error fault => simp [stateIn, listed, itemsOf, hf, bind, Except.bind, Except.map] at h
  | ok found => exact ⟨found, rfl⟩

theorem eq_text_of_same {t : Node} (h : Node.same (.text e) t = true) : t = .text e := by
  cases t <;> simp_all [Node.same, Node.sameScalar]

theorem stateIn_of_recorded_self (hr : Recorded e b items items') :
    stateIn (some (.list items')) (.text e) = .ok (some b) := by
  cases hr with
  | @listed j entry hj hf =>
    have hset : find "identifier" (.text e) (items.set j (.map (marked b entry)))
        = .ok (some j) := (find_set hf (by simp [hasField, fieldsOf, Except.map])).trans hj
    have hat : (items.set j (.map (marked b entry)))[j]? = some (.map (marked b entry)) :=
      List.getElem?_set_self (List.getElem?_eq_some_iff.1 hf).1
    rw [stateIn_of_find hset hat]
    simp [Node.isTrue]
  | unlisted hnone =>
    have hnew : hasField "identifier" (.text e) (newEntry e b) = .ok true := by
      simp [hasField, newEntry, fieldsOf, Except.map, field, Assoc.get?, Node.same_text]
    rw [stateIn_of_find (find_append hnone hnew) List.getElem?_concat_length]
    simp [field, Assoc.get?, Node.isTrue]

/-- A search for another identifier finds the same entry, and that is not the written one. -/
theorem stateIn_of_recorded_of_ne {st : Option Bool} (hr : Recorded e b items items')
    (hid : Node.same (.text e) id = false) (hst : stateIn (some (.list items)) id = .ok st) :
    stateIn (some (.list items')) id = .ok st := by
  obtain ⟨found, hfound⟩ := exists_find_of_stateIn hst
  have hfind : find "identifier" id items' = .ok found := by
    cases hr with
    | listed hj hf => exact (find_set hf (by simp [hasField, fieldsOf, Except.map])).trans hfound
    | unlisted hnone =>
      have hnew : hasField "identifier" id (newEntry e b) = .ok false := by
        simp [hasField, newEntry, fieldsOf, Except.map, field, Assoc.get?, hid]
      simpa using find_append hfound hnew
  cases found with
  | none =>
    rw [stateIn_of_find_none hfound] at hst
    exact (stateIn_of_find_none hfind).trans hst
  | some i =>
    obtain ⟨entry, hi, hsame⟩ := getElem?_of_find hfound
    rw [stateIn_of_find hfound hi] at hst
    refine (stateIn_of_find hfind ?_).trans hst
    cases hr with
    | @listed j fields hj hf =>
      obtain ⟨written, hwritten, htext⟩ := getElem?_of_find hj
      -- one entry cannot be about both identifiers
      have hne : j ≠ i := by
        rintro rfl
        cases hi.symm.trans hwritten
        rw [Node.same_text.1 htext, hid] at hsame
        cases hsame
      rw [List.getElem?_set_ne hne, hi]
    | unlisted hnone =>
      rw [List.getElem?_append_left (List.getElem?_eq_some_iff.1 hi).1, hi]

/-- The prompt that the toggle was about has the new state, and every other one that which it
    had. -/
theorem stateIn_of_recorded {st : Option Bool} (hr : Recorded e b items items')
    (hst : stateIn (some (.list items)) id = .ok st) :
    stateIn (some (.list items')) id = .ok (if id.same (.text e) then some b else st) := by
  by_cases hid : id = .text e
  · subst hid
    rw [stateIn_of_recorded_self hr, if_pos (Node.same_text.2 rfl)]
  · have hne : Node.same (.text e) id = false := by
      simpa using fun h => hid (eq_text_of_same h)
    rw [stateIn_of_recorded_of_ne hr hne hst, if_neg fun h => hid (Node.same_text.1 h)]

end PromptRules.PresetFile
