import PromptRules.PresetFile.Loaded
import PromptRules.Proofs.PresetFile.Marking
import PromptRules.Proofs.Store.Switching

/-!
# Reading a prompt back

A prompt is read from the fields of its item, with its state from the order list if that lists it.
The fields count by what is found under each key, so a state that is written over another one, in
the item or in the order list, changes the state that is read and nothing else.

Results:
* `promptOfFields_marked`: fields with a new state make the prompt with that state.
* `promptOf_eq_some_iff`: how a prompt is read.
* `promptOf_recorded`, `promptOf_markItem`: what is read from an item after either way of writing a
  toggle.
* `given_eq_switch`: this is the switched prompt, unless the identifier is spelled in bytes.
-/

namespace PromptRules.PresetFile

open Data

/-! ## Records -/

theorem asRecord?_cons (e : Key × Node) (fields : Fields) :
    asRecord? (e :: fields)
      = match e.1 with
        | .text key => (asRecord? fields).map ((key, e.2.asField) :: ·)
        | _ => none := by
  obtain ⟨k, v⟩ := e
  rw [asRecord?, List.mapM_cons]
  cases k with
  | text key =>
    change (asRecord? fields).bind _ = _
    cases asRecord? fields <;> rfl
  | _ => rfl

theorem get?_of_asRecord? {fields : Fields} {record : Record} (h : asRecord? fields = some record)
    (key : String) :
    Assoc.get? record key = (Assoc.get? fields (.text key)).map Node.asField := by
  induction fields generalizing record with
  | nil =>
    cases h
    rfl
  | cons e fields ih =>
    rw [asRecord?_cons] at h
    split at h
    · obtain ⟨rest, hrest, rfl⟩ := Option.map_eq_some_iff.1 h
      rename_i name hname
      by_cases hk : name = key
      · simp [Assoc.get?, hname, hk]
      · simpa [Assoc.get?, hname, hk] using ih hrest
    · cases h

theorem isSome_asRecord?_iff {fields : Fields} :
    (asRecord? fields).isSome ↔ ∀ k ∈ Assoc.keys fields, ∃ name, k = Key.text name := by
  induction fields with
  | nil => simp [asRecord?, Assoc.keys]
  | cons e fields ih =>
    rw [asRecord?_cons]
    split
    · rename_i name hname
      simpa [Assoc.keys, hname] using ih
    · rename_i hname
      simpa [Assoc.keys] using fun name h => absurd h (hname name)

/-- A record with a new state. -/
theorem ofFields_of_enabled {record record' : Record} {p : Prompt} {b : Bool}
    (h : Prompt.ofFields record = .ok p)
    (hb : Assoc.get? record' "enabled" = some (.bool b))
    (ho : ∀ key, key ≠ "enabled" → Assoc.get? record' key = Assoc.get? record key) :
    Prompt.ofFields record' = .ok { p with enabled := b } := by
  have hi := ho "identifier" (by decide)
  have hn := ho "name" (by decide)
  have hc := ho "content" (by decide)
  have hr := ho "role" (by decide)
  simp only [Prompt.ofFields, required, Data.optional] at h ⊢
  simp only [hi, hn, hc, hr, hb, asFlag_bool]
  split at h
  · cases h
    simp only [*]
  · cases h

/-! ## Marked fields -/

/-- The second fields have this state, and else what the first have. -/
structure Marked (b : Bool) (fields fields' : Fields) : Prop where
  enabled : Assoc.get? fields' (.text "enabled") = some (.bool b)
  others : ∀ {k : Key}, k ≠ .text "enabled" → Assoc.get? fields' k = Assoc.get? fields k

theorem marked_marked (b : Bool) (fields : Fields) : Marked b fields (marked b fields) where
  enabled := Assoc.get?_put_self _ _ _
  others h := Assoc.get?_put_of_ne _ _ h

theorem exists_record {fields : Fields} {id : Node} {p : Prompt}
    (h : promptOfFields id fields = .ok p) :
    ∃ record, asRecord? fields = some record ∧ Prompt.ofFields record = .ok p := by
  unfold promptOfFields at h
  split at h
  · cases h
  · split at h
    · cases h
      exact ⟨_, ‹_›, ‹_›⟩
    · cases h

theorem promptOfFields_marked {b : Bool} {fields fields' : Fields} {id : Node} {p : Prompt}
    (hm : Marked b fields fields') (h : promptOfFields id fields = .ok p) :
    promptOfFields id fields' = .ok { p with enabled := b } := by
  obtain ⟨record, hrec, hp⟩ := exists_record h
  have hsome : (asRecord? fields').isSome := by
    rw [isSome_asRecord?_iff]
    intro k hk
    by_cases he : k = .text "enabled"
    · exact ⟨_, he⟩
    · rw [Assoc.mem_keys_iff, hm.others he, ← Assoc.mem_keys_iff] at hk
      exact isSome_asRecord?_iff.1 (by simp [hrec]) k hk
  obtain ⟨record', hrec'⟩ := Option.isSome_iff_exists.1 hsome
  have hp' : Prompt.ofFields record' = .ok { p with enabled := b } := by
    refine ofFields_of_enabled hp ?_ fun key hk => ?_
    · rw [get?_of_asRecord? hrec', hm.enabled]
      rfl
    · rw [get?_of_asRecord? hrec', get?_of_asRecord? hrec, hm.others (by simpa using hk)]
  simp [promptOfFields, hrec', hp']

/-! ## Fields that are not null -/

/-- The fields of an item that a prompt is read from. -/
def present (raw : Fields) : Fields := raw.filter fun e => !e.2.isNull

theorem get?_present {raw : Fields} {k : Key} {v : Node} (h : Assoc.get? raw k = some v)
    (hv : v.isNull = false) : Assoc.get? (present raw) k = some v := by
  unfold present
  induction raw with
  | nil => cases h
  | cons e es ih =>
    rw [Assoc.get?] at h
    split at h
    · cases h
      rename_i he
      rw [List.filter_cons_of_pos (by simp [hv]), Assoc.get?, if_pos he]
    · rename_i he
      rw [List.filter_cons]
      split
      · rw [Assoc.get?, if_neg he, ih h]
      · exact ih h

theorem get?_present_put_self (raw : Fields) (k : Key) {v : Node} (hv : v.isNull = false) :
    Assoc.get? (present (Assoc.put raw k v)) k = some v :=
  get?_present (Assoc.get?_put_self raw k v) hv

theorem get?_present_put_of_ne (raw : Fields) {k k' : Key} (v : Node) (h : k' ≠ k) :
    Assoc.get? (present (Assoc.put raw k v)) k' = Assoc.get? (present raw) k' := by
  -- an entry under the written key does not matter here, null or not
  have hskip : ∀ (w : Node) (es : Fields),
      Assoc.get? (present ((k, w) :: es)) k' = Assoc.get? (present es) k' := by
    intro w es
    unfold present
    rw [List.filter_cons]
    split
    · exact Assoc.get?_cons_of_ne _ _ h.symm
    · rfl
  induction raw with
  | nil => exact hskip v []
  | cons e es ih =>
    rw [Assoc.put]
    split
    · rename_i he
      subst he
      rw [hskip]
      exact (hskip e.2 es).symm
    · unfold present at ih ⊢
      rw [List.filter_cons, List.filter_cons]
      split
      · rw [Assoc.get?, Assoc.get?, ih]
      · exact ih

theorem marked_present (b : Bool) (raw : Fields) :
    Marked b (present raw) (present (marked b raw)) where
  enabled := get?_present_put_self raw _ rfl
  others h := get?_present_put_of_ne raw _ h

/-! ## Prompts -/

/-- The fields of a prompt with the state that an order list gives it. -/
def stamp (fields : Fields) : Option Bool → Fields
  | some b => marked b fields
  | none => fields

theorem marked_stamp (b : Bool) (fields : Fields) (st : Option Bool) :
    Marked b (stamp fields st) (marked b fields) := by
  cases st with
  | none => exact marked_marked b fields
  | some c =>
    refine ⟨Assoc.get?_put_self _ _ _, fun hk => ?_⟩
    exact (Assoc.get?_put_of_ne fields _ hk).trans (Assoc.get?_put_of_ne fields _ hk).symm

theorem promptFields_eq (order : Option Node) (raw : Fields) (id : Node) :
    promptFields order raw id = (stateIn order id).map (stamp (present raw)) := by
  unfold promptFields stateIn
  cases order with
  | none => rfl
  | some order =>
    cases hl : listed order id with
    | error fault => simp [hl, bind, Except.bind, Except.map]
    | ok entry =>
      cases entry <;> simp [hl, bind, Except.bind, Except.map, pure, Except.pure] <;> rfl

variable {order order' : Option Node} {item : Node} {p : Prompt} {e : String} {b : Bool}

theorem promptOf_eq_some_iff :
    promptOf order item = .ok (some p) ↔
      ∃ raw st, item = .map raw ∧ (field raw "identifier").isTrue = true ∧
        stateIn order (field raw "identifier") = .ok st ∧
        promptOfFields (field raw "identifier") (stamp (present raw) st) = .ok p := by
  constructor
  · intro h
    cases item with
    | map raw =>
      simp only [promptOf, promptFields_eq] at h
      split at h
      · rename_i hid
        cases hst : stateIn order (field raw "identifier") with
        | error fault => simp [hst, Except.map, Except.mapError, bind, Except.bind] at h
        | ok st =>
          simp only [hst, Except.map, Except.mapError, bind, Except.bind, pure, Except.pure] at h
          split at h
          · cases h
          · cases h
            exact ⟨raw, st, rfl, hid, hst, ‹_›⟩
      · cases h
    | _ => cases h
  · rintro ⟨raw, st, rfl, hid, hst, hp⟩
    simp [promptOf, promptFields_eq, hid, hst, hp, Except.map, Except.mapError, bind, Except.bind,
      pure, Except.pure]

/-- The identifier of an item, null if the item has none. -/
def identifierOf : Node → Node
  | .map raw => field raw "identifier"
  | _ => .null

theorem promptOf_eq_none_iff :
    promptOf order item = .ok none ↔ (identifierOf item).isTrue = false := by
  cases item with
  | map raw =>
    simp only [promptOf, identifierOf]
    cases hid : (field raw "identifier").isTrue with
    | false => simp [pure, Except.pure]
    | true =>
      cases promptFields order raw (field raw "identifier") with
      | error fault => simp [Except.mapError, bind, Except.bind]
      | ok fields =>
        cases hp : promptOfFields (field raw "identifier") fields <;>
          simp [hp, Except.mapError, bind, Except.bind, pure, Except.pure]
  | _ => exact iff_of_true rfl rfl

/-- A prompt has its identifier from the item. -/
theorem asField_identifierOf (h : promptOf order item = .ok (some p)) :
    (identifierOf item).asField = .text p.identifier := by
  obtain ⟨raw, st, rfl, hid, hst, hp⟩ := promptOf_eq_some_iff.1 h
  have hnull : (field raw "identifier").isNull = false := by
    cases hf : field raw "identifier" <;> simp_all [Node.isNull, Node.isTrue]
  have hget : Assoc.get? (stamp (present raw) st) (.text "identifier")
      = some (field raw "identifier") := by
    have hraw := get?_present (get?_of_field rfl hnull) hnull
    cases st with
    | none => exact hraw
    | some c => exact (Assoc.get?_put_of_ne _ _ (by decide)).trans hraw
  obtain ⟨record, hrec, hr⟩ := exists_record hp
  have hrid : Assoc.get? record "identifier" = some (field raw "identifier").asField := by
    rw [get?_of_asRecord? hrec, hget]
    rfl
  simp only [Prompt.ofFields, required, hrid] at hr
  split at hr
  · cases hr
    exact asText_eq_ok_iff.1 ‹_›
  · cases hr

/-! ## After a toggle -/

/-- Whether an item has its identifier as bytes that spell a text. A prompt with this text for its
    identifier is read from the item, but a search for the text does not find the item. -/
def SpelledInBytes (e : String) (item : Node) : Prop :=
  ∃ data, identifierOf item = .bytes data ∧ String.fromUTF8? ⟨data.toArray⟩ = some e

theorem same_identifierOf_iff (h : promptOf order item = .ok (some p))
    (hb : ¬ SpelledInBytes e item) :
    (identifierOf item).same (.text e) = true ↔ p.identifier = e := by
  have hid := asField_identifierOf h
  rw [Node.same_text]
  cases hi : identifierOf item with
  | text s => simpa [hi, Node.asField, eq_comm] using congrArg (· = Tree.text e) hid
  | bytes data =>
    rw [hi, Node.asField] at hid
    split at hid
    · cases hid
      refine iff_of_false Node.noConfusion ?_
      rintro rfl
      exact hb ⟨data, hi, ‹_›⟩
    · cases hid
  | _ => simp [hi, Node.asField] at hid

/-- The prompt that is read from an item after a toggle: the toggle is about it if the item has the
    identifier as a text. -/
def given (e : String) (b : Bool) (item : Node) (p : Prompt) : Prompt :=
  if (identifierOf item).same (.text e) then { p with enabled := b } else p

@[simp] theorem identifier_given (item : Node) : (given e b item p).identifier = p.identifier := by
  unfold given
  split <;> rfl

/-- A toggle of a prompt whose item has its identifier as a text is about that prompt. -/
theorem given_eq_switch (h : (identifierOf item).same (.text e) = true ↔ p.identifier = e) :
    given e b item p = p.switch e b := by
  unfold given Prompt.switch
  by_cases he : p.identifier = e
  · rw [if_pos (h.2 he), if_pos he]
  · rw [if_neg (mt h.1 he), if_neg he]

theorem promptOf_recorded {items items' : List Node} (hr : Recorded e b items items')
    (h : promptOf (some (.list items)) item = .ok (some p)) :
    promptOf (some (.list items')) item = .ok (some (given e b item p)) := by
  obtain ⟨raw, st, rfl, htrue, hst, hp⟩ := promptOf_eq_some_iff.1 h
  refine promptOf_eq_some_iff.2 ⟨raw, _, rfl, htrue, stateIn_of_recorded hr hst, ?_⟩
  unfold given
  rw [identifierOf]
  split
  · exact promptOfFields_marked (marked_stamp b _ st) hp
  · exact hp

theorem identifierOf_markItem (e : String) (b : Bool) (item : Node) :
    identifierOf (markItem e b item) = identifierOf item := by
  cases item with
  | map raw =>
    simp only [markItem, identifierOf]
    split
    · exact field_marked_identifier b raw
    · rfl
  | _ => rfl

theorem promptOf_markItem (h : promptOf none item = .ok (some p)) :
    promptOf none (markItem e b item) = .ok (some (given e b item p)) := by
  obtain ⟨raw, st, rfl, htrue, hst, hp⟩ := promptOf_eq_some_iff.1 h
  cases hst
  unfold given
  rw [identifierOf]
  by_cases hid : (field raw "identifier").same (.text e) = true
  · have hmark : markItem e b (.map raw) = .map (marked b raw) := congrArg Node.map (if_pos hid)
    refine promptOf_eq_some_iff.2 ⟨marked b raw, none, hmark, ?_, rfl, ?_⟩
    · rwa [field_marked_identifier]
    · rw [field_marked_identifier, if_pos hid]
      exact promptOfFields_marked (marked_present b raw) hp
  · have hmark : markItem e b (.map raw) = .map raw := congrArg Node.map (if_neg hid)
    rw [hmark, if_neg hid]
    exact h

end PromptRules.PresetFile
