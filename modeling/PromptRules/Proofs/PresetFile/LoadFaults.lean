import PromptRules.Command.Run
import PromptRules.Proofs.PresetFile.Persistence

/-!
# Presets that break the loader

A file that is no preset is to be told as such. Some files are not: the loader breaks down on them,
with a failure of another kind that a command does not turn into an error line. Here are all of
them: bytes that encode no text, a text that is no value although it keeps to the rules of its
format, and values that the loader uses without a look at their shape.

Results:
* `exists_stateIn_iff`: an order can be asked about a prompt iff it can be searched.
* `fails_promptOf_iff`, `fails_select_iff`: which items and which entries break the loader.
* `load_breaks_iff`: so which files do.
* `breakdown_unloaded_iff`: on these, and on no others, a command breaks down.
-/

namespace PromptRules.PresetFile

open Data Text

/-- Whether a load error tells that a file is no preset. -/
def LoadError.isFormat : LoadError → Bool
  | .unreadable fault => fault ≠ .unnameable
  | .notValid | .noPrompts | .noEntry _ | .invalidPrompt _ => true
  | .notText | .noValue _ | .shape _ | .keyNotText | .unwritable => false

/-- A computation breaks the loader: it fails, and not because the file is no preset. -/
def Fails {α : Type} (x : Except LoadError α) : Prop := ∃ e, x = .error e ∧ e.isFormat = false

section Fails

variable {α β : Type} {x : Except LoadError α} {g : α → Except LoadError β}

theorem not_fails_ok (a : α) : ¬ Fails (.ok a : Except LoadError α) := by
  rintro ⟨e, h, _⟩
  cases h

theorem fails_error_iff {e : LoadError} :
    Fails (.error e : Except LoadError α) ↔ e.isFormat = false := by
  constructor
  · rintro ⟨_, ⟨⟩, h⟩
    exact h
  · exact fun h => ⟨e, rfl, h⟩

theorem fails_bind_iff :
    Fails (x >>= g) ↔ Fails x ∨ ∃ a, x = .ok a ∧ Fails (g a) := by
  cases x with
  | error e =>
    have hbind : (Except.error e >>= g) = .error e := rfl
    rw [hbind, fails_error_iff, fails_error_iff]
    simp
  | ok a =>
    have hbind : (Except.ok a >>= g) = g a := rfl
    rw [hbind]
    simp [not_fails_ok]

/-- The first element that does not go through decides. -/
theorem fails_mapM_iff {xs : List β} {f : β → Except LoadError α} :
    Fails (xs.mapM f) ↔
      ∃ done y rest, xs = done ++ y :: rest ∧ (∀ z ∈ done, ∃ a, f z = .ok a) ∧ Fails (f y) := by
  induction xs with
  | nil =>
    refine iff_of_false (not_fails_ok _) ?_
    rintro ⟨done, y, rest, h, _⟩
    simp at h
  | cons x xs ih =>
    have hpure : ∀ (a : α) (as : List α), ¬ Fails (pure (a :: as) : Except LoadError (List α)) :=
      fun a as => not_fails_ok (a :: as)
    simp only [List.mapM_cons, fails_bind_iff, ih, hpure, and_false, exists_false, or_false]
    constructor
    · rintro (hx | ⟨a, hx, done, y, rest, rfl, hdone, hy⟩)
      · exact ⟨[], x, xs, rfl, by simp, hx⟩
      · exact ⟨x :: done, y, rest, rfl, List.forall_mem_cons.2 ⟨⟨a, hx⟩, hdone⟩, hy⟩
    · rintro ⟨done, y, rest, h, hdone, hy⟩
      cases done with
      | nil =>
        cases h
        exact .inl hy
      | cons z done =>
        cases h
        obtain ⟨⟨a, ha⟩, hdone⟩ := List.forall_mem_cons.1 hdone
        exact .inr ⟨a, ha, done, y, rest, rfl, hdone, hy⟩

end Fails

/-! ## Items -/

variable {order : Option Node} {item : Node} {raw : Fields} {id : Node}

/-- An order can be asked about an identifier: it has items, and they can be searched. -/
def Legible (order : Option Node) (id : Node) : Prop :=
  ∀ o ∈ order, ∃ items, itemsOf o = .ok items ∧ Searchable "identifier" id items

theorem exists_listed_iff {o : Node} :
    (∃ entry, listed o id = .ok entry) ↔
      ∃ items, itemsOf o = .ok items ∧ Searchable "identifier" id items := by
  cases hi : itemsOf o with
  | error fault => simp [listed, hi, bind, Except.bind]
  | ok items =>
    have hsearch : (∃ entry, listed o id = .ok entry) ↔
        ∃ found, find "identifier" id items = .ok found := by
      cases hf : find "identifier" id items with
      | error fault => simp [listed, hi, hf, bind, Except.bind]
      | ok found =>
        cases found with
        | none => simp [listed, hi, hf, bind, Except.bind, pure, Except.pure]
        | some j =>
          obtain ⟨fields, hj, _⟩ := getElem?_of_find hf
          simp [listed, hi, hf, bind, Except.bind, pure, Except.pure,
            List.getD_eq_getElem?_getD, hj, fieldsOf]
    rw [hsearch, exists_find_iff]
    simp

theorem exists_stateIn_iff : (∃ st, stateIn order id = .ok st) ↔ Legible order id := by
  cases order with
  | none => simp [stateIn, Legible]
  | some o =>
    have hstate : (∃ st, stateIn (some o) id = .ok st) ↔ ∃ entry, listed o id = .ok entry := by
      cases hl : listed o id <;> simp [stateIn, hl, Except.map]
    simp only [hstate, exists_listed_iff, Legible, Option.mem_some_iff, forall_eq']

/-- The fields that a prompt is read from have texts for keys. -/
def TextKeys (raw : Fields) : Prop :=
  ∀ e ∈ raw, e.2.isNull = false → ∃ name, e.1 = Key.text name

theorem forall_keys_stamp_iff {P : Key → Prop} (hP : P (.text "enabled")) (fields : Fields)
    (st : Option Bool) :
    (∀ k ∈ Assoc.keys (stamp fields st), P k) ↔ ∀ k ∈ Assoc.keys fields, P k := by
  cases st with
  | none => exact Iff.rfl
  | some b =>
    rw [stamp, marked]
    by_cases h : Key.text "enabled" ∈ Assoc.keys fields
    · rw [Assoc.keys_put_of_mem _ h]
    · rw [Assoc.keys_put_of_not_mem _ h]
      simp [or_imp, forall_and, hP]

theorem isSome_asRecord?_stamp_iff (raw : Fields) (st : Option Bool) :
    (asRecord? (stamp (present raw) st)).isSome ↔ TextKeys raw := by
  rw [isSome_asRecord?_iff, forall_keys_stamp_iff ⟨"enabled", rfl⟩]
  simp only [Assoc.keys, present, List.forall_mem_map, List.mem_filter, and_imp,
    Bool.not_eq_true', TextKeys]

theorem isShort_of_asField {t : Node} {s : String} (h : t.asField = .text s) :
    t.isShort = true := by
  cases t with
  | text s => rfl
  | bytes data => rfl
  | _ => cases h

/-- An item that breaks the loader. It has an identifier, and then an order that cannot be asked
    about it, or a key that is no text, or for its identifier what is no text, nor can be shown. -/
inductive ItemBreaks (order : Option Node) : Node → Prop
  | order {raw : Fields} (hid : (field raw "identifier").isTrue = true)
      (h : ¬ Legible order (field raw "identifier")) : ItemBreaks order (.map raw)
  | key {raw : Fields} (hid : (field raw "identifier").isTrue = true) (h : ¬ TextKeys raw) :
      ItemBreaks order (.map raw)
  | identifier {raw : Fields} (hid : (field raw "identifier").isTrue = true)
      (h : (field raw "identifier").isShort = false) : ItemBreaks order (.map raw)

theorem itemBreaks_map_iff :
    ItemBreaks order (.map raw) ↔ (field raw "identifier").isTrue = true ∧
      (Legible order (field raw "identifier") → TextKeys raw →
        (field raw "identifier").isShort = false) := by
  constructor
  · rintro (⟨hid, h⟩ | ⟨hid, h⟩ | ⟨hid, h⟩)
    · exact ⟨hid, fun hl => absurd hl h⟩
    · exact ⟨hid, fun _ hk => absurd hk h⟩
    · exact ⟨hid, fun _ _ => h⟩
  · rintro ⟨hid, h⟩
    by_cases hl : Legible order (field raw "identifier")
    · by_cases hk : TextKeys raw
      · exact .identifier hid (h hl hk)
      · exact .key hid hk
    · exact .order hid hl

theorem fails_promptOfFields_iff {fields : Fields} :
    Fails (promptOfFields id fields) ↔
      asRecord? fields = none ∨ ∃ record faults, asRecord? fields = some record ∧
        Prompt.ofFields record = .error faults ∧ id.isShort = false := by
  unfold promptOfFields
  cases hrec : asRecord? fields with
  | none => simp [fails_error_iff, LoadError.isFormat]
  | some record =>
    cases hp : Prompt.ofFields record with
    | ok p => simp [not_fails_ok, hp]
    | error faults =>
      cases hs : id.isShort <;> simp [fails_error_iff, LoadError.isFormat, hp]

/-- Once its order has been asked, an item is read from its fields. -/
theorem promptOf_of_stateIn {st : Option Bool}
    (hid : (field raw "identifier").isTrue = true)
    (hst : stateIn order (field raw "identifier") = .ok st) :
    promptOf order (.map raw)
      = promptOfFields (field raw "identifier") (stamp (present raw) st) >>= fun p =>
          .ok (some p) := by
  simp only [promptOf, hid, if_true, promptFields_eq, hst]
  rfl

theorem fails_promptOf_iff : Fails (promptOf order item) ↔ ItemBreaks order item := by
  cases item with
  | map raw =>
    rw [itemBreaks_map_iff]
    cases hid : (field raw "identifier").isTrue with
    | false =>
      have hnone : promptOf order (.map raw) = .ok none := promptOf_eq_none_iff.2 hid
      simp [hnone, not_fails_ok]
    | true =>
      cases hst : stateIn order (field raw "identifier") with
      | error fault =>
        have hl : ¬ Legible order (field raw "identifier") := by
          rw [← exists_stateIn_iff, hst]
          simp
        have herror : promptOf order (.map raw) = .error (.shape fault) := by
          simp only [promptOf, hid, if_true, promptFields_eq, hst]
          rfl
        rw [herror, fails_error_iff]
        simp [hl, LoadError.isFormat]
      | ok st =>
        have hl : Legible order (field raw "identifier") := exists_stateIn_iff.1 ⟨st, hst⟩
        have hread := promptOf_of_stateIn hid hst
        have hsome : ∀ p, ¬ Fails (.ok (some p) : Except LoadError (Option Prompt)) :=
          fun p => not_fails_ok (some p)
        rw [hread, fails_bind_iff, fails_promptOfFields_iff]
        simp only [hsome, and_false, exists_false, or_false, hl, true_and, forall_const]
        rw [← isSome_asRecord?_stamp_iff raw st]
        cases hrec : asRecord? (stamp (present raw) st) with
        | none => simp
        | some record =>
          constructor
          · rintro (h | ⟨_, faults, _, _, hshort⟩) _
            · cases h
            · exact hshort
          · intro h
            cases hp : Prompt.ofFields record with
            | error faults => exact .inr ⟨record, faults, rfl, hp, h rfl⟩
            | ok p =>
              -- what a prompt was read from has a text for its identifier
              have hok : promptOf order (.map raw) = .ok (some p) := by
                rw [hread, promptOfFields, hrec]
                simp only [hp]
                rfl
              have hshort := isShort_of_asField (asField_identifierOf hok)
              rw [identifierOf, h rfl] at hshort
              cases hshort
  | _ =>
    refine iff_of_false (not_fails_ok _) ?_
    rintro ⟨⟩

/-! ## Entries -/

variable {character : Option Node} {d : Document}

/-- The entries break the loader: the search for the character, or the step into the last entry,
    meets one that is no map. -/
def EntryBreaks (character : Option Node) (entries : List Node) : Prop :=
  match character with
  | some c => ¬ Searchable "character_id" c entries
  | none => ∃ t, entries.getLast? = some t ∧ ∀ fields, t ≠ .map fields

theorem not_entryBreaks_nil (character : Option Node) : ¬ EntryBreaks character [] := by
  cases character with
  | none => simp [EntryBreaks]
  | some c => exact not_not_intro (exists_find_iff.1 ⟨none, rfl⟩)

/-- A selection that finds a place needs a map there. -/
theorem fails_select_of_place {k : Nat} {t : Node} (hne : orders d ≠ [])
    (hk : placeOf character (orders d) = .ok (some k)) (ht : (orders d)[k]? = some t) :
    Fails ((select character d).mapError ofSelectFault) ↔ ∀ fields, t ≠ .map fields := by
  have hempty : (orders d).isEmpty = false := by simpa using hne
  cases t <;>
    simp [select, hempty, hk, ht, List.getD_eq_getElem?_getD, fieldsOf, Except.mapError, bind,
      Except.bind, pure, Except.pure, not_fails_ok, fails_error_iff, LoadError.isFormat,
      ofSelectFault]

theorem fails_select_iff :
    Fails ((select character d).mapError ofSelectFault) ↔ EntryBreaks character (orders d) := by
  by_cases hne : orders d = []
  · rw [select_of_no_orders hne, hne]
    exact iff_of_false (not_fails_ok _) (not_entryBreaks_nil character)
  · cases character with
    | none =>
      have hlast : (orders d)[(orders d).length - 1]? = (orders d).getLast? :=
        List.getLast?_eq_getElem?.symm
      obtain ⟨t, ht⟩ := Option.ne_none_iff_exists'.1 (mt List.getLast?_eq_none_iff.1 hne)
      rw [fails_select_of_place hne rfl (hlast.trans ht), EntryBreaks, ht]
      simp
    | some c =>
      have hempty : (orders d).isEmpty = false := by simpa using hne
      rw [EntryBreaks, ← exists_find_iff]
      cases hf : find "character_id" c (orders d) with
      | error fault =>
        simp [select, hempty, placeOf, hf, Except.mapError, bind, Except.bind, fails_error_iff,
          LoadError.isFormat, ofSelectFault]
      | ok found =>
        cases found with
        | none =>
          simp [select, hempty, placeOf, hf, Except.mapError, bind, Except.bind, fails_error_iff,
            LoadError.isFormat, ofSelectFault]
        | some k =>
          obtain ⟨fields, ht, _⟩ := getElem?_of_find hf
          have hk : placeOf (some c) (orders d) = .ok (some k) := hf
          rw [fails_select_of_place hne hk ht]
          simp

/-! ## Files -/

variable {path : PathName} {autosave : Bool} {text : String}

/-- The data of a file breaks the loader: an entry does, or the first item that is not read. -/
inductive DataBreaks (character : Option Node) (d : Document) : Prop
  | entry (h : EntryBreaks character (orders d))
  | item {d' : Document} {place : Option Nat} {done rest : List Node} {item : Node}
      (hs : select character d = .ok (d', place))
      (hitems : promptItems d' = done ++ item :: rest)
      (hdone : ∀ t ∈ done, ∃ r, promptOf (place.map (orderAt d')) t = .ok r)
      (h : ItemBreaks (place.map (orderAt d')) item)

theorem fails_ofData_iff :
    Fails (ofData path character autosave text d) ↔ DataBreaks character d := by
  have hpure : ∀ r : Loaded × List Note, ¬ Fails (pure r : Except LoadError (Loaded × List Note)) :=
    fun r => not_fails_ok r
  have hselect : ∀ r, (select character d).mapError ofSelectFault = .ok r ↔
      select character d = .ok r := by
    intro r
    cases select character d <;> simp [Except.mapError]
  simp only [ofData, fails_bind_iff, fails_select_iff, hselect, hpure, and_false, exists_false,
    or_false, promptsOf, fails_mapM_iff, fails_promptOf_iff]
  constructor
  · rintro (h | ⟨⟨d', place⟩, hs, done, item, rest, hitems, hdone, h⟩)
    · exact .entry h
    · exact .item hs hitems hdone h
  · rintro (h | ⟨hs, hitems, hdone, h⟩)
    · exact .inl h
    · exact .inr ⟨⟨_, _⟩, hs, _, _, _, hitems, hdone, h⟩

/-- What a text that cannot be read leads to. -/
theorem fails_dataOf_error_iff {format : Format} {e : ReadError} (h : format.read text = .error e) :
    Fails (dataOf format text) ↔ e ≠ .malformed := by
  cases e <;> simp [dataOf, h, fails_error_iff, LoadError.isFormat]

theorem fails_ofText_iff :
    Fails (ofText path character autosave text) ↔
      (∃ e, (Format.ofPath path).read (unified text) = .error e ∧ e ≠ .malformed) ∨
        ∃ d items, (Format.ofPath path).read (unified text) = .ok d ∧
          field d.fields "prompts" = .list items ∧ DataBreaks character d := by
  simp only [ofText, fails_bind_iff, fails_ofData_iff]
  cases hr : (Format.ofPath path).read (unified text) with
  | error e =>
    have hdata : ∀ d, dataOf (Format.ofPath path) (unified text) ≠ .ok d := by
      intro d
      cases e <;> simp [dataOf, hr]
    simp [fails_dataOf_error_iff hr, hdata]
  | ok d =>
    by_cases hi : ∃ items, field d.fields "prompts" = .list items
    · obtain ⟨items, hi⟩ := hi
      have hdata : dataOf (Format.ofPath path) (unified text) = .ok d := by simp [dataOf, hr, hi]
      simp [hdata, not_fails_ok, hi]
    · have hdata : dataOf (Format.ofPath path) (unified text) = .error .noPrompts := by
        simp only [dataOf, hr]
        split
        · exact absurd ⟨_, ‹_›⟩ hi
        · rfl
      rw [not_exists] at hi
      simp [hdata, fails_error_iff, LoadError.isFormat, hi]

/-- What is found under a path breaks the loader. -/
inductive Breaks (path : PathName) (character : Option Node) : FileContent → Prop
  /-- No file can have the name. -/
  | unnameable : Breaks path character .unnameable
  | notText {bytes : ByteArray} (h : String.fromUTF8? bytes = none) :
      Breaks path character (.bytes bytes)
  /-- The text keeps to the rules of its format, but what it writes is no value. -/
  | noValue {bytes : ByteArray} {text : String} {e : ReadError}
      (ht : String.fromUTF8? bytes = some text)
      (hr : (Format.ofPath path).read (unified text) = .error e) (he : e ≠ .malformed) :
      Breaks path character (.bytes bytes)
  | data {bytes : ByteArray} {text : String} {d : Document} {items : List Node}
      (ht : String.fromUTF8? bytes = some text)
      (hr : (Format.ofPath path).read (unified text) = .ok d)
      (hi : field d.fields "prompts" = .list items) (h : DataBreaks character d) :
      Breaks path character (.bytes bytes)

theorem fails_load_bytes_iff {bytes : ByteArray} :
    Fails (load path character autosave (.bytes bytes)) ↔
      ∀ text, String.fromUTF8? bytes = some text → Fails (ofText path character autosave text) := by
  have hread : (FileContent.bytes bytes).read.mapError LoadError.unreadable = .ok bytes := rfl
  cases ht : String.fromUTF8? bytes with
  | none =>
    have hload : load path character autosave (.bytes bytes) = .error .notText := by
      rw [load, hread]
      simp only [bind, Except.bind, ht]
    rw [hload, fails_error_iff]
    simp [LoadError.isFormat]
  | some text =>
    have hload : load path character autosave (.bytes bytes)
        = ofText path character autosave text := by
      rw [load, hread]
      simp only [bind, Except.bind, ht]
    rw [hload]
    simp

/-- **Files that break the loader.** Loading fails otherwise than by telling that the file is no
    preset iff its bytes encode no text, its text keeps to the rules of its format but writes no
    value, or in its data an entry or the first item that is not read breaks the loader. -/
theorem load_breaks_iff (path : PathName) (character : Option Node) (autosave : Bool)
    (content : FileContent) :
    (∃ e, load path character autosave content = .error e ∧ e.isFormat = false) ↔
      Breaks path character content := by
  show Fails (load path character autosave content) ↔ _
  cases content with
  | bytes bytes =>
    rw [fails_load_bytes_iff]
    simp only [fails_ofText_iff]
    constructor
    · intro h
      cases ht : String.fromUTF8? bytes with
      | none => exact .notText ht
      | some text =>
        obtain ⟨e, hr, he⟩ | ⟨d, items, hr, hi, hd⟩ := h text ht
        · exact .noValue ht hr he
        · exact .data ht hr hi hd
    · rintro (_ | h | ⟨ht, hr, he⟩ | ⟨ht, hr, hi, hd⟩) text htext
      · rw [h] at htext
        cases htext
      · cases ht.symm.trans htext
        exact .inl ⟨_, hr, he⟩
      · cases ht.symm.trans htext
        exact .inr ⟨_, _, hr, hi, hd⟩
  | unnameable => exact iff_of_true (fails_error_iff.2 rfl) .unnameable
  | _ =>
    refine iff_of_false (mt fails_error_iff.1 (by decide)) ?_
    rintro ⟨⟩

/-- A byte that begins no character makes the loader fail otherwise. -/
theorem load_strayByte :
    load { root := "", parts := ["preset.json"] } none true (.bytes ⟨#[0xff]⟩) = .error .notText ∧
      LoadError.notText.isFormat = false :=
  ⟨rfl, rfl⟩

/-- A command prints an error line about a file that is told to be no preset, and breaks down on
    any other failure to load. -/
theorem breakdown_unloaded_iff (path : PathName) (e : LoadError) :
    (Command.unloaded path e).breakdown = none ↔ e.isFormat = true := by
  cases e with
  | unreadable fault =>
    cases fault <;>
      simp [Command.unloaded, Command.broken, Command.faulty, LoadError.isFormat]
  | _ => simp [Command.unloaded, Command.broken, Command.faulty, LoadError.isFormat]

end PromptRules.PresetFile
