import PromptRules.Proofs.PresetFile.Hereditary
import PromptRules.Proofs.PresetFile.Persistence
import PromptRules.Proofs.Store.Replay

/-!
# Traces of toggles that fail

A toggle first switches the prompt, then the data, then writes the file. If the data cannot take the
state, or cannot be written, the prompt is switched all the same. Loading does not look that far: it
takes any order that it can search. Whether toggles that fail leave a trace is settled by the first
one, though: what a toggle writes can be searched, and written, by the next.

Results:
* `exists_write_iff`: which data take the state of a prompt.
* `hereditary_isShort`, `isShort_write`: what a toggle writes makes no integer long.
* `clean_iff`: a toggle cannot fail and leave a trace iff the prompt is not known, or the data takes
  its state and can be written.
* `clean_after`: if no first toggle leaves a trace, then none does after any toggles.
* `trace_of_map`: an order that is a map is loaded, and then takes no toggle.
-/

namespace PromptRules.PresetFile

open Data Text

/-! ## Data that takes a state -/

variable {e x : String} {b c : Bool} {d d' : Document} {place : Option Nat} {k : Nat}

theorem exists_mark_iff {path : Path} {order : Node} :
    (∃ d', mark path e b order d = .ok d') ↔
      ∃ items, order = .list items ∧ ∃ found, find "identifier" (.text e) items = .ok found := by
  constructor
  · rintro ⟨d', h⟩
    obtain ⟨items, hi, ⟨j, hj, _⟩ | ⟨hnone, _⟩⟩ := mark_eq_ok h
    · exact ⟨items, hi, _, hj⟩
    · exact ⟨items, hi, _, hnone⟩
  · rintro ⟨items, rfl, found, hfound⟩
    cases found <;> simp [mark, itemsOf, hfound, bind, Except.bind, pure, Except.pure]

/-- The data takes the state of a prompt if the order in use, if there is one, is a list that can be
    searched for the prompt. -/
def Takes (e : String) (place : Option Nat) (d : Document) : Prop :=
  ∀ k ∈ place, ∃ items, orderAt d k = .list items ∧ Searchable "identifier" (.text e) items

theorem exists_write_iff : (∃ d', write place e b d = .ok d') ↔ Takes e place d := by
  cases place with
  | none => simp [write, Takes]
  | some k =>
    simp only [write, exists_mark_iff, exists_find_iff, Takes, Option.mem_some_iff, forall_eq']

/-- What a toggle writes can be searched for the next prompt. -/
theorem exists_find_of_recorded {items items' : List Node} {id : Node} {found : Option Nat}
    (hr : Recorded e b items items') (h : find "identifier" id items = .ok found) :
    ∃ found', find "identifier" id items' = .ok found' := by
  cases hr with
  | listed hj hf => exact ⟨found, (find_set hf (by simp [hasField, fieldsOf, Except.map])).trans h⟩
  | unlisted hnone =>
    have hnew : hasField "identifier" id (newEntry e b) = .ok (Node.same (.text e) id) := by
      simp [hasField, newEntry, fieldsOf, Except.map, field, Assoc.get?]
    exact ⟨_, find_append h hnew⟩

variable {character : Option Node}

theorem Takes.write (hl : d.links = []) (hs : Selected character d place)
    (h : write place e b d = .ok d') (ht : Takes x place d) : Takes x place d' := by
  cases place with
  | none => exact fun k hk => absurd hk (by simp)
  | some k =>
    obtain ⟨items, items', v, ho, hrec, _, ho', _⟩ := recorded_write hl hs h
    rintro _ ⟨⟩
    obtain ⟨_, hi, hsearch⟩ := ht k rfl
    cases ho.symm.trans hi
    obtain ⟨found, hfound⟩ := exists_find_iff.2 hsearch
    exact ⟨items', ho', exists_find_iff.1 (exists_find_of_recorded hrec hfound)⟩

/-! ## Data that can be written -/

theorem areShort_iff {ts : List Node} : Node.areShort ts = true ↔ ∀ t ∈ ts, t.isShort = true := by
  induction ts with
  | nil => simp [Node.areShort]
  | cons t ts ih => simp [Node.areShort, ih]

theorem areShortEntries_iff {fields : Fields} :
    Node.areShortEntries fields = true ↔
      ∀ e ∈ fields, Node.keyIsShort e.1 = true ∧ e.2.isShort = true := by
  induction fields with
  | nil => simp [Node.areShortEntries]
  | cons e fields ih => simp [Node.areShortEntries, ih, and_assoc]

/-- The keys are no integers that are too long. -/
theorem hereditary_isShort :
    Node.Hereditary (fun ks => ∀ k ∈ ks, Node.keyIsShort k = true)
      (fun _ t => t.isShort = true) where
  bool _ := rfl
  text _ := rfl
  list_iff := areShort_iff
  map_iff {_ fields} := by
    rw [Node.isShort, areShortEntries_iff, Assoc.keys, List.forall_mem_map]
    exact forall₂_and
  keys_nil := List.forall_mem_nil _
  keys_concat hks _ := List.forall_mem_append.2 ⟨hks, List.forall_mem_singleton.2 rfl⟩

/-- A toggle writes a truth value and at most an identifier. -/
theorem isShort_write (hl : d.links = []) (hd : d.root.isShort = true)
    (h : write place e b d = .ok d') : d'.root.isShort = true := by
  have hshort : d.Has (fun _ t => t.isShort = true) 5 := ⟨hl, hd⟩
  exact (hshort.write hereditary_isShort h).root

/-! ## Toggles that fail -/

variable {f : Loaded}

/-- The toggle goes through, or it leaves prompts, log and data as they were. -/
def Clean (f : Loaded) (e : String) (b : Bool) : Prop :=
  (f.toggle e b).fault ≠ none →
    (f.toggle e b).preset.store = f.store ∧ (f.toggle e b).preset.data = f.data

theorem toggle_of_ok {store : Store} (hs : f.store.toggle? e b = some store)
    (hw : write f.place e b f.data = .ok d) :
    (f.toggle e b).preset.data = d ∧ (f.toggle e b).preset.store = store ∧
      (f.toggle e b).preset.place = f.place ∧ (f.toggle e b).preset.autosave = f.autosave ∧
      ((f.toggle e b).fault = none ↔ (f.autosave = true → d.root.isShort = true)) := by
  unfold Loaded.toggle
  rw [hs]
  simp only [hw]
  cases f.autosave with
  | false => simp
  | true => cases hd : d.root.isShort <;> simp [hd, Loaded.save, Format.write?]

/-- A toggle of a known prompt is clean iff it goes through. -/
theorem clean_iff_write {store : Store} (hs : f.store.toggle? e b = some store) :
    Clean f e b ↔
      ∃ d, write f.place e b f.data = .ok d ∧ (f.autosave = true → d.root.isShort = true) := by
  cases hw : write f.place e b f.data with
  | error fault =>
    have hstore : (f.toggle e b).preset.store = store := by simp [Loaded.toggle, hs, hw]
    have hfault : (f.toggle e b).fault ≠ none := by simp [Loaded.toggle, hs, hw]
    refine iff_of_false (fun hc => ?_) (by simp)
    exact Store.ne_of_toggle? hs (hstore.symm.trans (hc hfault).1)
  | ok d =>
    obtain ⟨_, hstore, _, _, hfault⟩ := toggle_of_ok hs hw
    have hclean : Clean f e b ↔ (f.toggle e b).fault = none := by
      refine ⟨fun hc => by_contra fun hne => ?_, fun hnone hne => absurd hnone hne⟩
      exact Store.ne_of_toggle? hs (hstore.symm.trans (hc hne).1)
    rw [hclean, hfault]
    simp

theorem clean_of_unknown (h : ∀ p ∈ f.store.prompts, p.identifier ≠ e) (b : Bool) :
    Clean f e b := by
  intro _
  rw [Loaded.toggle_of_unknown b (Store.toggle?_eq_none_iff.2 h)]
  exact ⟨rfl, rfl⟩

/-- **Traces of failing toggles.** A toggle leaves no trace where it fails iff the prompt is not
    known, or the data takes its state and, if the file is written at once, can be written. -/
theorem clean_iff (f : Loaded) (e : String) (b : Bool) :
    Clean f e b ↔
      ((∃ p ∈ f.store.prompts, p.identifier = e) →
        Takes e f.place f.data ∧
          (f.autosave = true → (f.toggle e b).preset.data.root.isShort = true)) := by
  cases hs : f.store.toggle? e b with
  | none =>
    have hunknown := Store.toggle?_eq_none_iff.1 hs
    refine iff_of_true (clean_of_unknown hunknown b) ?_
    rintro ⟨p, hp, he⟩
    exact absurd he (hunknown p hp)
  | some store =>
    have hknown := (Store.toggle?_eq_some_iff.1 hs).1
    rw [clean_iff_write hs, forall_prop_of_true hknown, ← exists_write_iff (b := b)]
    constructor
    · rintro ⟨d, hw, hshort⟩
      rw [(toggle_of_ok hs hw).1]
      exact ⟨⟨d, hw⟩, hshort⟩
    · rintro ⟨⟨d, hw⟩, hshort⟩
      rw [(toggle_of_ok hs hw).1] at hshort
      exact ⟨d, hw, hshort⟩

/-! ## Toggles in a row -/

/-- The preset after toggles, some of which may have failed. -/
def after (ts : List (String × Bool)) (f : Loaded) : Loaded :=
  ts.foldl (fun f t => (f.toggle t.1 t.2).preset) f

/-- A preset without links whose order list is selected, and of which no toggle can fail and leave a
    trace. -/
structure Sound (character : Option Node) (f : Loaded) : Prop where
  links : f.data.links = []
  selected : Selected character f.data f.place
  clean : ∀ e b, Clean f e b

/-- The next toggle finds what the first one would have found. -/
theorem Sound.toggle (h : Sound character f) (e : String) (b : Bool) :
    Sound character (f.toggle e b).preset := by
  cases hs : f.store.toggle? e b with
  | none => rwa [Loaded.toggle_of_unknown b hs]
  | some store =>
    obtain ⟨d, hw, hshort⟩ := (clean_iff_write hs).1 (h.clean e b)
    obtain ⟨hdata, hstore, hplace, hauto, _⟩ := toggle_of_ok hs hw
    obtain ⟨hl, hsel⟩ := selected_write h.links h.selected hw
    refine ⟨by rw [hdata, hl], by rwa [hdata, hplace], fun x c => ?_⟩
    cases hx : (f.toggle e b).preset.store.toggle? x c with
    | none => exact clean_of_unknown (Store.toggle?_eq_none_iff.1 hx) c
    | some store' =>
      rw [hstore] at hx
      obtain ⟨store₀, hx₀⟩ := Store.exists_toggle?_of_toggle? hs hx
      obtain ⟨d₀, hw₀, _⟩ := (clean_iff_write hx₀).1 (h.clean x c)
      have htakes : Takes x f.place f.data := exists_write_iff.1 ⟨d₀, hw₀⟩
      obtain ⟨d', hw'⟩ := exists_write_iff (b := c).2 (htakes.write h.links h.selected hw)
      rw [← hstore] at hx
      refine (clean_iff_write hx).2 ⟨d', by rwa [hplace, hdata], fun ha => ?_⟩
      rw [hauto] at ha
      exact isShort_write hl (hshort ha) hw'

theorem Sound.after (h : Sound character f) (ts : List (String × Bool)) :
    Sound character (after ts f) := by
  induction ts generalizing f with
  | nil => exact h
  | cons t ts ih => exact ih (h.toggle t.1 t.2)

variable {path : PathName} {autosave : Bool} {text : String} {notes : List Note}

/-- **The first toggle tells.** If no toggle of a preset that was loaded, without links, can fail
    and leave a trace, then none can after any other toggles, failed ones among them. -/
theorem clean_after (hl : d.links = [])
    (h : ofDocument path character autosave text d = .ok (f, notes)) :
    (∀ ts e b, Clean (after ts f) e b) ↔ ∀ e b, Clean f e b := by
  obtain ⟨_, _, _, hs, _, _, _⟩ := ofDocument_eq_ok h
  obtain ⟨_, hd, hsel⟩ := selected_of_select hl hs
  constructor
  · intro hall
    exact hall []
  · intro hc ts
    have hsound : Sound character f := ⟨hd.links, hsel, hc⟩
    exact (hsound.after ts).clean

/-- A preset whose only order is a map. -/
def mapData : Document where
  root := .map
    [("prompts", .list [.map [("identifier", .text "a")]]),
     ("prompt_order", .list [.map [("order", .map [])]])]

/-- The preset loads, and then the toggle of its prompt fails after prompt and log have it. -/
theorem trace_of_map :
    ∃ notes f, ofDocument { root := "", parts := ["preset.json"] } none true "" mapData
        = .ok (f, notes) ∧
      f.store = { prompts := [{ identifier := "a" }] } ∧
      (f.toggle "a" true).fault = some (.shape .notList) ∧
      (f.toggle "a" true).preset.store
        = { prompts := [{ identifier := "a", enabled := true }], toggles := [("a", true)] } :=
  ⟨_, _, rfl, rfl, rfl, rfl⟩

end PromptRules.PresetFile
