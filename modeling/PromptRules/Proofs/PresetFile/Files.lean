import PromptRules.Proofs.PresetFile.Traces

/-!
# Files of presets

A preset is loaded from a file that holds a text, whether or not its toggles are written at once. If
they are, a toggle that goes through leaves the text of the new data in the file, and one that fails
leaves the file as it was.

Results:
* `load_of_read`, `exists_text_of_load`: what is loaded is a text that was read as a document.
* `load_autosave`: loading does not depend on when toggles are written.
* `step_set`: what a toggle does, case by case.
* `Step.went_iff`, `Step.text_of_failed`: when a toggle goes through, and what holds if it fails.
* `recorded_of_applies`, `saved_of_applies`: what toggles leave in the data and in the file.
-/

namespace PromptRules.PresetFile

open Data Text

variable {path : PathName} {character : Option Node} {autosave : Bool} {f f' : Loaded}
  {notes : List Note} {e : String} {b : Bool}

/-! ## Loading -/

theorem fromUTF8?_toUTF8 (text : String) : String.fromUTF8? text.toUTF8 = some text :=
  dif_pos text.isValidUTF8

theorem toUTF8_of_fromUTF8? {bytes : ByteArray} {text : String}
    (h : String.fromUTF8? bytes = some text) : bytes = text.toUTF8 := by
  unfold String.fromUTF8? at h
  split at h
  · cases h
    rfl
  · cases h

theorem load_bytes (path : PathName) (character : Option Node) (autosave : Bool) (text : String) :
    load path character autosave (.bytes text.toUTF8) = ofText path character autosave text := by
  simp only [load, FileContent.read, Except.mapError, bind, Except.bind, fromUTF8?_toUTF8]

/-- A text that its reader takes is loaded as a document. -/
theorem load_of_read {text : String} {data : Document}
    (h : (Format.ofPath path).read (unified text) = .ok data) (character : Option Node)
    (autosave : Bool) : load path character autosave (.bytes text.toUTF8) =
      ofDocument path character autosave text data :=
  (load_bytes path character autosave text).trans (ofText_eq h)

/-- A preset knows what it was loaded from. -/
theorem source_of_ofDocument {text : String} {data : Document}
    (h : ofDocument path character autosave text data = .ok (f, notes)) :
    f.path = path ∧ f.autosave = autosave ∧ f.text = text := by
  obtain ⟨_, _, _, _, _, _, hf⟩ := ofDocument_eq_ok h
  rw [hf]
  exact ⟨rfl, rfl, rfl⟩

/-- What is loaded was found as a text, and read as a document. -/
theorem exists_text_of_load {content : FileContent}
    (h : load path character autosave content = .ok (f, notes)) :
    ∃ text data, content = .bytes text.toUTF8 ∧
      (Format.ofPath path).read (unified text) = .ok data ∧
      ofDocument path character autosave text data = .ok (f, notes) := by
  have hbytes : ∃ bytes, content = .bytes bytes := by
    cases content with
    | bytes bytes => exact ⟨bytes, rfl⟩
    | _ => simp [load, FileContent.read, Except.mapError, bind, Except.bind] at h
  obtain ⟨bytes, rfl⟩ := hbytes
  cases hu : String.fromUTF8? bytes with
  | none =>
    have herror : load path character autosave (.bytes bytes) = .error .notText := by
      simp only [load, FileContent.read, Except.mapError, bind, Except.bind, hu]
    cases herror.symm.trans h
  | some text =>
    obtain rfl := toUTF8_of_fromUTF8? hu
    rw [load_bytes] at h
    cases hr : (Format.ofPath path).read (unified text) with
    | error e =>
      simp only [ofText, dataOf, hr, bind, Except.bind] at h
      cases e <;> cases h
    | ok data =>
      rw [ofText_eq hr] at h
      exact ⟨text, data, rfl, hr, h⟩

/-- Whether toggles are written at once does not matter for loading. -/
theorem load_autosave {content : FileContent} (autosave' : Bool)
    (h : load path character autosave content = .ok (f, notes)) :
    load path character autosave' content = .ok ({ f with autosave := autosave' }, notes) := by
  obtain ⟨text, data, rfl, hread, hdoc⟩ := exists_text_of_load h
  obtain ⟨items, read, hitems, hselect, hprompts, hnotes, hf⟩ := ofDocument_eq_ok hdoc
  rw [load_of_read hread, hf]
  simp [ofDocument, hitems, ofData, hselect, hprompts, hnotes, Except.mapError, bind, Except.bind,
    pure, Except.pure]

/-! ## Writing -/

/-- What a toggle does to a preset, and whether it goes through. -/
inductive Step (f : Loaded) (e : String) (b : Bool) : Loaded → Bool → Prop
  | unknown : f.store.toggle? e b = none → Step f e b f false
  /-- The data does not take the state. -/
  | refused {store : Store} {fault : ShapeFault} : f.store.toggle? e b = some store →
      write f.place e b f.data = .error fault → Step f e b { f with store := store } false
  /-- The data takes the state, but cannot be written. -/
  | stuck {store : Store} {data : Document} : f.store.toggle? e b = some store →
      write f.place e b f.data = .ok data → f.autosave = true → data.root.isShort = false →
      Step f e b { f with store := store, data := data } false
  | kept {store : Store} {data : Document} : f.store.toggle? e b = some store →
      write f.place e b f.data = .ok data → f.autosave = false →
      Step f e b { f with store := store, data := data } true
  | saved {store : Store} {data : Document} {text : String} : f.store.toggle? e b = some store →
      write f.place e b f.data = .ok data → f.autosave = true →
      (Format.ofPath f.path).write? data = some text →
      Step f e b { f with store := store, data := data, text := text } true

theorem write?_eq_none_iff {format : Format} {d : Document} :
    format.write? d = none ↔ d.root.isShort = false := by
  unfold Format.write?
  cases d.root.isShort <;> simp

theorem step_toggle (f : Loaded) (e : String) (b : Bool) :
    Step f e b (f.toggle e b).preset (f.toggle e b).fault.isNone := by
  obtain ⟨path, autosave, data₀, place, store₀, text₀⟩ := f
  unfold Loaded.toggle
  simp only
  cases hs : store₀.toggle? e b with
  | none => exact .unknown hs
  | some store =>
    cases hw : write place e b data₀ with
    | error fault => exact .refused hs hw
    | ok data =>
      cases autosave with
      | false => exact .kept hs hw rfl
      | true =>
        simp only [if_true, Loaded.save]
        cases hx : (Format.ofPath path).write? data with
        | some text => exact .saved hs hw rfl hx
        | none => exact .stuck hs hw rfl (write?_eq_none_iff.1 hx)

theorem step_set (f : Loaded) (e : String) (b : Bool) :
    Step f e b (Loaded.set e b f).world (Loaded.set e b f).answer.isOk := by
  have hanswer : (Loaded.set e b f).answer.isOk = (f.toggle e b).fault.isNone := by
    unfold Loaded.set
    simp only
    cases (f.toggle e b).fault <;> rfl
  exact hanswer ▸ step_toggle f e b

namespace Step

variable {went : Bool}

/-- A toggle changes neither the file's name, nor the selected order, nor when toggles are
    written. -/
theorem frame (h : Step f e b f' went) :
    f'.path = f.path ∧ f'.place = f.place ∧ f'.autosave = f.autosave := by
  cases h <;> exact ⟨rfl, rfl, rfl⟩

theorem data (h : Step f e b f' went) :
    f'.data = f.data ∨ write f.place e b f.data = .ok f'.data := by
  cases h with
  | unknown _ => exact .inl rfl
  | refused _ _ => exact .inl rfl
  | stuck _ hw _ _ => exact .inr hw
  | kept _ hw _ => exact .inr hw
  | saved _ hw _ _ => exact .inr hw

/-- A toggle that fails leaves the file as it was. -/
theorem text_of_failed (h : Step f e b f' false) : f'.text = f.text := by
  cases h <;> rfl

/-- A toggle that goes through is recorded in the data. -/
theorem recorded (h : Step f e b f' true) : write f.place e b f.data = .ok f'.data := by
  cases h with
  | kept _ hw _ => exact hw
  | saved _ hw _ _ => exact hw

/-- A toggle that is written at once and goes through leaves the text of the new data. -/
theorem written (h : Step f e b f' true) (ha : f.autosave = true) :
    (Format.ofPath f.path).write? f'.data = some f'.text := by
  cases h with
  | kept _ _ hauto => cases ha.symm.trans hauto
  | saved _ _ _ ht => exact ht

/-- A toggle of a known prompt that is written at once goes through iff the data takes the state and
    can be written with it. -/
theorem went_iff (h : Step f e b f' went) (ha : f.autosave = true)
    (hk : ∃ p ∈ f.store.prompts, p.identifier = e) :
    went = true ↔ ∃ d, write f.place e b f.data = .ok d ∧ d.root.isShort = true := by
  cases h with
  | unknown hs =>
    obtain ⟨p, hp, he⟩ := hk
    exact absurd he (Store.toggle?_eq_none_iff.1 hs p hp)
  | refused _ hw => simp [hw]
  | stuck _ hw _ hd => simp [hw, hd]
  | kept _ _ hauto => cases ha.symm.trans hauto
  | saved _ hw _ ht =>
    refine iff_of_true rfl ⟨_, hw, ?_⟩
    by_contra hd
    rw [write?_eq_none_iff.2 (Bool.eq_false_iff.2 hd)] at ht
    cases ht

end Step

/-! ## Several toggles -/

theorem after_frame (ts : List (String × Bool)) (f : Loaded) :
    (after ts f).path = f.path ∧ (after ts f).place = f.place ∧
      (after ts f).autosave = f.autosave := by
  induction ts generalizing f with
  | nil => exact ⟨rfl, rfl, rfl⟩
  | cons t ts ih =>
    obtain ⟨hpath, hplace, hauto⟩ := (step_toggle f t.1 t.2).frame
    obtain ⟨hpath', hplace', hauto'⟩ := ih (f.toggle t.1 t.2).preset
    exact ⟨hpath'.trans hpath, hplace'.trans hplace, hauto'.trans hauto⟩

theorem after_of_applies {ts : List (String × Bool)} (h : Applies Loaded.set ts f f') :
    after ts f = f' := by
  induction h with
  | nil => rfl
  | cons _ _ ih => exact ih

/-- Toggles that go through are recorded in the data one after the other. -/
theorem recorded_of_applies {ts : List (String × Bool)} (h : Applies Loaded.set ts f f') :
    ts.foldlM (fun d t => write f.place t.1 t.2 d) f.data = .ok f'.data := by
  induction h with
  | nil => rfl
  | @cons t ts f f' hok _ ih =>
    have hstep := step_set f t.1 t.2
    rw [hok] at hstep
    obtain ⟨-, hplace, -⟩ := hstep.frame
    rw [hplace] at ih
    rw [List.foldlM_cons, hstep.recorded]
    exact ih

/-- If toggles are written at once, the file holds the text of the data after them. -/
theorem saved_of_applies {ts : List (String × Bool)} (h : Applies Loaded.set ts f f')
    (ha : f.autosave = true) (hts : ts ≠ []) :
    (Format.ofPath f'.path).write? f'.data = some f'.text := by
  induction h with
  | nil => exact absurd rfl hts
  | @cons t us f f' hok hus ih =>
    have hstep := step_set f t.1 t.2
    obtain ⟨hpath, -, hauto⟩ := hstep.frame
    cases us with
    | nil =>
      cases hus
      rw [hok] at hstep
      rw [hpath]
      exact hstep.written ha
    | cons u us => exact ih (hauto.trans ha) (List.cons_ne_nil u us)

end PromptRules.PresetFile
