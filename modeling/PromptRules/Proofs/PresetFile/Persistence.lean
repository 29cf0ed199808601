import PromptRules.Proofs.PresetFile.Reading
import PromptRules.Proofs.Session.ToggleFlow

/-!
# Toggles outlive the session

What a preset holds after any number of toggles loads again as the prompts that the session had at
the end. The invariant has three parts: the data has no links and selects the order list that is
in use, every item is read as the prompt that the store has for it, and no two prompts share an
identifier. Each toggle that goes through switches one prompt in the store and, by what it writes,
the same prompt as the data tells it.

The one exception is an identifier that a file holds as bytes. It is read as the text that it
spells, and by that text a toggle searches the data in vain.

Results:
* `InStep.reload`: data in step with the store loads as the prompts of the store.
* `InStep.set`: a toggle that goes through keeps data and store in step.
* `reload_of_applies`: a preset loads again as its toggles left it.
* `reload_of_saved`: so does its file, if what was written to it is read back.
-/

namespace PromptRules.PresetFile

open Data Text

/-! ## Loading -/

/-- Loads a preset from what its file holds. -/
def ofDocument (path : PathName) (character : Option Node) (autosave : Bool) (text : String)
    (data : Document) : Except LoadError (Loaded × List Note) :=
  match field data.fields "prompts" with
  | .list _ => ofData path character autosave text data
  | _ => .error .noPrompts

variable {path : PathName} {character : Option Node} {autosave : Bool} {text : String}
  {data : Document}

theorem ofText_eq (h : (Format.ofPath path).read (unified text) = .ok data) :
    ofText path character autosave text = ofDocument path character autosave text data := by
  simp only [ofText, dataOf, ofDocument, h, bind, Except.bind]
  cases field data.fields "prompts" <;> rfl

theorem mapM_eq_ok_iff {ε α β : Type} {f : α → Except ε β} {xs : List α} {ys : List β} :
    xs.mapM f = .ok ys ↔ List.Forall₂ (fun x y => f x = .ok y) xs ys := by
  induction xs generalizing ys with
  | nil => cases ys <;> simp [pure, Except.pure]
  | cons x xs ih =>
    rw [List.mapM_cons]
    cases hx : f x with
    | error e => cases ys <;> simp [hx, bind, Except.bind]
    | ok y =>
      cases hxs : xs.mapM f with
      | error e => cases ys <;> simp [hx, ← ih, hxs, bind, Except.bind]
      | ok zs => cases ys <;> simp [hx, ← ih, hxs, bind, Except.bind, pure, Except.pure]

/-- Loading is selecting an order list and reading the items. -/
theorem ofDocument_eq_ok {f : Loaded} {notes : List Note}
    (h : ofDocument path character autosave text data = .ok (f, notes)) :
    ∃ items read, field data.fields "prompts" = .list items ∧
      select character data = .ok (f.data, f.place) ∧ promptsOf f.place f.data = .ok read ∧
      loadNotes path read = notes ∧
      f = { path := path, autosave := autosave, data := f.data, place := f.place
            store := { prompts := read.filterMap id }, text := text } := by
  unfold ofDocument at h
  split at h
  · rename_i items hitems
    cases hs : select character data with
    | error fault => simp [ofData, hs, Except.mapError, bind, Except.bind] at h
    | ok found =>
      obtain ⟨d, place⟩ := found
      cases hr : promptsOf place d with
      | error e => simp [ofData, hs, hr, Except.mapError, bind, Except.bind] at h
      | ok read =>
        simp only [ofData, hs, hr, Except.mapError, bind, Except.bind, pure, Except.pure] at h
        cases h
        exact ⟨items, read, hitems, rfl, hr, rfl, rfl⟩
  · cases h

theorem ofDocument_of_selected {place : Option Nat} {items : List Node}
    {read : List (Option Prompt)} (hi : field data.fields "prompts" = .list items)
    (hs : Selected character data place) (hr : promptsOf place data = .ok read) :
    ofDocument path character autosave text data
      = .ok ({ path := path, autosave := autosave, data := data, place := place
               store := { prompts := read.filterMap id }, text := text },
          loadNotes path read) := by
  simp [ofDocument, hi, ofData, select_of_selected hs, hr, Except.mapError, bind, Except.bind, pure,
    Except.pure]

/-! ## Items and prompts in step -/

/-- An item is read as this, and has the identifier of the prompt as a text if that is one of
    `es`. -/
structure Reads (es : List String) (order : Option Node) (item : Node) (r : Option Prompt) :
    Prop where
  ok : promptOf order item = .ok r
  named : ∀ p, r = some p → ∀ e ∈ es,
    ((identifierOf item).same (.text e) = true ↔ p.identifier = e)

variable {es : List String} {e : String} {b : Bool} {item : Node} {r : Option Prompt}

theorem Reads.recorded {items items' : List Node} (h : Reads es (some (.list items)) item r)
    (hr : Recorded e b items items') :
    Reads es (some (.list items')) item (r.map (given e b item)) := by
  cases r with
  | none => exact ⟨promptOf_eq_none_iff.2 (promptOf_eq_none_iff.1 h.ok), fun p hp => by cases hp⟩
  | some p =>
    refine ⟨promptOf_recorded hr h.ok, ?_⟩
    rintro _ ⟨⟩ x hx
    rw [identifier_given]
    exact h.named p rfl x hx

theorem Reads.markItem (h : Reads es none item r) :
    Reads es none (markItem e b item) (r.map (given e b item)) := by
  cases r with
  | none =>
    refine ⟨promptOf_eq_none_iff.2 ?_, fun p hp => by cases hp⟩
    rw [identifierOf_markItem]
    exact promptOf_eq_none_iff.1 h.ok
  | some p =>
    refine ⟨promptOf_markItem h.ok, ?_⟩
    rintro _ ⟨⟩ x hx
    rw [identifier_given, identifierOf_markItem]
    exact h.named p rfl x hx

theorem Reads.map_given {order : Option Node} (h : Reads es order item r) (he : e ∈ es) :
    r.map (given e b item) = r.map (Prompt.switch e b) := by
  cases r with
  | none => rfl
  | some p => exact congrArg some (given_eq_switch (h.named p rfl e he))

/-- What is read from the items of a preset without links, after a toggle was written. -/
theorem exists_reads_write {d d' : Document} {place : Option Nat} {items : List Node}
    {read : List (Option Prompt)} (hl : d.links = []) (hs : Selected character d place)
    (hi : field d.fields "prompts" = .list items)
    (hr : List.Forall₂ (Reads es (place.map (orderAt d))) items read)
    (hw : write place e b d = .ok d') :
    ∃ items', field d'.fields "prompts" = .list items' ∧
      List.Forall₂ (Reads es (place.map (orderAt d'))) items'
        (List.zipWith (fun item r => r.map (given e b item)) items read) := by
  cases place with
  | none =>
    -- every item is marked on its own, so the prompts follow one by one
    have hd := onlyField_markPrompts (e := e) (b := b) [] items hl hi
    rw [write, promptItems, hi] at hw
    cases hw
    refine ⟨_, hd.self, ?_⟩
    change List.Forall₂ (Reads es none) items read at hr
    change List.Forall₂ (Reads es none) (items.map (markItem e b)) _
    clear hd hi
    induction hr with
    | nil => exact .nil
    | cons h _ ih => exact .cons h.markItem ih
  | some k =>
    -- the items stay; what the order list says of one identifier has changed
    obtain ⟨entries, entries', v, ho, hrec, hd, ho', -⟩ := recorded_write hl hs hw
    refine ⟨items, (hd.others (by decide)).trans hi, ?_⟩
    rw [Option.map_some, ho']
    rw [Option.map_some, ho] at hr
    clear hi
    induction hr with
    | nil => exact .nil
    | cons h _ ih => exact .cons (h.recorded hrec) ih

theorem filterMap_map_switch (read : List (Option Prompt)) (g : Prompt → Prompt) :
    (read.map (Option.map g)).filterMap id = (read.filterMap id).map g := by
  rw [List.filterMap_map, List.map_filterMap]
  rfl

/-- The notes tell how many items were read and how many were not. -/
theorem loadNotes_map (path : PathName) (read : List (Option Prompt)) (g : Prompt → Prompt) :
    loadNotes path (read.map (Option.map g)) = loadNotes path read := by
  have hnone : Option.isNone ∘ Option.map g = Option.isNone := by
    funext r
    cases r <;> rfl
  simp only [loadNotes, filterMap_map_switch, List.length_map, List.filter_map, hnone,
    List.map_map, Function.comp_def]

/-! ## Data and store in step -/

/-- What a preset holds loads as the prompts of its store, with these notes, and toggles of the
    identifiers in `es` find what they are about. -/
structure InStep (es : List String) (character : Option Node) (notes : List Note) (f : Loaded) :
    Prop where
  links : f.data.links = []
  selected : Selected character f.data f.place
  distinct : Distinct f.store.prompts
  read : ∃ items read, field f.data.fields "prompts" = .list items ∧
    List.Forall₂ (Reads es (f.place.map (orderAt f.data))) items read ∧
    f.store.prompts = read.filterMap id ∧ loadNotes f.path read = notes

variable {f f' : Loaded} {notes : List Note}

theorem InStep.reload (h : InStep es character notes f) (text : String) :
    ofDocument f.path character f.autosave text f.data
      = .ok ({ f with store := { prompts := f.store.prompts }, text := text }, notes) := by
  obtain ⟨items, read, hi, hr, hp, hn⟩ := h.read
  have hread : promptsOf f.place f.data = .ok read := by
    rw [promptsOf, promptItems, hi]
    exact mapM_eq_ok_iff.2 (hr.imp fun _ _ hr => hr.ok)
  rw [ofDocument_of_selected hi h.selected hread, hn, ← hp]

/-- What is read from the items of a preset without links when it is loaded. -/
theorem exists_reads_of_load (hl : data.links = [])
    (hb : ∀ e ∈ es, ∀ item ∈ promptItems data, ¬ SpelledInBytes e item)
    (h : ofDocument path character autosave text data = .ok (f, notes)) :
    f.data.links = [] ∧ Selected character f.data f.place ∧
      ∃ items read, field f.data.fields "prompts" = .list items ∧
        List.Forall₂ (Reads es (f.place.map (orderAt f.data))) items read ∧
        f.store.prompts = read.filterMap id ∧ loadNotes f.path read = notes := by
  obtain ⟨items, read, hi, hs, hr, hn, hf⟩ := ofDocument_eq_ok h
  have hpath : f.path = path := by rw [hf]
  have hp : f.store.prompts = read.filterMap id := by rw [hf]
  obtain ⟨v, hv, hsel⟩ := selected_of_select hl hs
  have hi' : field f.data.fields "prompts" = .list items := (hv.others (by decide)).trans hi
  rw [promptsOf, promptItems, hi', mapM_eq_ok_iff] at hr
  have hspelled : ∀ item ∈ items, ∀ e ∈ es, ¬ SpelledInBytes e item := by
    rw [promptItems, hi] at hb
    exact fun item hitem e he => hb e he item hitem
  have hreads : List.Forall₂ (Reads es (f.place.map (orderAt f.data))) items read := by
    refine (List.forall₂_and_left _ _ |>.2 ⟨hspelled, hr⟩).imp ?_
    rintro item r ⟨hitem, hok⟩
    exact ⟨hok, fun p hp e he => same_identifierOf_iff (hp ▸ hok) (hitem e he)⟩
  exact ⟨hv.links, hsel, items, read, hi', hreads, hp, hpath ▸ hn⟩

theorem inStep_of_load (hl : data.links = [])
    (hb : ∀ e ∈ es, ∀ item ∈ promptItems data, ¬ SpelledInBytes e item)
    (h : ofDocument path character autosave text data = .ok (f, notes))
    (hd : Distinct f.store.prompts) : InStep es character notes f := by
  obtain ⟨hlinks, hsel, hread⟩ := exists_reads_of_load hl hb h
  exact ⟨hlinks, hsel, hd, hread⟩

/-! ## Toggles -/

/-- Saving, or leaving that to the caller, changes the file only. -/
theorem exists_text (f : Loaded) :
    ∃ text, (if f.autosave then f.save else (true, f)).2 = { f with text := text } := by
  unfold Loaded.save
  split
  · split <;> exact ⟨_, rfl⟩
  · exact ⟨_, rfl⟩

/-- A toggle that goes through has changed store and data, and the file at most beside them. -/
theorem exists_of_set_ok (h : (Loaded.set e b f).answer = .ok ()) :
    ∃ store data text, f.store.toggle? e b = some store ∧ write f.place e b f.data = .ok data ∧
      (Loaded.set e b f).world = { f with store := store, data := data, text := text } := by
  unfold Loaded.set Loaded.toggle at h ⊢
  cases ht : f.store.toggle? e b with
  | none => simp [ht] at h
  | some store =>
    cases hw : write f.place e b f.data with
    | error fault => simp [ht, hw] at h
    | ok data =>
      obtain ⟨text, htext⟩ := exists_text { f with store := store, data := data }
      exact ⟨store, data, text, rfl, rfl, by simpa [ht, hw] using htext⟩

theorem prompts_of_toggle? {s s' : Store} (hd : Distinct s.prompts) (h : s.toggle? e b = some s') :
    s'.prompts = s.prompts.map (Prompt.switch e b) := by
  have hset := Store.set_prompts hd e b
  rwa [Store.set, h] at hset

/-- The store has switched its prompts as the toggles say. -/
theorem prompts_of_applies {ts : List (String × Bool)} (hd : Distinct f.store.prompts)
    (hts : Applies Loaded.set ts f f') :
    f'.store.prompts = f.store.prompts.map (Prompt.switchAll ts) := by
  induction hts with
  | nil => exact (List.map_id _).symm
  | @cons t ts f f' hok _ ih =>
    obtain ⟨store, d, text, hstore, _, hworld⟩ := exists_of_set_ok hok
    have hprompts := prompts_of_toggle? hd hstore
    rw [hworld] at ih
    rw [ih (hprompts ▸ hd.map (Prompt.identifier_switch t.1 t.2)), hprompts, List.map_map]
    rfl

theorem InStep.set (h : InStep es character notes f) (he : e ∈ es)
    (hok : (Loaded.set e b f).answer = .ok ()) :
    InStep es character notes (Loaded.set e b f).world := by
  obtain ⟨store, d, text, hstore, hwrite, hworld⟩ := exists_of_set_ok hok
  obtain ⟨items, read, hi, hr, hp, hn⟩ := h.read
  have hprompts := prompts_of_toggle? h.distinct hstore
  have hdistinct : Distinct store.prompts :=
    hprompts ▸ h.distinct.map (Prompt.identifier_switch e b)
  have hread : store.prompts = (read.map (Option.map (Prompt.switch e b))).filterMap id := by
    rw [hprompts, hp, filterMap_map_switch]
  have hnotes : loadNotes f.path (read.map (Option.map (Prompt.switch e b))) = notes :=
    (loadNotes_map _ _ _).trans hn
  have hswitched : List.zipWith (fun item r => r.map (given e b item)) items read =
      read.map (Option.map (Prompt.switch e b)) := by
    clear hi hp hn hread hnotes
    induction hr with
    | nil => rfl
    | cons hr _ ih => rw [List.zipWith_cons_cons, List.map_cons, hr.map_given he, ih]
  obtain ⟨items', hi', hr'⟩ := exists_reads_write h.links h.selected hi hr hwrite
  obtain ⟨hl', hs'⟩ := selected_write h.links h.selected hwrite
  rw [hswitched] at hr'
  rw [hworld]
  exact ⟨hl', hs', hdistinct, items', _, hi', hr', hread, hnotes⟩

theorem InStep.applies {ts : List (String × Bool)} (h : InStep es character notes f)
    (ht : ∀ t ∈ ts, t.1 ∈ es) (hts : Applies Loaded.set ts f f') :
    InStep es character notes f' := by
  induction hts with
  | nil => exact h
  | cons hok _ ih =>
    exact ih (h.set (ht _ List.mem_cons_self) hok) fun t htm => ht t (List.mem_cons_of_mem _ htm)

theorem inStep_of_applies {ts : List (String × Bool)} (hl : data.links = [])
    (hb : ∀ t ∈ ts, ∀ item ∈ promptItems data, ¬ SpelledInBytes t.1 item)
    (h : ofDocument path character autosave text data = .ok (f, notes))
    (hd : Distinct f.store.prompts) (hts : Applies Loaded.set ts f f') :
    InStep (ts.map Prod.fst) character notes f' := by
  have hb' : ∀ e ∈ ts.map Prod.fst, ∀ item ∈ promptItems data, ¬ SpelledInBytes e item := by
    intro e he
    obtain ⟨t, ht, rfl⟩ := List.mem_map.1 he
    exact hb t ht
  exact (inStep_of_load hl hb' h hd).applies (fun t ht => List.mem_map_of_mem ht) hts

/-- The file of a preset loads as the prompts of the store, if the reader of its format gives back
    what was written to it. -/
theorem reload_of_saved {ts : List (String × Bool)} (hl : data.links = [])
    (hb : ∀ t ∈ ts, ∀ item ∈ promptItems data, ¬ SpelledInBytes t.1 item)
    (h : ofDocument path character autosave text data = .ok (f, notes))
    (hd : Distinct f.store.prompts) (hts : Applies Loaded.set ts f f')
    (hread : (Format.ofPath f'.path).read (unified f'.text) = .ok f'.data) :
    ofText f'.path character f'.autosave f'.text
      = .ok ({ f' with store := { prompts := f'.store.prompts } }, notes) := by
  rw [ofText_eq hread]
  exact (inStep_of_applies hl hb h hd hts).reload f'.text

/-- **Presets keep their toggles.** After any toggles that went through, the store has the prompts
    that the toggles leave, and what the preset holds loads as these prompts again. -/
theorem reload_of_applies {ts : List (String × Bool)} (hl : data.links = [])
    (hb : ∀ t ∈ ts, ∀ item ∈ promptItems data, ¬ SpelledInBytes t.1 item)
    (h : ofDocument path character autosave text data = .ok (f, notes))
    (hd : Distinct f.store.prompts) (hts : Applies Loaded.set ts f f') (text' : String) :
    f'.store.prompts = f.store.prompts.map (Prompt.switchAll ts) ∧
      ofDocument f'.path character f'.autosave text' f'.data
        = .ok ({ f' with store := { prompts := f'.store.prompts }, text := text' }, notes) := by
  have hstep : InStep (ts.map Prod.fst) character notes f' := inStep_of_applies hl hb h hd hts
  exact ⟨prompts_of_applies hd hts, hstep.reload text'⟩

/-- Two characters, of which the second lists one of two prompts. -/
def shelfData : Document where
  root := .map
    [("prompts", .list
      [.map [("identifier", .text "tea"), ("content", .text "Tea."), ("enabled", .bool true)],
       .map [("name", .text "No identifier")],
       .map [("identifier", .text "milk"), ("enabled", .null), ("marker", .bool true)]]),
     ("prompt_order", .list
      [.map [("character_id", .int 1), ("order", .null)],
       .map [("character_id", .int 2),
         ("order", .list [.map [("identifier", .text "milk"), ("enabled", .bool false)]])]])]

def shelf : Loaded where
  path := { root := "", parts := ["shelf.json"] }
  autosave := false
  data := shelfData
  place := some 1
  store := { prompts := [{ identifier := "tea", content := "Tea.", enabled := true },
    { identifier := "milk" }] }
  text := ""

theorem reload_of_applies_shelf :
    ∃ notes f, ofDocument shelf.path (some (.int 2)) false "" shelfData = .ok (shelf, notes) ∧
      Applies Loaded.set [("tea", false), ("milk", true)] shelf f ∧
      f.store.prompts = [{ identifier := "tea", content := "Tea." },
        { identifier := "milk", enabled := true }] ∧
      ofDocument f.path (some (.int 2)) f.autosave "" f.data
        = .ok ({ f with store := { prompts := f.store.prompts }, text := "" }, notes) := by
  have hload : ofDocument shelf.path (some (.int 2)) false "" shelfData
      = .ok (shelf, loadNotes shelf.path [none, some { identifier := "tea" },
          some { identifier := "milk" }]) := rfl
  have happ : Applies Loaded.set [("tea", false), ("milk", true)] shelf
      (Loaded.set "milk" true (Loaded.set "tea" false shelf).world).world :=
    .cons rfl (.cons rfl (.nil _))
  have hdistinct : Distinct shelf.store.prompts := List.nodup_iff_pairwise_ne.2 (by decide)
  refine ⟨_, _, hload, happ, reload_of_applies rfl ?_ hload hdistinct happ ""⟩
  -- every identifier of the shelf is a text
  rintro t - item hitem ⟨bytes, hbytes, -⟩
  obtain ⟨⟩ | ⟨_, ⟨⟩ | ⟨_, ⟨⟩ | ⟨_, ⟨⟩⟩⟩⟩ := hitem <;> cases hbytes

def bytesData : Document where
  root := .map [("prompts", .list [.map [("identifier", .bytes [97, 98, 99])]])]

def bytesLoaded : Loaded where
  path := { root := "", parts := ["preset.yaml"] }
  autosave := true
  data := bytesData
  place := none
  store := { prompts := [{ identifier := "abc" }] }
  text := ""

/-- The toggle of a prompt whose identifier is spelled in bytes goes through, but the data does not
    have it. -/
theorem forgotten_of_bytes :
    ∃ notes f f', ofDocument bytesLoaded.path none true "" bytesData = .ok (bytesLoaded, notes) ∧
      Distinct bytesLoaded.store.prompts ∧ Applies Loaded.set [("abc", true)] bytesLoaded f ∧
      ofDocument f.path none f.autosave f.text f.data = .ok (f', notes) ∧
      f.store.prompts = [{ identifier := "abc", enabled := true }] ∧
      f'.store.prompts = [{ identifier := "abc" }] :=
  ⟨loadNotes bytesLoaded.path [some { identifier := "abc" }],
    (Loaded.set "abc" true bytesLoaded).world,
    { (Loaded.set "abc" true bytesLoaded).world with store := bytesLoaded.store },
    rfl, List.nodup_singleton _, .cons rfl (.nil _), rfl, rfl, rfl⟩

end PromptRules.PresetFile
