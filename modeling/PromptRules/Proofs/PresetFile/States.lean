import PromptRules.Proofs.PresetFile.Files

/-!
# The state of a prompt in the data

Toggles may fail on the way, and store and data may then tell different states. Whatever has failed,
the data can be loaded, and the last toggle of a prompt that goes through is what loading finds,
unless the identifier is spelled in bytes.

Results:
* `Tells.toggle`, `Tells.after`: toggles, failed ones among them, leave data that can be loaded.
* `Tells.shows_of_step`: what loading finds after a toggle that went through.
-/

namespace PromptRules.PresetFile

open Data Text

variable {e x : String} {b : Bool} {character : Option Node} {f f' : Loaded}

/-- Loading finds a prompt, in this state. -/
def Shows (e : String) (b : Bool) (loaded : Except LoadError (Loaded × List Note)) : Prop :=
  ∃ f notes, loaded = .ok (f, notes) ∧ (∃ p ∈ f.store.prompts, p.identifier = e) ∧
    ∀ p ∈ f.store.prompts, p.identifier = e → p.enabled = b

/-- The data of a preset has no links, and loads as prompts among which is one with the identifier
    `e`; a toggle of `e` finds the items that they are read from. -/
structure Tells (e : String) (character : Option Node) (f : Loaded) : Prop where
  links : f.data.links = []
  selected : Selected character f.data f.place
  read : ∃ items read, field f.data.fields "prompts" = .list items ∧
    List.Forall₂ (Reads [e] (f.place.map (orderAt f.data))) items read ∧
    ∃ p, some p ∈ read ∧ p.identifier = e

variable {path : PathName} {autosave : Bool} {text : String} {data : Document} {notes : List Note}

theorem tells_of_load (hl : data.links = [])
    (hb : ∀ item ∈ promptItems data, ¬ SpelledInBytes e item)
    (h : ofDocument path character autosave text data = .ok (f, notes))
    (hk : ∃ p ∈ f.store.prompts, p.identifier = e) : Tells e character f := by
  have hspelled : ∀ x ∈ [e], ∀ item ∈ promptItems data, ¬ SpelledInBytes x item := by
    simpa using hb
  obtain ⟨hlinks, hsel, items, read, hi, hr, hprompts, -⟩ := exists_reads_of_load hl hspelled h
  obtain ⟨p, hp, he⟩ := hk
  rw [hprompts, List.mem_filterMap] at hp
  obtain ⟨_, hp, rfl⟩ := hp
  exact ⟨hlinks, hsel, items, read, hi, hr, p, hp, he⟩

/-! ## Toggles -/

section Given

variable {order : Option Node} {items : List Node} {read : List (Option Prompt)} {p q : Prompt}

/-- A prompt that was read before a toggle is read after it. -/
theorem exists_given_of_mem (hr : List.Forall₂ (Reads [e] order) items read) (hp : some p ∈ read) :
    ∃ item, some (given x b item p) ∈
      List.zipWith (fun item r => r.map (given x b item)) items read := by
  induction hr with
  | nil => cases hp
  | @cons item r items read _ _ ih =>
    rcases List.mem_cons.1 hp with rfl | hp
    · exact ⟨item, List.mem_cons_self⟩
    · obtain ⟨item, hitem⟩ := ih hp
      exact ⟨item, List.mem_cons_of_mem _ hitem⟩

/-- A prompt that is read after a toggle was read before it, from an item that tells whether the
    toggle is about it. -/
theorem exists_of_mem_given (hr : List.Forall₂ (Reads [e] order) items read)
    (hq : some q ∈ List.zipWith (fun item r => r.map (given x b item)) items read) :
    ∃ item p, Reads [e] order item (some p) ∧ q = given x b item p := by
  induction hr with
  | nil => cases hq
  | @cons item r items read h _ ih =>
    rcases List.mem_cons.1 hq with hq | hq
    · obtain ⟨p, rfl, rfl⟩ := Option.map_eq_some_iff.1 hq.symm
      exact ⟨item, p, h, rfl⟩
    · exact ih hq

end Given

theorem Tells.step {went : Bool} (h : Tells e character f) (hs : Step f x b f' went) :
    Tells e character f' := by
  obtain ⟨-, hplace, -⟩ := hs.frame
  obtain ⟨items, read, hi, hr, p, hp, he⟩ := h.read
  rcases hs.data with hdata | hwrite
  · exact ⟨hdata ▸ h.links, hdata ▸ hplace ▸ h.selected, items, read, hdata ▸ hi,
      hdata ▸ hplace ▸ hr, p, hp, he⟩
  · obtain ⟨hlinks, hsel⟩ := selected_write h.links h.selected hwrite
    obtain ⟨items', hi', hr'⟩ := exists_reads_write h.links h.selected hi hr hwrite
    obtain ⟨item, hitem⟩ := exists_given_of_mem (x := x) (b := b) hr hp
    exact ⟨hlinks, hplace ▸ hsel, items', _, hi', hplace ▸ hr', _, hitem,
      (identifier_given item).trans he⟩

theorem Tells.after (h : Tells e character f) (ts : List (String × Bool)) :
    Tells e character (after ts f) := by
  induction ts generalizing f with
  | nil => exact h
  | cons t ts ih => exact ih (h.step (step_toggle f t.1 t.2))

/-- **What loading finds after a toggle.** Whatever came before, the data of a toggle that goes
    through loads with the prompt in its new state. -/
theorem Tells.shows_of_step (h : Tells e character f) (hs : Step f e b f' true) (text : String) :
    Shows e b (ofDocument f'.path character f'.autosave text f'.data) := by
  have hwrite := hs.recorded
  obtain ⟨-, hplace, -⟩ := hs.frame
  obtain ⟨items, read, hi, hr, p, hp, he⟩ := h.read
  obtain ⟨hlinks, hsel⟩ := selected_write h.links h.selected hwrite
  obtain ⟨items', hi', hr'⟩ := exists_reads_write h.links h.selected hi hr hwrite
  have hread : promptsOf f.place f'.data =
      .ok (List.zipWith (fun item r => r.map (given e b item)) items read) := by
    rw [promptsOf, promptItems, hi']
    exact mapM_eq_ok_iff.2 (hr'.imp fun _ _ hr => hr.ok)
  refine ⟨_, _, ofDocument_of_selected hi' hsel hread, ?_, ?_⟩
  · obtain ⟨item, hitem⟩ := exists_given_of_mem (x := e) (b := b) hr hp
    exact ⟨_, List.mem_filterMap.2 ⟨_, hitem, rfl⟩, (identifier_given item).trans he⟩
  · intro q hq hid
    obtain ⟨_, hq, rfl⟩ := List.mem_filterMap.1 hq
    obtain ⟨item, p, hitem, rfl⟩ := exists_of_mem_given hr hq
    rw [identifier_given] at hid
    rw [given_eq_switch (hitem.named p rfl e (List.mem_singleton_self e)), Prompt.enabled_switch,
      if_pos hid]

end PromptRules.PresetFile
