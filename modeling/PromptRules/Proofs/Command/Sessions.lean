import PromptRules.Command.Run
import PromptRules.Proofs.PresetFile.Files
import PromptRules.Proofs.Session.Carried

/-!
# Commands on a preset

A command on a preset loads it, carries out an action at a desk and ends with what that finds. What
the command comes to can be told from what the action leads to. The file of the preset afterwards
holds the text of the preset on the desk.

Results:
* `Desk.shows_host`, `Desk.works_of_applies`: the desk shows the store of the preset, and toggles of
  the preset work at the desk.
* `Command.inSession_of_leads`: the result of a command on a preset.
-/

namespace PromptRules

open Data Directive Text PresetFile

/-! ## Desks -/

namespace Desk

theorem listed_host (d : Desk) : Desk.host.listed d = (d.preset.store.prompts, d) := rfl

theorem switched_host (e : String) (b : Bool) (d : Desk) :
    Desk.host.switched e b d = ((Loaded.set e b d.preset).answer.isOk,
      { d with preset := (Loaded.set e b d.preset).world }) := rfl

theorem shows_host : Desk.host.Shows fun d => d.preset.store where
  prompts _ := rfl
  listed _ := rfl
  toggle := by
    intro e b d h
    rw [switched_host] at h ⊢
    cases ha : (Loaded.set e b d.preset).answer with
    | error e =>
      rw [ha] at h
      cases h
    | ok _ =>
      obtain ⟨store, data, text, hstore, -, hworld⟩ := exists_of_set_ok ha
      rw [hworld, hstore]

/-- The sink of the desk. -/
def sink : Sink Desk := fun e b => onPreset (Loaded.set e b)

variable {ts : List (String × Bool)} {f f' : Loaded} {d : Desk}

theorem applies_sink (h : Applies Loaded.set ts f f') (hd : d.preset = f) :
    Applies sink ts d { d with preset := f' } := by
  induction h generalizing d with
  | nil =>
    subst hd
    exact .nil d
  | @cons t ts f f' hok _ ih =>
    subst hd
    exact .cons hok (ih (d := (sink t.1 t.2 d).world) rfl)

theorem works_of_applies (h : Applies Loaded.set ts f f') (hd : d.preset = f) :
    Desk.host.Works ts d ∧ Desk.host.switchedAll ts d = { d with preset := f' } :=
  (Host.works_iff_applies rfl).1 (applies_sink h hd)

end Desk

/-! ## Commands -/

/-- What is found under the path of a command afterwards. -/
def Result.found (r : Result) (before : FileContent) : FileContent :=
  match r.preset with
  | some f => .bytes f.text.toUTF8
  | none => before

namespace Command

open Session

variable {α : Type} {w : Workplace} {f : Loaded} {notes : List Note}

theorem withPreset_of_load {preset : String} {character : Option Int} {autosave : Bool}
    (h : load (.ofString preset) (character.map .int) autosave w.content = .ok (f, notes))
    (go : Loaded → List Note → Result) :
    withPreset w preset character autosave go = go f notes := by
  simp only [withPreset, h]

theorem isSome_find?_iff {ps : List Prompt} {e : String} :
    (Prompt.find? ps e).isSome = true ↔ ∃ p ∈ ps, p.identifier = e := by
  rw [Prompt.find?, List.find?_isSome]
  simp

theorem withPrompt_of_known {prompt : String} (h : ∃ p ∈ f.store.prompts, p.identifier = prompt)
    (go : Result) : withPrompt prompt f go = go := if_pos (isSome_find?_iff.2 h)

/-- A command on an unknown prompt does not end well. -/
theorem known_of_status {prompt : String} {go : Result}
    (h : (withPrompt prompt f go).status = 0) : ∃ p ∈ f.store.prompts, p.identifier = prompt := by
  unfold withPrompt at h
  split at h
  · exact isSome_find?_iff.1 ‹_›
  · cases h

/-- A command that keeps a journal in vain does not end well. -/
theorem exists_journal_of_status {a : Action Desk α} {ending : α → Ending}
    (h : (inSession w f notes a ending).status = 0) : ∃ journal, journalOf w = .ok journal := by
  unfold inSession at h
  split at h
  · cases h
  · exact ⟨_, ‹_›⟩

/-- A command about a prompt that ends well has found the prompt and could keep its journal. -/
theorem begun_of_status {prompt : String} {a : Action Desk α} {ending : α → Ending}
    (h : (withPrompt prompt f (inSession w f notes a ending)).status = 0) :
    (∃ p ∈ f.store.prompts, p.identifier = prompt) ∧ ∃ journal, journalOf w = .ok journal := by
  have hk := known_of_status h
  rw [withPrompt_of_known hk] at h
  exact ⟨hk, exists_journal_of_status h⟩

/-- A command on a preset ends as its action leads to. -/
theorem inSession_of_leads {a : Action Desk α} {journal : Journal} {x : α} {d : Desk}
    (hj : journalOf w = .ok journal) (h : Leads a { preset := f, input := w.input } x d)
    (ending : α → Ending) :
    (inSession w f notes a ending).status = (ending x).status ∧
      (inSession w f notes a ending).printed = d.printed ++ (ending x).printed ∧
      (inSession w f notes a ending).preset = some d.preset := by
  obtain ⟨hx, hd, -⟩ := h (sessionOf w f notes journal) ⟨rfl, Memo.faithful_new _⟩
  simp only [inSession, hj]
  generalize a (sessionOf w f notes journal) = reached at hx hd
  obtain ⟨y, s⟩ := reached
  obtain rfl : y = x := hx
  obtain rfl : s.world = d := hd
  exact ⟨rfl, rfl, rfl⟩

end Command

end PromptRules
