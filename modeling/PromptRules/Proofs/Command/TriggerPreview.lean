import PromptRules.Proofs.Command.Sessions
import PromptRules.Proofs.PresetFile.JsonFiles
import PromptRules.Proofs.Session.Preview

/-!
# Triggers on the command line

The command about triggers shows what is due at a message count. When it is to apply that, it has a
fresh watcher process the count. Both show the same firings, and applying them brings about exactly
what was shown, in the preset and in its file.

Results:
* `Command.leads_shown`, `Command.leads_applied`: what showing and applying come to at a desk.
* `previews_agree`: previews and applications agree, in sessions and in commands.
-/

namespace PromptRules

open Data Directive Text PresetFile Session

namespace Command

variable {w : Workplace} {preset : String} {character : Option Int} {count : Nat} {f f' : Loaded}
  {notes : List Note} {journal : Journal}

/-! ## At the desk -/

theorem leads_shown (count : Nat) (d : Desk) :
    Leads (fired count false) d (previewed count d.preset.store.prompts).firings d :=
  (leads_preview Desk.shows_host count d).bind (leads_pure _ _)

/-- If the toggles of a preview go through, they are carried out, and the firings of the preview are
    what is told. -/
theorem leads_applied {d : Desk}
    (h : Applies Loaded.set (previewed count d.preset.store.prompts).toggles d.preset f') :
    Leads (fired count true) d (previewed count d.preset.store.prompts).firings
      { d with preset := f' } := by
  obtain ⟨hworks, hall⟩ := Desk.works_of_applies h rfl
  have hprocess := leads_process_fresh Desk.shows_host (w := d) hworks
  rw [Desk.listed_host, hall] at hprocess
  exact hprocess.bind (leads_pure _ _)

/-! ## Commands -/

/-- Of a preset `f`, the command shows these transitions, and applying them makes `f'` of it. Both
    print the same table. Without applying anything the file stays as it is. Otherwise the preset
    has its prompts switched as the transitions say, its data has the listed toggles recorded one
    after the other, and the file holds the text of these data. It loads as the prompts if no two
    places of the file share a value, no identifier on the lists is spelled in bytes, and the reader
    of its format gives back what was written. -/
structure Previews (w : Workplace) (preset : String) (character : Option Int) (count : Nat)
    (t : Transitions) (f f' : Loaded) : Prop where
  status : ∀ apply, (run w (.triggers preset count apply character)).status = 0
  shown : (run w (.triggers preset count false character)).printed = [.ofFirings count t.firings]
  kept : (run w (.triggers preset count false character)).found w.content = w.content
  applied : (run w (.triggers preset count true character)).printed =
    .ofFirings count t.firings ::
      if t.firings = [] then [] else [.line s!"✅ Applied to {(PathName.ofString preset).name}"]
  switched : (run w (.triggers preset count true character)).preset = some f'
  realised : t.Realised f.store.prompts f'.store.prompts
  recorded : t.toggles.foldlM (fun d u => write f.place u.1 u.2 d) f.data = .ok f'.data
  idle : t.firings = [] →
    (run w (.triggers preset count true character)).found w.content = w.content
  written : t.firings ≠ [] → ∃ text, (Format.ofPath (.ofString preset)).write? f'.data = some text ∧
    (run w (.triggers preset count true character)).found w.content = .bytes text.toUTF8
  reloaded : ∀ data, (Format.ofPath (.ofString preset)).read (unified f.text) = .ok data →
    data.links = [] →
    (∀ e ∈ t.toEnable ++ t.toDisable, ∀ item ∈ promptItems data, ¬ SpelledInBytes e item) →
    (Format.ofPath (.ofString preset) = .yaml → Yaml.read (unified f'.text) = .ok f'.data) →
    ∃ loaded notes, load (.ofString preset) (character.map .int) true
        ((run w (.triggers preset count true character)).found w.content) = .ok (loaded, notes) ∧
      loaded.store.prompts = f'.store.prompts

section Known

variable (hload : load (.ofString preset) (character.map .int) true w.content = .ok (f, notes))
  (hj : journalOf w = .ok journal)

include hload hj

theorem triggers_shown (count : Nat) :
    let r := run w (.triggers preset count false character)
    r.status = 0 ∧ r.printed = [.ofFirings count (previewed count f.store.prompts).firings] ∧
      r.preset = some { f with autosave := false } := by
  unfold run
  simp only [withPreset_of_load (load_autosave false hload)]
  exact inSession_of_leads hj (leads_shown count _) _

theorem triggers_applied (h : Applies Loaded.set (previewed count f.store.prompts).toggles f f') :
    let r := run w (.triggers preset count true character)
    r.status = 0 ∧
      r.printed =
        (toldFirings preset count true (previewed count f.store.prompts).firings).printed ∧
      r.preset = some f' := by
  unfold run
  simp only [withPreset_of_load hload]
  exact inSession_of_leads hj (leads_applied (d := { preset := f, input := w.input }) h) _

theorem previews_of_applies (hd : Distinct f.store.prompts)
    (h : Applies Loaded.set (previewed count f.store.prompts).toggles f f') :
    Previews w preset character count (previewed count f.store.prompts) f f' := by
  obtain ⟨text, data, hcontent, hread, hdoc⟩ := exists_text_of_load hload
  obtain ⟨hpath, hauto, htext⟩ := source_of_ofDocument hdoc
  obtain ⟨hpath', -, hauto'⟩ := after_frame (previewed count f.store.prompts).toggles f
  rw [after_of_applies h] at hpath' hauto'
  obtain ⟨hshown, hprinted, hpreset⟩ := triggers_shown hload hj count
  obtain ⟨happlied, hprinted', hpreset'⟩ := triggers_applied hload hj h
  have hfound : (run w (.triggers preset count true character)).found w.content =
      .bytes f'.text.toUTF8 := by
    rw [Result.found, hpreset']
  refine
    { status := Bool.forall_bool.2 ⟨hshown, happlied⟩
      shown := hprinted
      kept := by rw [Result.found, hpreset, hcontent, ← htext]
      applied := ?_
      switched := hpreset'
      realised := prompts_of_applies hd h ▸ realised_previewed hd
      recorded := recorded_of_applies h
      idle := fun hnone => ?_
      written := fun hsome => ⟨f'.text, ?_, hfound⟩
      reloaded := fun data' hread' hl hb hyaml => ?_ }
  · rw [hprinted', toldFirings]
    cases (previewed count f.store.prompts).firings <;> rfl
  · rw [toggles_previewed_eq_nil_iff.2 hnone] at h
    cases h
    rw [hfound, hcontent, htext]
  · have hsaved := saved_of_applies h hauto (mt toggles_previewed_eq_nil_iff.1 hsome)
    rwa [hpath', hpath] at hsaved
  · obtain rfl : data' = data := Except.ok.inj (hread'.symm.trans (htext ▸ hread))
    by_cases hnone : (previewed count f.store.prompts).firings = []
    · -- the file is the one that was loaded
      rw [toggles_previewed_eq_nil_iff.2 hnone] at h
      cases h
      rw [hfound, htext, ← hcontent]
      exact ⟨_, _, hload, rfl⟩
    have hsaved := saved_of_applies h hauto (mt toggles_previewed_eq_nil_iff.1 hnone)
    have htextual : Textual f' := after_of_applies h ▸ (textual_of_read hread hdoc).after _
    have hread'' := htextual.read_text hsaved (hpath' ▸ hpath ▸ hyaml)
    have hlisted : ∀ u ∈ (previewed count f.store.prompts).toggles,
        ∀ item ∈ promptItems data', ¬ SpelledInBytes u.1 item :=
      fun u hu => hb u.1 (Transitions.listed_of_mem_toggles hu)
    have hreload := reload_of_saved hl hlisted hdoc hd h hread''
    rw [hpath', hauto', hpath, hauto] at hreload
    rw [hfound, load_bytes]
    exact ⟨_, _, hreload, rfl⟩

end Known

theorem due_sessionOf (w : Workplace) (f : Loaded) (notes : List Note) (journal : Journal)
    (count : Nat) : (due Desk.host count [] remembered (sessionOf w f notes journal)).1 =
      previewed count f.store.prompts :=
  (leads_preview Desk.shows_host count { preset := f, input := w.input } _
    ⟨rfl, Memo.faithful_new _⟩).1

end Command

open Command

/-- **Preview and application of triggers agree.** In a session whose surroundings show a store, a
    preview that has seen no rule fire tells what a fresh watcher tells, if the toggles on its lists
    work, and then exactly the prompts on the lists have changed, each to its side. It is this that
    the command about triggers shows, and brings about in the preset and in its file. -/
theorem previews_agree :
    (∀ {σ : Type} {host : Host σ} {store : σ → Store} {s : Session σ} (count : Int),
      host.Shows store → s.memo.Faithful Directives.ofContent → Distinct (store s.world).prompts →
      host.Works (due host count [] remembered s).1.toggles (host.listed s.world).2 →
      Foretells host store count s) ∧
    (∀ {w : Workplace} {preset : String} {character : Option Int} {f f' : Loaded}
      {notes : List Note} {journal : Journal} (count : Nat),
      load (.ofString preset) (character.map .int) true w.content = .ok (f, notes) →
      journalOf w = .ok journal → Distinct f.store.prompts →
      Applies Loaded.set
        (due Desk.host count [] remembered (sessionOf w f notes journal)).1.toggles f f' →
      Previews w preset character count
        (due Desk.host count [] remembered (sessionOf w f notes journal)).1 f f') := by
  refine ⟨fun count h hm hd hw => foretells_of_works h hm hd hw, ?_⟩
  intro w preset character f f' notes journal count hload hj hd h
  rw [due_sessionOf] at h ⊢
  exact previews_of_applies hload hj hd h

/-- A preset with a prompt that is to be enabled after the first message, in JSON. -/
def risingText : String :=
  "\x7b\"prompts\":[\x7b\"identifier\":\"tea\",\"content\":" ++
    "\"\x7b\x7b// @enable-after-message 1 \x7d\x7d\"\x7d]\x7d"

/-- The preset as it is loaded. -/
def rising : Loaded where
  path := .ofString "preset.json"
  autosave := true
  data := { root := .map [("prompts", .list [.map [("identifier", .text "tea"),
    ("content", .text "\x7b\x7b// @enable-after-message 1 \x7d\x7d")]])] }
  place := none
  store := { prompts := [{ identifier := "tea"
                           content := "\x7b\x7b// @enable-after-message 1 \x7d\x7d" }] }
  text := risingText

theorem read_risingText :
    (Format.ofPath (.ofString "preset.json")).read (unified risingText) = .ok rising.data := by
  cbv

theorem load_risingText : ∃ notes, load (.ofString "preset.json") ((none : Option Int).map .int)
    true (.bytes risingText.toUTF8) = .ok (rising, notes) := by
  rw [load_of_read read_risingText]
  exact ⟨_, rfl⟩

theorem due_fresh (store : Store) (count : Int) :
    (due Store.host count [] remembered (fresh store)).1 = previewed count store.prompts :=
  (leads_preview Store.shows_host count store _ (stands_fresh _)).1

theorem toggles_rising : (previewed 3 rising.store.prompts).toggles = [("tea", true)] := by
  decide

/-- The prompt is enabled at the third message, in a session on the store and from the command
    line. -/
theorem previews_agree_rising :
    let t := previewed 3 rising.store.prompts
    t.toEnable = ["tea"] ∧ t.toDisable = [] ∧ Foretells Store.host id 3 (fresh rising.store) ∧
      Previews { content := .bytes risingText.toUTF8 } "preset.json" none 3 t rising
        (Loaded.set "tea" true rising).world := by
  intro t
  let w : Workplace := { content := .bytes risingText.toUTF8 }
  obtain ⟨notes, hload⟩ := load_risingText
  have hd : Distinct rising.store.prompts := List.nodup_singleton _
  have hworks : Store.host.Works (due Store.host 3 [] remembered (fresh rising.store)).1.toggles
      (Store.host.listed rising.store).2 := by
    rw [due_fresh, toggles_rising]
    exact Store.works_of_known hd (by decide)
  have happlies : Applies Loaded.set
      (due Desk.host (3 : Nat) [] remembered (sessionOf w rising notes .off)).1.toggles rising
      (Loaded.set "tea" true rising).world := by
    rw [due_sessionOf]
    show Applies _ (previewed 3 rising.store.prompts).toggles _ _
    rw [toggles_rising]
    exact .cons rfl (.nil _)
  have hforetells := previews_agree.1 3 Store.shows_host (stands_fresh rising.store).2 hd hworks
  have hpreviews := previews_agree.2 (w := w) 3 hload rfl hd happlies
  rw [due_sessionOf] at hpreviews
  exact ⟨by decide, by decide, hforetells, hpreviews⟩

end PromptRules
