import Mathlib.Data.List.Nodup
import PromptRules.Proofs.Json.LineEnds
import PromptRules.Proofs.PresetFile.Files

/-!
# Presets in JSON

What is read in JSON shares no values between places, and is the data of a tree that a text can
hold. Selecting an order list adds an empty list, and a toggle adds a truth value or an entry of two
scalars, high up in the data. So whatever has been toggled, the data is that of such a tree, and its
text is read back as it is.

Results:
* `Node.storable_list_iff`, `Node.storable_map_iff`: which containers a text can hold, part by part.
* `storable_of_read`: what is read in JSON, a text can hold.
* `read_of_write?`: what is written in JSON is read back.
* `Textual.after`: toggles keep data that a text can hold.
* `load_of_applies`: a preset in JSON loads from its file as its toggles left it.
-/

namespace PromptRules.Data

open Decimal

/-! ## Nodes -/

/-- A value that a text in JSON can hold, with containers nested at most `room` deep: nothing in it
    is beyond data trees. -/
def Node.Storable (room : Nat) (t : Node) : Prop :=
  t.toTree.Storable room ∧ .ofTree t.toTree = t

namespace Node

variable {room : Nat} {items : List Node} {fields : Fields}

theorem ofTrees_eq_map (ts : List Tree) : ofTrees ts = ts.map ofTree := by
  induction ts with
  | nil => rfl
  | cons t ts ih => rw [ofTrees, ih, List.map_cons]

theorem ofEntries_eq_map (es : Record) :
    ofEntries es = es.map fun e => (.text e.1, ofTree e.2) := by
  induction es with
  | nil => rfl
  | cons e es ih => rw [ofEntries, ih, List.map_cons]

theorem toTrees_eq_map (ts : List Node) : toTrees ts = ts.map toTree := by
  induction ts with
  | nil => rfl
  | cons t ts ih => rw [toTrees, ih, List.map_cons]

theorem toEntries_eq_map (fields : Fields) :
    toEntries fields = fields.map fun e => (e.1.node.display, toTree e.2) := by
  induction fields with
  | nil => rfl
  | cons e fields ih => rw [toEntries, ih, List.map_cons]

theorem storable_ofTree {t : Tree} (h : t.Storable room) : (ofTree t).Storable room := by
  rw [Storable, toTree_ofTree]
  exact ⟨h, rfl⟩

theorem map_eq_self_iff {α : Type} {f : α → α} {xs : List α} :
    xs.map f = xs ↔ ∀ x ∈ xs, f x = x := by
  conv_lhs => rhs; rw [← List.map_id xs]
  exact List.map_inj_left

/-- The items of a list are held one by one. -/
theorem storable_list_iff : (list items).Storable (room + 1) ↔ ∀ t ∈ items, t.Storable room := by
  have hback : ofTree (.list (items.map toTree)) = list items ↔
      ∀ t ∈ items, ofTree (toTree t) = t := by
    rw [ofTree, ofTrees_eq_map, List.map_map, list.injEq, map_eq_self_iff]
    rfl
  rw [Storable, toTree, toTrees_eq_map, hback, Tree.storable_list_iff, List.forall_mem_map,
    ← forall₂_and]
  rfl

theorem text_display_eq_iff {k : Key} : .text k.node.display = k ↔ ∃ s, k = .text s := by
  constructor
  · intro h
    exact ⟨_, h.symm⟩
  · rintro ⟨s, rfl⟩
    rfl

/-- Keys that are texts are told apart by their texts. -/
theorem nodup_keys_toEntries (h : ∀ k ∈ Assoc.keys fields, ∃ s, k = .text s) :
    (Assoc.keys (toEntries fields)).Nodup ↔ (Assoc.keys fields).Nodup := by
  have hkeys : (Assoc.keys (toEntries fields)).map Key.text = Assoc.keys fields := by
    rw [toEntries_eq_map, Assoc.keys, Assoc.keys, List.map_map, List.map_map]
    exact List.map_congr_left fun e he => text_display_eq_iff.2 (h _ (List.mem_map_of_mem he))
  rw [← hkeys, List.nodup_map_iff fun _ _ => Key.text.inj]

/-- A map is held if its keys are texts, no two the same, and its values are held. -/
theorem storable_map_iff :
    (map fields).Storable (room + 1) ↔
      ((Assoc.keys fields).Nodup ∧ ∀ k ∈ Assoc.keys fields, ∃ s, k = .text s) ∧
        ∀ e ∈ fields, e.2.Storable room := by
  have hback : ofTree (.map (toEntries fields)) = map fields ↔
      (∀ k ∈ Assoc.keys fields, ∃ s, k = .text s) ∧ ∀ e ∈ fields, ofTree (toTree e.2) = e.2 := by
    rw [toEntries_eq_map, ofTree, ofEntries_eq_map, List.map_map, map.injEq, map_eq_self_iff,
      Assoc.keys, List.forall_mem_map, ← forall₂_and]
    exact forall₂_congr fun e _ => Prod.mk_inj.trans (and_congr_left' text_display_eq_iff)
  have hvalues : (∀ e ∈ toEntries fields, e.2.Storable room) ↔
      ∀ e ∈ fields, (toTree e.2).Storable room := by
    rw [toEntries_eq_map, List.forall_mem_map]
  rw [Storable, toTree, hback, Tree.storable_map_iff, hvalues]
  constructor
  · rintro ⟨⟨hkeys, hheld⟩, htexts, hsame⟩
    exact ⟨⟨(nodup_keys_toEntries htexts).1 hkeys, htexts⟩, fun e he => ⟨hheld e he, hsame e he⟩⟩
  · rintro ⟨⟨hkeys, htexts⟩, hfields⟩
    exact ⟨⟨(nodup_keys_toEntries htexts).2 hkeys, fun e he => (hfields e he).1⟩, htexts,
      fun e he => (hfields e he).2⟩

theorem hereditary_storable :
    Hereditary (fun ks => ks.Nodup ∧ ∀ k ∈ ks, ∃ s, k = .text s) Storable where
  bool b := ⟨.bool b, rfl⟩
  text s := ⟨.text s, rfl⟩
  list_iff := storable_list_iff
  map_iff := storable_map_iff
  keys_nil := ⟨List.nodup_nil, List.forall_mem_nil _⟩
  keys_concat {ks name} hks hname := by
    refine ⟨List.nodup_append.2 ⟨hks.1, List.nodup_singleton _, fun k hk l hl hkl => ?_⟩,
      List.forall_mem_append.2 ⟨hks.2, List.forall_mem_singleton.2 ⟨name, rfl⟩⟩⟩
    exact hname (List.mem_singleton.1 hl ▸ hkl ▸ hk)

end Node

/-- A document that a text in JSON can hold. -/
def Document.Storable (d : Document) : Prop := d.Has Node.Storable Json.maxDepth

end PromptRules.Data

namespace PromptRules.PresetFile

open Data Text

variable {path : PathName} {character : Option Node} {autosave : Bool} {text : String}
  {d d' : Document} {f f' : Loaded} {notes : List Note} {e : String} {b : Bool}

/-! ## Documents -/

theorem storable_of_read (h : Format.json.read text = .ok d) : d.Storable := by
  rw [Format.read] at h
  obtain ⟨t, ht, h⟩ := map_eq_ok_iff.1 h
  cases h
  exact ⟨rfl, Node.storable_ofTree (Json.storable_of_read ht)⟩

/-- A text in JSON makes no links. -/
theorem links_of_json (h : Format.json.read text = .ok d) : d.links = [] :=
  (storable_of_read h).links

/-- No identifier is spelled in bytes. -/
theorem not_spelledInBytes (h : d.Storable) (e : String) :
    ∀ item ∈ promptItems d, ¬ SpelledInBytes e item := by
  rintro item hitem ⟨bytes, hbytes, -⟩
  unfold promptItems at hitem
  split at hitem
  · rename_i items hitems
    obtain ⟨i, hi⟩ := List.mem_iff_getElem?.1 hitem
    have hat : d.at? [.key "prompts", .index i] = some item :=
      (at?_cons (get?_of_field hitems rfl) _).trans (by simp [Node.at?, hi])
    have hroot : d.root.Storable (Json.maxDepth - 2 + 2) := h.root
    have hheld : item.Storable (Json.maxDepth - 2) :=
      Node.hereditary_storable.at? (p := [.key "prompts", .index i]) hroot hat
    cases item with
    | map raw =>
      have hid : Assoc.get? raw (.text "identifier") = some (.bytes bytes) :=
        get?_of_field hbytes rfl
      obtain ⟨-, hvalues⟩ := Node.storable_map_iff.1 hheld
      cases (hvalues _ (Assoc.mem_of_get?_eq_some hid)).2
    | _ => cases hbytes
  · cases hitem

/-- **What is written in JSON is read back.** -/
theorem read_of_write? (h : d.Storable) (hw : Format.json.write? d = some text) :
    Format.json.read (unified text) = .ok d := by
  obtain ⟨hl, hstorable, hsame⟩ := h
  obtain ⟨root, links⟩ := d
  obtain rfl : links = [] := hl
  obtain rfl : Json.page 0 root.toTree = text := by
    unfold Format.write? at hw
    split at hw
    · exact Option.some.inj hw
    · cases hw
  rw [Json.unified_page, Format.read, Json.read_page_iff.2 hstorable]
  exact congrArg (fun root => Except.ok (Document.mk root [])) hsame

/-! ## Presets -/

/-- If the preset is one in JSON, a text in JSON can hold its data. -/
def Textual (f : Loaded) : Prop := Format.ofPath f.path = .json → f.data.Storable

theorem textual_of_read (hread : (Format.ofPath path).read (unified text) = .ok d)
    (h : ofDocument path character autosave text d = .ok (f, notes)) : Textual f := by
  obtain ⟨_, _, -, hselect, -, -, hf⟩ := ofDocument_eq_ok h
  intro hj
  have hpath : f.path = path := by rw [hf]
  rw [← hpath, hj] at hread
  have hd : d.Has Node.Storable (Json.maxDepth - 4 + 4) := storable_of_read hread
  exact hd.select Node.hereditary_storable hselect

theorem Textual.step {went : Bool} (h : Textual f) (hs : Step f e b f' went) : Textual f' := by
  obtain ⟨hpath, -, -⟩ := hs.frame
  intro hj
  have hd : f.data.Has Node.Storable (Json.maxDepth - 5 + 5) := h (hpath ▸ hj)
  rcases hs.data with hdata | hwrite
  · exact hdata ▸ hd
  · exact hd.write Node.hereditary_storable hwrite

/-- Toggles, failed ones among them, keep data that a text can hold. -/
theorem Textual.after (h : Textual f) (ts : List (String × Bool)) : Textual (after ts f) := by
  induction ts generalizing f with
  | nil => exact h
  | cons t ts ih => exact ih (h.step (step_toggle f t.1 t.2))

/-- **The file of a preset is read back.** In JSON it is, and so it is if the reader of YAML gives
    back what was written. -/
theorem Textual.read_text (h : Textual f)
    (hw : (Format.ofPath f.path).write? f.data = some f.text)
    (hy : Format.ofPath f.path = .yaml → Yaml.read (unified f.text) = .ok f.data) :
    (Format.ofPath f.path).read (unified f.text) = .ok f.data := by
  cases hj : Format.ofPath f.path with
  | yaml => exact hy hj
  | json => exact read_of_write? (h hj) (hj ▸ hw)

/-- **Presets in JSON keep their toggles.** A preset that was loaded from JSON, and whose toggles
    are written at once, loads from its file as the prompts that the toggles left. -/
theorem load_of_applies {content : FileContent} {ts : List (String × Bool)}
    (hload : load path character true content = .ok (f, notes)) (hj : Format.ofPath path = .json)
    (hd : Distinct f.store.prompts) (hts : Applies Loaded.set ts f f') :
    load path character true (.bytes f'.text.toUTF8)
      = .ok ({ f' with store := { prompts := f'.store.prompts } }, notes) := by
  obtain ⟨text, d, -, hread, hdoc⟩ := exists_text_of_load hload
  obtain ⟨hpath, hauto, htext⟩ := source_of_ofDocument hdoc
  by_cases hts' : ts = []
  · -- the file is the one that was loaded
    subst hts'
    cases hts
    obtain ⟨_, _, -, -, -, -, hf⟩ := ofDocument_eq_ok hdoc
    have hstore : ({ f with store := { prompts := f.store.prompts } } : Loaded) = f := by rw [hf]
    have hsame : load path character true (.bytes f.text.toUTF8) = .ok (f, notes) := by
      rw [htext, load_of_read hread, hdoc]
    rw [hsame, hstore]
  · have hafter : after ts f = f' := after_of_applies hts
    obtain ⟨hpath', -, hauto'⟩ := after_frame ts f
    rw [hafter] at hpath' hauto'
    have htextual : Textual f' := hafter ▸ (textual_of_read hread hdoc).after ts
    have hread' := htextual.read_text (saved_of_applies hts hauto hts') fun hy => by
      rw [hpath', hpath, hj] at hy
      cases hy
    have hb : ∀ t ∈ ts, ∀ item ∈ promptItems d, ¬ SpelledInBytes t.1 item :=
      fun t _ => not_spelledInBytes (storable_of_read (hj ▸ hread)) t.1
    have hreload := reload_of_saved (links_of_json (hj ▸ hread)) hb hdoc hd hts hread'
    calc load path character true (.bytes f'.text.toUTF8)
        = ofText path character true f'.text := load_bytes ..
      _ = ofText f'.path character f'.autosave f'.text := by rw [hpath', hauto', hpath, hauto]
      _ = _ := hreload

end PromptRules.PresetFile
