import Mathlib.Data.List.Forall2
import PromptRules.PresetFile.Order

/-!
# Writes to a preset without links

In a document without links a write changes the place it is about and no other. What is written
somewhere below a field of the preset, or of an entry in it, changes that field alone. The rest of
a development about presets need not know of paths: it speaks of fields and of lists.

Results:
* `putField_of_unlinked`, `append_of_unlinked`: the two writes as one change of the root.
* `onlyField_putField`, `onlyField_append`: a write below a field of the preset.
* `exists_setAt_key`: a write below a field of a map.
-/

namespace PromptRules.Data

/-- The entries after the values of one key have been changed. -/
theorem Assoc.get?_map_at {κ α : Type} [DecidableEq κ] (m : List (κ × α)) (g : α → α) (k k' : κ) :
    get? (m.map fun e => if e.1 = k then (e.1, g e.2) else e) k'
      = if k' = k then (get? m k').map g else get? m k' := by
  induction m with
  | nil => simp
  | cons e es ih =>
    rw [List.map_cons]
    by_cases he : e.1 = k <;> by_cases hk : e.1 = k'
    · simp [get?, he, ← hk]
    · have hne : k' ≠ k := fun h => hk (he.trans h.symm)
      simpa [get?, he, hk, hne, Ne.symm hne] using ih
    · have hne : k' ≠ k := fun h => he (hk.trans h)
      simp [get?, hk, hne]
    · simpa [get?, he, hk] using ih

namespace Document

variable {d : Document} {p : Path}

theorem put_of_links (h : d.links = []) (p : Path) (v : Node) :
    d.put p v = { root := Node.setAt p v d.root } := by
  obtain ⟨root, links⟩ := d
  cases h
  exact put_of_unlinked p v root

theorem putField_of_unlinked (hl : d.links = []) {entries : Fields}
    (h : d.at? p = some (.map entries)) (key : String) (v : Node) :
    d.putField p key v
      = { root := Node.setAt p (.map (Assoc.put entries (.text key) v)) d.root } := by
  simp only [putField, h]
  rw [put_of_links (by simp [hl])]

theorem append_of_unlinked (hl : d.links = []) {items : List Node}
    (h : d.at? p = some (.list items)) (v : Node) :
    d.append p v = { root := Node.setAt p (.list (items ++ [v])) d.root } := by
  simp only [append, h]
  exact put_of_links hl _ _

theorem links_putField (hl : d.links = []) (p : Path) (key : String) (v : Node) :
    (d.putField p key v).links = [] := by
  unfold putField
  split
  · rw [put_of_links (by simp [hl])]
  · exact hl

end Document

end PromptRules.Data

namespace PromptRules.PresetFile

open Data

/-! ## Fields and items -/

theorem get?_of_field {fields : Fields} {key : String} {v : Node} (h : field fields key = v)
    (hv : v.isNull = false) : Assoc.get? fields (.text key) = some v := by
  unfold field at h
  cases hg : Assoc.get? fields (.text key) with
  | none => rw [hg] at h; subst h; cases hv
  | some w => rw [hg] at h; exact congrArg some h

theorem field_of_get? {fields : Fields} {key : String} {v : Node}
    (h : Assoc.get? fields (.text key) = some v) : field fields key = v := by
  simp [field, h]

@[simp] theorem field_put_self (fields : Fields) (key : String) (v : Node) :
    field (Assoc.put fields (.text key) v) key = v := by
  simp [field]

theorem field_put_of_ne (fields : Fields) {key key' : String} (v : Node) (h : key' ≠ key) :
    field (Assoc.put fields (.text key) v) key' = field fields key' := by
  unfold field
  rw [Assoc.get?_put_of_ne _ _ (by simpa using h)]

/-- A write below a field of a map keeps the other fields. -/
theorem exists_setAt_key {fields : Fields} {key : String} {t : Node}
    (ht : Assoc.get? fields (.text key) = some t) (p : Path) (v : Node) :
    ∃ fields', Node.setAt (.key key :: p) v (.map fields) = .map fields' ∧
      field fields' key = Node.setAt p v t ∧
      ∀ {k : String}, k ≠ key → field fields' k = field fields k := by
  refine ⟨_, by rw [Node.setAt], ?_, ?_⟩
  · unfold field
    rw [Assoc.get?_map_at, if_pos rfl, ht]
    rfl
  · intro k hk
    unfold field
    rw [Assoc.get?_map_at, if_neg (by simpa using hk)]

theorem setAt_index {items : List Node} {i : Nat} {t : Node} (hi : items[i]? = some t) (p : Path)
    (v : Node) :
    Node.setAt (.index i :: p) v (.list items) = .list (items.set i (Node.setAt p v t)) := by
  rw [Node.setAt, List.modify_eq_set_getElem?, hi]
  rfl

/-! ## Fields of a preset -/

/-- The second document has no links and this value under the key; all else is as in the first. -/
structure OnlyField (key : String) (v : Node) (d d' : Document) : Prop where
  links : d'.links = []
  self : field d'.fields key = v
  others : ∀ {k : String}, k ≠ key → field d'.fields k = field d.fields k

theorem OnlyField.trans {key : String} {v w : Node} {d d' d'' : Document}
    (h : OnlyField key v d d') (h' : OnlyField key w d' d'') : OnlyField key w d d'' where
  links := h'.links
  self := h'.self
  others hk := (h'.others hk).trans (h.others hk)

variable {d : Document} {key : String} {t : Node} {p : Path}

theorem at?_cons (ht : Assoc.get? d.fields (.text key) = some t) (p : Path) :
    d.at? (.key key :: p) = Node.at? p t := by
  obtain ⟨root, links⟩ := d
  cases root with
  | map entries =>
    have hg : Assoc.get? entries (.text key) = some t := ht
    simp [Document.at?, Node.at?, hg]
  | _ => cases ht

theorem onlyField_setAt (ht : Assoc.get? d.fields (.text key) = some t) (p : Path) (v : Node) :
    OnlyField key (Node.setAt p v t) d { root := Node.setAt (.key key :: p) v d.root } := by
  obtain ⟨root, links⟩ := d
  cases root with
  | map entries =>
    have hg : Assoc.get? entries (.text key) = some t := ht
    obtain ⟨entries', he, hself, hothers⟩ := exists_setAt_key hg p v
    rw [he]
    exact ⟨rfl, hself, hothers⟩
  | _ => cases ht

theorem onlyField_putField (hl : d.links = []) (ht : Assoc.get? d.fields (.text key) = some t)
    {entries : Fields} (hp : Node.at? p t = some (.map entries)) (name : String) (v : Node) :
    OnlyField key (Node.setAt p (.map (Assoc.put entries (.text name) v)) t) d
      (d.putField (.key key :: p) name v) := by
  rw [Document.putField_of_unlinked hl ((at?_cons ht p).trans hp)]
  exact onlyField_setAt ht p _

theorem onlyField_append (hl : d.links = []) (ht : Assoc.get? d.fields (.text key) = some t)
    {items : List Node} (hp : Node.at? p t = some (.list items)) (v : Node) :
    OnlyField key (Node.setAt p (.list (items ++ [v])) t) d (d.append (.key key :: p) v) := by
  rw [Document.append_of_unlinked hl ((at?_cons ht p).trans hp)]
  exact onlyField_setAt ht p _

/-- A field of an item in a list under a field of the preset. -/
theorem onlyField_putField_index (hl : d.links = []) {items : List Node}
    (hf : field d.fields key = .list items) {i : Nat} {entries : Fields}
    (hi : items[i]? = some (.map entries)) (name : String) (v : Node) :
    OnlyField key (.list (items.set i (.map (Assoc.put entries (.text name) v)))) d
      (d.putField [.key key, .index i] name v) := by
  have hp : Node.at? [.index i] (.list items) = some (.map entries) := by simp [Node.at?, hi]
  have h := onlyField_putField hl (get?_of_field hf rfl) hp name v
  rwa [setAt_index hi] at h

end PromptRules.PresetFile
