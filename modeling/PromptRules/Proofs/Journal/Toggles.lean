import PromptRules.Journal.Basic

/-!
# The toggles that a journal tells of

Two kinds of lines tell of toggles: one that a prompt was switched, and one that a plan was
carried out, which disables prompts first and then enables others. Read line by line they give
toggles back. What was shortened on the way into the journal is lost, but identifiers and plans
of a usual size are not shortened.

Results:
* `shorten_texts`: a list of not too many texts, none of them too long, is kept.
* `toggles_validation`, `toggles_triggers`: checks and evaluations of triggers tell of no toggle.
* `toggles_toggle`, `toggles_resolution`: a toggle tells of itself, a plan of its toggles.
-/

namespace PromptRules

open Data

/-- The plan is small enough for a line of a journal. -/
def Plan.Small (p : Plan) : Prop :=
  p.toDisable.length ≤ Journal.maxItems ∧ p.toEnable.length ≤ Journal.maxItems

instance (p : Plan) : Decidable p.Small := inferInstanceAs (Decidable (_ ∧ _))

namespace Journal

/-- The texts of a list. -/
def texts : Option Tree → List String
  | some (.list items) => items.filterMap fun t => match t with | .text s => some s | _ => none
  | _ => []

/-- The toggles that a line tells of. -/
def told (line : Record) : List (String × Bool) :=
  match Assoc.get? line "event" with
  | some (.text "toggle") =>
    match Assoc.get? line "prompt", Assoc.get? line "enabled" with
    | some (.text identifier), some (.bool enabled) => [(identifier, enabled)]
    | _, _ => []
  | some (.text "auto_resolve") =>
    (texts (Assoc.get? line "to_disable")).map (·, false) ++
      (texts (Assoc.get? line "to_enable")).map (·, true)
  | _ => []

/-- The toggles that a journal tells of, line by line. -/
def toggles (j : Journal) : List (String × Bool) := j.lines.flatMap told

/-! ## Texts that are kept -/

theorem texts_list (ss : List String) : texts (some (.list (ss.map .text))) = ss := by
  rw [texts, List.filterMap_map]
  exact List.filterMap_some

/-- A list of not too many texts, none of which is too long, is kept. -/
theorem shortenItems_texts {room : Nat} {depth : Int} (hd : depth ≤ maxDepth) {ss : List String}
    (hroom : ss.length ≤ room) (hs : ∀ s ∈ ss, s.length ≤ maxText) :
    shortenItems room depth (ss.map .text) = ss.map .text := by
  induction ss generalizing room with
  | nil => rfl
  | cons s ss ih =>
    obtain ⟨hshort, hrest⟩ := List.forall_mem_cons.1 hs
    cases room with
    | zero => cases hroom
    | succ room =>
      have htext : shorten depth (.text s) = .text s := by
        rw [shorten, if_neg (Int.not_lt.2 hd), shortText_of_short hshort]
      rw [List.map_cons, shortenItems, htext, ih (Nat.le_of_succ_le_succ hroom) hrest]

/-- A list in a record is kept whole if it has no more texts than there is room for, none of them
    too long. -/
theorem shorten_texts {ss : List String} (hroom : ss.length ≤ maxItems)
    (hs : ∀ s ∈ ss, s.length ≤ maxText) :
    shorten 1 (.list (ss.map .text)) = .list (ss.map .text) := by
  have hdeep : ¬ maxDepth < 1 := by decide
  have hnote : itemsLeftOut (ss.map Tree.text).length = [] := by
    rw [List.length_map, itemsLeftOut, if_pos hroom]
  rw [shorten, if_neg hdeep, hnote, List.append_nil]
  exact congrArg Tree.list (shortenItems_texts (by decide) hroom hs)

/-! ## Lines -/

variable {j : Journal}

theorem isOpen_write (line : Record) (j : Journal) : (write line j).isOpen = j.isOpen := by
  unfold write
  split <;> rfl

theorem toggles_write (h : j.isOpen = true) (line : Record) :
    (write line j).toggles = j.toggles ++ told line := by
  rw [write, if_pos h, toggles, List.flatMap_append, List.flatMap_singleton, toggles]

/-- A line that tells of no toggle, whether it is recorded or not. -/
theorem toggles_write_of_silent {line : Record} (h : told line = []) (j : Journal) :
    (write line j).toggles = j.toggles := by
  cases hj : j.isOpen with
  | true => rw [toggles_write hj, h, List.append_nil]
  | false => rw [write_of_closed hj]

/-! ## Events -/

theorem toggles_validation (identifier : String) (issues : List Issue) (j : Journal) :
    (validation identifier issues j).toggles = j.toggles :=
  toggles_write_of_silent rfl j

theorem toggles_triggers (t : Transitions) (j : Journal) :
    (triggers t j).toggles = j.toggles := by
  unfold triggers
  split
  · rfl
  · exact toggles_write_of_silent rfl j

theorem toggles_toggle (h : j.isOpen = true) (identifier : String) (enabled : Bool)
    (source : String) :
    (toggle identifier enabled source j).toggles = j.toggles ++ [(identifier, enabled)] :=
  toggles_write h _

/-- A plan that is small enough, with identifiers that are short enough, tells of its toggles. -/
theorem toggles_resolution (h : j.isOpen = true) (identifier : String) {plan : Plan}
    (hsmall : plan.Small) (hshort : ∀ t ∈ plan.toggles, t.1.length ≤ maxText) :
    (resolution identifier plan j).toggles = j.toggles ++ plan.toggles := by
  have hdisable : shorten 1 (.list (plan.toDisable.map .text)) = .list (plan.toDisable.map .text) :=
    shorten_texts hsmall.1 fun s hs =>
      hshort (s, false) (List.mem_append_left _ (List.mem_map_of_mem hs))
  have henable : shorten 1 (.list (plan.toEnable.map .text)) = .list (plan.toEnable.map .text) :=
    shorten_texts hsmall.2 fun s hs =>
      hshort (s, true) (List.mem_append_right _ (List.mem_map_of_mem hs))
  have hrecord : shortRecord plan.toRecord = plan.toRecord := by
    simp only [shortRecord, Plan.toRecord, shortenEntries, maxEntries, hdisable, henable]
    rfl
  rw [resolution, toggles_write h, hrecord]
  simp [told, Plan.toRecord, Assoc.get?, texts_list, Plan.toggles]

end Journal

end PromptRules
