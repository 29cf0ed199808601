import PromptRules.Proofs.PresetFile.Reading

/-!
# What toggles make of an order list

Each toggle writes the order list that the one before it left. What is in it after all of them can
be told from the list as it was and from the toggles alone: the first entry about a prompt has the
last state that the prompt was given, a prompt without entry has one new entry at the end, with its
last state, and everything else is where it was.

Results:
* `restate_markItem`: an item marked by a toggle and then by others.
* `find_identifier`: a search that succeeds is one for the first entry with the name.
* `noted_recorded`: one more toggle before the others makes no difference but its own.
-/

namespace PromptRules.PresetFile

open Data

/-! ## States -/

/-- The last state that toggles give to a prompt; none if none of them is about it. -/
def lastState : List (String × Bool) → String → Option Bool
  | [], _ => none
  | t :: ts, e => (lastState ts e).or (if t.1 = e then some t.2 else none)

/-- The identifier of an item or an entry, if that is a text. -/
def nameOf? (item : Node) : Option String :=
  match identifierOf item with
  | .text e => some e
  | _ => none

/-- An item or an entry with the last state that toggles give to its prompt. -/
def restate (ts : List (String × Bool)) (item : Node) : Node :=
  match item with
  | .map fields => .map (stamp fields ((nameOf? item).bind (lastState ts)))
  | _ => item

variable {e x : String} {b : Bool} {ts : List (String × Bool)} {item : Node}

theorem lastState_cons_self (ts : List (String × Bool)) (e : String) (b : Bool) :
    lastState ((e, b) :: ts) e = some ((lastState ts e).getD b) := by
  cases h : lastState ts e <;> simp [lastState, h]

theorem lastState_cons_of_ne (ts : List (String × Bool)) (b : Bool) (h : e ≠ x) :
    lastState ((e, b) :: ts) x = lastState ts x := by
  simp [lastState, h]

theorem nameOf?_eq_some_iff : nameOf? item = some e ↔ identifierOf item = .text e := by
  unfold nameOf?
  cases identifierOf item <;> simp

theorem nameOf?_congr {item' : Node} (h : identifierOf item' = identifierOf item) :
    nameOf? item' = nameOf? item := by
  rw [nameOf?, nameOf?, h]

/-- Of two states that an item gets the second stays. -/
theorem stamp_marked (fields : Fields) (b : Bool) (st : Option Bool) :
    stamp (marked b fields) st = marked (st.getD b) fields := by
  cases st with
  | none => rfl
  | some c => exact Assoc.put_put fields _ _ _

@[simp] theorem restate_nil (item : Node) : restate [] item = item := by
  cases item with
  | map fields =>
    cases h : nameOf? (.map fields) <;> simp [restate, h, lastState, stamp]
  | _ => rfl

theorem restate_of_ne (ts : List (String × Bool)) (b : Bool) (h : nameOf? item ≠ some e) :
    restate ((e, b) :: ts) item = restate ts item := by
  cases item with
  | map fields =>
    cases hn : nameOf? (.map fields) with
    | none => simp [restate, hn]
    | some x =>
      have hx : e ≠ x := fun hx => h (hx ▸ hn)
      simp [restate, hn, lastState_cons_of_ne ts b hx]
  | _ => rfl

theorem nameOf?_marked (b : Bool) (fields : Fields) :
    nameOf? (.map (marked b fields)) = nameOf? (.map fields) :=
  nameOf?_congr (field_marked_identifier b fields)

theorem restate_marked (ts : List (String × Bool)) (b : Bool) {fields : Fields}
    (h : nameOf? (.map fields) = some e) :
    restate ts (.map (marked b fields)) = restate ((e, b) :: ts) (.map fields) := by
  have hname := (nameOf?_marked b fields).trans h
  simp only [restate, h, hname, Option.bind_some, lastState_cons_self, stamp_marked]
  rfl

theorem restate_markItem (ts : List (String × Bool)) (e : String) (b : Bool) (item : Node) :
    restate ts (markItem e b item) = restate ((e, b) :: ts) item := by
  cases item with
  | map fields =>
    by_cases h : (field fields "identifier").same (.text e) = true
    · have hname : nameOf? (.map fields) = some e := nameOf?_eq_some_iff.2 (Node.same_text.1 h)
      rw [markItem, if_pos h, restate_marked ts b hname]
    · have hname : nameOf? (.map fields) ≠ some e := fun hn =>
        h (Node.same_text.2 (nameOf?_eq_some_iff.1 hn))
      rw [markItem, if_neg h, restate_of_ne ts b hname]
  | _ => rfl

theorem restate_newEntry (ts : List (String × Bool)) (e : String) (b : Bool) :
    restate ts (newEntry e b) = newEntry e ((lastState ts e).getD b) := by
  have h : restate ts (newEntry e b)
      = .map (stamp [("identifier", .text e), ("enabled", .bool b)] (lastState ts e)) := rfl
  rw [h]
  cases lastState ts e <;> rfl

/-! ## Order lists -/

/-- The entries of an order list, the first about each prompt with the last state that toggles give
    to it. -/
def restated (ts : List (String × Bool)) (items : List Node) : List Node :=
  items.mapIdx fun i item =>
    if nameOf? item ∈ (items.take i).map nameOf? then item else restate ts item

/-- New entries about the prompts of toggles that an order list has no entry about, one each. -/
def added (ts : List (String × Bool)) (items : List Node) : List Node :=
  ((distinct (ts.map Prod.fst)).filter fun e => some e ∉ items.map nameOf?).map fun e =>
    newEntry e ((lastState ts e).getD false)

/-- An order list after toggles. -/
def noted (ts : List (String × Bool)) (items : List Node) : List Node :=
  restated ts items ++ added ts items

variable {items items' : List Node} {i j : Nat}

@[simp] theorem noted_nil (items : List Node) : noted [] items = items := by
  have h : restated [] items = items := by
    apply List.ext_getElem?
    intro i
    simp [restated, List.getElem?_mapIdx]
  rw [noted, h]
  exact List.append_nil items

theorem hasField_identifier {found : Bool}
    (h : hasField "identifier" (.text e) item = .ok found) :
    found = decide (nameOf? item = some e) := by
  cases item with
  | map fields =>
    cases h
    rw [Bool.eq_iff_iff, decide_eq_true_iff, Node.same_text, nameOf?_eq_some_iff]
    rfl
  | _ => cases h

/-- A search that succeeds is one for the first entry with the name. -/
theorem find_identifier {found : Option Nat} (h : find "identifier" (.text e) items = .ok found) :
    found = items.findIdx? fun item => decide (nameOf? item = some e) := by
  induction items generalizing found with
  | nil =>
    cases h
    rfl
  | cons entry entries ih =>
    rw [List.findIdx?_cons]
    obtain ⟨hentry, rfl⟩ | ⟨hentry, rest, hrest, rfl⟩ := find_cons_eq_ok h
    · rw [← hasField_identifier hentry]
      rfl
    · rw [← hasField_identifier hentry, ih hrest]
      rfl

theorem mem_map_take_iff {n : Option String} :
    n ∈ (items.take i).map nameOf? ↔
      ∃ (k : Nat) (_ : k < items.length), k < i ∧ nameOf? items[k] = n := by
  rw [List.mem_map]
  constructor
  · rintro ⟨item, hitem, hn⟩
    obtain ⟨k, hk, rfl⟩ := List.mem_take_iff_getElem.1 hitem
    exact ⟨k, by omega, by omega, hn⟩
  · rintro ⟨k, hk, hlt, hn⟩
    exact ⟨_, List.mem_take_iff_getElem.2 ⟨k, by omega, rfl⟩, hn⟩

theorem getElem?_restated (ts : List (String × Bool)) (items : List Node) (i : Nat) :
    (restated ts items)[i]? = items[i]?.map fun item =>
      if nameOf? item ∈ (items.take i).map nameOf? then item else restate ts item := by
  rw [restated, List.getElem?_mapIdx]

/-- The names are the same after a toggle of a prompt that the list has an entry about. -/
theorem map_nameOf?_set {fields : Fields} (hf : items[j]? = some (.map fields)) (b : Bool) :
    (items.set j (.map (marked b fields))).map nameOf? = items.map nameOf? := by
  obtain ⟨hlt, hitem⟩ := List.getElem?_eq_some_iff.1 hf
  have hlt' : j < (items.map nameOf?).length := by rwa [List.length_map]
  have hname : nameOf? (.map fields) = (items.map nameOf?)[j] := by rw [List.getElem_map, hitem]
  rw [List.map_set, nameOf?_marked, hname, List.set_getElem_self]

/-- The first entry about the prompt is marked, and no other. -/
theorem restated_set {fields : Fields}
    (hj : find "identifier" (.text e) items = .ok (some j)) (hf : items[j]? = some (.map fields)) :
    restated ts (items.set j (.map (marked b fields))) = restated ((e, b) :: ts) items := by
  obtain ⟨hlt, hitem⟩ := List.getElem?_eq_some_iff.1 hf
  obtain ⟨_, hname, hbefore⟩ := List.findIdx?_eq_some_iff_getElem.1 (find_identifier hj).symm
  rw [hitem, decide_eq_true_iff] at hname
  apply List.ext_getElem?
  intro i
  have htake : ((items.set j (.map (marked b fields))).take i).map nameOf?
      = (items.take i).map nameOf? := by
    rw [List.map_take, map_nameOf?_set hf, List.map_take]
  rw [getElem?_restated, getElem?_restated, htake]
  by_cases hi : i = j
  · subst hi
    have hnew : some e ∉ (items.take i).map nameOf? := by
      rw [mem_map_take_iff]
      rintro ⟨k, _, hk, hn⟩
      exact hbefore k hk (decide_eq_true hn)
    rw [List.getElem?_set_self hlt, hf, Option.map_some, Option.map_some, nameOf?_marked, hname,
      if_neg hnew, if_neg hnew, restate_marked ts b hname]
  · rw [List.getElem?_set_ne (Ne.symm hi)]
    cases hentry : items[i]? with
    | none => rfl
    | some entry =>
      rw [Option.map_some, Option.map_some]
      by_cases hn : nameOf? entry = some e
      · obtain ⟨hlt, rfl⟩ := List.getElem?_eq_some_iff.1 hentry
        have hlater : j < i := by
          by_contra hle
          exact hbefore i (by omega) (decide_eq_true hn)
        have hold : nameOf? items[i] ∈ (items.take i).map nameOf? :=
          mem_map_take_iff.2 ⟨j, by omega, hlater, by rw [hitem, hname, hn]⟩
        rw [if_pos hold, if_pos hold]
      · rw [restate_of_ne ts b hn]

theorem distinct_cons (x : String) (xs : List String) :
    distinct (x :: xs) = x :: (distinct xs).filter fun y => decide (y ≠ x) := rfl

theorem added_congr (h : items'.map nameOf? = items.map nameOf?) :
    added ts items' = added ts items := by
  rw [added, added, h]

/-- A prompt that an order list has an entry about gets no other. -/
theorem added_of_mem (b : Bool) (h : some e ∈ items.map nameOf?) :
    added ((e, b) :: ts) items = added ts items := by
  have hkept : (distinct (e :: ts.map Prod.fst)).filter (fun x => some x ∉ items.map nameOf?)
      = (distinct (ts.map Prod.fst)).filter fun x => some x ∉ items.map nameOf? := by
    rw [distinct_cons, List.filter_cons_of_neg (by simpa using h), List.filter_filter]
    apply List.filter_congr
    intro x _
    by_cases hx : x = e
    · subst hx
      simp [h]
    · simp [hx]
  rw [added, List.map_cons, hkept]
  apply List.map_congr_left
  intro x hx
  have hne : e ≠ x := by
    rintro rfl
    exact of_decide_eq_true (List.mem_filter.1 hx).2 h
  rw [lastState_cons_of_ne ts b hne]

/-- Another prompt gets one at the end. -/
theorem added_of_not_mem (b : Bool) (h : some e ∉ items.map nameOf?) :
    added ((e, b) :: ts) items
      = newEntry e ((lastState ts e).getD b) :: added ts (items ++ [newEntry e b]) := by
  have hkept : (distinct (e :: ts.map Prod.fst)).filter (fun x => some x ∉ items.map nameOf?)
      = e :: (distinct (ts.map Prod.fst)).filter
          fun x => some x ∉ (items ++ [newEntry e b]).map nameOf? := by
    rw [distinct_cons, List.filter_cons_of_pos (by simpa using h), List.filter_filter]
    congr 1
    apply List.filter_congr
    intro x _
    have hname : nameOf? (newEntry e b) = some e := rfl
    simp [hname, Bool.and_comm]
  rw [added, List.map_cons, hkept, List.map_cons, lastState_cons_self, Option.getD_some, added]
  congr 1
  apply List.map_congr_left
  intro x hx
  have hne : e ≠ x := by
    rintro rfl
    have hmem : some e ∈ (items ++ [newEntry e b]).map nameOf? :=
      List.mem_map_of_mem (f := nameOf?) List.mem_concat_self
    exact of_decide_eq_true (List.mem_filter.1 hx).2 hmem
  rw [lastState_cons_of_ne ts b hne]

theorem restated_concat (ts : List (String × Bool)) (items : List Node) (item : Node) :
    restated ts (items ++ [item])
      = restated ts items
        ++ [if nameOf? item ∈ items.map nameOf? then item else restate ts item] := by
  have hfirst : (items.mapIdx fun i entry =>
      if nameOf? entry ∈ ((items ++ [item]).take i).map nameOf? then entry else restate ts entry)
      = restated ts items := by
    apply List.ext_getElem?
    intro i
    rw [getElem?_restated, List.getElem?_mapIdx]
    cases hentry : items[i]? with
    | none => rfl
    | some entry =>
      have hlt : i < items.length := (List.getElem?_eq_some_iff.1 hentry).1
      rw [List.take_append_of_le_length (by omega)]
  rw [restated, List.mapIdx_concat, hfirst, List.take_left]

theorem restated_of_not_mem (b : Bool) (h : some e ∉ items.map nameOf?) :
    restated ((e, b) :: ts) items = restated ts items := by
  apply List.ext_getElem?
  intro i
  rw [getElem?_restated, getElem?_restated]
  cases hentry : items[i]? with
  | none => rfl
  | some entry =>
    have hn : nameOf? entry ≠ some e := by
      intro hn
      exact h (hn ▸ List.mem_map_of_mem (List.mem_of_getElem? hentry))
    rw [Option.map_some, Option.map_some, restate_of_ne ts b hn]

/-- **One toggle more.** What toggles make of an order list that a toggle has written is what they
    make, with this toggle before them, of the order list as it was. -/
theorem noted_recorded (hr : Recorded e b items items') :
    noted ts items' = noted ((e, b) :: ts) items := by
  cases hr with
  | @listed j fields hj hf =>
    have hmem : some e ∈ items.map nameOf? := by
      obtain ⟨hlt, hname, _⟩ := List.findIdx?_eq_some_iff_getElem.1 (find_identifier hj).symm
      exact List.mem_map.2 ⟨_, List.getElem_mem hlt, of_decide_eq_true hname⟩
    rw [noted, noted, restated_set hj hf, added_of_mem b hmem,
      added_congr (map_nameOf?_set hf b)]
  | unlisted hnone =>
    have hnew : some e ∉ items.map nameOf? := by
      intro hmem
      obtain ⟨item, hitem, hname⟩ := List.mem_map.1 hmem
      have hfalse := List.findIdx?_eq_none_iff.1 (find_identifier hnone).symm item hitem
      exact of_decide_eq_false hfalse hname
    have hname : nameOf? (newEntry e b) = some e := rfl
    rw [noted, noted, restated_concat, hname, if_neg hnew, restate_newEntry,
      restated_of_not_mem b hnew, added_of_not_mem b hnew, List.append_assoc,
      List.singleton_append]

end PromptRules.PresetFile
