import PromptRules.Proofs.Issue.Coverage

/-!
# When collapsing is complete

Collapsing goes through a list once. An issue goes into the first that tells of the same conflict
and is not compared with those kept behind it, so if it also names a prompt that one of these
names, the two that were kept apart have a prompt in common from then on. Nothing else leaves two
issues that tell of one conflict.

Results:
* `collapse_eq_self_iff`: collapsing changes nothing iff no two issues tell of one conflict.
* `TakesUp.apart_iff`: what taking up one issue does to issues that are apart.
* `apart_of_transitive`: collapsing is complete if telling of one conflict is transitive.
* `apart_collapse_iff`: all of this together.
-/

namespace PromptRules.Issue

/-! ## Issues that are apart -/

/-- The two issues are of different kinds or of one that is not mutual, or they neither say the
    same nor name a common prompt. -/
def Separate (i j : Issue) : Prop :=
  i.kind = j.kind → i.kind.isMutual = true →
    i.message ≠ j.message ∧ ∀ e ∈ i.conflictingIds, e ∉ j.conflictingIds

instance : DecidableRel Separate := fun _ _ => inferInstanceAs (Decidable (_ → _ → _ ∧ _))

/-- No two issues of one mutual kind say the same or name a common prompt. -/
def Apart (issues : List Issue) : Prop := issues.Pairwise Separate

instance (issues : List Issue) : Decidable (Apart issues) :=
  inferInstanceAs (Decidable (List.Pairwise _ _))

variable {i j k issue : Issue} {issues kept kept' : List Issue}

theorem tellsSame_iff : tellsSame i j = true ↔
    i.kind = j.kind ∧ (i.message = j.message ∨ ∃ e ∈ i.conflictingIds, e ∈ j.conflictingIds) := by
  simp only [tellsSame, Bool.and_eq_true, Bool.or_eq_true, beq_iff_eq, List.any_eq_true,
    List.contains_iff_mem]

theorem tellsSame_comm (i j : Issue) : tellsSame i j = tellsSame j i := by
  rw [Bool.eq_iff_iff, tellsSame_iff, tellsSame_iff, eq_comm, eq_comm (a := i.message)]
  simp only [and_comm]

theorem separate_iff : Separate i j ↔ (j.kind.isMutual = true → tellsSame i j = false) := by
  rw [← Bool.not_eq_true, tellsSame_iff, not_and, not_or]
  simp only [not_exists, not_and]
  constructor
  · intro h hm hk
    exact h hk (hk ▸ hm)
  · intro h hk hm
    exact h (hk ▸ hm) hk

theorem apart_concat_iff :
    Apart (issues ++ [issue]) ↔ Apart issues ∧ ∀ i ∈ issues, Separate i issue := by
  simp [Apart, List.pairwise_append]

/-! ## Collapsing what is apart -/

theorem length_collapse_le (issues : List Issue) : (collapse issues).length ≤ issues.length := by
  simpa only [List.length_map] using (sublist_collapse issues).length_le

theorem collapse_of_apart (h : Apart issues) : collapse issues = issues := by
  induction issues using List.reverseRecOn with
  | nil => rfl
  | append_singleton issues issue ih =>
    obtain ⟨hissues, hnew⟩ := apart_concat_iff.1 h
    rw [collapse_concat, ih hissues]
    have hstep := takesUp issues issue
    generalize takeUp issues issue = result at hstep
    cases hstep with
    | @merged before after k hm ht _ =>
      have hk : k ∈ before ++ k :: after := List.mem_append_right _ List.mem_cons_self
      rw [separate_iff.1 (hnew k hk) hm] at ht
      cases ht
    | added _ => rfl

/-- **Collapsing changes nothing** iff no two issues tell of one conflict. -/
theorem collapse_eq_self_iff : collapse issues = issues ↔ Apart issues := by
  refine ⟨fun h => ?_, collapse_of_apart⟩
  induction issues using List.reverseRecOn with
  | nil => exact List.Pairwise.nil
  | append_singleton issues issue ih =>
    rw [collapse_concat] at h
    have hstep := takesUp (collapse issues) issue
    rw [h] at hstep
    have hlength := length_collapse_le issues
    generalize hkept : collapse issues = kept at hstep hlength
    generalize hall : issues ++ [issue] = all at hstep
    cases hstep with
    | @merged before after k _ _ _ =>
      -- Merging does not make the list longer.
      have hlonger := congrArg List.length hall
      simp only [List.length_append, List.length_cons, List.length_nil] at hlonger hlength
      omega
    | added hnew =>
      obtain rfl := List.append_cancel_right hall
      exact apart_concat_iff.2 ⟨ih hkept, fun i hi => separate_iff.2 fun hm => hnew hm i hi⟩

/-! ## Taking up one issue -/

/-- The issue tells of the same conflict as one of those kept, and names a prompt that a later one
    of its kind names. -/
def Bridges (issue : Issue) (kept : List Issue) : Prop :=
  issue.kind.isMutual = true ∧ ∃ k j, [k, j].Sublist kept ∧ tellsSame k issue = true ∧
    j.kind = issue.kind ∧ ∃ e ∈ issue.conflictingIds, e ∈ j.conflictingIds

theorem message_merge (kept issue : Issue) : (merge kept issue).message = kept.message := by
  rw [merge_eq]
  split <;> rfl

/-- A merged issue is separate from a later one if the first issue is, and the second names no
    prompt of it. -/
theorem separate_merge_left (hk : k.kind = issue.kind) (hm : issue.kind.isMutual = true) :
    Separate (merge k issue) j ↔ Separate k j ∧
      ¬ (j.kind = issue.kind ∧ ∃ e ∈ issue.conflictingIds, e ∈ j.conflictingIds) := by
  unfold Separate
  rw [kind_merge, message_merge, hk]
  simp only [mem_conflictingIds_merge, or_imp, not_and, not_exists]
  constructor
  · intro h
    constructor
    · intro hj _
      exact ⟨(h hj hm).1, fun e => ((h hj hm).2 e).1⟩
    · intro hj e
      exact ((h hj.symm hm).2 e).2
  · intro h hj _
    exact ⟨(h.1 hj hm).1, fun e => ⟨(h.1 hj hm).2 e, h.2 hj.symm e⟩⟩

/-- An earlier issue that tells of another conflict than the second is separate from the merged
    issue if it is from the first. -/
theorem separate_merge_right (ht : tellsSame i issue = false) (hk : k.kind = issue.kind) :
    Separate i (merge k issue) ↔ Separate i k := by
  rw [← Bool.not_eq_true, tellsSame_iff, not_and, not_or] at ht
  unfold Separate
  rw [kind_merge, message_merge, hk]
  simp only [mem_conflictingIds_merge, not_or]
  constructor
  · intro h hi hm
    exact ⟨(h hi hm).1, fun e he => ((h hi hm).2 e he).1⟩
  · intro h hi hm
    exact ⟨(h hi hm).1, fun e he => ⟨(h hi hm).2 e he, fun he' => (ht hi).2 ⟨e, he, he'⟩⟩⟩

/-- Only what stands behind the issue that it goes into can be bridged. -/
theorem bridges_merged_iff {before after : List Issue} (hm : issue.kind.isMutual = true)
    (ht : tellsSame k issue = true) (hbefore : ∀ i ∈ before, tellsSame i issue = false) :
    Bridges issue (before ++ k :: after) ↔
      ∃ j ∈ after, j.kind = issue.kind ∧ ∃ e ∈ issue.conflictingIds, e ∈ j.conflictingIds := by
  constructor
  · rintro ⟨_, k', j, hsublist, ht', hj⟩
    refine ⟨j, ?_, hj⟩
    obtain ⟨front, back, hpair, hfront, hback⟩ := List.sublist_append_iff.1 hsublist
    cases front with
    | nil =>
      rw [List.nil_append] at hpair
      subst hpair
      cases hback with
      | cons _ h => exact h.subset (List.mem_cons_of_mem _ List.mem_cons_self)
      | cons_cons _ h => exact h.subset List.mem_cons_self
    | cons i front =>
      obtain ⟨rfl, _⟩ := List.cons_eq_cons.1 hpair
      rw [hbefore k' (hfront.subset List.mem_cons_self)] at ht'
      cases ht'
  · rintro ⟨j, hj, hnames⟩
    have hpair : [k, j].Sublist (k :: after) := (List.singleton_sublist.2 hj).cons_cons k
    exact ⟨hm, k, j, hpair.trans (List.sublist_append_right before _), ht, hnames⟩

/-- **The issues that are left stay apart** iff the issue taken up bridges none of them. -/
theorem TakesUp.apart_iff (h : TakesUp issue kept kept') :
    Apart kept' ↔ Apart kept ∧ ¬ Bridges issue kept := by
  cases h with
  | @merged before after k hm ht hbefore =>
    have hk := kind_eq_of_tellsSame ht
    have hright : ∀ i ∈ before, Separate i (merge k issue) ↔ Separate i k :=
      fun i hi => separate_merge_right (hbefore i hi) hk
    have hleft : (∀ j ∈ after, Separate (merge k issue) j) ↔
        (∀ j ∈ after, Separate k j) ∧ ¬ Bridges issue (before ++ k :: after) := by
      simp only [separate_merge_left hk hm, bridges_merged_iff hm ht hbefore, forall_and,
        not_exists, not_and]
    unfold Apart
    simp only [List.pairwise_append, List.pairwise_cons, List.forall_mem_cons, hleft]
    constructor
    · rintro ⟨hb, ⟨⟨hk', hno⟩, ha⟩, hall⟩
      exact ⟨⟨hb, ⟨hk', ha⟩, fun i hi => ⟨(hright i hi).1 (hall i hi).1, (hall i hi).2⟩⟩, hno⟩
    · rintro ⟨⟨hb, ⟨hk', ha⟩, hall⟩, hno⟩
      exact ⟨hb, ⟨⟨hk', hno⟩, ha⟩, fun i hi => ⟨(hright i hi).2 (hall i hi).1, (hall i hi).2⟩⟩
  | added hnew =>
    have hsep : ∀ i ∈ kept, Separate i issue :=
      fun i hi => separate_iff.2 fun hm => hnew hm i hi
    have hbridges : ¬ Bridges issue kept := by
      rintro ⟨hm, k, j, hsublist, ht, _⟩
      rw [hnew hm k (hsublist.subset List.mem_cons_self)] at ht
      cases ht
    rw [apart_concat_iff, and_iff_left hsep, and_iff_left hbridges]

/-! ## Going through a list -/

/-- Some issue of the list bridges what the issues before it have collapsed to. -/
def Bridged (issues : List Issue) : Prop :=
  ∃ before issue, before ++ [issue] <+: issues ∧ Bridges issue (collapse before)

theorem bridged_concat_iff :
    Bridged (issues ++ [issue]) ↔ Bridged issues ∨ Bridges issue (collapse issues) := by
  unfold Bridged
  constructor
  · rintro ⟨before, i, hstarts, hbridges⟩
    rcases List.prefix_concat_iff.1 hstarts with hall | hstarts
    · obtain ⟨rfl, hlast⟩ := List.append_inj' hall rfl
      obtain rfl := List.singleton_inj.1 hlast
      exact .inr hbridges
    · exact .inl ⟨before, i, hstarts, hbridges⟩
  · rintro (⟨before, i, hstarts, hbridges⟩ | hbridges)
    · exact ⟨before, i, hstarts.trans (List.prefix_append issues [issue]), hbridges⟩
    · exact ⟨issues, issue, List.prefix_refl _, hbridges⟩

theorem apart_iff_not_bridged (issues : List Issue) :
    Apart (collapse issues) ↔ ¬ Bridged issues := by
  induction issues using List.reverseRecOn with
  | nil =>
    refine iff_of_true List.Pairwise.nil ?_
    rintro ⟨before, issue, hstarts, _⟩
    simpa using hstarts.length_le
  | append_singleton issues issue ih =>
    rw [bridged_concat_iff, not_or, ← ih, collapse_concat, (takesUp _ issue).apart_iff]

/-- The two issues are of different kinds or of one that is not mutual, or they do not say the
    same. -/
def SaysOther (i j : Issue) : Prop :=
  i.kind = j.kind → i.kind.isMutual = true → i.message ≠ j.message

theorem pairwise_saysOther_iff (issues : List Issue) :
    issues.Pairwise SaysOther ↔ (issues.map headline).Pairwise fun h h' =>
      h.1 = h'.1 → h.1.isMutual = true → h.2.2.1 ≠ h'.2.2.1 := by
  rw [List.pairwise_map]
  rfl

/-- No two issues of one mutual kind that are left say the same. -/
theorem pairwise_saysOther_collapse (issues : List Issue) :
    (collapse issues).Pairwise SaysOther := by
  refine collapse_induction (P := fun _ kept => kept.Pairwise SaysOther) List.Pairwise.nil ?_ issues
  intro _ issue kept kept' ih h
  cases h with
  | merged _ _ _ =>
    rw [pairwise_saysOther_iff] at ih ⊢
    rwa [map_headline_merged]
  | added hnew =>
    refine List.pairwise_append.2 ⟨ih, List.pairwise_singleton _ _, fun i hi j hj => ?_⟩
    obtain rfl := List.mem_singleton.1 hj
    exact fun hk hm => (separate_iff.2 (fun hm => hnew hm i hi) hk hm).1

/-! ## Telling of one conflict as an equivalence -/

/-- Issues that tell of one conflict as a third one does tell of one conflict. -/
def TellsTransitively (issues : List Issue) : Prop :=
  ∀ i ∈ issues, ∀ j ∈ issues, ∀ k ∈ issues,
    tellsSame i j = true → tellsSame j k = true → tellsSame i k = true

instance (issues : List Issue) : Decidable (TellsTransitively issues) :=
  inferInstanceAs (Decidable (∀ _ ∈ issues, ∀ _ ∈ issues, ∀ _ ∈ issues, _ → _ → _))

/-- The issue says what another one of the list says and names all that this one names; and
    whoever else it names is named by an issue of the list that tells of the same conflict. -/
structure StemsFrom (issues : List Issue) (i first : Issue) : Prop where
  mem : first ∈ issues
  headline : headline i = headline first
  covers : Covers i first
  names : ∀ e ∈ i.conflictingIds, ∃ j ∈ issues, tellsSame first j = true ∧ e ∈ j.conflictingIds

section Transitive

variable {first first' : Issue} (htrans : TellsTransitively issues)

theorem StemsFrom.message (h : StemsFrom issues i first) : i.message = first.message :=
  congrArg (fun x => x.2.2.1) h.headline

include htrans in
/-- What tells of the same conflict as an issue does so of the one that it stems from. -/
theorem StemsFrom.tellsSame_first (h : StemsFrom issues i first) (hj : j ∈ issues)
    (ht : tellsSame i j = true) : tellsSame first j = true := by
  obtain ⟨hk, hm | ⟨e, hi, he⟩⟩ := tellsSame_iff.1 ht
  · exact tellsSame_iff.2 ⟨h.covers.kind.symm.trans hk, .inl (h.message.symm.trans hm)⟩
  · obtain ⟨k, hmem, hfirst, hek⟩ := h.names e hi
    have hkind : k.kind = j.kind :=
      (kind_eq_of_tellsSame hfirst).symm.trans (h.covers.kind.symm.trans hk)
    exact htrans first h.mem k hmem j hj hfirst (tellsSame_iff.2 ⟨hkind, .inr ⟨e, hek, he⟩⟩)

theorem StemsFrom.tells (h : StemsFrom issues i first) (h' : StemsFrom issues j first')
    (ht : tellsSame first first' = true) : tellsSame i j = true := by
  obtain ⟨hk, ht⟩ := tellsSame_iff.1 ht
  refine tellsSame_iff.2 ⟨h.covers.kind.trans (hk.trans h'.covers.kind.symm), ?_⟩
  rcases ht with hm | ⟨e, he, he'⟩
  · exact .inl (h.message.trans (hm.trans h'.message.symm))
  · exact .inr ⟨e, h.covers.names he, h'.covers.names he'⟩

theorem tellsSame_self (i : Issue) : tellsSame i i = true := tellsSame_iff.2 ⟨rfl, .inl rfl⟩

theorem StemsFrom.self (hi : i ∈ issues) : StemsFrom issues i i :=
  ⟨hi, rfl, .refl i, fun _ he => ⟨i, hi, tellsSame_self i, he⟩⟩

include htrans in
theorem StemsFrom.merge (h : StemsFrom issues k first) (hissue : issue ∈ issues)
    (ht : tellsSame k issue = true) : StemsFrom issues (merge k issue) first where
  mem := h.mem
  headline := (headline_merge k issue).trans h.headline
  covers := (covers_merge_left k issue).trans h.covers
  names := by
    intro e he
    rcases mem_conflictingIds_merge.1 he with he | he
    · exact h.names e he
    · exact ⟨issue, hissue, h.tellsSame_first htrans hissue ht, he⟩

include htrans

theorem TakesUp.stems (h : TakesUp issue kept kept') (hissue : issue ∈ issues)
    (hkept : ∀ i ∈ kept, ∃ first, StemsFrom issues i first) :
    ∀ i ∈ kept', ∃ first, StemsFrom issues i first := by
  cases h with
  | @merged before after k _ ht _ =>
    rw [List.forall_mem_append, List.forall_mem_cons] at hkept ⊢
    obtain ⟨hbefore, ⟨first, hfirst⟩, hafter⟩ := hkept
    exact ⟨hbefore, ⟨first, hfirst.merge htrans hissue ht⟩, hafter⟩
  | added _ =>
    rw [List.forall_mem_append, List.forall_mem_singleton]
    exact ⟨hkept, issue, .self hissue⟩

theorem not_bridges_of_stems (hapart : Apart kept) (hissue : issue ∈ issues)
    (hkept : ∀ i ∈ kept, ∃ first, StemsFrom issues i first) : ¬ Bridges issue kept := by
  rintro ⟨hm, k, j, hsublist, hk, hkind, e, he, hej⟩
  obtain ⟨first, hfirst⟩ := hkept k (hsublist.subset List.mem_cons_self)
  obtain ⟨first', hfirst'⟩ := hkept j (hsublist.subset (List.mem_cons_of_mem _ List.mem_cons_self))
  have hj : tellsSame j issue = true := tellsSame_iff.2 ⟨hkind, .inr ⟨e, hej, he⟩⟩
  -- The two that would be bridged stem from issues that tell of the conflict of the new one.
  have hleft : tellsSame first issue = true := hfirst.tellsSame_first htrans hissue hk
  have hright : tellsSame issue first' = true := by
    rw [tellsSame_comm]
    exact hfirst'.tellsSame_first htrans hissue hj
  have hsame : tellsSame k j = true :=
    hfirst.tells hfirst' (htrans _ hfirst.mem _ hissue _ hfirst'.mem hleft hright)
  have hsep : Separate k j := by
    simpa using hapart.sublist hsublist
  rw [separate_iff.1 hsep (hkind ▸ hm)] at hsame
  cases hsame

/-- If telling of one conflict is transitive, no two issues are left that do. -/
theorem apart_of_transitive : Apart (collapse issues) := by
  have hrun := collapse_induction
    (P := fun given kept => given ⊆ issues →
      Apart kept ∧ ∀ i ∈ kept, ∃ first, StemsFrom issues i first)
    (fun _ => ⟨List.Pairwise.nil, fun i hi => absurd hi List.not_mem_nil⟩) ?_ issues
  · exact (hrun (List.Subset.refl issues)).1
  · intro given issue kept kept' ih h hgiven
    obtain ⟨hapart, hstems⟩ := ih (List.append_subset.1 hgiven).1
    have hissue : issue ∈ issues := hgiven (List.mem_append_right _ List.mem_cons_self)
    have hbridges := not_bridges_of_stems htrans hapart hissue hstems
    exact ⟨h.apart_iff.2 ⟨hapart, hbridges⟩, h.stems htrans hissue hstems⟩

end Transitive

/-! ## All together -/

/-- **When collapsing is complete.** No two issues of one mutual kind that are left say the same.
    Collapsing what is left changes nothing iff no two of them name a common prompt either, and
    this is so iff no issue, when it is taken up, bridges two that are kept apart. If telling of
    one conflict is transitive among the given issues, no issue does. -/
theorem apart_collapse_iff (issues : List Issue) :
    (collapse issues).Pairwise SaysOther ∧
      (collapse (collapse issues) = collapse issues ↔ Apart (collapse issues)) ∧
      (Apart (collapse issues) ↔ ¬ Bridged issues) ∧
      (TellsTransitively issues → Apart (collapse issues)) :=
  ⟨pairwise_saysOther_collapse issues, collapse_eq_self_iff, apart_iff_not_bridged issues,
    apart_of_transitive⟩

/-- Two exclusions, each of which is told a second time in other words. -/
def echoed : List Issue :=
  [exclusion "Not with tea." ["b"], exclusion "Not with milk." ["c", "d"],
   exclusion "Tea will not do." ["b"], exclusion "No cream." ["d", "c"]]

theorem apart_collapse_iff_echoed :
    TellsTransitively echoed ∧ Apart (collapse echoed) ∧ ¬ Bridged echoed ∧
      (collapse echoed).map conflictingIds = [["b"], ["c", "d"]] := by
  obtain ⟨_, _, hbridged, hcomplete⟩ := apart_collapse_iff echoed
  have htrans : TellsTransitively echoed := by decide
  exact ⟨htrans, hcomplete htrans, hbridged.1 (hcomplete htrans), by decide⟩

/-- The third issue goes into the first and names a prompt of the second: both name `c` from then
    on, and collapsing again would merge them. -/
theorem not_apart_collapse_bridged :
    ¬ Apart (collapse bridged) ∧ collapse (collapse bridged) ≠ collapse bridged := by
  decide

end PromptRules.Issue
