import Mathlib.Data.List.Nodup
import PromptRules.Proofs.Prompt.Families

/-!
# Rivals of a prompt

Two prompts are rivals if one excludes the other, or if one limits a category or a group to
one prompt and the other belongs to it. The issues that name conflicting prompts name the
enabled rivals, no more and no fewer; this takes the scan of what a prompt declares and the
scan of what the others declare together.

Results:
* `names_bothWays`: what two scans about one kind of conflict name.
* `exists_rival_of_names`: a prompt that is named in a conflict is an enabled rival.
* `names_iff_rival`: a prompt is named in a conflict iff it is an enabled rival.
* `anyError_iff`: something stands in the way iff there is an enabled rival or a required
  prompt that is not enabled.
-/

namespace PromptRules

open Data Directive

/-- No two prompts have one identifier. -/
def Distinct (ps : List Prompt) : Prop := (ps.map Prompt.identifier).Nodup

instance (ps : List Prompt) : Decidable (Distinct ps) :=
  inferInstanceAs (Decidable (List.Nodup _))

theorem Distinct.eq {ps : List Prompt} (hd : Distinct ps) {p q : Prompt} (hp : p ∈ ps) (hq : q ∈ ps)
    (h : p.identifier = q.identifier) : p = q :=
  List.inj_on_of_nodup_map hd hp hq h

theorem Prompt.mem_of_find? {ps : List Prompt} {e : String} {p : Prompt}
    (h : Prompt.find? ps e = some p) : p ∈ ps ∧ p.identifier = e :=
  ⟨List.mem_of_find?_eq_some h, by simpa using List.find?_some h⟩

theorem Prompt.find?_isSome {ps : List Prompt} {p : Prompt} (hp : p ∈ ps) :
    ∃ q, Prompt.find? ps p.identifier = some q := by
  apply Option.isSome_iff_exists.1
  rw [Prompt.find?, List.find?_isSome]
  exact ⟨p, hp, by simp⟩

theorem Distinct.find?_iff {ps : List Prompt} (hd : Distinct ps) {e : String} {p : Prompt} :
    Prompt.find? ps e = some p ↔ p ∈ ps ∧ p.identifier = e := by
  constructor
  · exact Prompt.mem_of_find?
  · rintro ⟨hp, rfl⟩
    obtain ⟨q, hq⟩ := Prompt.find?_isSome hp
    obtain ⟨hq', he⟩ := Prompt.mem_of_find? hq
    rw [hq, hd.eq hq' hp he]

namespace Issue

theorem mem_conflictingIds_iff {i : Issue} {e : String} :
    e ∈ i.conflictingIds ↔ e ∈ (i.rival.toList ++ i.rivals).map Prompt.identifier :=
  mem_map_distinctBy

end Issue

namespace Activation

variable {D : String → Directives} {p : Prompt} {ps : List Prompt} {e : String}

/-! ## What the families name -/

theorem enabledOther_eq_some_iff {o : Prompt} :
    enabledOther p ps e = some o ↔
      e ≠ p.identifier ∧ Prompt.find? ps e = some o ∧ o.enabled = true := by
  unfold enabledOther
  split
  · rename_i h
    simp [h]
  · rename_i h
    simp [h, Option.filter_eq_some_iff]

/-- Two scans, one of what the prompt declares in a list and one of what the others declare in
    the same list about the prompt, name a prompt if either finds it. -/
theorem names_bothWays (f : ListField) {declared : Prompt → Issue}
    {reverse : Prompt × Directives → Issue}
    (hd : ∀ o, (declared o).conflictingIds = [o.identifier])
    (hr : ∀ o, (reverse o).conflictingIds = [o.1.identifier]) (d : Directives) :
    (∃ i ∈ ((d.list f).filterMap (enabledOther p ps)).map declared
        ++ ((around D p ps).filter fun o => (o.2.list f).contains p.identifier).map reverse,
      e ∈ i.conflictingIds) ↔
      (e ∈ d.list f ∧ ∃ o, enabledOther p ps e = some o) ∨
        ∃ o ∈ others p ps, p.identifier ∈ (D o.content).list f ∧ o.identifier = e := by
  have hname : ∀ {x : String} {o : Prompt}, enabledOther p ps x = some o → o.identifier = x :=
    fun h => (Prompt.mem_of_find? (enabledOther_eq_some_iff.1 h).2.1).2
  simp only [List.mem_append, or_and_right, exists_or]
  refine or_congr ?_ ?_
  · constructor
    · rintro ⟨i, hi, he⟩
      obtain ⟨o, ho, rfl⟩ := List.mem_map.1 hi
      obtain ⟨x, hx, hxo⟩ := List.mem_filterMap.1 ho
      rw [hd, List.mem_singleton, hname hxo] at he
      exact ⟨he ▸ hx, o, he ▸ hxo⟩
    · rintro ⟨he, o, ho⟩
      refine ⟨declared o, List.mem_map_of_mem (List.mem_filterMap.2 ⟨e, he, ho⟩), ?_⟩
      rw [hd, List.mem_singleton, hname ho]
  · constructor
    · rintro ⟨i, hi, he⟩
      obtain ⟨x, hx, rfl⟩ := List.mem_map.1 hi
      obtain ⟨hx, hc⟩ := List.mem_filter.1 hx
      obtain ⟨o, ho, rfl⟩ := List.mem_map.1 hx
      rw [hr, List.mem_singleton] at he
      exact ⟨o, ho, by simpa using hc, he.symm⟩
    · rintro ⟨o, ho, hc, rfl⟩
      refine ⟨reverse (o, D o.content), List.mem_map_of_mem (List.mem_filter.2
        ⟨List.mem_map_of_mem ho, by simpa using hc⟩), ?_⟩
      rw [hr, List.mem_singleton]

theorem names_limits (kind : IssueKind) (what directive : String) (limit : Option String)
    (active : String → List Prompt) :
    (∃ i ∈ limit.toList.flatMap fun c => limits kind what directive p c (active c),
      e ∈ i.conflictingIds) ↔ ∃ c, limit = some c ∧ ∃ o ∈ active c, o.identifier = e := by
  constructor
  · rintro ⟨i, hi, he⟩
    obtain ⟨c, hc, hi⟩ := List.mem_flatMap.1 hi
    obtain ⟨_, rfl⟩ := mem_limits_iff.1 hi
    exact ⟨c, by simpa using hc, List.mem_map.1 (Issue.mem_conflictingIds_iff.1 he)⟩
  · rintro ⟨c, rfl, o, ho, rfl⟩
    have hi : limited kind what directive p c (active c) ∈
        limits kind what directive p c (active c) :=
      mem_limits_iff.2 ⟨List.ne_nil_of_mem ho, rfl⟩
    exact ⟨_, List.mem_flatMap.2 ⟨c, List.mem_singleton.2 rfl, hi⟩,
      Issue.mem_conflictingIds_iff.2 (List.mem_map_of_mem ho)⟩

theorem map_fst_filter_around (q : Prompt × Directives → Bool) :
    ((around D p ps).filter q).map Prod.fst = (others p ps).filter fun o => q (o, D o.content) := by
  unfold around
  rw [List.filter_map, List.map_map]
  exact List.map_id _

theorem mem_filter_around {q : Prompt × Directives → Bool} {o : Prompt} :
    o ∈ ((around D p ps).filter q).map Prod.fst ↔
      o ∈ others p ps ∧ q (o, D o.content) = true := by
  rw [map_fst_filter_around, List.mem_filter]

theorem mem_inCategory {c : String} {o : Prompt} :
    o ∈ inCategory c (around D p ps) ↔
      o ∈ others p ps ∧ c ∈ (D o.content).list .categories := by
  rw [inCategory, mem_filter_around, List.contains_iff_mem]

theorem mem_inGroup {g : String} {o : Prompt} :
    o ∈ inGroup g (around D p ps) ↔
      o ∈ others p ps ∧ (D o.content).text .mutualExclusiveGroup = some g := by
  rw [inGroup, mem_filter_around, beq_iff_eq]

/-! ## Rivals -/

/-- What `p` and `o` declare lets only one of them be enabled, as far as a check of `p` sees
    it: a limit on a category counts only if `p` declares it. -/
def Rivals (D : String → Directives) (p o : Prompt) : Prop :=
  o.identifier ≠ p.identifier ∧
    (o.identifier ∈ (D p.content).list .exclusiveWith ∨
      p.identifier ∈ (D o.content).list .exclusiveWith ∨
      (∃ c ∈ declaredLimit (D p.content) .maxOnePerCategory,
        c ∈ (D o.content).list .categories) ∨
      ∃ g ∈ declaredLimit (D p.content) .mutualExclusiveGroup,
        (D o.content).text .mutualExclusiveGroup = some g)

instance (D : String → Directives) (p o : Prompt) : Decidable (Rivals D p o) :=
  inferInstanceAs (Decidable (_ ∧ (_ ∨ _ ∨ _ ∨ _)))

/-- The issues about conflicts name the prompt. -/
def Names (D : String → Directives) (p : Prompt) (ps : List Prompt) (e : String)
    (k : IssueKind) : Prop :=
  k.isConflict = true ∧
    ∃ i ∈ family p (D p.content) ps (around D p ps) k, e ∈ i.conflictingIds

theorem names_exclusive_iff :
    Names D p ps e .exclusive ↔
      (e ∈ (D p.content).list .exclusiveWith ∧ ∃ o, enabledOther p ps e = some o) ∨
        ∃ o ∈ others p ps, p.identifier ∈ (D o.content).list .exclusiveWith ∧ o.identifier = e := by
  refine (and_iff_right rfl).trans ?_
  exact names_bothWays .exclusiveWith (fun o => rfl) (fun o => rfl) (D p.content)

theorem names_categoryLimit_iff :
    Names D p ps e .categoryLimit ↔
      ∃ c, declaredLimit (D p.content) .maxOnePerCategory = some c ∧
        ∃ o ∈ others p ps, c ∈ (D o.content).list .categories ∧ o.identifier = e := by
  refine (and_iff_right rfl).trans ((names_limits _ _ _ _ _).trans ?_)
  simp only [mem_inCategory, and_assoc]

theorem names_mutualExclusiveGroup_iff :
    Names D p ps e .mutualExclusiveGroup ↔
      ∃ g, declaredLimit (D p.content) .mutualExclusiveGroup = some g ∧
        ∃ o ∈ others p ps,
          (D o.content).text .mutualExclusiveGroup = some g ∧ o.identifier = e := by
  refine (and_iff_right rfl).trans ((names_limits _ _ _ _ _).trans ?_)
  simp only [mem_inGroup, and_assoc]

/-- Whoever is named in a conflict is an enabled rival. -/
theorem exists_rival_of_names {k : IssueKind} (h : Names D p ps e k) :
    ∃ o ∈ ps, o.identifier = e ∧ o.enabled = true ∧ Rivals D p o := by
  cases k with
  | exclusive =>
    rcases names_exclusive_iff.1 h with ⟨he, o, ho⟩ | ⟨o, ho, hx, rfl⟩
    · obtain ⟨hne, hf, hen⟩ := enabledOther_eq_some_iff.1 ho
      obtain ⟨hm, rfl⟩ := Prompt.mem_of_find? hf
      exact ⟨o, hm, rfl, hen, hne, .inl he⟩
    · obtain ⟨hm, hen, _, hne⟩ := others_mem_iff.1 ho
      exact ⟨o, hm, rfl, hen, hne, .inr (.inl hx)⟩
  | categoryLimit =>
    obtain ⟨c, hc, o, ho, hx, rfl⟩ := names_categoryLimit_iff.1 h
    obtain ⟨hm, hen, _, hne⟩ := others_mem_iff.1 ho
    exact ⟨o, hm, rfl, hen, hne, .inr (.inr (.inl ⟨c, hc, hx⟩))⟩
  | mutualExclusiveGroup =>
    obtain ⟨g, hg, o, ho, hx, rfl⟩ := names_mutualExclusiveGroup_iff.1 h
    obtain ⟨hm, hen, _, hne⟩ := others_mem_iff.1 ho
    exact ⟨o, hm, rfl, hen, hne, .inr (.inr (.inr ⟨g, hg, hx⟩))⟩
  | missingDependency => cases h.1
  | softConflict => cases h.1
  | deprecated => cases h.1

theorem content_ne_of_mem_list (hD : D "" = .empty) {c x : String} {f : ListField}
    (h : x ∈ (D c).list f) : c ≠ "" := by
  rintro rfl
  rw [hD] at h
  cases h

theorem content_ne_of_text (hD : D "" = .empty) {c x : String} {f : TextField}
    (h : (D c).text f = some x) : c ≠ "" := by
  rintro rfl
  rw [hD] at h
  cases h

/-- The conflicts name the enabled rivals and nobody else. -/
theorem names_iff_rival (hD : D "" = .empty) (hd : Distinct ps) :
    (∃ k, Names D p ps e k) ↔
      ∃ o ∈ ps, o.identifier = e ∧ o.enabled = true ∧ Rivals D p o := by
  constructor
  · rintro ⟨k, hk⟩
    exact exists_rival_of_names hk
  · -- A rival that declares something has a content, so the scan of the others meets it.
    rintro ⟨o, hm, rfl, hen, hne, hx | hx | ⟨c, hc, hx⟩ | ⟨g, hg, hx⟩⟩
    · have ho := enabledOther_eq_some_iff.2 ⟨hne, hd.find?_iff.2 ⟨hm, rfl⟩, hen⟩
      exact ⟨.exclusive, names_exclusive_iff.2 (.inl ⟨hx, o, ho⟩)⟩
    · have ho := others_mem_iff.2 ⟨hm, hen, content_ne_of_mem_list hD hx, hne⟩
      exact ⟨.exclusive, names_exclusive_iff.2 (.inr ⟨o, ho, hx, rfl⟩)⟩
    · have ho := others_mem_iff.2 ⟨hm, hen, content_ne_of_mem_list hD hx, hne⟩
      exact ⟨.categoryLimit, names_categoryLimit_iff.2 ⟨c, hc, o, ho, hx, rfl⟩⟩
    · have ho := others_mem_iff.2 ⟨hm, hen, content_ne_of_text hD hx, hne⟩
      exact ⟨.mutualExclusiveGroup, names_mutualExclusiveGroup_iff.2 ⟨g, hg, o, ho, hx, rfl⟩⟩

/-! ## What stands in the way -/

/-- An issue about a conflict names somebody. -/
theorem exists_names_of_mem_family {k : IssueKind} (hk : k.isConflict = true) {i : Issue}
    (hi : i ∈ family p (D p.content) ps (around D p ps) k) : ∃ e, Names D p ps e k := by
  have hlimits : ∀ {kind : IssueKind} {what directive limit : String} {active : List Prompt},
      i ∈ limits kind what directive p limit active → ∃ e, e ∈ i.conflictingIds := by
    intro kind what directive limit active h
    obtain ⟨hne, rfl⟩ := mem_limits_iff.1 h
    obtain ⟨o, ho⟩ := List.exists_mem_of_ne_nil _ hne
    exact ⟨o.identifier, Issue.mem_conflictingIds_iff.2 (List.mem_map_of_mem ho)⟩
  have hnamed : ∃ e, e ∈ i.conflictingIds := by
    cases k with
    | exclusive =>
      rcases List.mem_append.1 hi with h | h
      · obtain ⟨o, _, rfl⟩ := List.mem_map.1 h
        exact ⟨o.identifier, List.mem_singleton.2 rfl⟩
      · obtain ⟨o, _, rfl⟩ := List.mem_map.1 h
        exact ⟨o.1.identifier, List.mem_singleton.2 rfl⟩
    | categoryLimit =>
      obtain ⟨c, _, h⟩ := List.mem_flatMap.1 hi
      exact hlimits h
    | mutualExclusiveGroup =>
      obtain ⟨g, _, h⟩ := List.mem_flatMap.1 hi
      exact hlimits h
    | missingDependency => cases hk
    | softConflict => cases hk
    | deprecated => cases hk
  obtain ⟨e, he⟩ := hnamed
  exact ⟨e, hk, i, hi, he⟩

theorem family_missingDependency_ne_nil_iff :
    family p (D p.content) ps (around D p ps) .missingDependency ≠ [] ↔
      ∃ r ∈ (D p.content).list .requires, ∀ t ∈ Prompt.find? ps r, t.enabled = false := by
  constructor
  · intro h
    obtain ⟨i, hi⟩ := List.exists_mem_of_ne_nil _ h
    obtain ⟨r, hr, ht, _⟩ := mem_dependencies_iff.1 hi
    exact ⟨r, hr, ht⟩
  · rintro ⟨r, hr, ht⟩
    exact List.ne_nil_of_mem (mem_dependencies_iff.2 ⟨r, hr, ht, rfl⟩)

/-- **Something stands in the way** of a prompt iff one of its rivals is enabled or a prompt
    that it requires is not. -/
theorem anyError_iff {identifier : String} (hD : D "" = .empty) (hd : Distinct ps)
    (hp : Prompt.find? ps identifier = some p) (hc : p.content ≠ "") :
    Issue.anyError (issuesBy D identifier ps) = true ↔
      (∃ o ∈ ps, o.enabled = true ∧ Rivals D p o) ∨
        ∃ r ∈ (D p.content).list .requires, ∀ t ∈ Prompt.find? ps r, t.enabled = false := by
  rw [anyError_issuesBy hp hc]
  constructor
  · rintro ⟨k, hk, hne⟩
    rcases k.severity_eq_error_iff.1 hk with hconf | rfl
    · obtain ⟨i, hi⟩ := List.exists_mem_of_ne_nil _ hne
      obtain ⟨e, he⟩ := exists_names_of_mem_family hconf hi
      obtain ⟨o, ho, _, hen, hr⟩ := (names_iff_rival hD hd).1 ⟨k, he⟩
      exact .inl ⟨o, ho, hen, hr⟩
    · exact .inr (family_missingDependency_ne_nil_iff.1 hne)
  · rintro (⟨o, ho, hen, hr⟩ | h)
    · obtain ⟨k, hk, i, hi, _⟩ := (names_iff_rival hD hd).2 ⟨o, ho, rfl, hen, hr⟩
      exact ⟨k, k.severity_eq_error_iff.2 (.inl hk), List.ne_nil_of_mem hi⟩
    · exact ⟨.missingDependency, rfl, family_missingDependency_ne_nil_iff.2 h⟩

end Activation

end PromptRules
