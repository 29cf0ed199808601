import Mathlib.Data.List.Nodup
import PromptRules.Directive.Keyword

/-!
# Unambiguous keyword tables

Specifications make a keyword table iff every keyword is one token, no keyword repeats, and
specifications that write the same field read values of the same kind. The table is built one
specification after the other against what stands in front, which comes to the same: a
specification is taken up iff the ones in front stay unambiguous with it, and the first that is
not refuses the table.

Results:
* `unambiguous_concat_iff`: what one more specification needs.
* `indexFrom_of_arises`, `indexFrom_of_fits`: one step, which refuses a specification or takes it
  up.
* `indexFrom_eq_ok_iff`, `indexFrom_eq_error_iff`: what a run of steps makes of a table.
* `index_exact`: which tables are made, what is in them, and with what the others are refused.
* `unambiguous_specs`: the specifications of all directives make a table.
-/

namespace PromptRules.Directive

open Data Text

/-- A keyword that can be matched as a whole: it is not empty and holds no blank. -/
def OneToken (keyword : String) : Prop := keyword ≠ "" ∧ ∀ c ∈ keyword.toList, isBlank c = false

/-- Specifications that a table can tell apart: their keywords are tokens, no two of them the same,
    and those that write one field read it in one kind. -/
structure Unambiguous (specs : List Spec) : Prop where
  tokens : ∀ spec ∈ specs, OneToken spec.keyword
  keywords : (specs.map Spec.keyword).Nodup
  kinds : ∀ spec ∈ specs, ∀ other ∈ specs, spec.field = other.field → spec.kind = other.kind

/-- What is wrong with a specification behind those in front of it. Of several faults the one
    listed first counts. -/
inductive SpecError.Arises (front : List Spec) (spec : Spec) : SpecError → Prop
  | notOneToken : ¬ OneToken spec.keyword → Arises front spec (.notOneToken spec.keyword)
  | repeatedKeyword : OneToken spec.keyword → spec.keyword ∈ front.map Spec.keyword →
      Arises front spec (.repeatedKeyword spec.keyword)
  | twoKinds : OneToken spec.keyword → spec.keyword ∉ front.map Spec.keyword →
      (∃ other ∈ front, other.field = spec.field ∧ other.kind ≠ spec.kind) →
      Arises front spec (.twoKinds spec.field)

/-- The specifications by keyword, in their order. -/
def byKeyword (specs : List Spec) : List (String × Spec) :=
  specs.map fun spec => (spec.keyword, spec)

/-- The kinds of the fields that specifications write. -/
def TellsKinds (kinds : List (String × Kind)) (specs : List Spec) : Prop :=
  ∀ field kind, Assoc.get? kinds field = some kind ↔
    ∃ spec ∈ specs, spec.field = field ∧ spec.kind = kind

variable {front specs : List Spec} {spec : Spec} {kinds : List (String × Kind)} {e : SpecError}

/-! ## One more specification -/

theorem isToken_iff {keyword : String} : isToken keyword = true ↔ OneToken keyword := by
  simp [isToken, OneToken]

theorem unambiguous_nil : Unambiguous [] where
  tokens := List.forall_mem_nil _
  keywords := List.nodup_nil
  kinds := List.forall_mem_nil _

theorem Unambiguous.of_append {back : List Spec} (h : Unambiguous (front ++ back)) :
    Unambiguous front where
  tokens spec hs := h.tokens spec (List.mem_append_left back hs)
  keywords := by
    have hk := h.keywords
    rw [List.map_append] at hk
    exact hk.of_append_left
  kinds spec hs other ho :=
    h.kinds spec (List.mem_append_left back hs) other (List.mem_append_left back ho)

/-- **What one more specification needs**: nothing is wrong with it behind those in front. -/
theorem unambiguous_concat_iff (h : Unambiguous front) :
    Unambiguous (front ++ [spec]) ↔ ∀ e : SpecError, ¬ e.Arises front spec := by
  constructor
  · intro hall e he
    have hself : spec ∈ front ++ [spec] := List.mem_append_right front List.mem_cons_self
    cases he with
    | notOneToken hkeyword => exact hkeyword (hall.tokens spec hself)
    | repeatedKeyword _ hmem =>
      have hnodup := hall.keywords
      rw [List.map_append, List.nodup_append] at hnodup
      exact hnodup.2.2 _ hmem _ List.mem_cons_self rfl
    | twoKinds _ _ hother =>
      obtain ⟨other, ho, hfield, hkind⟩ := hother
      exact hkind (hall.kinds other (List.mem_append_left [spec] ho) spec hself hfield)
  · intro hnone
    have htoken : OneToken spec.keyword :=
      Classical.byContradiction fun hn => hnone _ (.notOneToken hn)
    have hnew : spec.keyword ∉ front.map Spec.keyword := fun hmem =>
      hnone _ (.repeatedKeyword htoken hmem)
    have hkind : ∀ other ∈ front, other.field = spec.field → other.kind = spec.kind :=
      fun other ho hfield => Classical.byContradiction fun hne =>
        hnone _ (.twoKinds htoken hnew ⟨other, ho, hfield, hne⟩)
    refine ⟨?_, ?_, ?_⟩
    · exact List.forall_mem_append.2 ⟨h.tokens, List.forall_mem_singleton.2 htoken⟩
    · rw [List.map_append]
      refine List.nodup_append.2 ⟨h.keywords, List.nodup_singleton _, ?_⟩
      intro k hk k' hk'
      rw [List.mem_singleton.1 hk']
      exact fun heq => hnew (heq ▸ hk)
    · simp only [List.forall_mem_append, List.forall_mem_singleton]
      refine ⟨fun s hs => ⟨h.kinds s hs, hkind s hs⟩, fun other ho hfield => ?_, fun _ => trivial⟩
      exact (hkind other ho hfield.symm).symm

theorem exists_arises (h : Unambiguous front) (hu : ¬ Unambiguous (front ++ [spec])) :
    ∃ e : SpecError, e.Arises front spec :=
  not_forall_not.1 (mt (unambiguous_concat_iff h).2 hu)

/-! ## What the table and the kinds tell -/

theorem keys_byKeyword (specs : List Spec) :
    Assoc.keys (byKeyword specs) = specs.map Spec.keyword := by
  rw [Assoc.keys, byKeyword, List.map_map]
  rfl

theorem isSome_get?_byKeyword {keyword : String} :
    (Assoc.get? (byKeyword front) keyword).isSome = true ↔ keyword ∈ front.map Spec.keyword := by
  rw [← Assoc.mem_keys_iff, keys_byKeyword]

theorem put_byKeyword (h : spec.keyword ∉ front.map Spec.keyword) :
    Assoc.put (byKeyword front) spec.keyword spec = byKeyword (front ++ [spec]) := by
  have hnone : Assoc.get? (byKeyword front) spec.keyword = none := by
    rwa [← isSome_get?_byKeyword, Option.not_isSome_iff_eq_none] at h
  rw [Assoc.put_eq_append hnone, byKeyword, byKeyword, List.map_append]
  rfl

/-- A table without a repeated keyword leads from every keyword to its specification. -/
theorem get?_byKeyword (h : (specs.map Spec.keyword).Nodup) (hs : spec ∈ specs) :
    Assoc.get? (byKeyword specs) spec.keyword = some spec := by
  induction specs with
  | nil => cases hs
  | cons first specs ih =>
    obtain ⟨hfirst, hnodup⟩ := List.nodup_cons.1 h
    rcases List.mem_cons.1 hs with rfl | hs
    · exact Assoc.get?_cons_self _ _ _
    · have hne : first.keyword ≠ spec.keyword := fun heq =>
        hfirst (heq ▸ List.mem_map_of_mem hs)
      exact (Assoc.get?_cons_of_ne first (byKeyword specs) hne).trans (ih hnodup hs)

theorem tellsKinds_nil : TellsKinds [] [] := by
  simp [TellsKinds]

theorem TellsKinds.any_iff (h : TellsKinds kinds front) {field : String} {kind : Kind} :
    (Assoc.get? kinds field).any (· ≠ kind) = true ↔
      ∃ other ∈ front, other.field = field ∧ other.kind ≠ kind := by
  constructor
  · intro hany
    cases hget : Assoc.get? kinds field with
    | none =>
      rw [hget] at hany
      cases hany
    | some written =>
      obtain ⟨other, ho, hfield, rfl⟩ := (h field written).1 hget
      exact ⟨other, ho, hfield, by simpa [hget] using hany⟩
  · rintro ⟨other, ho, hfield, hne⟩
    rw [(h field other.kind).2 ⟨other, ho, hfield, rfl⟩]
    simpa using hne

theorem TellsKinds.put (h : TellsKinds kinds front) (hu : Unambiguous (front ++ [spec])) :
    TellsKinds (Assoc.put kinds spec.field spec.kind) (front ++ [spec]) := by
  have hself : spec ∈ front ++ [spec] := List.mem_append_right front List.mem_cons_self
  intro field kind
  by_cases hfield : field = spec.field
  · -- The kind written last is the kind of every specification of the field.
    subst hfield
    rw [Assoc.get?_put_self, Option.some.injEq]
    constructor
    · exact fun hkind => ⟨spec, hself, rfl, hkind⟩
    · rintro ⟨other, ho, hfield, rfl⟩
      exact hu.kinds spec hself other ho hfield.symm
  · rw [Assoc.get?_put_of_ne kinds spec.kind hfield, h field kind]
    have hother : ¬ (spec.field = field ∧ spec.kind = kind) := fun hspec => hfield hspec.1.symm
    simp only [List.mem_append, List.mem_singleton, or_and_right, exists_or, exists_eq_left, hother,
      or_false]

/-! ## Building a table -/

/-- A step refuses a specification that something is wrong with. -/
theorem indexFrom_of_arises (hk : TellsKinds kinds front) (he : e.Arises front spec) :
    indexFrom (byKeyword front) kinds (spec :: specs) = .error e := by
  rw [indexFrom]
  cases he with
  | notOneToken htoken =>
    have hfails : (!isToken spec.keyword) = true := by
      rwa [Bool.not_eq_true', ← Bool.not_eq_true, isToken_iff]
    rw [if_pos hfails]
  | repeatedKeyword htoken hmem =>
    rw [if_neg (by simpa [isToken_iff] using htoken), if_pos (isSome_get?_byKeyword.2 hmem)]
  | twoKinds htoken hnew hother =>
    rw [if_neg (by simpa [isToken_iff] using htoken), if_neg (mt isSome_get?_byKeyword.1 hnew),
      if_pos (hk.any_iff.2 hother)]

/-- A step takes up a specification that leaves those in front unambiguous. -/
theorem indexFrom_of_fits (hk : TellsKinds kinds front) (hu : Unambiguous (front ++ [spec])) :
    indexFrom (byKeyword front) kinds (spec :: specs) =
      indexFrom (byKeyword (front ++ [spec])) (Assoc.put kinds spec.field spec.kind) specs := by
  have hnone := (unambiguous_concat_iff hu.of_append).1 hu
  have htoken : OneToken spec.keyword :=
    hu.tokens spec (List.mem_append_right front List.mem_cons_self)
  have hnew : spec.keyword ∉ front.map Spec.keyword := fun hmem =>
    hnone _ (.repeatedKeyword htoken hmem)
  have hkind := fun hother => hnone _ (.twoKinds htoken hnew hother)
  rw [indexFrom, if_neg (by simpa [isToken_iff] using htoken),
    if_neg (mt isSome_get?_byKeyword.1 hnew), if_neg (mt hk.any_iff.1 hkind), put_byKeyword hnew]

/-- **A run of steps makes a table iff what it takes up leaves those in front unambiguous.** -/
theorem indexFrom_eq_ok_iff (hk : TellsKinds kinds front) (h : Unambiguous front)
    {table : List (String × Spec)} :
    indexFrom (byKeyword front) kinds specs = .ok table ↔
      Unambiguous (front ++ specs) ∧ table = byKeyword (front ++ specs) := by
  induction specs generalizing front kinds with
  | nil =>
    rw [indexFrom, List.append_nil, Except.ok.injEq, eq_comm]
    exact (and_iff_right h).symm
  | cons spec specs ih =>
    rw [List.append_cons]
    by_cases hu : Unambiguous (front ++ [spec])
    · rw [indexFrom_of_fits hk hu]
      exact ih (hk.put hu) hu
    · obtain ⟨e, he⟩ := exists_arises h hu
      rw [indexFrom_of_arises hk he]
      exact ⟨by rintro ⟨⟩, fun hall => absurd hall.1.of_append hu⟩

/-- **The first specification that something is wrong with refuses a table.** -/
theorem indexFrom_eq_error_iff (hk : TellsKinds kinds front) (h : Unambiguous front) :
    indexFrom (byKeyword front) kinds specs = .error e ↔ ∃ before spec after,
      specs = before ++ spec :: after ∧ Unambiguous (front ++ before) ∧
        e.Arises (front ++ before) spec := by
  constructor
  · intro herror
    induction specs generalizing front kinds with
    | nil => cases herror
    | cons spec specs ih =>
      by_cases hu : Unambiguous (front ++ [spec])
      · rw [indexFrom_of_fits hk hu] at herror
        obtain ⟨before, other, after, rfl, hbefore, he⟩ := ih (hk.put hu) hu herror
        rw [← List.append_cons] at hbefore he
        exact ⟨spec :: before, other, after, rfl, hbefore, he⟩
      · obtain ⟨e', he'⟩ := exists_arises h hu
        obtain rfl := Except.error.inj ((indexFrom_of_arises hk he').symm.trans herror)
        rw [← List.append_nil front] at h he'
        exact ⟨[], spec, specs, rfl, h, he'⟩
  · rintro ⟨before, spec, after, rfl, hbefore, he⟩
    induction before generalizing front kinds with
    | nil =>
      rw [List.append_nil] at he
      exact indexFrom_of_arises hk he
    | cons first before ih =>
      rw [List.append_cons] at hbefore he
      have hu : Unambiguous (front ++ [first]) := hbefore.of_append
      rw [List.cons_append, indexFrom_of_fits hk hu]
      exact ih (hk.put hu) hu hbefore he

/-! ## Which tables are made -/

theorem index_eq_ok_iff {table : List (String × Spec)} :
    index specs = .ok table ↔ Unambiguous specs ∧ table = byKeyword specs :=
  indexFrom_eq_ok_iff tellsKinds_nil unambiguous_nil

theorem index_eq_error_iff : index specs = .error e ↔ ∃ front spec back,
    specs = front ++ spec :: back ∧ Unambiguous front ∧ e.Arises front spec :=
  indexFrom_eq_error_iff tellsKinds_nil unambiguous_nil

theorem exists_table_iff : (∃ table, index specs = .ok table) ↔ Unambiguous specs :=
  ⟨fun ⟨_, h⟩ => (index_eq_ok_iff.1 h).1, fun h => ⟨_, index_eq_ok_iff.2 ⟨h, rfl⟩⟩⟩

/-- **A table is made of specifications iff they are unambiguous.** It has one entry for each of
    them, in their order, and leads from every keyword to its own specification. Specifications
    that are ambiguous are refused, for what is wrong with the first of them that is so together
    with those in front. -/
theorem index_exact (specs : List Spec) :
    ((∃ table, index specs = .ok table) ↔ Unambiguous specs) ∧
    (∀ table, index specs = .ok table → table = specs.map (fun spec => (spec.keyword, spec)) ∧
      ∀ spec ∈ specs, Assoc.get? table spec.keyword = some spec) ∧
    ((∃ e, index specs = .error e) ↔ ¬ Unambiguous specs) ∧
    ∀ e, index specs = .error e ↔ ∃ front spec back,
      specs = front ++ spec :: back ∧ Unambiguous front ∧ e.Arises front spec := by
  refine ⟨exists_table_iff, ?_, ?_, fun e => index_eq_error_iff⟩
  · intro table htable
    obtain ⟨hu, rfl⟩ := index_eq_ok_iff.1 htable
    exact ⟨rfl, fun spec hs => get?_byKeyword hu.keywords hs⟩
  · rw [← exists_table_iff]
    cases index specs with
    | ok table => simp
    | error e => simp

/-! ## The table of all specifications -/

theorem nodup_fieldNames : (Directive.specs.map Spec.field).Nodup := by decide

theorem unambiguous_specs : Unambiguous Directive.specs where
  tokens := by
    have htokens : ∀ spec ∈ Directive.specs, isToken spec.keyword = true := by decide
    exact fun spec hs => isToken_iff.1 (htokens spec hs)
  keywords := nodup_keywords
  kinds spec hs other ho hfield :=
    congrArg Spec.kind (List.inj_on_of_nodup_map nodup_fieldNames hs ho hfield)

/-- The table leads from a keyword to the specification of its row. -/
theorem get?_byKeyword_specs (keyword : String) :
    Assoc.get? (byKeyword Directive.specs) keyword = (Row.ofKeyword? keyword).map Row.spec := by
  unfold Row.ofKeyword? Directive.specs
  generalize rows = rs
  induction rs with
  | nil => rfl
  | cons r rs ih =>
    by_cases h : r.spec.keyword = keyword
    · rw [List.find?_cons_of_pos (by simpa using h), ← h]
      exact Assoc.get?_cons_self _ _ _
    · rw [List.find?_cons_of_neg (by simpa using h), ← ih]
      exact Assoc.get?_cons_of_ne _ _ h

/-- All specifications make a table, and one more that writes a field of theirs in another kind
    refuses it. -/
theorem index_exact_specs :
    (∃ table, index Directive.specs = .ok table ∧
      ∀ spec ∈ Directive.specs, Assoc.get? table spec.keyword = some spec) ∧
    index (Directive.specs ++ [{ keyword := "label", field := "tags", kind := .text }]) =
      .error (.twoKinds "tags") := by
  obtain ⟨hmade, hentries, -, -⟩ := index_exact Directive.specs
  obtain ⟨table, htable⟩ := hmade.2 unambiguous_specs
  refine ⟨⟨table, htable, (hentries table htable).2⟩, ?_⟩
  obtain ⟨-, -, -, hrefused⟩ :=
    index_exact (Directive.specs ++ [{ keyword := "label", field := "tags", kind := .text }])
  refine (hrefused _).2 ⟨Directive.specs, _, [], rfl, unambiguous_specs, .twoKinds ?_ ?_ ?_⟩
  · exact isToken_iff.1 (by decide)
  · decide
  · exact ⟨(row (.list .tags) "tags" "organization").spec, by decide, rfl, by decide⟩

end PromptRules.Directive
