import Mathlib.Data.List.Forall2
import PromptRules.Proofs.Directive.Texts
import PromptRules.Proofs.Issue.Collapse
import PromptRules.Proofs.Prompt.PlainIssues
import PromptRules.Proofs.Store.Switching

/-!
# What a check does not see

A check reads the content of its own prompt and those of the other enabled prompts. Of a prompt
that is off it sees no more than its face: its identifier, its name, and that it is off. All that
a check does with prompts commutes with leaving only their faces, so it tells the same about two
lists of prompts that differ in nothing else.

Results:
* `Issue.collapse_face`: collapsing does not look behind the faces.
* `map_face_rawIssues`: a check raises issues from faces and from what it has been answered.
* `records_of_alike`: what a prompt that is off declares does not matter.
-/

namespace PromptRules

open Data Directive

/-- The prompt without its content and its role. -/
def Prompt.face (p : Prompt) : Prompt := { p with content := "", role := .system }

theorem Prompt.identifier_face (p : Prompt) : p.face.identifier = p.identifier := rfl

/-! ## Issues with faces -/

namespace Issue

/-- The issue with the faces of its prompts. -/
def face (i : Issue) : Issue where
  kind := i.kind
  severity := i.severity
  message := i.message
  prompt := i.prompt.face
  directive := i.directive
  rival := i.rival.map Prompt.face
  rivals := i.rivals.map Prompt.face
  required := i.required.map Prompt.face
  requiredId := i.requiredId
  canAutoEnable := i.canAutoEnable
  limit := i.limit

theorem conflicting_face (i : Issue) : i.face.conflicting = i.conflicting.map Prompt.face := by
  have hrivals : (i.rival.map Prompt.face).toList ++ i.rivals.map Prompt.face =
      (i.rival.toList ++ i.rivals).map Prompt.face := by
    rw [List.map_append, Option.toList_map]
  show distinctBy _ ((i.rival.map Prompt.face).toList ++ i.rivals.map Prompt.face) = _
  rw [hrivals, distinctBy_map]
  rfl

theorem conflictingIds_face (i : Issue) : i.face.conflictingIds = i.conflictingIds := by
  unfold conflictingIds
  rw [conflicting_face, List.map_map]
  rfl

theorem tellsSame_face (kept issue : Issue) :
    tellsSame kept.face issue.face = tellsSame kept issue := by
  unfold tellsSame
  rw [conflictingIds_face, conflictingIds_face]
  rfl

theorem mergedPrompts_face (kept issue : Issue) :
    mergedPrompts kept.face issue.face = (mergedPrompts kept issue).map Prompt.face := by
  unfold mergedPrompts
  rw [conflicting_face, conflicting_face, conflictingIds_face, List.filter_map, List.map_append]
  rfl

theorem merge_face (kept issue : Issue) : merge kept.face issue.face = (merge kept issue).face := by
  rw [merge_eq, merge_eq, mergedPrompts_face]
  cases mergedPrompts kept issue with
  | nil => rfl
  | cons p ps => cases ps <;> rfl

theorem absorb_face (issue : Issue) (issues : List Issue) :
    absorb issue.face (issues.map face) = (absorb issue issues).map face := by
  induction issues with
  | nil => rfl
  | cons kept rest ih =>
    rw [List.map_cons, absorb, absorb, tellsSame_face]
    split
    · rw [merge_face, List.map_cons]
    · rw [ih, List.map_cons]

theorem takeUp_face (issues : List Issue) (issue : Issue) :
    takeUp (issues.map face) issue.face = (takeUp issues issue).map face := by
  unfold takeUp
  rw [absorb_face]
  show (if issue.kind.isMutual then _ else _) = _
  split
  · rfl
  · rw [List.map_append]
    rfl

/-- **Collapsing does not look behind the faces.** -/
theorem collapse_face (issues : List Issue) :
    collapse (issues.map face) = (collapse issues).map face := by
  induction issues using List.reverseRecOn with
  | nil => rfl
  | append_singleton issues issue ih =>
    rw [List.map_append, List.map_singleton, collapse_concat, collapse_concat, ih, takeUp_face]

theorem toRecord_face (i : Issue) : i.face.toRecord = i.toRecord := by
  unfold toRecord
  rw [conflictingIds_face]
  rfl

end Issue

/-! ## Raising issues from faces -/

namespace Activation

variable {p : Prompt} {d : Directives} {ps : List Prompt} {around : List (Prompt × Directives)}

/-- The faces of prompts with what they declare. -/
def faced (around : List (Prompt × Directives)) : List (Prompt × Directives) :=
  around.map fun o => (o.1.face, o.2)

theorem filter_faced (tells : Directives → Bool) :
    (faced around).filter (fun o => tells o.2) = faced (around.filter fun o => tells o.2) := by
  unfold faced
  rw [List.filter_map]
  rfl

theorem filterMap_enabledOther_face (identifiers : List String) :
    identifiers.filterMap (enabledOther p.face (ps.map Prompt.face)) =
      (identifiers.filterMap (enabledOther p ps)).map Prompt.face := by
  rw [List.map_filterMap]
  congr 1
  funext identifier
  unfold enabledOther
  rw [Prompt.find?_map Prompt.identifier_face, Prompt.identifier_face]
  split
  · rfl
  · rw [Option.filter_map]
    rfl

/-- A scan that raises issues of what the prompt declares in a list and of what the others declare
    in the same list about the prompt. -/
theorem map_face_bothWays (f : ListField) {declared : Prompt → Directives → Prompt → Issue}
    {reverse : Prompt → Prompt → Directives → Issue}
    (hdeclared : ∀ o, (declared p d o).face = declared p.face d o.face)
    (hreverse : ∀ o e, (reverse p o e).face = reverse p.face o.face e) :
    (((d.list f).filterMap (enabledOther p ps)).map (declared p d) ++
        (around.filter fun o => (o.2.list f).contains p.identifier).map fun o =>
          reverse p o.1 o.2).map Issue.face =
      ((d.list f).filterMap (enabledOther p.face (ps.map Prompt.face))).map (declared p.face d) ++
        ((faced around).filter fun o => (o.2.list f).contains p.face.identifier).map fun o =>
          reverse p.face o.1 o.2 := by
  rw [filterMap_enabledOther_face, Prompt.identifier_face,
    filter_faced fun e => (e.list f).contains p.identifier]
  simp only [faced, List.map_append, List.map_map, Function.comp_def, hdeclared, hreverse]

theorem map_face_dependencies :
    (dependencies p d ps).map Issue.face = dependencies p.face d (ps.map Prompt.face) := by
  unfold dependencies
  rw [List.map_filterMap]
  congr 1
  funext identifier
  rw [Prompt.find?_map Prompt.identifier_face]
  cases Prompt.find? ps identifier with
  | none => rfl
  | some t =>
    obtain ⟨_, _, _, on, _⟩ := t
    cases on <;> rfl

theorem map_face_limits (kind : IssueKind) (what directive limit : String) (active : List Prompt) :
    (limits kind what directive p limit active).map Issue.face =
      limits kind what directive p.face limit (active.map Prompt.face) := by
  have hnames : quotedNames (active.map Prompt.face) = quotedNames active := by
    unfold quotedNames
    rw [List.map_map]
    rfl
  unfold limits
  simp only [List.map_eq_nil_iff]
  split
  · rfl
  · simp only [limited, List.map_singleton, hnames]
    rfl

theorem map_fst_filter_faced (tells : Directives → Bool) :
    ((faced around).filter fun o => tells o.2).map Prod.fst =
      ((around.filter fun o => tells o.2).map Prod.fst).map Prompt.face := by
  rw [filter_faced, List.map_map]
  unfold faced
  rw [List.map_map]
  rfl

theorem inCategory_faced (category : String) :
    inCategory category (faced around) = (inCategory category around).map Prompt.face :=
  map_fst_filter_faced fun e => (e.list .categories).contains category

theorem inGroup_faced (group : String) :
    inGroup group (faced around) = (inGroup group around).map Prompt.face :=
  map_fst_filter_faced fun e => e.text .mutualExclusiveGroup == some group

theorem map_face_deprecation : (deprecation p d).map Issue.face = deprecation p.face d := by
  unfold deprecation
  split <;> rfl

theorem map_face_assemble (around₁ around₂ around₃ around₄ : List (Prompt × Directives)) :
    (assemble p d ps around₁ around₂ around₃ around₄).map Issue.face =
      assemble p.face d (ps.map Prompt.face) (faced around₁) (faced around₂) (faced around₃)
        (faced around₄) := by
  have hexclusions : (exclusions p d ps around₁).map Issue.face =
      exclusions p.face d (ps.map Prompt.face) (faced around₁) :=
    map_face_bothWays .exclusiveWith (fun _ => rfl) fun _ _ => rfl
  have hconflicts : (softConflicts p d ps around₄).map Issue.face =
      softConflicts p.face d (ps.map Prompt.face) (faced around₄) :=
    map_face_bothWays .conflictsWith (fun _ => rfl) fun _ _ => rfl
  simp only [assemble, List.map_append, List.map_flatMap, hexclusions, map_face_dependencies,
    map_face_limits, inCategory_faced, inGroup_faced, hconflicts, map_face_deprecation]

/-- **A check raises issues from faces** and from what it has been answered. -/
theorem map_face_rawIssues {m : Type → Type} [Monad m] [LawfulMonad m] (lookup : Lookup m)
    (p : Prompt) (ps : List Prompt) :
    List.map Issue.face <$> rawIssues lookup p ps = do
      let d ← lookup p.content
      let forExclusion ← faced <$> annotate lookup (others p ps)
      let forCategory ← faced <$> askFor lookup p ps (declaredLimit d .maxOnePerCategory)
      let forGroup ← faced <$> askFor lookup p ps (declaredLimit d .mutualExclusiveGroup)
      let forConflict ← faced <$> annotate lookup (others p ps)
      return assemble p.face d (ps.map Prompt.face) forExclusion forCategory forGroup
        forConflict := by
  simp only [rawIssues_eq, map_bind, map_pure, bind_map_left, map_face_assemble]

/-! ## Prompts that a check does not tell apart -/

/-- The prompts show the same face, and the same content if they are on. -/
structure Alike (p q : Prompt) : Prop where
  identifier : p.identifier = q.identifier
  name : p.name = q.name
  enabled : p.enabled = q.enabled
  content : p.enabled = true → p.content = q.content

/-- The prompts are alike one by one, and the contents of the first with this identifier are the
    same. -/
structure AlikeFor (identifier : String) (ps qs : List Prompt) : Prop where
  alike : List.Forall₂ Alike ps qs
  content : (Prompt.find? ps identifier).map Prompt.content =
    (Prompt.find? qs identifier).map Prompt.content

theorem Alike.face_eq {p q : Prompt} (h : Alike p q) : p.face = q.face := by
  unfold Prompt.face
  rw [h.identifier, h.name, h.enabled]

variable {m : Type → Type} [Monad m] [LawfulMonad m] (lookup : Lookup m) {q : Prompt}
  {qs : List Prompt}

theorem map_face_eq (h : List.Forall₂ Alike ps qs) :
    ps.map Prompt.face = qs.map Prompt.face := by
  induction h with
  | nil => rfl
  | cons hpq _ ih => rw [List.map_cons, List.map_cons, hpq.face_eq, ih]

/-- The other prompts that matter are on, so they show the same contents. -/
theorem forall₂_others (h : List.Forall₂ Alike ps qs) (hpq : p.identifier = q.identifier) :
    List.Forall₂ (fun o o' => o.face = o'.face ∧ o.content = o'.content)
      (others p ps) (others q qs) := by
  unfold others
  rw [hpq]
  induction h with
  | nil => exact .nil
  | @cons a b as bs hab _ ih =>
    have hsame : a.enabled = true → a.face = b.face ∧ a.content = b.content := fun ha =>
      ⟨hab.face_eq, hab.content ha⟩
    have hmatters : (a.enabled && a.hasContent && a.identifier != q.identifier) =
        (b.enabled && b.hasContent && b.identifier != q.identifier) := by
      rw [← hab.enabled, ← hab.identifier]
      -- Only of a prompt that is on is it asked whether it has a content.
      cases ha : a.enabled with
      | false => rfl
      | true =>
        unfold Prompt.hasContent
        rw [hab.content ha]
    rw [List.filter_cons, List.filter_cons, ← hmatters]
    split
    · rename_i ha
      simp only [Bool.and_eq_true] at ha
      exact .cons (hsame ha.1.1) ih
    · exact ih

theorem faced_annotate {os os' : List Prompt}
    (h : List.Forall₂ (fun o o' => o.face = o'.face ∧ o.content = o'.content) os os') :
    faced <$> annotate lookup os = faced <$> annotate lookup os' := by
  have hcons : ∀ (o : Prompt) (os : List Prompt), faced <$> annotate lookup (o :: os) = do
      let e ← lookup o.content
      let rest ← faced <$> annotate lookup os
      return (o.face, e) :: rest := by
    intro o os
    simp only [annotate_cons, map_bind, map_pure, bind_map_left]
    rfl
  induction h with
  | nil => rfl
  | cons hsame _ ih => rw [hcons, hcons, hsame.1, hsame.2, ih]

theorem faced_askFor (h : List.Forall₂ Alike ps qs) (hpq : p.identifier = q.identifier)
    (limit : Option String) :
    faced <$> askFor lookup p ps limit = faced <$> askFor lookup q qs limit := by
  cases limit with
  | none => rfl
  | some _ => exact faced_annotate lookup (forall₂_others h hpq)

theorem map_face_rawIssues_eq (h : List.Forall₂ Alike ps qs) (hface : p.face = q.face)
    (hcontent : p.content = q.content) :
    List.map Issue.face <$> rawIssues lookup p ps =
      List.map Issue.face <$> rawIssues lookup q qs := by
  have hid : p.identifier = q.identifier := (congrArg Prompt.identifier hface :)
  simp only [map_face_rawIssues, faced_annotate lookup (forall₂_others h hid),
    faced_askFor lookup h hid, map_face_eq h, hface, hcontent]

/-- What a check tells depends on the faces in the raised issues only. -/
theorem records_collapse_rawIssues (p : Prompt) (ps : List Prompt) :
    (List.map Issue.toRecord <$> do return Issue.collapse (← rawIssues lookup p ps)) = do
      let issues ← List.map Issue.face <$> rawIssues lookup p ps
      return (Issue.collapse issues).map Issue.toRecord := by
  have hrecord : Issue.toRecord ∘ Issue.face = Issue.toRecord := funext Issue.toRecord_face
  simp only [map_bind, map_pure, bind_map_left, Issue.collapse_face, List.map_map, hrecord]

/-- **What a prompt that is off declares does not matter.** A check asks the same questions and
    tells the same about prompts that are alike, whatever a lookup answers. -/
theorem records_of_alike (identifier : String) (h : AlikeFor identifier ps qs) :
    List.map Issue.toRecord <$> issuesOf lookup identifier ps =
      List.map Issue.toRecord <$> issuesOf lookup identifier qs := by
  have hfaces : (Prompt.find? ps identifier).map Prompt.face =
      (Prompt.find? qs identifier).map Prompt.face := by
    rw [← Prompt.find?_map Prompt.identifier_face, map_face_eq h.alike,
      Prompt.find?_map Prompt.identifier_face]
  have hcontents := h.content
  unfold issuesOf
  cases hp : Prompt.find? ps identifier with
  | none =>
    rw [hp] at hfaces
    rw [Option.map_eq_none_iff.1 hfaces.symm]
  | some p =>
    rw [hp] at hfaces hcontents
    obtain ⟨q, hq, hface⟩ := Option.map_eq_some_iff.1 hfaces.symm
    rw [hq] at hcontents ⊢
    have hcontent : p.content = q.content := Option.some.inj hcontents
    have hhas : p.hasContent = q.hasContent := by
      unfold Prompt.hasContent
      rw [hcontent]
    simp only [hhas]
    split
    · rw [records_collapse_rawIssues, records_collapse_rawIssues,
        map_face_rawIssues_eq lookup h.alike hface.symm hcontent]
    · rfl

/-- Two prompts that are off, after the one to check: what it requires, and its namesake. -/
def quietSet : List Prompt :=
  [{ identifier := "a"
     content := Comment.block "@requires b" ++ Comment.block "@exclusive-with c" },
   { identifier := "c", content := "Tea.", enabled := true },
   { identifier := "b", content := "Milk." },
   { identifier := "a" }]

/-- The same prompts, of which those that are off declare something. -/
def loudSet : List Prompt :=
  [{ identifier := "a"
     content := Comment.block "@requires b" ++ Comment.block "@exclusive-with c" },
   { identifier := "c", content := "Tea.", enabled := true, role := .user },
   { identifier := "b", content := Comment.block "@exclusive-with a" },
   { identifier := "a", content := Comment.block "@deprecated" }]

theorem records_of_alike_loudSet :
    AlikeFor "a" quietSet loudSet ∧
      (issuesOf Directives.ofContent "a" quietSet).toOption.map (List.map Issue.kind) =
        some [.exclusive, .missingDependency] ∧
      List.map Issue.toRecord <$> issuesOf Directives.ofContent "a" quietSet =
        List.map Issue.toRecord <$> issuesOf Directives.ofContent "a" loudSet := by
  have halike : AlikeFor "a" quietSet loudSet :=
    { alike := .cons ⟨rfl, rfl, rfl, fun _ => rfl⟩ <| .cons ⟨rfl, rfl, rfl, fun _ => rfl⟩ <|
        .cons ⟨rfl, rfl, rfl, nofun⟩ <| .cons ⟨rfl, rfl, rfl, nofun⟩ .nil
      content := rfl }
  exact ⟨halike, by decide, records_of_alike Directives.ofContent "a" halike⟩

end Activation

end PromptRules
