import PromptRules.Proofs.Issue.Coverage
import PromptRules.Proofs.Prompt.OwnReading
import PromptRules.Proofs.Prompt.Rivals
import PromptRules.Proofs.Session.Standing

/-!
# Missing dependencies and limits, exactly

Issues about missing dependencies and about limits are never merged, so a check raises just
those that its rules find: one for each entry of a list of required prompts that no enabled
prompt meets, and at most one for a limit, which names whoever counts against it. Nothing is
assumed about the prompts; two of them may have one identifier.

Results:
* `filter_issuesBy`: a check raises all issues of such a kind that its rules find, in order.
* `LimitExact`: what the issues have to say about a limit; `limitExact_of_filter` reads it off.
* `issuesOf_exact`: checks that read the contents themselves, and checks of a session.
-/

namespace PromptRules

open Data Directive

namespace Activation

variable {D : String → Directives} {p : Prompt} {ps : List Prompt} {identifier : String}

/-! ## Issues that are never merged -/

theorem filter_issuesBy (hp : Prompt.find? ps identifier = some p) (hc : p.content ≠ "")
    {k : IssueKind} (hk : k.isMutual = false) :
    (issuesBy D identifier ps).filter (fun i => i.kind == k) =
      family p (D p.content) ps (around D p ps) k := by
  have hkind : ∀ k', (k' == k) = true → k'.isMutual = false := by
    intro k' h
    rw [beq_iff_eq.1 h, hk]
  rw [issuesBy_of_find D hp hc, Issue.filter_collapse hkind, filter_rawIssuesBy]

/-- The missing dependencies, with the entries they are about and the prompts that are found. -/
theorem missing_issuesBy (hp : Prompt.find? ps identifier = some p) (hc : p.content ≠ "") :
    ((issuesBy D identifier ps).filter fun i => i.kind == .missingDependency).map
        (fun i => (i.requiredId, i.required)) =
      (((D p.content).list .requires).filter (missing ps)).map
        fun r => (some r, Prompt.find? ps r) := by
  rw [filter_issuesBy hp hc rfl]
  show (dependencies p (D p.content) ps).map _ = _
  rw [dependencies_eq, List.map_map]
  rfl

/-! ## Limits -/

/-- The other enabled prompts with a content that tells something, in order. -/
def tellers (D : String → Directives) (p : Prompt) (ps : List Prompt) (tells : Directives → Bool) :
    List Prompt :=
  ps.filter fun o =>
    o.enabled && o.content != "" && o.identifier != p.identifier && tells (D o.content)

theorem mem_tellers {tells : Directives → Bool} {o : Prompt} :
    o ∈ tellers D p ps tells ↔ o ∈ ps ∧ o.enabled = true ∧ o.content ≠ "" ∧
      o.identifier ≠ p.identifier ∧ tells (D o.content) = true := by
  simp only [tellers, List.mem_filter, Bool.and_eq_true, bne_iff_ne, and_assoc]

theorem tellers_eq_filter_others (tells : Directives → Bool) :
    tellers D p ps tells = (others p ps).filter fun o => tells (D o.content) := by
  unfold tellers others
  rw [List.filter_filter]
  refine List.filter_congr fun o _ => ?_
  rw [Bool.and_comm]
  rfl

theorem family_categoryLimit (d : Directives) :
    family p d ps (around D p ps) .categoryLimit =
      (declaredLimit d .maxOnePerCategory).toList.flatMap fun c =>
        limits .categoryLimit "category" "max-one-per-category" p c
          (tellers D p ps fun d => (d.list .categories).contains c) := by
  simp only [family, inCategory, map_fst_filter_around, tellers_eq_filter_others]

theorem family_mutualExclusiveGroup (d : Directives) :
    family p d ps (around D p ps) .mutualExclusiveGroup =
      (declaredLimit d .mutualExclusiveGroup).toList.flatMap fun g =>
        limits .mutualExclusiveGroup "group" "mutual-exclusive-group" p g
          (tellers D p ps fun d => d.text .mutualExclusiveGroup == some g) := by
  simp only [family, inGroup, map_fst_filter_around, tellers_eq_filter_others]

/-- The issues of a kind are exact about a limit of one that the prompt may declare. There is one
    iff some prompt counts against the limit; it is the only one then, and it names whoever
    counts against the limit, in the order of the prompts and each identifier once. -/
structure LimitExact (D : String → Directives) (p : Prompt) (ps : List Prompt)
    (issues : List Issue) (kind : IssueKind) (field : TextField)
    (counts : String → Directives → Bool) : Prop where
  exists_iff : (∃ i ∈ issues, i.kind = kind) ↔
    ∃ c, (D p.content).text field = some c ∧ ∃ o ∈ ps, o.enabled = true ∧ o.content ≠ "" ∧
      o.identifier ≠ p.identifier ∧ counts c (D o.content) = true
  only : ∀ c, (D p.content).text field = some c → ∀ i ∈ issues, i.kind = kind →
    issues.filter (fun i => i.kind == kind) = [i] ∧
      i.conflictingIds = distinct ((tellers D p ps (counts c)).map Prompt.identifier)

section Limit

variable {kind : IssueKind} {what directive : String}

theorem exists_mem_limits_iff {limit : String} {active : List Prompt} :
    (∃ i, i ∈ limits kind what directive p limit active) ↔ ∃ o, o ∈ active := by
  simp only [mem_limits_iff, exists_and_left, exists_eq, and_true]
  constructor
  · exact List.exists_mem_of_ne_nil active
  · intro h
    obtain ⟨o, ho⟩ := h
    exact List.ne_nil_of_mem ho

theorem conflictingIds_limited (limit : String) (active : List Prompt) :
    (limited kind what directive p limit active).conflictingIds =
      distinct (active.map Prompt.identifier) :=
  map_distinctBy Prompt.identifier active

/-- It is enough to know the issues of the kind, if no empty name is declared. -/
theorem limitExact_of_filter {issues : List Issue} {field : TextField}
    {counts : String → Directives → Bool} (hname : (D p.content).text field ≠ some "")
    (h : issues.filter (fun i => i.kind == kind) =
      (declaredLimit (D p.content) field).toList.flatMap fun c =>
        limits kind what directive p c (tellers D p ps (counts c))) :
    LimitExact D p ps issues kind field counts := by
  have hdeclared : declaredLimit (D p.content) field = (D p.content).text field := by
    cases hc : (D p.content).text field with
    | none => rw [declaredLimit, hc, Option.filter_none]
    | some c =>
      rw [hc] at hname
      rw [declaredLimit, hc, Option.filter_some, if_pos]
      exact decide_eq_true fun he => hname (congrArg some he)
  have hkind : ∀ i, i ∈ issues ∧ i.kind = kind ↔ i ∈ issues.filter fun i => i.kind == kind := by
    intro i
    rw [List.mem_filter, beq_iff_eq]
  have hfound : ∀ c, (D p.content).text field = some c →
      issues.filter (fun i => i.kind == kind) =
        limits kind what directive p c (tellers D p ps (counts c)) := by
    intro c hc
    rw [h, hdeclared, hc]
    exact List.flatMap_singleton _ _
  constructor
  · simp only [hkind, ← mem_tellers]
    cases hc : (D p.content).text field with
    | none => simp [h, hdeclared, hc]
    | some c => simp [hfound c hc, exists_mem_limits_iff]
  · intro c hc i hi hik
    have hmem := (hkind i).1 ⟨hi, hik⟩
    rw [hfound c hc] at hmem ⊢
    obtain ⟨hne, rfl⟩ := mem_limits_iff.1 hmem
    exact ⟨if_neg hne, conflictingIds_limited c _⟩

end Limit

/-! ## A check -/

open Session (said)

/-- The issues about missing dependencies tell of each entry of the list that no enabled prompt
    meets, in order and as often as it is listed; those about limits are exact. -/
structure ExactIssues (p : Prompt) (ps : List Prompt) (issues : List Issue) : Prop where
  dependencies : (issues.filter fun i => i.kind == .missingDependency).map
      (fun i => (i.requiredId, i.required)) =
    (((said p.content).list .requires).filter fun r =>
      (Prompt.find? ps r).all fun t => !t.enabled).map fun r => (some r, Prompt.find? ps r)
  category : LimitExact said p ps issues .categoryLimit .maxOnePerCategory
    fun c d => (d.list .categories).contains c
  group : LimitExact said p ps issues .mutualExclusiveGroup .mutualExclusiveGroup
    fun g d => d.text .mutualExclusiveGroup == some g

theorem exactIssues_issuesBy (hp : Prompt.find? ps identifier = some p) (hc : p.content ≠ "") :
    ExactIssues p ps (issuesBy said identifier ps) where
  dependencies := missing_issuesBy hp hc
  category := by
    have hname := Session.said_text_ne_empty p.content (f := .maxOnePerCategory) (by decide)
    have hfilter := filter_issuesBy (D := said) hp hc (k := .categoryLimit) rfl
    rw [family_categoryLimit] at hfilter
    exact limitExact_of_filter hname hfilter
  group := by
    have hname := Session.said_text_ne_empty p.content (f := .mutualExclusiveGroup) (by decide)
    have hfilter := filter_issuesBy (D := said) hp hc (k := .mutualExclusiveGroup) rfl
    rw [family_mutualExclusiveGroup] at hfilter
    exact limitExact_of_filter hname hfilter

/-- **Missing dependencies and limits are told exactly**, whatever the prompts are. A check that
    reads contents itself needs those of the prompt and of the other prompts that matter, and
    one that asks the memory of a session always has an answer. -/
theorem issuesOf_exact (hp : Prompt.find? ps identifier = some p) (hc : p.content ≠ "") :
    ((issuesOf Directives.ofContent identifier ps).isOk = true ↔
        ∀ q ∈ p :: others p ps, (Directives.ofContent q.content).isOk = true) ∧
      (∀ issues, issuesOf Directives.ofContent identifier ps = .ok issues →
        ExactIssues p ps issues) ∧
      ∀ (σ : Type) (s : Session σ), s.memo.Faithful Directives.ofContent →
        ExactIssues p ps (issuesOf Session.remembered identifier ps s).1 := by
  have hexact := exactIssues_issuesBy hp hc
  refine ⟨?_, ?_, ?_⟩
  · constructor
    · intro hok
      cases h : issuesOf Directives.ofContent identifier ps with
      | error e =>
        rw [h] at hok
        cases hok
      | ok issues => exact ((issuesOf_eq_ok_iff hp hc).1 h).1
    · intro hread
      rw [(issuesOf_eq_ok_iff hp hc).2 ⟨hread, rfl⟩]
      rfl
  · intro issues h
    rw [eq_issuesBy_of_ok h]
    exact hexact
  · intro σ s hs
    rw [(Session.leads_issuesOf identifier ps s.world s ⟨rfl, hs⟩).1]
    exact hexact

/-- A prompt that requires an unknown prompt twice and a prompt that is off, and the prompts that
    count against its limits, two of them with one identifier. -/
def crowdedSet : List Prompt :=
  [{ identifier := "a"
     content := Comment.block "@requires x, b, c, x" ++
       Comment.block "@max-one-per-category Lore" ++
       Comment.block "@mutual-exclusive-group main" },
   { identifier := "b", content := Comment.block "@category Lore", enabled := true },
   { identifier := "c", content := Comment.block "@mutual-exclusive-group main" },
   { identifier := "c", content := Comment.block "@category Lore", enabled := true },
   { identifier := "b", content := Comment.block "@category Style, Lore", enabled := true }]

theorem issuesOf_exact_crowdedSet :
    ∃ p, Prompt.find? crowdedSet "a" = some p ∧ p.content ≠ "" ∧
      ∃ issues, issuesOf Directives.ofContent "a" crowdedSet = .ok issues ∧
        ExactIssues p crowdedSet issues ∧
        ∀ (σ : Type) (s : Session σ), s.memo.Faithful Directives.ofContent →
          ExactIssues p crowdedSet (issuesOf Session.remembered "a" crowdedSet s).1 := by
  have hp : Prompt.find? crowdedSet "a" = some (crowdedSet.head (List.cons_ne_nil _ _)) := rfl
  have hc : (crowdedSet.head (List.cons_ne_nil _ _)).content ≠ "" := by decide
  obtain ⟨_, hread, hmemory⟩ := issuesOf_exact hp hc
  have hissues : issuesOf Directives.ofContent "a" crowdedSet =
      .ok (issuesBy said "a" crowdedSet) :=
    (issuesOf_eq_ok_iff hp hc).2 ⟨by decide, rfl⟩
  exact ⟨_, hp, hc, _, hissues, hread _ hissues, hmemory⟩

end Activation

end PromptRules
