import Mathlib.Data.Set.Basic
import PromptRules.Proofs.Directive.Texts
import PromptRules.Proofs.Store.Switching

/-!
# Conflicts that count both ways

An exclusion or a soft conflict is declared by one prompt and counts for both. A check looks
up what its own prompt declares by identifier, so it sees the first prompt of a name, and
goes through the enabled prompts for what they declare about its own. Collapsing then merges
issues that tell of one conflict. All of this together loses no prompt and invents none.

Results:
* `mem_named_iff`: what the issues of a mutual kind name.
* `mem_named_iff_of_mem`: among prompts with distinct identifiers, an enabled prompt is named
  iff one of the two declares the conflict.
* `named_eq_and_symm`: the prompts named are exactly these, and naming is symmetric.
-/

namespace PromptRules

open Directive

/-- The list in which prompts declare the conflicts of a mutual kind. -/
def IssueKind.declaredIn? : IssueKind → Option ListField
  | .exclusive => some .exclusiveWith
  | .softConflict => some .conflictsWith
  | _ => none

theorem IssueKind.isSome_declaredIn? (k : IssueKind) : k.declaredIn?.isSome = k.isMutual := by
  cases k <;> rfl

/-- The identifiers that the issues of a kind name. -/
def Issue.named (k : IssueKind) (issues : List Issue) : Set String :=
  {e | ∃ i ∈ issues, i.kind = k ∧ e ∈ i.conflictingIds}

/-- The prompt, switched as told for its identifier. -/
def Prompt.setTo (on : String → Bool) (p : Prompt) : Prompt := { p with enabled := on p.identifier }

namespace Activation

variable {k : IssueKind} {f : ListField} {D : String → Directives} {ps : List Prompt} {p : Prompt}
  {identifier e : String}

theorem names_mutual_iff (hk : k.declaredIn? = some f) :
    (∃ i ∈ family p (D p.content) ps (around D p ps) k, e ∈ i.conflictingIds) ↔
      (e ∈ (D p.content).list f ∧ ∃ o, enabledOther p ps e = some o) ∨
        ∃ o ∈ others p ps, p.identifier ∈ (D o.content).list f ∧ o.identifier = e := by
  cases k with
  | exclusive =>
    obtain rfl := Option.some.inj hk
    exact names_bothWays _ (fun _ => rfl) (fun _ => rfl) _
  | softConflict =>
    obtain rfl := Option.some.inj hk
    exact names_bothWays _ (fun _ => rfl) (fun _ => rfl) _
  | missingDependency => cases hk
  | categoryLimit => cases hk
  | mutualExclusiveGroup => cases hk
  | deprecated => cases hk

/-- What the issues of a mutual kind name: what the prompt declares, as far as the first
    prompt of that name is enabled, and the enabled prompts that declare it. -/
theorem mem_named_iff (hk : k.declaredIn? = some f)
    (hp : Prompt.find? ps identifier = some p) (hc : p.content ≠ "") :
    e ∈ Issue.named k (Id.run (issuesOf D identifier ps)) ↔
      (e ∈ (D p.content).list f ∧ e ≠ identifier ∧
        ∃ o, Prompt.find? ps e = some o ∧ o.enabled = true) ∨
      ∃ o ∈ ps, o.enabled = true ∧ o.content ≠ "" ∧ o.identifier ≠ identifier ∧
        identifier ∈ (D o.content).list f ∧ o.identifier = e := by
  obtain ⟨_, rfl⟩ := Prompt.mem_of_find? hp
  have hid : Id.run (issuesOf D p.identifier ps) = issuesBy D p.identifier ps := issuesOf_id D _ _
  unfold Issue.named
  rw [Set.mem_ofPred_eq, hid, exists_mem_issuesBy hp hc (Issue.splits_names k e),
    names_mutual_iff hk]
  simp only [enabledOther_eq_some_iff, exists_and_left, others_mem_iff, and_assoc]

/-- Among prompts with distinct identifiers an enabled one is named iff one of the two
    declares the conflict, which does not depend on whose check it is. -/
theorem mem_named_iff_of_mem (hk : k.declaredIn? = some f) (hd : Distinct ps) (hp : p ∈ ps)
    (hcp : p.content ≠ "") {o : Prompt} (ho : o ∈ ps) (hco : o.content ≠ "")
    (hen : o.enabled = true) :
    o.identifier ∈ Issue.named k (Id.run (issuesOf D p.identifier ps)) ↔
      o.identifier ≠ p.identifier ∧
        (o.identifier ∈ (D p.content).list f ∨ p.identifier ∈ (D o.content).list f) := by
  rw [mem_named_iff hk (hd.find?_iff.2 ⟨hp, rfl⟩) hcp]
  constructor
  · rintro (⟨hl, hne, _⟩ | ⟨q, hq, _, _, hne, hl, he⟩)
    · exact ⟨hne, .inl hl⟩
    · obtain rfl := hd.eq hq ho he
      exact ⟨hne, .inr hl⟩
  · rintro ⟨hne, hl | hl⟩
    · exact .inl ⟨hl, hne, o, hd.find?_iff.2 ⟨ho, rfl⟩, hen⟩
    · exact .inr ⟨o, ho, hen, hco, hne, hl, rfl⟩

/-- How the other prompts are switched does not matter for naming an enabled one. -/
theorem mem_named_setTo_iff (hk : k.declaredIn? = some f) (hd : Distinct ps)
    (hcontent : ∀ q ∈ ps, q.content ≠ "") (on : String → Bool) {a b : Prompt} (ha : a ∈ ps)
    (hb : b ∈ ps) (hon : on b.identifier = true) :
    b.identifier ∈ Issue.named k (Id.run (issuesOf D a.identifier (ps.map (Prompt.setTo on)))) ↔
      b.identifier ≠ a.identifier ∧
        (b.identifier ∈ (D a.content).list f ∨ a.identifier ∈ (D b.content).list f) := by
  have hd' : Distinct (ps.map (Prompt.setTo on)) := hd.map fun _ => rfl
  exact mem_named_iff_of_mem (p := a.setTo on) (o := b.setTo on) hk hd' (List.mem_map_of_mem ha)
    (hcontent a ha) (List.mem_map_of_mem hb) (hcontent b hb) hon

/-- **Mutual conflicts are found exactly**: the issues of the kind name what the prompt
    declares, as far as the first prompt of that name is enabled, and the enabled prompts
    that declare it, and nobody else. So, among prompts with distinct identifiers and
    contents, enabling `a` while `b` is on names `b` iff enabling `b` while `a` is on names
    `a`. -/
theorem named_eq_and_symm {k : IssueKind} {f : ListField} (hk : k.declaredIn? = some f)
    (D : String → Directives) (ps : List Prompt) :
    (∀ identifier p, Prompt.find? ps identifier = some p → p.content ≠ "" →
      Issue.named k (Id.run (issuesOf D identifier ps)) =
        {e | e ∈ (D p.content).list f ∧ e ≠ identifier ∧
          ∃ o, Prompt.find? ps e = some o ∧ o.enabled = true} ∪
        {e | ∃ o ∈ ps, o.enabled = true ∧ o.content ≠ "" ∧ o.identifier ≠ identifier ∧
          identifier ∈ (D o.content).list f ∧ o.identifier = e}) ∧
    (Distinct ps → (∀ q ∈ ps, q.content ≠ "") →
      ∀ on on' : String → Bool, ∀ a ∈ ps, ∀ b ∈ ps,
        on b.identifier = true → on' a.identifier = true →
        (b.identifier ∈ Issue.named k
            (Id.run (issuesOf D a.identifier (ps.map (Prompt.setTo on)))) ↔
          a.identifier ∈ Issue.named k
            (Id.run (issuesOf D b.identifier (ps.map (Prompt.setTo on')))))) := by
  constructor
  · intro identifier p hp hc
    ext e
    exact mem_named_iff hk hp hc
  · intro hd hcontent on on' a ha b hb hon hon'
    rw [mem_named_setTo_iff hk hd hcontent on ha hb hon,
      mem_named_setTo_iff hk hd hcontent on' hb ha hon', ne_comm, or_comm]

/-- Two prompts, the first of which excludes the second. -/
def twoVoices : List Prompt :=
  [{ identifier := "quiet", content := Comment.block "@exclusive-with loud" },
   { identifier := "loud", content := "Shout.", enabled := true }]

theorem named_twoVoices :
    (Issue.named .exclusive (Id.run (issuesOf Session.said "quiet" twoVoices)) =
        {e | e ∈ ["loud"] ∧ e ≠ "quiet" ∧
          ∃ o, Prompt.find? twoVoices e = some o ∧ o.enabled = true} ∪
        {e | ∃ o ∈ twoVoices, o.enabled = true ∧ o.content ≠ "" ∧ o.identifier ≠ "quiet" ∧
          "quiet" ∈ (Session.said o.content).list .exclusiveWith ∧ o.identifier = e}) ∧
      ("loud" ∈ Issue.named .exclusive (Id.run (issuesOf Session.said "quiet"
          (twoVoices.map (Prompt.setTo (· == "loud"))))) ↔
        "quiet" ∈ Issue.named .exclusive (Id.run (issuesOf Session.said "loud"
          (twoVoices.map (Prompt.setTo (· == "quiet")))))) := by
  obtain ⟨hnamed, hsymm⟩ := named_eq_and_symm (k := .exclusive) rfl Session.said twoVoices
  constructor
  · have hsaid : (Session.said (Comment.block "@exclusive-with loud")).list .exclusiveWith =
        ["loud"] := by
      decide
    rw [← hsaid]
    exact hnamed "quiet" _ rfl (by decide)
  · exact hsymm (by decide) (by decide) _ _ _ List.mem_cons_self _
      (List.mem_cons_of_mem _ List.mem_cons_self) (by decide) (by decide)

end Activation

end PromptRules
