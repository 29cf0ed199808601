import PromptRules.Proofs.Prompt.OwnReading
import PromptRules.Proofs.Session.Standing

/-!
# What a lookup answers

A question about a prompt set reads the contents of its prompts, those without content apart, and
then looks at the answers alone. So it is enough to say what is right for the answers of a plain
function: a reading that may fail gives the same if it can read the contents, and the memory of a
session always does.

Results:
* `annotated_id`, `annotated_eq_ok_iff`, `leads_annotated`: what the lookups answer.
* `AnsweredAs.of_answered`: from plain answers to those of any lookup.
-/

namespace PromptRules

open Directive

variable {α : Type} {ps : List Prompt}

/-- What a lookup answers about the prompts with a content. -/
def answered (D : String → Directives) (ps : List Prompt) : List (Prompt × Directives) :=
  (ps.filter Prompt.hasContent).map fun p => (p, D p.content)

theorem annotated_id (D : String → Directives) (ps : List Prompt) :
    annotated (m := Id) D ps = answered D ps :=
  annotate_id D _

theorem mem_filter_hasContent {p : Prompt} :
    p ∈ ps.filter Prompt.hasContent ↔ p ∈ ps ∧ p.content ≠ "" := by
  rw [List.mem_filter, Prompt.hasContent, bne_iff_ne]

/-- A reading that may fail needs the contents of the prompts, and no more. -/
theorem annotated_eq_ok_iff {ε : Type} {read : Lookup (Except ε)}
    {answers : List (Prompt × Directives)} :
    annotated read ps = .ok answers ↔
      (∀ p ∈ ps, p.content ≠ "" → (read p.content).isOk = true) ∧
        answers = answered (Memo.reading read) ps := by
  have hread : (∀ p ∈ ps, p.content ≠ "" → (read p.content).isOk = true) →
      annotated read ps = .ok (answered (Memo.reading read) ps) := by
    intro hok
    refine Activation.annotate_of_read fun p hp => ?_
    obtain ⟨hp, hc⟩ := mem_filter_hasContent.1 hp
    have hp := hok p hp hc
    cases hr : read p.content with
    | error e =>
      rw [hr] at hp
      cases hp
    | ok d => rw [Memo.reading_of_ok hc hr]
  constructor
  · intro h
    have hok : ∀ p ∈ ps, p.content ≠ "" → (read p.content).isOk = true := fun p hp hc =>
      Activation.isOk_of_annotate h p (mem_filter_hasContent.2 ⟨hp, hc⟩)
    rw [hread hok, Except.ok.injEq] at h
    exact ⟨hok, h.symm⟩
  · rintro ⟨hok, rfl⟩
    exact hread hok

namespace Session

theorem leads_annotated {σ : Type} (ps : List Prompt) (w : σ) :
    Leads (annotated remembered ps) w (answered said ps) w :=
  leads_annotate _ w

end Session

/-- Whatever the lookup, a question about prompts is answered as `Right` says: always by a plain
    function and by the memory of a session, and by a reading that may fail iff it can read the
    contents. -/
structure AnsweredAs (ps : List Prompt)
    (question : {m : Type → Type} → [Monad m] → Lookup m → m α)
    (Right : (String → Directives) → α → Prop) : Prop where
  plain : ∀ D : String → Directives, Right D (question (m := Id) D)
  isOk_reading : ∀ (ε : Type) (read : Lookup (Except ε)), (question read).isOk = true ↔
    ∀ p ∈ ps, p.content ≠ "" → (read p.content).isOk = true
  reading : ∀ (ε : Type) (read : Lookup (Except ε)) (a : α), question read = .ok a →
    Right (Memo.reading read) a
  remembered : ∀ (σ : Type) (s : Session σ), s.memo.Faithful Directives.ofContent →
    Right Session.said (question Session.remembered s).1

/-- A question that asks for the directives once, and then looks at the answers. -/
theorem AnsweredAs.of_answered {f : List (Prompt × Directives) → α}
    {Right : (String → Directives) → α → Prop} (h : ∀ D, Right D (f (answered D ps))) :
    AnsweredAs ps (fun lookup => do return f (← annotated lookup ps)) Right where
  plain D := by
    rw [annotated_id]
    exact h D
  isOk_reading ε read := by
    constructor
    · intro hok
      cases hread : annotated read ps with
      | error e =>
        rw [hread] at hok
        cases hok
      | ok answers => exact (annotated_eq_ok_iff.1 hread).1
    · intro hok
      rw [annotated_eq_ok_iff.2 ⟨hok, rfl⟩]
      rfl
  reading ε read a ha := by
    obtain ⟨answers, hanswers, ha⟩ := Data.bind_eq_ok_iff.1 ha
    obtain rfl := Except.ok.inj ha
    rw [(annotated_eq_ok_iff.1 hanswers).2]
    exact h _
  remembered σ s hs := by
    have hleads : Session.Leads (do return f (← annotated Session.remembered ps)) s.world
        (f (answered Session.said ps)) s.world :=
      (Session.leads_annotated ps s.world).bind (Session.leads_pure _ _)
    rw [(hleads s ⟨rfl, hs⟩).1]
    exact h _

end PromptRules
