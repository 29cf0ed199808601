import PromptRules.Proofs.Directive.Texts
import PromptRules.Proofs.Memo.Transparency
import PromptRules.Proofs.Prompt.PlainIssues
import PromptRules.Session.Toggle

/-!
# What an action comes to

A session carries a memory, a clock, a journal and notes besides its surroundings. None of
these decides anything: an action answers, and changes the surroundings, as if contents were
read afresh each time. `Leads act w a w'` says this of one action, and the rules below carry
it through sequences of actions.

Results:
* `Leads.bind`: two actions one after the other.
* `leads_remembered`: asking the memory is reading the content.
* `leads_issuesOf`: checking a prompt is checking it by a plain lookup.
-/

namespace PromptRules.Session

open Directive

variable {σ α β : Type}

/-- What a content says; one that cannot be read says nothing. -/
def said : String → Directives := Memo.reading Directives.ofContent

theorem said_text_ne_empty (content : String) {f : TextField} (hf : f ≠ .deprecated) :
    (said content).text f ≠ some "" := by
  unfold said Memo.reading
  split
  · rintro ⟨⟩
  · cases h : Directives.ofContent content with
    | error e => rintro ⟨⟩
    | ok d => exact Directives.text_ne_empty h hf

/-- The session works in the surroundings `w`, and its memory holds only what contents say. -/
def Stands (s : Session σ) (w : σ) : Prop := s.world = w ∧ s.memo.Faithful Directives.ofContent

/-- From any session in the surroundings `w`, the action answers `a` and ends in `w'`. -/
def Leads (act : Action σ α) (w : σ) (a : α) (w' : σ) : Prop :=
  ∀ s : Session σ, s.Stands w → (act s).1 = a ∧ (act s).2.Stands w'

/-- A session that begins: nothing is remembered yet, and the clock stands still. -/
def fresh (w : σ) : Session σ where
  world := w
  memo := { limits := .standard }
  clock := fun _ => 0

theorem stands_fresh (w : σ) : (fresh w).Stands w := ⟨rfl, Memo.faithful_new _⟩

/-! ## Rules -/

theorem leads_pure (a : α) (w : σ) : Leads (pure a) w a w := fun _ hs => ⟨rfl, hs⟩

theorem Leads.bind {x : Action σ α} {f : α → Action σ β} {w₁ w₂ w₃ : σ} {a : α} {b : β}
    (hx : Leads x w₁ a w₂) (hf : Leads (f a) w₂ b w₃) : Leads (x >>= f) w₁ b w₃ := by
  intro s hs
  obtain ⟨ha, hs'⟩ := hx s hs
  have h := hf (x s).2 hs'
  rw [← ha] at h
  exact h

theorem leads_say (level : Level) (text : String) (w : σ) : Leads (say level text) w () w :=
  fun _ hs => ⟨rfl, hs⟩

theorem leads_enter (event : Journal → Journal) (w : σ) : Leads (enter event) w () w :=
  fun _ hs => ⟨rfl, hs⟩

theorem leads_consult (request : Request σ α) (w : σ) :
    Leads (consult request) w (request w).answer (request w).world := by
  rintro s ⟨rfl, hm⟩
  exact ⟨rfl, rfl, hm⟩

/-! ## Reading through the memory -/

theorem leads_remembered (content : String) (w : σ) :
    Leads (remembered content) w (said content) w := by
  rintro s ⟨rfl, hm⟩
  exact ⟨Memo.get_directives hm _ content, rfl, hm.get _ content⟩

theorem leads_annotate (ps : List Prompt) (w : σ) :
    Leads (annotate remembered ps) w (ps.map fun p => (p, said p.content)) w := by
  unfold annotate
  induction ps with
  | nil => exact leads_pure [] w
  | cons p ps ih =>
    rw [List.mapM_cons]
    have hp : Leads (do return (p, ← remembered p.content)) w (p, said p.content) w :=
      (leads_remembered p.content w).bind (leads_pure _ w)
    refine hp.bind ?_
    exact ih.bind (leads_pure _ w)

theorem leads_askFor (p : Prompt) (ps : List Prompt) (limit : Option String) (w : σ) :
    Leads (Activation.askFor remembered p ps limit) w
      (Activation.answerFor limit (Activation.around said p ps)) w := by
  cases limit with
  | none => exact leads_pure [] w
  | some c => exact leads_annotate (Activation.others p ps) w

theorem leads_rawIssues (p : Prompt) (ps : List Prompt) (w : σ) :
    Leads (Activation.rawIssues remembered p ps) w (Activation.rawIssuesBy said p ps) w := by
  unfold Activation.rawIssuesBy
  rw [Activation.rawIssues_eq, ← Activation.assemble_answerFor]
  refine (leads_remembered p.content w).bind ?_
  refine (leads_annotate (Activation.others p ps) w).bind ?_
  refine (leads_askFor p ps _ w).bind ?_
  refine (leads_askFor p ps _ w).bind ?_
  exact (leads_annotate (Activation.others p ps) w).bind (leads_pure _ w)

theorem leads_issuesOf (identifier : String) (ps : List Prompt) (w : σ) :
    Leads (Activation.issuesOf remembered identifier ps) w
      (Activation.issuesBy said identifier ps) w := by
  unfold Activation.issuesOf Activation.issuesBy
  cases Prompt.find? ps identifier with
  | none => exact leads_pure [] w
  | some p =>
    simp only
    split
    · exact (leads_rawIssues p ps w).bind (leads_pure _ w)
    · exact leads_pure [] w

/-- What the first prompt with an identifier says; an unknown one says nothing. -/
def saidOf (ps : List Prompt) (identifier : String) : Directives :=
  match Prompt.find? ps identifier with
  | some p => said p.content
  | none => .empty

theorem leads_directivesOf (ps : List Prompt) (identifier : String) (w : σ) :
    Leads (directivesOf ps identifier) w (saidOf ps identifier) w := by
  unfold directivesOf saidOf
  cases Prompt.find? ps identifier with
  | none => exact leads_pure _ w
  | some p => exact leads_remembered p.content w

end PromptRules.Session
