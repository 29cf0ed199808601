import PromptRules.Issue.Basic
import PromptRules.Log.Note
import PromptRules.Text.Quoted

/-!
# Hosts

The surroundings that a session works in: they hold the prompts, carry out toggles, answer
questions and count messages. Each of these can fail, and each may change the surroundings,
whose states form a type of their own. One call comes after the other; several sessions that use the
same surroundings at a time are left out.
-/

namespace PromptRules

open Text

/-- Why a request cannot be met. -/
inductive Fault where
  | unknownPrompt (identifier : String)
  | notResolvable
  | noSink
  /-- A failure of the surroundings, in their own words. -/
  | outside (text : String)
deriving DecidableEq, Repr

/-- The wording of a fault. -/
def Fault.message : Fault → String
  | .unknownPrompt identifier => quoted identifier
  | .notResolvable => "Issues cannot be resolved from the prompt's own directives"
  | .noSink => "apply_auto_resolution needs a toggle sink"
  | .outside text => text

/-- What a request to the surroundings leads to. -/
structure Reply (σ α : Type) where
  answer : Except Fault α
  world : σ
  notes : List Note := []

/-- The same reply in surroundings that contain those of the reply. -/
def Reply.map {σ τ α : Type} (f : σ → τ) (r : Reply σ α) : Reply τ α :=
  { answer := r.answer, world := f r.world, notes := r.notes }

/-- A request to the surroundings. -/
abbrev Request (σ α : Type) := σ → Reply σ α

/-- Switches a prompt on or off. -/
abbrev Sink (σ : Type) := String → Bool → Request σ Unit

/-- Asks a person whether to enable a prompt despite its issues. -/
abbrev Asker (σ : Type) := String → List Issue → Request σ Bool

/-- What the surroundings offer; either part may be missing. -/
structure Host (σ : Type) where
  /-- Lists the prompts in their present state. -/
  list? : Option (Request σ (List Prompt))
  toggle? : Option (Sink σ)

end PromptRules
