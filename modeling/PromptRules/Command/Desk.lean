import PromptRules.Command.Printed
import PromptRules.PresetFile.Loaded
import PromptRules.Text.LowerCase

/-!
# The desk of a command

A command works on a preset at a desk: it reads lines of input and prints. The question
whether to enable a prompt despite its issues is asked there.

Results:
* `ask_preset`: asking leaves the preset alone.
-/

namespace PromptRules

open Data Text

/-- The surroundings of a command on a preset. -/
structure Desk where
  preset : PresetFile.Loaded
  /-- The lines of input that were not read yet. -/
  input : List String := []
  /-- Whether the input ended before an answer. -/
  unanswered : Bool := false
  printed : List Printed := []

namespace Desk

/-- The answer that a line gives, if it is one. An empty line says no. -/
def answerOf? (line : String) : Option Bool :=
  let word := String.ofList (trim (lower line).toList)
  if word = "y" ∨ word = "yes" then some true
  else if word = "n" ∨ word = "no" ∨ word = "" then some false
  else none

/-- The first answer in the input, and what follows it. -/
def answer? : List String → Option (Bool × List String)
  | [] => none
  | line :: rest =>
    match answerOf? line with
    | some answer => some (answer, rest)
    | none => answer? rest

/-- Prints the issues of a prompt and asks whether to enable it. If the input ends before an
    answer, there is none. -/
def ask (yes : Bool) : Asker Desk := fun _ issues d =>
  let d := { d with printed := d.printed ++ [.ofIssues issues] }
  if yes then { answer := .ok true, world := d }
  else
    match answer? d.input with
    | some (answer, rest) => { answer := .ok answer, world := { d with input := rest } }
    | none =>
      { answer := .error (.outside ""), world := { d with input := [], unanswered := true } }

/-- A request to the preset on the desk. -/
def onPreset {α : Type} (r : Request PresetFile.Loaded α) : Request Desk α := fun d =>
  (r d.preset).map fun preset => { d with preset := preset }

/-- A host that offers the preset on the desk. -/
def host : Host Desk where
  list? := some (onPreset PresetFile.Loaded.list)
  toggle? := some fun identifier enabled => onPreset (PresetFile.Loaded.set identifier enabled)

theorem ask_preset (yes : Bool) (identifier : String) (issues : List Issue) (d : Desk) :
    (ask yes identifier issues d).world.preset = d.preset := by
  simp only [ask]
  split
  · rfl
  · split <;> rfl

end Desk

end PromptRules
