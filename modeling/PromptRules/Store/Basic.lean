import PromptRules.Session.Host

/-!
# Stores

A prompt set held in memory, with the log of the toggles applied to it. A toggle concerns
the first prompt with the identifier.

Results:
* `switchFirst_eq_none_iff`: a toggle fails iff no prompt has the identifier.
* `map_identifier_switchFirst`: a toggle renames and moves no prompt.
-/

namespace PromptRules

/-- Prompts with the log of their toggles. -/
structure Store where
  prompts : List Prompt
  toggles : List (String × Bool) := []
deriving DecidableEq, Repr

namespace Store

/-- Switches the first prompt with an identifier; none if there is no such prompt. -/
def switchFirst (identifier : String) (enabled : Bool) : List Prompt → Option (List Prompt)
  | [] => none
  | p :: ps =>
    if p.identifier = identifier then some ({ p with enabled := enabled } :: ps)
    else (switchFirst identifier enabled ps).map (p :: ·)

/-- Switches a prompt and logs it. -/
def toggle? (identifier : String) (enabled : Bool) (s : Store) : Option Store :=
  (switchFirst identifier enabled s.prompts).map fun ps =>
    { prompts := ps, toggles := s.toggles ++ [(identifier, enabled)] }

/-- The note about a toggle. -/
def toggled (identifier : String) (enabled : Bool) : Note :=
  let word := if enabled then "enabled" else "disabled"
  { level := .debug, text := s!"Toggled prompt {identifier} to {word}" }

/-- The first prompt with an identifier. -/
def get (identifier : String) (s : Store) : Except Fault Prompt :=
  match Prompt.find? s.prompts identifier with
  | some p => .ok p
  | none => .error (.unknownPrompt identifier)

/-- Lists the prompts. -/
def list : Request Store (List Prompt) := fun s => { answer := .ok s.prompts, world := s }

/-- Switches a prompt on request. -/
def set : Sink Store := fun identifier enabled s =>
  match s.toggle? identifier enabled with
  | some s => { answer := .ok (), world := s, notes := [toggled identifier enabled] }
  | none => { answer := .error (.unknownPrompt identifier), world := s }

/-- A store that offers all it can. -/
def host : Host Store where
  list? := some list
  toggle? := some set

theorem switchFirst_eq_none_iff {identifier : String} {enabled : Bool} {ps : List Prompt} :
    switchFirst identifier enabled ps = none ↔ ∀ p ∈ ps, p.identifier ≠ identifier := by
  induction ps with
  | nil => simp [switchFirst]
  | cons p ps ih =>
    by_cases h : p.identifier = identifier
    · simp [switchFirst, h]
    · simp [switchFirst, h, ih]

theorem map_identifier_switchFirst {identifier : String} {enabled : Bool} {ps qs : List Prompt}
    (h : switchFirst identifier enabled ps = some qs) :
    qs.map Prompt.identifier = ps.map Prompt.identifier := by
  induction ps generalizing qs with
  | nil => simp [switchFirst] at h
  | cons p ps ih =>
    unfold switchFirst at h
    split at h
    · cases h
      rfl
    · obtain ⟨rs, hr, rfl⟩ := Option.map_eq_some_iff.1 h
      simp [ih hr]

end Store

end PromptRules
