import PromptRules.Directive.Memo
import PromptRules.Journal.Basic
import PromptRules.Prompt.Lookup
import PromptRules.Session.Host

/-!
# Sessions

A session is the work on one prompt set: the surroundings, a memory of directives with its
clock, a journal, and the notes made on the way. Actions on a session always end; a failure
of the surroundings becomes a note and an answer to go on with.

An action that reads directives takes the lookup that it asks for them. If no other is given, it
asks the memory of the session. The moments of notes and journal lines are added where they are
written, and are no part of a session.
-/

namespace PromptRules

open Data Directive

/-- The state of the work on a prompt set. -/
structure Session (σ : Type) where
  world : σ
  memo : Memo
  /-- The clock, by the number of the reading. -/
  clock : Nat → Float
  readings : Nat := 0
  journal : Journal := .off
  notes : List Note := []

/-- What can be done in a session. -/
abbrev Action (σ : Type) := StateM (Session σ)

namespace Session

variable {σ α : Type}

/-- Makes a note. -/
def say (level : Level) (text : String) : Action σ Unit :=
  modify fun s => { s with notes := s.notes ++ [⟨level, text⟩] }

/-- Records an event in the journal. -/
def enter (event : Journal → Journal) : Action σ Unit :=
  modify fun s => { s with journal := event s.journal }

/-- Makes a request to the surroundings. -/
def consult (request : Request σ α) : Action σ (Except Fault α) :=
  modifyGet fun s =>
    let reply := request s.world
    (reply.answer, { s with world := reply.world, notes := s.notes ++ reply.notes })

/-- The directives of a content, from the memory. -/
def remembered : Lookup (Action σ) := fun content =>
  modifyGet fun s =>
    let found := s.memo.get Directives.ofContent (s.clock s.readings) content
    (found.directives,
      { s with
        memo := found.memo
        readings := s.readings + 1
        notes := s.notes ++ found.notes Decimal.TooManyDigits.message content })

/-- Forgets all directives. -/
def forget : Action σ Unit :=
  modify fun s => { s with memo := s.memo.clear, notes := s.notes ++ [Memo.cleared] }

/-- The prompts in their present state; none if they cannot be listed. -/
def prompts (host : Host σ) : Action σ (List Prompt) :=
  match host.list? with
  | none => do
    say .warning "Prompt set accessor not available"
    return []
  | some list => do
    match ← consult list with
    | .ok ps => return ps
    | .error e =>
      let why := e.message
      say .error s!"Error getting prompts with state: {why}"
      return []

/-- The prompts that are known already, or those in their present state. -/
def promptsOr (host : Host σ) (known : Option (List Prompt)) : Action σ (List Prompt) :=
  match known with
  | some ps => return ps
  | none => prompts host

/-- The directives of the first prompt with an identifier; an unknown one says nothing. -/
def directivesOf (ps : List Prompt) (identifier : String)
    (l : Lookup (Action σ) := remembered) : Action σ Directives :=
  match Prompt.find? ps identifier with
  | some p => l p.content
  | none => return .empty

/-- Closes the journal and tells its file if one was written. -/
def close : Action σ (Option String) :=
  modifyGet fun s => let (file, journal) := s.journal.close; (file, { s with journal := journal })

end Session

end PromptRules
