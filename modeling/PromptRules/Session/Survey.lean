import PromptRules.Overview.Group
import PromptRules.Overview.Profile
import PromptRules.Overview.Search
import PromptRules.Overview.Tag
import PromptRules.Overview.TokenBudget
import PromptRules.Overview.Visibility
import PromptRules.Session.Toggle

/-!
# Surveys in a session

What can be asked about the prompts in their present state, and the two changes that follow
from it: enabling the defaults and switching to a profile.
-/

namespace PromptRules.Session

variable {σ : Type}

/-- Asks something about the prompts in their present state. -/
def survey {α : Type} (host : Host σ) (question : Lookup (Action σ) → List Prompt → Action σ α)
    (l : Lookup (Action σ) := remembered) : Action σ α := do
  question l (← prompts host)

/-- The changes that triggers ask for at a message count. Nothing is switched. -/
def due (host : Host σ) (count : Int) (fired : Trigger.Fired)
    (l : Lookup (Action σ) := remembered) : Action σ Transitions := do
  let t ← survey host (fun lookup ps => Trigger.transitions lookup count ps fired) l
  t.firings.forM fun f => say .debug f.note
  enter (Journal.triggers t)
  return t

/-- Enables the defaults, and tells which of them were enabled. -/
def enableDefaults (host : Host σ) (l : Lookup (Action σ) := remembered) :
    Action σ (List String) := do
  let enabled ← commitAll host "default" true (← survey host defaults l)
  if enabled ≠ [] then
    let count := enabled.length
    say .info s!"Applied default-enabled to {count} prompts"
  return enabled

/-- The note about a switch to a profile. -/
def profileNote (c : Profile.Changes) : String :=
  let profile := c.profile
  let enabled := c.toEnable.length
  let disabled := c.toDisable.length
  let skipped := c.skipped
  s!"Activated profile \"{profile}\": enabled {enabled}, disabled {disabled}, skipped {skipped} (no profile)"

/-- Switches to a profile. -/
def activate (host : Host σ) (profile : String) (l : Lookup (Action σ) := remembered) :
    Action σ Profile.Changes := do
  let c ← survey host (fun lookup ps => Profile.changes lookup profile ps) l
  let source := s!"profile:{profile}"
  let _ ← commitAll host source true c.toEnable
  let _ ← commitAll host source false c.toDisable
  if c.isEmpty = false then say .info (profileNote c)
  return c

/-- The prompts that are shown. -/
def shown (host : Host σ) (api : Option String) (l : Lookup (Action σ) := remembered) :
    Action σ (List Prompt) :=
  survey host (fun lookup ps => Visibility.shown lookup ps api) l

end PromptRules.Session
