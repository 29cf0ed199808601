import PromptRules.Prompt.Lookup
import PromptRules.Text.LowerCase

/-!
# Visibility

Whether a prompt is shown: one marked hidden never is; one that names prompts to be enabled
needs one of them to be, one that names prompts to be disabled needs all of them to be, and
one that names interfaces needs the current one among them, if it is known.
-/

namespace PromptRules.Visibility

open Directive

/-- Whether the first prompt with this identifier is enabled. -/
def isEnabled (prompts : List Prompt) (identifier : String) : Bool :=
  (Prompt.find? prompts identifier).any Prompt.enabled

/-- Whether the conditions that the directives state are met. -/
def meets (d : Directives) (prompts : List Prompt) (api : Option String) : Bool :=
  !d.flag .hidden
    && ((d.list .ifEnabled).isEmpty || (d.list .ifEnabled).any (isEnabled prompts))
    && !(d.list .ifDisabled).any (isEnabled prompts)
    && ((d.list .ifApi).isEmpty || api.all fun a => (d.list .ifApi).contains (Text.lower a))

/-- Whether a prompt is shown among the prompts of its set. -/
def isShown {m : Type → Type} [Monad m] (lookup : Lookup m) (p : Prompt) (prompts : List Prompt)
    (api : Option String) : m Bool :=
  if p.hasContent then do return meets (← lookup p.content) prompts api else pure true

/-- The prompts that are shown. -/
def shown {m : Type → Type} [Monad m] (lookup : Lookup m) (prompts : List Prompt)
    (api : Option String) : m (List Prompt) := do
  let marks ← prompts.mapM fun p => do return (p, ← isShown lookup p prompts api)
  return (marks.filter Prod.snd).map Prod.fst

end PromptRules.Visibility
