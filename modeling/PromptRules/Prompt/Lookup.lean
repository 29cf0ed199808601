import PromptRules.Directive.Directives
import PromptRules.Prompt.Basic

/-!
# Looking up directives

The rules about prompts do not read contents themselves; they ask a lookup for the
directives of a content. The lookup may be a plain function, a reading that can fail, or a
memory that changes with every question, so the rules are written for any monad.

Results:
* `annotate_cons`: the prompts are asked about one after the other.
* `annotate_id`: with a plain function, annotating is mapping.
-/

namespace PromptRules

open Directive

/-- A way to get the directives of a content. -/
abbrev Lookup (m : Type → Type) := String → m Directives

/-- Asks for the directives of every prompt, in order. -/
def annotate {m : Type → Type} [Monad m] (lookup : Lookup m) (prompts : List Prompt) :
    m (List (Prompt × Directives)) :=
  prompts.mapM fun p => do return (p, ← lookup p.content)

/-- Whether the prompt has a content, and so can carry directives. -/
def Prompt.hasContent (p : Prompt) : Bool := p.content != ""

/-- Asks for the directives of every prompt that has a content, in order. -/
def annotated {m : Type → Type} [Monad m] (lookup : Lookup m) (prompts : List Prompt) :
    m (List (Prompt × Directives)) :=
  annotate lookup (prompts.filter Prompt.hasContent)

/-- The directives of a prompt; a prompt without content says nothing and is not asked
    about. -/
def directivesOf {m : Type → Type} [Monad m] (lookup : Lookup m) (p : Prompt) : m Directives :=
  if p.hasContent then lookup p.content else pure .empty

theorem annotate_cons {m : Type → Type} [Monad m] [LawfulMonad m] (lookup : Lookup m) (p : Prompt)
    (ps : List Prompt) :
    annotate lookup (p :: ps) = do
      let d ← lookup p.content
      let rest ← annotate lookup ps
      return (p, d) :: rest := by
  simp only [annotate, List.mapM_cons, bind_assoc, pure_bind]

theorem annotate_id (lookup : String → Directives) (prompts : List Prompt) :
    annotate (m := Id) lookup prompts = prompts.map fun p => (p, lookup p.content) := by
  induction prompts with
  | nil => rfl
  | cons p ps ih =>
    rw [annotate_cons, ih, List.map_cons]
    rfl

end PromptRules
