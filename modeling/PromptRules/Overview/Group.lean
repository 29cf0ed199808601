import PromptRules.Data.Assoc
import PromptRules.Prompt.Lookup

/-!
# Groups

Prompts sorted into the groups that they declare. A group appears where it is first
mentioned, and its description is the first one that a member declares.
-/

namespace PromptRules

open Data Directive

/-- A group of prompts. -/
structure Group where
  name : String
  description : Option String := none
  members : List String := []
deriving DecidableEq, Repr

namespace Group

/-- The group with one more member, and its description if the group has none yet. -/
def add (g : Group) (p : Prompt) (description : Option String) : Group :=
  { g with
    description := g.description.or (description.filter (· ≠ ""))
    members := g.members ++ [p.identifier] }

/-- Sorts one prompt into the groups. -/
def sortIn (groups : List (String × Group)) (o : Prompt × Directives) : List (String × Group) :=
  match o.2.text .group with
  | none => groups
  | some name =>
    if name = "" then groups
    else
      let g := (Assoc.get? groups name).getD { name := name }
      Assoc.put groups name (g.add o.1 (o.2.text .groupDescription))

/-- The groups of prompts whose directives are known. -/
def gather (around : List (Prompt × Directives)) : List (String × Group) := around.foldl sortIn []

/-- The groups of a prompt set, in order of first mention. -/
def ofPrompts {m : Type → Type} [Monad m] (lookup : Lookup m) (prompts : List Prompt) :
    m (List (String × Group)) := do
  return gather (← annotated lookup prompts)

end Group

end PromptRules
