import PromptRules.Data.Assoc
import PromptRules.Prompt.Lookup

/-!
# Tags

The tags of a prompt set, ranked by how often they are declared; among tags of one count
the one declared first leads.

Results:
* `ranking_perm`: ranking loses no tag and adds none.
-/

namespace PromptRules.Tag

open Data Directive

/-- How many tags a listing shows if nothing else is asked for. -/
def defaultLimit : Int := 20

/-- Counts one more occurrence of a tag. -/
def count (counts : List (String × Nat)) (tag : String) : List (String × Nat) :=
  Assoc.put counts tag ((Assoc.get? counts tag).getD 0 + 1)

/-- The number of occurrences of every tag, in order of first mention. -/
def tally (tags : List String) : List (String × Nat) := tags.foldl count []

/-- Tags by descending count, those of one count in order of first mention. -/
def ranking (tags : List String) : List (String × Nat) :=
  (tally tags).mergeSort fun a b => b.2 ≤ a.2

/-- The first tags of the ranking; a limit below zero shows none, no limit shows all. -/
def top (limit : Option Int) (tags : List String) : List (String × Nat) :=
  match limit with
  | none => ranking tags
  | some n => (ranking tags).take n.toNat

/-- The most used tags of a prompt set. -/
def mostUsed {m : Type → Type} [Monad m] (lookup : Lookup m) (limit : Option Int)
    (prompts : List Prompt) : m (List (String × Nat)) := do
  let around ← annotated lookup prompts
  return top limit (around.flatMap fun o => o.2.list .tags)

theorem ranking_perm (tags : List String) : (ranking tags).Perm (tally tags) :=
  List.mergeSort_perm _ _

end PromptRules.Tag
