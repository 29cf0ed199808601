import PromptRules.Data.Distinct
import PromptRules.Prompt.Lookup

/-!
# Defaults and profiles

First-run defaults are the prompts that ask to be enabled. A profile names a selection of
prompts: switching to it enables the prompts that list it and disables the other prompts
that list some profile; prompts that list none are left alone.

Results:
* `Profile.changes_isEmpty_of_fits`: a prompt set that fits a profile needs no change.
-/

namespace PromptRules

open Data Directive

/-- The disabled prompts that ask to be enabled by default. -/
def defaults {m : Type → Type} [Monad m] (lookup : Lookup m) (prompts : List Prompt) :
    m (List String) := do
  let around ← annotated lookup prompts
  return (around.filter fun o => o.2.flag .defaultEnabled && !o.1.enabled).map (·.1.identifier)

namespace Profile

/-- Every profile that some prompt lists, in order of first mention. -/
def names {m : Type → Type} [Monad m] (lookup : Lookup m) (prompts : List Prompt) :
    m (List String) := do
  let around ← annotated lookup prompts
  return distinct (around.flatMap fun o => o.2.list .profiles)

/-- Toggles that switch to a profile. -/
structure Changes where
  profile : String
  toEnable : List String := []
  toDisable : List String := []
  /-- How many prompts list no profile. -/
  skipped : Nat := 0
deriving DecidableEq, Repr

/-- Whether there is nothing to do. -/
def Changes.isEmpty (c : Changes) : Bool := c.toEnable.isEmpty && c.toDisable.isEmpty

/-- Whether the prompt takes part in profiles. -/
def takesPart (d : Directives) : Bool := !(d.list .profiles).isEmpty

/-- Whether the prompt has to be enabled for the profile. -/
def toEnable (profile : String) (o : Prompt × Directives) : Bool :=
  (o.2.list .profiles).contains profile && !o.1.enabled

/-- Whether the prompt has to be disabled for the profile. -/
def toDisable (profile : String) (o : Prompt × Directives) : Bool :=
  takesPart o.2 && !(o.2.list .profiles).contains profile && o.1.enabled

/-- The changes among prompts whose directives are known. -/
def changesOf (profile : String) (around : List (Prompt × Directives)) : Changes where
  profile := profile
  toEnable := (around.filter (toEnable profile)).map (·.1.identifier)
  toDisable := (around.filter (toDisable profile)).map (·.1.identifier)
  skipped := (around.filter fun o => !takesPart o.2).length

/-- The toggles that bring a prompt set in line with a profile. -/
def changes {m : Type → Type} [Monad m] (lookup : Lookup m) (profile : String)
    (prompts : List Prompt) : m Changes := do
  let around ← prompts.mapM fun p => do return (p, ← directivesOf lookup p)
  return changesOf profile around

theorem changes_isEmpty_of_fits {profile : String} {around : List (Prompt × Directives)}
    (h : ∀ o ∈ around, takesPart o.2 = true →
      o.1.enabled = (o.2.list .profiles).contains profile) :
    (changesOf profile around).isEmpty = true := by
  have he : around.filter (toEnable profile) = [] := by
    apply List.filter_eq_nil_iff.2
    intro o ho hc
    simp only [toEnable, Bool.and_eq_true, Bool.not_eq_true'] at hc
    have hp : takesPart o.2 = true := by
      cases hl : o.2.list .profiles with
      | nil => simp [hl] at hc
      | cons x xs => simp [takesPart, hl]
    rw [h o ho hp, hc.1] at hc
    exact absurd hc.2 (by decide)
  have hd : around.filter (toDisable profile) = [] := by
    apply List.filter_eq_nil_iff.2
    intro o ho hc
    simp only [toDisable, Bool.and_eq_true, Bool.not_eq_true'] at hc
    rw [h o ho hc.1.1, hc.1.2] at hc
    exact absurd hc.2 (by decide)
  simp [Changes.isEmpty, changesOf, he, hd]

end Profile

end PromptRules
