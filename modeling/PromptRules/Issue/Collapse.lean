import PromptRules.Issue.Basic

/-!
# Collapsing issues

Two prompts may both declare that they exclude each other. The two issues this raises tell
of one conflict and become one: the first stays, and takes over the prompts that the second
names.

Results:
* `collapse_concat`: issues are taken up one at a time, in order.
* `absorb_length`: taking up an issue adds at most one.
-/

namespace PromptRules.Issue

/-- Whether two issues tell of one conflict: they are of one kind and say the same, or name
    a common prompt. -/
def tellsSame (kept issue : Issue) : Bool :=
  kept.kind == issue.kind
    && (kept.message == issue.message || kept.conflictingIds.any (issue.conflictingIds.contains ·))

/-- The first issue with the prompts of both. -/
def merge (kept issue : Issue) : Issue :=
  let known := kept.conflictingIds
  let prompts := kept.conflicting ++ issue.conflicting.filter fun p => !known.contains p.identifier
  match prompts with
  | [p] => { kept with rival := some p, rivals := [] }
  | ps => { kept with rival := none, rivals := ps }

/-- Merges an issue into the first that tells of the same conflict, or appends it. -/
def absorb (issue : Issue) : List Issue → List Issue
  | [] => [issue]
  | kept :: rest =>
    if tellsSame kept issue then merge kept issue :: rest else kept :: absorb issue rest

/-- Takes up one issue after others. -/
def takeUp (issues : List Issue) (issue : Issue) : List Issue :=
  if issue.kind.isMutual then absorb issue issues else issues ++ [issue]

/-- Collapses the issues that tell of one conflict; the others and the order stay. -/
def collapse (issues : List Issue) : List Issue := issues.foldl takeUp []

theorem collapse_concat (issues : List Issue) (issue : Issue) :
    collapse (issues ++ [issue]) = takeUp (collapse issues) issue := by
  simp [collapse]

theorem absorb_length (issue : Issue) (issues : List Issue) :
    (absorb issue issues).length ≤ issues.length + 1 := by
  induction issues with
  | nil => simp [absorb]
  | cons kept rest ih =>
    unfold absorb
    split
    · simp
    · simpa using ih

end PromptRules.Issue
