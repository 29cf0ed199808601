import PromptRules.Data.Distinct
import PromptRules.Data.Tree
import PromptRules.Prompt.Basic

/-!
# Issues

An issue is one reason against enabling a prompt, or a warning about it. It names the
prompts that it is in conflict with, or the prompt that is missing.

Results:
* `Issue.nodup_conflictingIds`: an issue names no prompt twice.
-/

namespace PromptRules

open Data

/-- What an issue is about. -/
inductive IssueKind where
  | exclusive
  | missingDependency
  | categoryLimit
  | mutualExclusiveGroup
  | softConflict
  | deprecated
deriving DecidableEq, Repr

/-- The name of an issue kind. -/
def IssueKind.name : IssueKind → String
  | .exclusive => "exclusive"
  | .missingDependency => "missing-dependency"
  | .categoryLimit => "category-limit"
  | .mutualExclusiveGroup => "mutual-exclusive-group"
  | .softConflict => "soft-conflict"
  | .deprecated => "deprecated"

/-- Conflicts that are resolved by disabling the prompts they name. -/
def IssueKind.isConflict : IssueKind → Bool
  | .exclusive | .categoryLimit | .mutualExclusiveGroup => true
  | _ => false

/-- Conflicts that two prompts can declare about each other, and that then count once. -/
def IssueKind.isMutual : IssueKind → Bool
  | .exclusive | .softConflict => true
  | _ => false

/-- Whether an issue stands in the way or only warns. -/
inductive Severity where
  | error | warning
deriving DecidableEq, Repr

/-- The name of a severity. -/
def Severity.name : Severity → String
  | .error => "error"
  | .warning => "warning"

/-- A reason against enabling `prompt`, or a warning about it. -/
structure Issue where
  kind : IssueKind
  severity : Severity
  message : String
  prompt : Prompt
  /-- The keyword whose rule raised the issue. -/
  directive : String
  /-- The one prompt that it is in conflict with. -/
  rival : Option Prompt := none
  /-- The prompts that it is in conflict with, when there may be several. -/
  rivals : List Prompt := []
  /-- The prompt that has to be enabled first, if it exists. -/
  required : Option Prompt := none
  requiredId : Option String := none
  canAutoEnable : Option Bool := none
  /-- The category or group of a limit. -/
  limit : Option String := none
deriving DecidableEq, Repr

namespace Issue

/-- Whether the issue stands in the way. -/
def isError (i : Issue) : Bool := i.severity == .error

/-- Every prompt that the issue is in conflict with, by identifier, the single one first. -/
def conflicting (i : Issue) : List Prompt :=
  distinctBy Prompt.identifier (i.rival.toList ++ i.rivals)

/-- The identifiers of the prompts that the issue is in conflict with. -/
def conflictingIds (i : Issue) : List String := i.conflicting.map Prompt.identifier

/-- The issue as a record. -/
def toRecord (i : Issue) : Record :=
  [("type", .text i.kind.name), ("severity", .text i.severity.name), ("message", .text i.message),
   ("prompt", .text i.prompt.identifier), ("directive", .text i.directive)]
    ++ (if i.conflictingIds = [] then [] else
          [("conflicting", .list (i.conflictingIds.map .text))])
    ++ (i.requiredId.map fun r => ("required", Tree.text r)).toList
    ++ (i.canAutoEnable.map fun b => ("can_auto_enable", Tree.bool b)).toList
    ++ (i.limit.map fun c => ("category", Tree.text c)).toList

/-- Whether some issue stands in the way. -/
def anyError (issues : List Issue) : Bool := issues.any isError

theorem nodup_conflictingIds (i : Issue) : i.conflictingIds.Nodup :=
  nodup_map_distinctBy _ _

end Issue

end PromptRules
