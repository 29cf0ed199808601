import PromptRules.Directive.Field
import PromptRules.Directive.Spec

/-!
# Keywords

The keyword table, and how a comment names a keyword: an at sign and the keyword, which
ends at a blank or at the end of the comment, so that no keyword captures a longer one.

Results:
* `nodup_keywords`, `mem_fields`: the keywords differ, and every field is written.
* `Row.ofLine?_eq_none_of_head`: a comment that does not start with an at sign names none.
-/

namespace PromptRules.Directive

open Text

/-- A field with the specification that writes it. -/
structure Row where
  field : Field
  spec : Spec
deriving DecidableEq, Repr

/-- A row that keeps texts as they are. -/
def row (field : Field) (keyword category : String) : Row where
  field := field
  spec := { keyword := keyword, field := field.name, kind := field.kind, category := category }

/-- The row with texts kept in lower case. -/
def Row.lowered (r : Row) : Row := { r with spec := { r.spec with lowercase := true } }

/-- The row with an empty text allowed. -/
def Row.allowingEmpty (r : Row) : Row := { r with spec := { r.spec with allowsEmpty := true } }

/-- The keyword table. -/
def rows : List Row :=
  [row (.text .tooltip) "tooltip" "documentation",
   row (.text .help) "help" "documentation",
   row (.text .documentationUrl) "documentation-url" "documentation",
   row (.text .example) "example" "documentation",
   row (.text .changelog) "changelog" "documentation",
   row (.text .author) "author" "documentation",
   row (.text .version) "version" "documentation",
   row (.list .exclusiveWith) "exclusive-with" "conflicts",
   row (.text .exclusiveWithMessage) "exclusive-with-message" "conflicts",
   row (.list .requires) "requires" "conflicts",
   row (.text .requiresMessage) "requires-message" "conflicts",
   row (.list .conflictsWith) "conflicts-with" "conflicts",
   row (.text .conflictsMessage) "conflicts-message" "conflicts",
   row (.list .categories) "category" "conflicts",
   row (.text .maxOnePerCategory) "max-one-per-category" "conflicts",
   row (.text .mutualExclusiveGroup) "mutual-exclusive-group" "conflicts",
   (row (.text .deprecated) "deprecated" "conflicts").allowingEmpty,
   row (.list .autoDisable) "auto-disable" "conflicts",
   row (.flag .autoEnableDependencies) "auto-enable-dependencies" "conflicts",
   row (.list .tags) "tags" "organization",
   row (.text .group) "group" "organization",
   row (.text .groupDescription) "group-description" "organization",
   row (.int .priority) "priority" "organization",
   row (.int .loadOrder) "load-order" "organization",
   row (.text .icon) "icon" "organization",
   row (.text .color) "color" "organization",
   row (.text .badge) "badge" "organization",
   row (.flag .highlight) "highlight" "organization",
   row (.list .ifEnabled) "if-enabled" "visibility",
   row (.list .ifDisabled) "if-disabled" "visibility",
   (row (.list .ifApi) "if-api" "visibility").lowered,
   row (.flag .hidden) "hidden" "visibility",
   row (.flag .defaultEnabled) "default-enabled" "visibility",
   row (.flag .recommendedForBeginners) "recommended-for-beginners" "visibility",
   row (.flag .advanced) "advanced" "visibility",
   row (.text .warning) "warning" "status",
   row (.text .unstable) "unstable" "status",
   row (.text .experimental) "experimental" "status",
   (row (.list .incompatibleApis) "incompatible-api" "status").lowered,
   row (.list .recommendedWith) "recommended-with" "status",
   (row (.list .recommendedApi) "recommended-api" "status").lowered,
   row (.list .testedWith) "tested-with" "status",
   row (.int .tokenCost) "token-cost" "performance",
   row (.int .tokenCostWarn) "token-cost-warn" "performance",
   (row (.text .performanceImpact) "performance-impact" "performance").lowered,
   row (.list .modelOptimized) "model-optimized" "performance",
   row (.list .modelIncompatible) "model-incompatible" "performance",
   row (.list .profiles) "profile" "profiles",
   row (.text .presetName) "preset-name" "profiles",
   row (.text .presetVersion) "preset-version" "profiles",
   row (.text .requiresPresetVersion) "requires-preset-version" "profiles",
   row (.list .autoEnableWith) "auto-enable-with" "behavior",
   row (.list .suggestEnableWith) "suggest-enable-with" "behavior",
   row (.int .enableAtMessage) "enable-at-message" "triggers",
   row (.int .disableAtMessage) "disable-at-message" "triggers",
   row .window "message-range" "triggers",
   row (.int .enableAfterMessage) "enable-after-message" "triggers",
   row (.int .disableAfterMessage) "disable-after-message" "triggers"]

/-- The specifications of the table. -/
def specs : List Spec := rows.map Row.spec

/-- The row of a keyword. -/
def Row.ofKeyword? (keyword : String) : Option Row := rows.find? fun r => r.spec.keyword == keyword

/-- The row that a comment names, and the text after its keyword without the blanks in
    front. -/
def Row.ofLine? (line : String) : Option (Row × String) :=
  match line.toList with
  | '@' :: cs =>
    let keyword := cs.takeWhile (!isBlank ·)
    (Row.ofKeyword? (String.ofList keyword)).map fun r =>
      (r, String.ofList (trimStart (cs.dropWhile (!isBlank ·))))
  | _ => none

/-- No two rows have the same keyword. -/
theorem nodup_keywords : (specs.map Spec.keyword).Nodup := by decide

/-- Every field is written by some row. -/
theorem mem_fields (f : Field) : f ∈ rows.map Row.field := by
  cases f with
  | text f => cases f <;> decide
  | list f => cases f <;> decide
  | int f => cases f <;> decide
  | flag f => cases f <;> decide
  | window => decide

theorem Row.ofLine?_eq_none_of_head {line : String} (h : line.toList.head? ≠ some '@') :
    Row.ofLine? line = none := by
  unfold Row.ofLine?
  split
  · simp_all
  · rfl

end PromptRules.Directive
