import PromptRules.Directive.Value

/-!
# Fields

The fields that directives write, sorted by the kind of value they hold, and the order in
which records list them.

Results:
* `Field.mem_all`: every field is listed.
-/

namespace PromptRules.Directive

/-- Fields that hold one text. -/
inductive TextField where
  | tooltip | help | documentationUrl | author | version | example | changelog
  | requiresMessage | exclusiveWithMessage | conflictsMessage | mutualExclusiveGroup
  | maxOnePerCategory | icon | color | badge | group | groupDescription | warning | deprecated
  | unstable | experimental | performanceImpact | presetName | presetVersion
  | requiresPresetVersion
deriving DecidableEq, Repr

/-- Fields that collect a list of texts. -/
inductive ListField where
  | requires | exclusiveWith | conflictsWith | categories | autoDisable | autoEnableWith
  | suggestEnableWith | ifEnabled | ifDisabled | ifApi | tags | incompatibleApis
  | recommendedWith | recommendedApi | testedWith | modelOptimized | modelIncompatible
  | profiles
deriving DecidableEq, Repr

/-- Fields that hold one integer. -/
inductive IntField where
  | priority | loadOrder | tokenCost | tokenCostWarn | enableAtMessage | disableAtMessage
  | enableAfterMessage | disableAfterMessage
deriving DecidableEq, Repr

/-- Fields that are set or not. -/
inductive FlagField where
  | autoEnableDependencies | hidden | highlight | defaultEnabled | recommendedForBeginners
  | advanced
deriving DecidableEq, Repr

/-- A field of a prompt's directives. `window` is the one window of message counts. -/
inductive Field where
  | text (f : TextField)
  | list (f : ListField)
  | int (f : IntField)
  | flag (f : FlagField)
  | window
deriving DecidableEq, Repr

/-- The kind of value that the field holds. -/
def Field.kind : Field → Kind
  | .text _ => .text
  | .list _ => .list
  | .int _ => .int
  | .flag _ => .flag
  | .window => .range

/-- The name under which records list the field. -/
def TextField.name : TextField → String
  | .tooltip => "tooltip"
  | .help => "help"
  | .documentationUrl => "documentation_url"
  | .author => "author"
  | .version => "version"
  | .example => "example"
  | .changelog => "changelog"
  | .requiresMessage => "requires_message"
  | .exclusiveWithMessage => "exclusive_with_message"
  | .conflictsMessage => "conflicts_message"
  | .mutualExclusiveGroup => "mutual_exclusive_group"
  | .maxOnePerCategory => "max_one_per_category"
  | .icon => "icon"
  | .color => "color"
  | .badge => "badge"
  | .group => "group"
  | .groupDescription => "group_description"
  | .warning => "warning"
  | .deprecated => "deprecated"
  | .unstable => "unstable"
  | .experimental => "experimental"
  | .performanceImpact => "performance_impact"
  | .presetName => "preset_name"
  | .presetVersion => "preset_version"
  | .requiresPresetVersion => "requires_preset_version"

/-- The name under which records list the field. -/
def ListField.name : ListField → String
  | .requires => "requires"
  | .exclusiveWith => "exclusive_with"
  | .conflictsWith => "conflicts_with"
  | .categories => "categories"
  | .autoDisable => "auto_disable"
  | .autoEnableWith => "auto_enable_with"
  | .suggestEnableWith => "suggest_enable_with"
  | .ifEnabled => "if_enabled"
  | .ifDisabled => "if_disabled"
  | .ifApi => "if_api"
  | .tags => "tags"
  | .incompatibleApis => "incompatible_apis"
  | .recommendedWith => "recommended_with"
  | .recommendedApi => "recommended_api"
  | .testedWith => "tested_with"
  | .modelOptimized => "model_optimized"
  | .modelIncompatible => "model_incompatible"
  | .profiles => "profiles"

/-- The name under which records list the field. -/
def IntField.name : IntField → String
  | .priority => "priority"
  | .loadOrder => "load_order"
  | .tokenCost => "token_cost"
  | .tokenCostWarn => "token_cost_warn"
  | .enableAtMessage => "enable_at_message"
  | .disableAtMessage => "disable_at_message"
  | .enableAfterMessage => "enable_after_message"
  | .disableAfterMessage => "disable_after_message"

/-- The name under which records list the field. -/
def FlagField.name : FlagField → String
  | .autoEnableDependencies => "auto_enable_dependencies"
  | .hidden => "hidden"
  | .highlight => "highlight"
  | .defaultEnabled => "default_enabled"
  | .recommendedForBeginners => "recommended_for_beginners"
  | .advanced => "advanced"

/-- The name under which records list the field. -/
def Field.name : Field → String
  | .text f => f.name
  | .list f => f.name
  | .int f => f.name
  | .flag f => f.name
  | .window => "message_range"

/-- All fields in the order of records. -/
def Field.all : List Field :=
  [.text .tooltip, .text .help, .text .documentationUrl, .text .author, .text .version,
   .text .example, .text .changelog, .list .requires, .text .requiresMessage,
   .list .exclusiveWith, .text .exclusiveWithMessage, .list .conflictsWith,
   .text .conflictsMessage, .text .mutualExclusiveGroup, .text .maxOnePerCategory,
   .list .categories, .list .autoDisable, .flag .autoEnableDependencies, .list .autoEnableWith,
   .list .suggestEnableWith, .list .ifEnabled, .list .ifDisabled, .list .ifApi, .flag .hidden,
   .text .icon, .text .color, .text .badge, .flag .highlight, .text .group,
   .text .groupDescription, .list .tags, .int .priority, .int .loadOrder, .text .warning,
   .text .deprecated, .text .unstable, .text .experimental, .list .incompatibleApis,
   .list .recommendedWith, .list .recommendedApi, .list .testedWith, .list .modelOptimized,
   .list .modelIncompatible, .flag .defaultEnabled, .flag .recommendedForBeginners,
   .flag .advanced, .int .tokenCost, .int .tokenCostWarn, .text .performanceImpact,
   .list .profiles, .text .presetName, .text .presetVersion, .text .requiresPresetVersion,
   .int .enableAtMessage, .int .disableAtMessage, .window, .int .enableAfterMessage,
   .int .disableAfterMessage]

theorem Field.mem_all (f : Field) : f ∈ Field.all := by
  cases f with
  | text f => cases f <;> decide
  | list f => cases f <;> decide
  | int f => cases f <;> decide
  | flag f => cases f <;> decide
  | window => decide

theorem Field.nodup_all : Field.all.Nodup := by decide

end PromptRules.Directive
