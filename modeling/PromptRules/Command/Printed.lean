import PromptRules.Directive.Directives
import PromptRules.Issue.Plan
import PromptRules.Prompt.Trigger
import PromptRules.Settings.Basic
import PromptRules.Text.Markup

/-!
# What is printed

The lines, tables and panels that commands print, with markup for their styles. Text from
files is escaped, so that it is printed as it is. A table is its title, its columns and its rows;
how a console draws it, with borders, widths and colours, is left out.
-/

namespace PromptRules

open Directive Text

/-- Something that is printed. -/
inductive Printed where
  | line (text : String)
  | table (title : String) (columns : List String) (rows : List (List String))
  | panel (text : String)
deriving DecidableEq, Repr

namespace Printed

/-- A line in a style. -/
def styled (style text : String) : Printed := .line (Markup.styled style text)

/-- The lines of something printed where styles cannot be shown. -/
def lines : Printed → List String
  | .line text | .panel text => [Markup.shown text]
  | .table title columns rows =>
    Markup.shown title :: (columns :: rows).map fun r => " | ".intercalate (r.map Markup.shown)

/-! ## Directives -/

/-- What a directive says, in one cell. -/
def valueText : Value → String
  | .text s => s
  | .list items => ", ".intercalate items
  | .int n => toString n
  | .flag => "True"
  | .range w => w.text

/-- What the directives of a file say. -/
def ofDirectives (title : String) (d : Directives) : Printed :=
  match d.declared with
  | [] => styled "dim" "No directives found."
  | es =>
    .table title ["Field", "Value"] (es.map fun e => [e.1.name, Markup.escape (valueText e.2)])

/-! ## Issues -/

/-- The row of an issue. -/
def issueRow (i : Issue) : List String :=
  [Markup.styled (if i.isError then "red" else "yellow") i.severity.name, i.kind.name,
   Markup.escape i.message]

/-- A table of issues. -/
def ofIssues (issues : List Issue) : Printed :=
  .table "Issues" ["Severity", "Type", "Message"] (issues.map issueRow)

/-! ## Triggers -/

/-- The row of a firing. -/
def firingRow (f : Firing) : List String :=
  [Markup.escape f.name, Markup.styled (if f.enable then "green" else "red") f.action, f.reason]

/-- What triggers ask for at a message count. -/
def ofFirings (count : Nat) (firings : List Firing) : Printed :=
  match firings with
  | [] => styled "dim" s!"No triggers at message {count}."
  | fs => .table s!"Triggers at message {count}" ["Prompt", "Action", "Reason"] (fs.map firingRow)

/-! ## Toggles -/

/-- The lines about what was cleared on the way to enabling a prompt. -/
def ofPlan (p : Plan) : List Printed :=
  (p.toDisable.map fun i => .line s!"  ⏹  disabled {i}")
    ++ p.toEnable.map fun i => .line s!"  ▶  enabled {i}"

/-- A fault that ends a command. -/
def fault (text : String) : Printed := styled "red" s!"❌ {text}"

/-! ## Settings -/

/-- What the settings say. -/
def ofSettings (s : Settings) : List Printed :=
  let stage := s.stage.name
  let level := levelName s.level
  let room := s.limits.room
  let lifetime := Decimal.brief.write s.limits.lifetime
  let journal := s.journalPath.text
  [.line ("\n" ++ Markup.styled "bold" "Prompt Directives Health Check" ++ "\n"),
   .line "✅ Configuration loaded",
   .line s!"   Environment: {stage}",
   .line s!"   Log level: {level}",
   .line s!"✅ Cache: max {room} entries, TTL {lifetime}s",
   .line (if s.journals then s!"✅ Audit log enabled: {journal}" else "ℹ️  Audit log disabled"),
   .panel (Markup.styled "green" "All checks passed!")]

end Printed

end PromptRules
