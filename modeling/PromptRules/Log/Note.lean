/-!
# Notes

What the program says about its own work while it runs, each note with its weight. Which part of the
program a note comes from, and how a log lays it out, is left out.

Results:
* `Level.name_injective`: the weights have different names.
-/

namespace PromptRules

/-- The weight of a note. -/
inductive Level where
  | debug | info | warning | error
deriving DecidableEq, Repr

/-- The name of a weight. -/
def Level.name : Level → String
  | .debug => "debug"
  | .info => "info"
  | .warning => "warning"
  | .error => "error"

/-- The place of a weight from the lightest on. -/
def Level.rank : Level → Nat
  | .debug => 0
  | .info => 1
  | .warning => 2
  | .error => 3

/-- One thing said. -/
structure Note where
  level : Level
  text : String
deriving DecidableEq, Repr

theorem Level.name_injective {a b : Level} (h : a.name = b.name) : a = b := by
  revert h
  cases a <;> cases b <;> decide

end PromptRules
