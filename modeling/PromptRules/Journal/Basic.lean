import PromptRules.Issue.Plan
import PromptRules.Journal.Shorten
import PromptRules.Prompt.Trigger

/-!
# Journal

A record of what was decided and why, one line an event, under the name of a session. A
journal that is off, or closed, accepts every event and records nothing.

Results:
* `write_of_closed`: a journal that is not open stays as it is.
-/

namespace PromptRules

open Data

/-- The lines recorded in a session. -/
structure Journal where
  /-- The name of the session; a journal that was never opened has none. -/
  session : Option String := none
  isOpen : Bool := false
  lines : List Record := []

namespace Journal

/-- A journal that records nothing. -/
def off : Journal := {}

/-- Records a line. -/
def write (line : Record) (j : Journal) : Journal :=
  if j.isOpen then { j with lines := j.lines ++ [line] } else j

/-- Opens a journal. -/
def start (session : String) : Journal :=
  write [("event", .text "session_start"), ("session_id", .text session)]
    { session := some session, isOpen := true }

/-- The file that a journal belongs in. -/
def fileName (session : String) : String := "directives_" ++ session ++ ".jsonl"

/-- Issues as a list of records. -/
def issueList (issues : List Issue) : Tree := .list (issues.map fun i => .map i.toRecord)

/-- A prompt was checked. -/
def validation (identifier : String) (issues : List Issue) : Journal → Journal :=
  write [("event", .text "validate"), ("prompt", .text identifier),
    ("issue_count", .int issues.length), ("issues", shorten 0 (issueList issues))]

/-- A plan was carried out for a prompt. -/
def resolution (identifier : String) (plan : Plan) : Journal → Journal :=
  write ([("event", .text "auto_resolve"), ("prompt", .text identifier)]
    ++ shortRecord plan.toRecord)

/-- A prompt was switched. -/
def toggle (identifier : String) (enabled : Bool) (source : String) : Journal → Journal :=
  write [("event", .text "toggle"), ("prompt", .text identifier), ("enabled", .bool enabled),
    ("source", .text source)]

/-- Triggers were evaluated; if nothing is to change there is nothing to record. -/
def triggers (t : Transitions) (j : Journal) : Journal :=
  if t.isEmpty then j
  else write (("event", .text "trigger") :: shortRecord t.toRecord) j

/-- The names that no field of an event may have: they stand for the journal and for the event
    itself. -/
def takenNames : List String := ["self", "event_type"]

/-- An event of its own, with any fields; a field named `event` takes the place of the
    event's name. A field whose name is taken is refused, and then nothing is recorded. -/
def custom? (event : String) (fields : Record) (j : Journal) : Option Journal :=
  if fields.any fun e => e.1 ∈ takenNames then none
  else some (write (Assoc.putAll [("event", .text event)] (shortRecord fields)) j)

/-- Closes a journal and tells the name of its file if it was open. -/
def close (j : Journal) : Option String × Journal :=
  if j.isOpen then
    (j.session.map fileName, { write [("event", .text "session_end")] j with isOpen := false })
  else (none, j)

/-- A line with the moment of its writing in front; a line that has a moment of its own
    keeps that. -/
def stamped (moment : String) (line : Record) : Record :=
  Assoc.putAll [("ts", .text moment)] line

theorem write_of_closed {j : Journal} (h : j.isOpen = false) (line : Record) :
    write line j = j := by
  simp [write, h]

theorem isOpen_close (j : Journal) : (close j).2.isOpen = false := by
  unfold close
  split
  · rfl
  · simp_all

end Journal

end PromptRules
