import PromptRules.Command.Words

/-!
# Commands

What the program can be asked for on a command line. A line names a command, after options
of the program itself, of which there is only the one for help; the words that follow are
the operands and options of the command. Asking for help goes before all faults but those of
the options' form. Of the help only the line about each command is kept.

Results:
* `Verb.ofName?_name`: every command is found by its name.
-/

namespace PromptRules.Command

/-- The commands by name. -/
inductive Verb where
  | parse | validate | enable | disable | triggers | health | version
deriving DecidableEq, Repr

namespace Verb

/-- All commands. -/
def all : List Verb := [.parse, .validate, .enable, .disable, .triggers, .health, .version]

/-- The name of a command. -/
def name : Verb → String
  | .parse => "parse"
  | .validate => "validate"
  | .enable => "enable"
  | .disable => "disable"
  | .triggers => "triggers"
  | .health => "health"
  | .version => "version"

/-- The command of a name. -/
def ofName? (s : String) : Option Verb := all.find? (·.name = s)

/-- The number of operands that a command takes. -/
def operands : Verb → Nat
  | .parse | .triggers => 1
  | .validate | .enable | .disable => 2
  | .health | .version => 0

/-- What a command does, for the help text. -/
def about : Verb → String
  | .parse => "parse FILE: what the directives of a text file say"
  | .validate => "validate PRESET PROMPT [-c CHARACTER]: what speaks against enabling a prompt"
  | .enable => "enable PRESET PROMPT [-y] [-c CHARACTER]: enable a prompt"
  | .disable => "disable PRESET PROMPT [-c CHARACTER]: disable a prompt"
  | .triggers => "triggers PRESET -n COUNT [--apply] [-c CHARACTER]: what is due at a message count"
  | .health => "health: what the settings say"
  | .version => "version: the version of the program"

/-- The choices that a command knows. -/
def choices : Verb → List Choice
  | .validate | .disable => [.character, .help]
  | .enable => [.yes, .character, .help]
  | .triggers => [.count, .apply, .character, .help]
  | .parse | .health | .version => [.help]

end Verb

end Command

open Command

/-- What the program is asked for. -/
inductive Command where
  /-- Shows what the directives of a text file say. -/
  | parse (file : String)
  /-- Tells what speaks against enabling a prompt. -/
  | validate (preset prompt : String) (character : Option Int)
  /-- Enables a prompt; `yes` answers the question about its issues. -/
  | enable (preset prompt : String) (yes : Bool) (character : Option Int)
  /-- Disables a prompt. -/
  | disable (preset prompt : String) (character : Option Int)
  /-- Tells which triggers are due at a message count, and perhaps applies them. -/
  | triggers (preset : String) (count : Nat) (apply : Bool) (character : Option Int)
  /-- Shows the settings. -/
  | health
  /-- Shows the version. -/
  | version
deriving DecidableEq, Repr

namespace Command

/-- The file that a command reads. -/
def file? : Command → Option String
  | .parse file => some file
  | .validate preset _ _ | .enable preset _ _ _ | .disable preset _ _ | .triggers preset _ _ _ =>
    some preset
  | .health | .version => none

/-- The character that was chosen, if any. -/
def characterOf (w : Words) : Except UsageError (Option Int) :=
  match w.value? .character with
  | some word => (whole word).map some
  | none => .ok none

/-- The message count that was chosen. -/
def countOf (w : Words) : Except UsageError Nat := do
  match w.value? .count with
  | some word =>
    let n ← whole word
    if n < 0 then throw (.belowZero word) else return n.toNat
  | none => throw (.optionMissing Choice.count.long)

/-- The command of a verb with its operands and options. -/
def ofWords (v : Verb) (w : Words) : Except UsageError Command :=
  match v, w.operands with
  | .parse, [file] => .ok (.parse file)
  | .validate, [preset, prompt] => return .validate preset prompt (← characterOf w)
  | .enable, [preset, prompt] => return .enable preset prompt (w.has .yes) (← characterOf w)
  | .disable, [preset, prompt] => return .disable preset prompt (← characterOf w)
  | .triggers, [preset] =>
    return .triggers preset (← countOf w) (w.has .apply) (← characterOf w)
  | .health, [] => .ok .health
  | .version, [] => .ok .version
  | v, operands =>
    match operands[v.operands]? with
    | some word => .error (.operandLeft word)
    | none => .error .operandMissing

/-- The command that the words after a verb write; none if they ask for help. -/
def Verb.read (v : Verb) (words : List String) : Except UsageError (Option Command) := do
  let w ← scan v.choices true words
  if w.has .help then return none else return some (← ofWords v w)

/-- The verb of a command line and the words after it; none if the line asks for help. Words
    that start with no verb are read once more as options, so that help can stand even where
    a verb is due. -/
def verbOf (words : List String) : Except UsageError (Option (Verb × List String)) := do
  let w ← scan [.help] false words
  if w.has .help then return none
  match w.operands with
  | [] => throw .noCommand
  | word :: rest =>
    match Verb.ofName? word with
    | some v => return some (v, rest)
    | none =>
      if (← scan [.help] false (word :: rest)).has .help then return none
      else throw (.unknownCommand word)

theorem Verb.ofName?_name (v : Verb) : ofName? v.name = some v := by
  cases v <;> decide

end Command

end PromptRules
