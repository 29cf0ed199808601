import PromptRules.Command.Run

/-!
# From words to commands

What happens before a command is carried out. First the command must be known, then the
settings are read, and only then the words after the command. So faulty settings stop every
command, but an unknown command is refused whatever the settings say.
-/

namespace PromptRules.Command

open Data

/-- What an environment file holds; one that is not there, or no file, holds nothing. -/
def envFileOf (environment : List (String × String)) (content : FileContent) :
    Except Breakdown (List (String × Option String)) :=
  match content with
  | .bytes data =>
    match String.fromUTF8? data with
    | some text => .ok (Settings.EnvFile.read environment (unified text))
    | none => .error .notText
  | _ => .ok []

/-- The settings from the variables of the environment and of an environment file. -/
def settingsOf (environment : List (String × String)) (envFile : FileContent) :
    Except Breakdown Settings := do
  (Settings.read environment (← envFileOf environment envFile)).mapError .settings

/-- The settings and the command that a command line asks for, or how it ends before. -/
def start (environment : List (String × String)) (envFile : FileContent) (words : List String) :
    Except Result (Settings × Command) :=
  match verbOf words with
  | .error e => .error (refused e)
  | .ok none => .error helped
  | .ok (some (verb, rest)) =>
    match settingsOf environment envFile with
    | .error b => .error (broken b)
    | .ok settings =>
      match verb.read rest with
      | .error e => .error (refused e)
      | .ok none => .error helped
      | .ok (some command) => .ok (settings, command)

end PromptRules.Command
