import PromptRules.Command.Start
import PromptRules.Data.Json.Writer
import Std.Time.Zoned

/-!
# The program

Reads the words of the command line, the environment and the file of the command, has the
command carried out, and prints, writes and records what it leads to.
-/

namespace PromptRules.Program

open Data Text
open Moment (padded)

/-! ## Reading -/

/-- What is found under a path. -/
def look (path : PathName) : IO FileContent := do
  if path.text.toList.contains '\x00' then return .unnameable
  try
    return .bytes (← IO.FS.readBinFile path.text)
  catch
    | .noFileOrDirectory .. => return .missing
    | .inappropriateType _ code _ => return if code = 20 then .beyondFile else .directory
    | .invalidArgument _ 36 _ => return .tooLong
    | e => throw e

/-- The variable that an entry of the environment writes. -/
def variableOf (entry : String) : String × String :=
  let cs := entry.toList
  (String.ofList (cs.takeWhile (· ≠ '=')), String.ofList ((cs.dropWhile (· ≠ '=')).drop 1))

/-- The variables of the environment. -/
def environment : IO (List (String × String)) := do
  try
    let bytes ← IO.FS.readBinFile "/proc/self/environ"
    let cs := ((String.fromUTF8? bytes).getD "").toList
    return (pieces '\x00' cs).map fun e => variableOf (String.ofList e)
  catch _ => return []

/-- Carries out a command; as long as its question has no answer it is asked again. Tells how
    many items were printed on the way. -/
partial def attend (command : Command) (shown : Nat) (w : Workplace) : IO (Nat × Result) := do
  let r := Command.run w command
  if r.unanswered then
    if shown = 0 then
      for line in (r.printed.take 1).flatMap Printed.lines do IO.println line
    IO.print "Enable it anyway? [y/N]: "
    (← IO.getStdout).flush
    let line ← (← IO.getStdin).getLine
    if line.isEmpty then return (1, r)
    attend command 1 { w with input := w.input ++ [line] }
  else return (shown, r)

/-! ## Writing -/

/-- A moment as the name of a session. -/
def sessionName (t : Std.Time.PlainDateTime) : String :=
  padded 4 t.year.toInt.toNat ++ padded 2 t.month.val.toNat ++ padded 2 t.day.val.toNat ++ "_"
    ++ padded 2 t.hour.val.toNat ++ padded 2 t.minute.val.toNat ++ padded 2 t.second.val.toNat

/-- A moment with date, time and millionths of a second. -/
def momentText (t : Std.Time.PlainDateTime) : String :=
  "-".intercalate [padded 4 t.year.toInt.toNat, padded 2 t.month.val.toNat,
      padded 2 t.day.val.toNat] ++ "T"
    ++ ":".intercalate [padded 2 t.hour.val.toNat, padded 2 t.minute.val.toNat,
      padded 2 t.second.val.toNat] ++ "." ++ padded 6 (t.nanosecond.val.toNat / 1000)

/-- Adds the lines of a journal to its file. -/
def record (place : PathName) (journal : Journal) (moment : String) : IO Unit := do
  match journal.session with
  | none => return
  | some session =>
    IO.FS.createDirAll place.text
    let file ← IO.FS.Handle.mk (place.text ++ "/" ++ Journal.fileName session) .append
    for line in journal.lines do
      file.putStrLn (Json.line (.map (Journal.stamped moment line)))

/-- Writes a preset to its file if that has another text. -/
def save (before : FileContent) (preset : PresetFile.Loaded) : IO Unit := do
  match before with
  | .bytes data =>
    if data.toList ≠ preset.text.toUTF8.toList then IO.FS.writeFile preset.path.text preset.text
  | _ => return

/-- The wording of a breakdown. -/
def breakdownText : Breakdown → String
  | .settings faults =>
    "The settings are wrong: " ++ ", ".intercalate (faults.map fun f => f.1 ++ ": " ++ f.2.name)
  | .notText => "A file is not text."
  | .tooManyDigits e => e.message
  | .noValue e => e.message
  | .shape fault => fault.message
  | .keyNotText => "A prompt has a key that is no text."
  | .unwritable => PresetFile.unwritableMessage
  | .journalIsFile => "The directory of the journals is a file."
  | .journalBeyondFile => "The path of the journals leads on from a file."
  | .journalTooLong => "The path of the journals is too long."
  | .unnameable => "A path holds a character that no name can hold."

/-- Prints what a command led to, and tells its status. -/
def finish (level : Level) (shown : Nat) (r : Result) : IO UInt32 := do
  for n in r.notes do
    if level.rank ≤ n.level.rank then IO.eprintln n.text
  for line in (r.printed.drop shown).flatMap Printed.lines do IO.println line
  if r.help then
    for verb in Command.Verb.all do IO.println verb.about
  if let some e := r.usage then IO.eprintln e.message
  if let some b := r.breakdown then IO.eprintln (breakdownText b)
  return UInt32.ofNat r.status

/-- Carries out a command with the settings. -/
def carryOut (settings : Settings) (command : Command) : IO UInt32 := do
  let content ← match command.file? with
    | some file => look (.ofString file)
    | none => pure .missing
  let journals ← if settings.journals then look settings.journalPath else pure .missing
  let now ← Std.Time.PlainDateTime.now
  let (shown, r) ← attend command 0
    { settings := settings, content := content, journals := journals, session := sessionName now }
  if let some preset := r.preset then save content preset
  record settings.journalPath r.journal (momentText now)
  finish settings.level shown r

end PromptRules.Program

open PromptRules in
/-- The command line. -/
def main (words : List String) : IO UInt32 := do
  match Command.start (← Program.environment) (← Program.look (.ofString ".env")) words with
  | .error r => Program.finish .info 0 r
  | .ok (settings, command) => Program.carryOut settings command
