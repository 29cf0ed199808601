import PromptRules.Data.Coerce

/-!
# Words of a command line

Splits the words after a command into operands and options. An option has a long form and
perhaps a short one, and may take a value: `--count 5`, `--count=5`, `-n 5` or `-n5`. Short
forms can be joined. After `--` all words are operands, and so is a single `-`.

Results:
* `scan_operands`: words without a hyphen in front are operands, in order.
-/

namespace PromptRules.Command

open Data

/-- Why a command line cannot be carried out. -/
inductive UsageError where
  | noCommand
  | unknownCommand (word : String)
  | unknownOption (word : String)
  | valueMissing (word : String)
  | valueNotTaken (word : String)
  | operandMissing
  | operandLeft (word : String)
  | optionMissing (word : String)
  | notNumber (word : String)
  | belowZero (word : String)
  | noFile (path : String)
deriving DecidableEq, Repr

/-- The wording of a usage error. -/
def UsageError.message : UsageError → String
  | .noCommand => "A command is missing."
  | .unknownCommand word => s!"There is no command {word}."
  | .unknownOption word => s!"There is no option {word}."
  | .valueMissing word => s!"The option {word} needs a value."
  | .valueNotTaken word => s!"The option {word} takes no value."
  | .operandMissing => "An argument is missing."
  | .operandLeft word => s!"The argument {word} is not expected."
  | .optionMissing word => s!"The option {word} is needed."
  | .notNumber word => s!"{word} is not a whole number."
  | .belowZero word => s!"{word} is below zero."
  | .noFile path => s!"There is no file {path}."

/-- What can be chosen. -/
inductive Choice where
  | help | character | yes | count | apply
deriving DecidableEq, Repr

namespace Choice

/-- The long form of a choice. -/
def long : Choice → String
  | .help => "--help"
  | .character => "--character"
  | .yes => "--yes"
  | .count => "--count"
  | .apply => "--apply"

/-- The letter of the short form, if there is one. -/
def letter? : Choice → Option Char
  | .character => some 'c'
  | .yes => some 'y'
  | .count => some 'n'
  | _ => none

/-- Whether a choice takes a value. -/
def takesValue : Choice → Bool
  | .character | .count => true
  | _ => false

end Choice

/-- The words of a command line, sorted. -/
structure Words where
  operands : List String := []
  /-- The choices in order, with their values if they take one. -/
  chosen : List (Choice × Option String) := []
deriving DecidableEq, Repr

namespace Words

/-- Puts an operand in front. -/
def operand (word : String) (w : Words) : Words := { w with operands := word :: w.operands }

/-- Puts choices in front. -/
def choose (cs : List (Choice × Option String)) (w : Words) : Words :=
  { w with chosen := cs ++ w.chosen }

/-- Whether something was chosen. -/
def has (c : Choice) (w : Words) : Bool := w.chosen.any (·.1 = c)

/-- The value that was given last for a choice. -/
def value? (c : Choice) (w : Words) : Option String := (w.chosen.reverse.lookup c).join

end Words

/-- What one word chooses: all of it, or with a last choice whose value is the next word. -/
structure Marked where
  chosen : List (Choice × Option String) := []
  open? : Option Choice := none

/-- The value after an equals sign, and what stands before it. -/
def splitEquals (cs : List Char) : List Char × Option (List Char) :=
  match cs.dropWhile (· ≠ '=') with
  | _ :: value => (cs.takeWhile (· ≠ '='), some value)
  | [] => (cs, none)

/-- What joined letters choose, after their hyphen. What follows a letter that takes a value
    is its value. -/
def letters (known : List Choice) : List Char → Except UsageError Marked
  | [] => .ok {}
  | c :: cs =>
    match known.find? (·.letter? = some c) with
    | none => .error (.unknownOption (String.ofList ['-', c]))
    | some choice =>
      if choice.takesValue then
        .ok <| if cs = [] then { open? := some choice }
          else { chosen := [(choice, some (String.ofList cs))] }
      else (letters known cs).map fun m => { m with chosen := (choice, none) :: m.chosen }

/-- What a word with a hyphen in front chooses. -/
def marked (known : List Choice) (word : String) : Except UsageError Marked :=
  let (name, value) := splitEquals word.toList
  match known.find? (·.long = String.ofList name), value with
  | some choice, some value =>
    if choice.takesValue then .ok { chosen := [(choice, some (String.ofList value))] }
    else .error (.valueNotTaken word)
  | some choice, none =>
    .ok <| if choice.takesValue then { open? := some choice } else { chosen := [(choice, none)] }
  | none, _ =>
    if word.toList.take 2 = ['-', '-'] then .error (.unknownOption word)
    else letters known (word.toList.drop 1)

/-- Whether a word has a hyphen in front of something. -/
def isMarked (word : String) : Bool := word.toList.head? = some '-' && word.toList ≠ ['-']

/-- Sorts words. If `mixed`, options may follow operands, else the first operand ends them. -/
def scan (known : List Choice) (mixed : Bool) : List String → Except UsageError Words
  | [] => .ok {}
  | word :: rest =>
    if word = "--" then .ok { operands := rest }
    else if isMarked word then
      match marked known word with
      | .error e => .error e
      | .ok m =>
        match m.open? with
        | none => (scan known mixed rest).map (·.choose m.chosen)
        | some choice =>
          match rest with
          | value :: rest =>
            (scan known mixed rest).map (·.choose (m.chosen ++ [(choice, some value)]))
          | [] => .error (.valueMissing choice.long)
    else if mixed then (scan known mixed rest).map (·.operand word)
    else .ok { operands := word :: rest }

/-! ## Numbers -/

/-- The whole number that a word writes. -/
def whole (word : String) : Except UsageError Int :=
  (numeral word).mapError fun _ => .notNumber word

theorem scan_operands {known : List Choice} {words : List String}
    (h : ∀ w ∈ words, isMarked w = false) : scan known true words = .ok { operands := words } := by
  induction words with
  | nil => rfl
  | cons w ws ih =>
    have hw : w ≠ "--" := by
      intro e
      have := h w (by simp)
      rw [e] at this
      exact absurd this (by decide)
    simp [scan, hw, h w (by simp), ih fun v hv => h v (by simp [hv]), Words.operand, Except.map]

end PromptRules.Command
