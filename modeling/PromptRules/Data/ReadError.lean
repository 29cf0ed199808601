import PromptRules.Data.Moment
import PromptRules.Decimal.Whole
import PromptRules.Text.Quoted

/-!
# Unreadable texts

Why a text does not hold a value in its format: it breaks the rules of the format, its
containers are nested too deep, or a scalar in it does not write a value of its kind.
-/

namespace PromptRules.Data

open Text

/-- Why a text holds no value. -/
inductive ReadError where
  | malformed
  | tooDeep
  | tooManyDigits (e : Decimal.TooManyDigits)
  /-- A text that is no integer in a base. -/
  | notInteger (base : Nat) (text : String)
  /-- A text that is no double. -/
  | notDouble (text : String)
  /-- A numeral without a digit. -/
  | noDigits
  /-- A word that is no truth value. -/
  | notFlag
  /-- A text that has not the form of a moment. -/
  | notMoment
  /-- A moment that there is not. -/
  | noMoment (fault : Moment.Fault)
  /-- The number of a character beyond the last one. -/
  | noCharacter
  /-- A number beyond all doubles. -/
  | tooLarge
deriving DecidableEq, Repr

/-- The wording of a read error. -/
def ReadError.message : ReadError → String
  | .malformed => "the text breaks the rules of its format"
  | .tooDeep => "the containers are nested too deep"
  | .tooManyDigits e => e.message
  | .notInteger base text =>
    "invalid literal for int() with base " ++ toString base ++ ": " ++ quoted text
  | .notDouble text => "could not convert string to float: " ++ quoted text
  | .noDigits => "a numeral has no digits"
  | .notFlag => "a word is no truth value"
  | .notMoment => "a text is no moment"
  | .noMoment fault => fault.message
  | .noCharacter => "chr() arg not in range(0x110000)"
  | .tooLarge => "a number is too large"

end PromptRules.Data
