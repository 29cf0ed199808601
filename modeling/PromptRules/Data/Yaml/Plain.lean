import PromptRules.Data.Yaml.Tag
import PromptRules.Text.Pieces

/-!
# Plain scalars

What kind of value an unquoted word of a YAML document stands for: null, a truth value, an
integer in base two, eight, ten, sixteen or sixty, a double, a moment, one of the special
keys, or the text that it is. A double needs a point, and its exponent a sign.

Results:
* `wordTag_of_null`, `wordTag_of_flag`: the words for null and the truth values are known.
-/

namespace PromptRules.Data.Yaml

open Text

/-- The words for null. -/
def nullWords : List String := ["", "~", "null", "Null", "NULL"]

/-- The words for truth values. -/
def flagWords : List String :=
  ["yes", "Yes", "YES", "true", "True", "TRUE", "on", "On", "ON",
   "no", "No", "NO", "false", "False", "FALSE", "off", "Off", "OFF"]

/-- The words for infinity. -/
def infinityWords : List String := [".inf", ".Inf", ".INF"]

/-- The words for what is no number. -/
def nanWords : List String := [".nan", ".NaN", ".NAN"]

/-- A text without a sign in front. -/
def dropSign : List Char → List Char
  | '-' :: cs | '+' :: cs => cs
  | cs => cs

/-! ## Integers -/

/-- A digit that a number may start with. -/
def isStart (c : Char) : Bool := '1' ≤ c && c ≤ '9'

/-- A digit or an underscore. -/
def isPlace (c : Char) : Bool := c.isDigit || c = '_'

/-- A hexadecimal digit. -/
def isHexDigit (c : Char) : Bool := c.isDigit || ('a' ≤ c && c ≤ 'f') || ('A' ≤ c && c ≤ 'F')

/-- Characters of a kind or underscores, at least one. -/
def isRun (p : Char → Bool) (cs : List Char) : Bool :=
  !cs.isEmpty && cs.all fun c => p c || c = '_'

/-- One of the lower places of a number in base sixty: one or two digits. -/
def isSixtieth : List Char → Bool
  | [c] => c.isDigit
  | [c, d] => '0' ≤ c && c ≤ '5' && d.isDigit
  | _ => false

/-- A run of digits and underscores that starts with a digit of a kind. -/
def isLeading (first : Char → Bool) (cs : List Char) : Bool :=
  cs.head?.any first && cs.all isPlace

/-- Whether a text without its sign is an integer. -/
def isNatural (cs : List Char) : Bool :=
  match cs with
  | ['0'] => true
  | '0' :: 'b' :: ds => isRun (fun c => c = '0' || c = '1') ds
  | '0' :: 'x' :: ds => isRun isHexDigit ds
  | '0' :: ds => isRun (fun c => '0' ≤ c && c ≤ '7') ds
  | _ =>
    match pieces ':' cs with
    | high :: low => isLeading isStart high && low.all isSixtieth
    | [] => false

/-! ## Doubles -/

/-- Whether what follows the digits of a double is nothing or an exponent with its sign. -/
def isExponent : List Char → Bool
  | [] => true
  | [_] => false
  | e :: s :: ds =>
    (e = 'e' || e = 'E') && (s = '-' || s = '+') && !ds.isEmpty && ds.all Char.isDigit

/-- Whether a text without its sign is a double that starts with a digit. -/
def isPointed (cs : List Char) : Bool :=
  match cs.head?, cs.dropWhile isPlace with
  | some c, '.' :: rest => c.isDigit && isExponent (rest.dropWhile isPlace)
  | _, _ => false

/-- The lowest place of a double in base sixty, with its point. -/
def isLastPlace (cs : List Char) : Bool :=
  match cs.dropWhile (· ≠ '.') with
  | '.' :: rest => isSixtieth (cs.takeWhile (· ≠ '.')) && rest.all isPlace
  | _ => false

/-- Whether a text without its sign is a double in base sixty. -/
def isSexagesimal (cs : List Char) : Bool :=
  match pieces ':' cs with
  | high :: low =>
    isLeading Char.isDigit high && low.dropLast.all isSixtieth && low.getLast?.any isLastPlace
  | [] => false

/-- Whether a text is a double. -/
def isDouble (cs : List Char) : Bool :=
  let ds := dropSign cs
  if String.ofList ds ∈ infinityWords || String.ofList cs ∈ nanWords then true
  else
    match cs with
    | '.' :: c :: rest => c.isDigit && isExponent (rest.dropWhile isPlace)
    | _ => isPointed ds || isSexagesimal ds

/-! ## Moments -/

/-- The digits in front, at most so many, and what follows them. -/
def digitsUpTo : (limit : Nat) → List Char → List Char × List Char
  | limit + 1, c :: cs =>
    if c.isDigit then
      let (ds, rest) := digitsUpTo limit cs
      (c :: ds, rest)
    else ([], c :: cs)
  | _, cs => ([], cs)

/-- The number that ASCII digits write. -/
def numberOf (ds : List Char) : Nat := ds.foldl (fun n c => 10 * n + (c.toNat - 0x30)) 0

/-- A number of some digits, and what follows it. -/
def number? (least most : Nat) (cs : List Char) : Option (Nat × List Char) :=
  let (ds, rest) := digitsUpTo most cs
  if ds.length < least then none else some (numberOf ds, rest)

/-- What follows a character, if the text starts with it. -/
def afterMark (mark : Char) : List Char → Option (List Char)
  | c :: cs => if c = mark then some cs else none
  | [] => none

/-- The digits of a moment's parts. The clock's distance is its sign, hours and minutes. -/
structure MomentParts where
  year : Nat
  month : Nat
  day : Nat
  time : Option (Nat × Nat × Nat) := none
  fraction : List Char := []
  distance : Option (Bool × Nat × Nat) := none
  /-- Whether month and day are written with two digits. -/
  isEven : Bool

/-- A clock's distance from universal time, which must end the text. -/
def distanceParts (cs : List Char) : Option (Option (Bool × Nat × Nat)) :=
  match cs.dropWhile (fun c => c = ' ' || c = '\t') with
  | [] => if cs.isEmpty then some none else none
  | ['Z'] => some (some (false, 0, 0))
  | s :: cs =>
    if s = '-' || s = '+' then do
      let (hour, rest) ← number? 1 2 cs
      match rest with
      | [] => return some (s = '-', hour, 0)
      | _ =>
        let (minute, rest) ← number? 2 2 (← afterMark ':' rest)
        if rest.isEmpty then return some (s = '-', hour, minute) else none
    else none

/-- The gap between a day and its time: a letter, or blanks. -/
def afterDay (cs : List Char) : Option (List Char) :=
  match cs with
  | 'T' :: rest | 't' :: rest => some rest
  | c :: _ =>
    if c = ' ' || c = '\t' then some (cs.dropWhile fun c => c = ' ' || c = '\t') else none
  | [] => none

/-- A moment as its parts. -/
def momentParts? (cs : List Char) : Option MomentParts := do
  let (year, rest) ← number? 4 4 cs
  let monthText ← afterMark '-' rest
  let (month, rest) ← number? 1 2 monthText
  let dayText ← afterMark '-' rest
  let (day, rest) ← number? 1 2 dayText
  let isEven := (digitsUpTo 2 monthText).1.length = 2 && (digitsUpTo 2 dayText).1.length = 2
  if rest.isEmpty then return { year := year, month := month, day := day, isEven := isEven }
  else
    let (hour, rest) ← number? 1 2 (← afterDay rest)
    let (minute, rest) ← number? 2 2 (← afterMark ':' rest)
    let (second, rest) ← number? 2 2 (← afterMark ':' rest)
    let (fraction, rest) :=
      match rest with
      | '.' :: rest => (rest.takeWhile Char.isDigit, rest.dropWhile Char.isDigit)
      | _ => ([], rest)
    return { year := year, month := month, day := day, time := some (hour, minute, second)
             fraction := fraction, distance := ← distanceParts rest, isEven := isEven }

/-- Whether a word is a moment: a day alone has two digits each for month and day. -/
def isMoment (cs : List Char) : Bool :=
  (momentParts? cs).any fun m => m.isEven || m.time.isSome

/-! ## Words -/

/-- A text without the line end after it. -/
def dropLineEnd (cs : List Char) : List Char :=
  if cs.getLast? = some '\n' then cs.dropLast else cs

/-- The kind of value that a word without a line end stands for. -/
def lineTag (s : String) : Tag :=
  let cs := s.toList
  if s ∈ nullWords then .null
  else if s ∈ flagWords then .bool
  else if s = "<<" then .merge
  else if s = "=" then .value
  else if s ∈ ["!", "&", "*"] then .other
  else if isDouble cs then .float
  else if isNatural (dropSign cs) then .int
  else if isMoment cs then .moment
  else .text

/-- The kind of value that an unquoted word stands for. A line end after it does not count,
    but one alone is a text. -/
def wordTag (s : String) : Tag :=
  if s = "\n" then .text else lineTag (String.ofList (dropLineEnd s.toList))

theorem lineTag_of_null {s : String} (h : s ∈ nullWords) : lineTag s = .null := by
  simp [lineTag, h]

theorem lineTag_of_flag {s : String} (h : s ∈ flagWords) : lineTag s = .bool := by
  have hn : s ∉ nullWords := by
    intro hn
    have : ∀ t ∈ flagWords, t ∉ nullWords := by decide
    exact this s h hn
  simp [lineTag, h, hn]

theorem wordTag_of_null {s : String} (h : s ∈ nullWords) : wordTag s = .null := by
  have : ∀ t ∈ nullWords, t ≠ "\n" ∧ String.ofList (dropLineEnd t.toList) = t := by
    decide
  simp [wordTag, (this s h).1, (this s h).2, lineTag_of_null h]

theorem wordTag_of_flag {s : String} (h : s ∈ flagWords) : wordTag s = .bool := by
  have : ∀ t ∈ flagWords, t ≠ "\n" ∧ String.ofList (dropLineEnd t.toList) = t := by
    decide
  simp [wordTag, (this s h).1, (this s h).2, lineTag_of_flag h]

end PromptRules.Data.Yaml
