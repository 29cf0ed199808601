import PromptRules.Data.Assoc
import PromptRules.Text.Blank

/-!
# Environment files

A file of variables, one `NAME=value` a line, perhaps after `export`. A value may stand in
quotes, where backslashes escape; any other ends before a comment, which starts after a blank.
`${NAME}` in a value stands for another variable, with `${NAME:-default}` for one that may be
missing. Lines that break these rules are passed over.

Results:
* `expand_plain`: a value without a dollar sign stands for itself.
-/

namespace PromptRules.Settings.EnvFile

open Data Text

/-- A blank inside a line. -/
def isLineBlank (c : Char) : Bool := isBlank c && c != '\n' && c != '\r'

/-- A line end. -/
def isLineEnd (c : Char) : Bool := c == '\n' || c == '\r'

/-- Drops the blanks of a line in front. -/
def dropBlanks (cs : List Char) : List Char := cs.dropWhile isLineBlank

/-- Drops a comment in front. -/
def dropComment (cs : List Char) : List Char :=
  match dropBlanks cs with
  | '#' :: rest => rest.dropWhile (!isLineEnd ·)
  | _ => cs

/-- What follows the end of a line, if nothing but blanks is left on it. -/
def afterLine? (cs : List Char) : Option (List Char) :=
  match dropBlanks cs with
  | [] => some []
  | '\r' :: '\n' :: rest => some rest
  | '\r' :: rest => some rest
  | '\n' :: rest => some rest
  | _ => none

/-- What follows a line that is passed over. -/
def passLine (cs : List Char) : List Char := (cs.dropWhile (!isLineEnd ·)).drop 1

/-! ## Names and values -/

/-- A character of a name without quotes. -/
def isNameChar (c : Char) : Bool := c != '=' && c != '#' && !isBlank c

/-- Drops `export` and the blanks after it. -/
def dropExport (cs : List Char) : List Char :=
  if cs.take 6 = "export".toList ∧ (cs.drop 6).head?.any isLineBlank then dropBlanks (cs.drop 6)
  else cs

/-- A name and what follows it: in single quotes, or up to a blank, an equals sign or a
    comment. The name of a comment line is missing. -/
def name? (cs : List Char) : Option (Option String × List Char) :=
  match cs with
  | '#' :: _ => some (none, cs)
  | '\'' :: rest =>
    match rest.takeWhile (· ≠ '\''), rest.dropWhile (· ≠ '\'') with
    | c :: name, _ :: after => some (some (String.ofList (c :: name)), after)
    | _, _ => none
  | _ =>
    match cs.takeWhile isNameChar with
    | [] => none
    | name => some (some (String.ofList name), cs.dropWhile isNameChar)

/-- A text in quotes, after the opening one: up to the closing quote, and what follows it. A
    backslash takes the character after it along. -/
def inQuotes (quote : Char) : List Char → Option (List Char × List Char)
  | [] => none
  | '\\' :: c :: cs => (inQuotes quote cs).map fun r => ('\\' :: c :: r.1, r.2)
  | c :: cs =>
    if c = quote then some ([], cs) else (inQuotes quote cs).map fun r => (c :: r.1, r.2)

/-- The character that a letter after a backslash stands for. -/
def escaped? (quote c : Char) : Option Char :=
  if c = '\\' ∨ c = '\'' then some c
  else if quote = '\'' then none
  else
    match c with
    | '"' => some '"'
    | 'a' => some '\x07'
    | 'b' => some '\x08'
    | 'f' => some '\x0c'
    | 'n' => some '\n'
    | 'r' => some '\r'
    | 't' => some '\t'
    | 'v' => some '\x0b'
    | _ => none

/-- A text with its escapes replaced; a backslash before any other character stays. -/
def unescape (quote : Char) : List Char → List Char
  | '\\' :: c :: cs =>
    match escaped? quote c with
    | some e => e :: unescape quote cs
    | none => '\\' :: unescape quote (c :: cs)
  | c :: cs => c :: unescape quote cs
  | [] => []

/-- A value up to a comment: a number sign after a blank. -/
def beforeComment : List Char → List Char
  | [] => []
  | c :: cs =>
    if isBlank c && ((c :: cs).dropWhile isBlank).head? = some '#' then []
    else c :: beforeComment cs

/-- A value after its equals sign, and what follows it. -/
def value? (cs : List Char) : Option (String × List Char) :=
  match dropBlanks cs with
  | '\'' :: rest => (inQuotes '\'' rest).map fun v => (String.ofList (unescape '\'' v.1), v.2)
  | '"' :: rest => (inQuotes '"' rest).map fun v => (String.ofList (unescape '"' v.1), v.2)
  | _ =>
    some (String.ofList (trimEnd (dropBlanks (beforeComment (cs.takeWhile (!isLineEnd ·))))),
      cs.dropWhile (!isLineEnd ·))

/-- The value after an equals sign, if there is one. -/
def optionalValue? (cs : List Char) : Option (Option String × List Char) :=
  match dropBlanks cs with
  | '=' :: rest => (value? rest).map fun v => (some v.1, v.2)
  | rest => some (none, rest)

/-- One line: name and value if it has them, and what follows the line. -/
def line? (cs : List Char) : Option (Option (String × Option String) × List Char) := do
  let (name, rest) ← name? (dropExport cs)
  let (value, rest) ← optionalValue? rest
  return (name.map (·, value), ← afterLine? (dropComment rest))

/-- How far a line gets before it breaks the rules. -/
def brokenAt (cs : List Char) : List Char :=
  let start := dropExport cs
  match name? start with
  | none => start
  | some (_, rest) =>
    match optionalValue? rest with
    | some (_, rest) => dropComment rest
    | none =>
      match dropBlanks rest with
      | '=' :: rest => dropBlanks rest
      | rest => rest

/-- The variables of a file, in order, with their values if they have one. -/
def parseFrom : (fuel : Nat) → List Char → List (String × Option String)
  | 0, _ => []
  | fuel + 1, cs =>
    match trimStart cs with
    | [] => []
    | cs =>
      match line? cs with
      | some (some found, rest) => found :: parseFrom fuel rest
      | some (none, rest) => parseFrom fuel rest
      | none => parseFrom fuel (passLine (brokenAt cs))

/-- A text without the mark of its byte order in front. -/
def dropMark (cs : List Char) : List Char :=
  if cs.head? = some '\ufeff' then cs.tail else cs

/-- The variables of a file, in order, with their values if they have one. -/
def parse (s : String) : List (String × Option String) :=
  parseFrom (s.length + 1) (dropMark s.toList)

/-! ## References -/

/-- A reference after its dollar sign: name, default, and what follows. -/
def reference? (cs : List Char) : Option (String × Option String × List Char) :=
  match cs with
  | '\x7b' :: cs =>
    let name := String.ofList (cs.takeWhile fun c => c ≠ '\x7d' && c ≠ ':')
    match cs.dropWhile fun c => c ≠ '\x7d' && c ≠ ':' with
    | '\x7d' :: rest => some (name, none, rest)
    | ':' :: '-' :: rest =>
      match rest.dropWhile (· ≠ '\x7d') with
      | _ :: after => some (name, some (String.ofList (rest.takeWhile (· ≠ '\x7d'))), after)
      | [] => none
    | _ => none
  | _ => none

/-- A value with its references replaced. -/
def expandFrom (lookUp : String → Option String) : (fuel : Nat) → List Char → List Char
  | 0, cs => cs
  | _, [] => []
  | fuel + 1, c :: cs =>
    match (if c = '$' then reference? cs else none) with
    | some (name, default, rest) =>
      ((lookUp name).getD (default.getD "")).toList ++ expandFrom lookUp fuel rest
    | none => c :: expandFrom lookUp fuel cs

/-- A value with its references replaced. -/
def expand (lookUp : String → Option String) (s : String) : String :=
  String.ofList (expandFrom lookUp s.length s.toList)

/-- What a name stands for: a variable of the file before one of the environment. A variable
    of the file without a value stands for nothing. -/
def known (environment : List (String × String)) (read : List (String × Option String))
    (name : String) : Option String :=
  match Assoc.get? read name with
  | some value => some (value.getD "")
  | none => Assoc.get? environment name

/-- The variables of a file after its references were replaced. -/
def read (environment : List (String × String)) (s : String) : List (String × Option String) :=
  (parse s).foldl (fun done e =>
    Assoc.put done e.1 (e.2.map (expand (known environment done)))) []

theorem expandFrom_plain {lookUp : String → Option String} {fuel : Nat} {cs : List Char}
    (h : '$' ∉ cs) : expandFrom lookUp fuel cs = cs := by
  induction fuel generalizing cs with
  | zero => rfl
  | succ fuel ih =>
    cases cs with
    | nil => rfl
    | cons c cs =>
      rw [List.mem_cons, not_or] at h
      simp [expandFrom, Ne.symm h.1, ih h.2]

theorem expand_plain {lookUp : String → Option String} {s : String} (h : '$' ∉ s.toList) :
    expand lookUp s = s := by
  simp [expand, expandFrom_plain h]

end PromptRules.Settings.EnvFile
