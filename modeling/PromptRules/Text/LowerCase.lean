import PromptRules.Text.CaseTable
import PromptRules.Text.CodeRange

/-!
# Lower case

The full lower case mapping: ASCII letters and the runs of the case table map one to one,
dotted capital I becomes an `i` with a combining dot, and capital sigma becomes the final
form `ς` at the end of a word and `σ` elsewhere.
-/

namespace PromptRules.Text

open Case

/-- Capital sigma, whose lower case form depends on its neighbours. -/
def capitalSigma : Char := 'Σ'

/-- The lower case of one character outside every context. -/
def lowerChar (c : Char) : List Char :=
  if c.toNat < 0x80 then [c.toLower]
  else if c.toNat = 0x130 then ['i', '\u0307']
  else
    match runs.find? fun r => r.low ≤ c.toNat && c.toNat ≤ r.high
        && (c.toNat - r.low) % r.step == 0 with
    | some r => [Char.ofNat ((c.toNat : Int) + r.delta).toNat]
    | none => [c]

/-- Whether the nearest character that is not case-ignorable is cased. -/
def casedNext (cs : List Char) : Bool :=
  match cs.dropWhile (covers ignorable) with
  | [] => false
  | c :: _ => covers cased c

/-- A capital sigma is final when a cased character precedes it and none follows,
    case-ignorable characters not counted. `before` is read backwards. -/
def lowerSigma (before after : List Char) : Char :=
  if casedNext before && !casedNext after then 'ς' else 'σ'

/-- Lower case of `cs`, where `before` holds the characters already passed, last first. -/
def lowerFrom (before : List Char) : List Char → List Char
  | [] => []
  | c :: cs =>
    (if c = capitalSigma then [lowerSigma before cs] else lowerChar c)
      ++ lowerFrom (c :: before) cs

/-- The lower case of a text. -/
def lower (s : String) : String := String.ofList (lowerFrom [] s.toList)

end PromptRules.Text
