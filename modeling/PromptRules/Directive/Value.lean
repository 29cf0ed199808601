/-!
# Directive values

What a directive can say: a text, a list of texts, an integer, its mere presence, or a
window of message counts.

Results:
* `Window.contains_iff`: a window holds the counts between its ends.
* `Window.contains_of_reversed`: a window that ends before it starts holds none.
-/

namespace PromptRules.Directive

/-- How the value of a directive is read. -/
inductive Kind where
  | text | list | int | flag | range
deriving DecidableEq, Repr

/-- The name of a kind. -/
def Kind.name : Kind → String
  | .text => "text"
  | .list => "list"
  | .int => "int"
  | .flag => "flag"
  | .range => "range"

/-- The message counts from `first` on, up to `last` if there is one, both included. -/
structure Window where
  first : Int
  last : Option Int := none
deriving DecidableEq, Repr

/-- Whether a message count lies in the window. -/
def Window.contains (w : Window) (count : Int) : Bool :=
  w.first ≤ count && w.last.all (count ≤ ·)

/-- The window in writing: `first-last`, or `first-` when it is open. -/
def Window.text (w : Window) : String :=
  toString w.first ++ "-" ++ (match w.last with | some n => toString n | none => "")

/-- What one directive says. -/
inductive Value where
  | text (s : String)
  | list (items : List String)
  | int (n : Int)
  | flag
  | range (w : Window)
deriving DecidableEq, Repr

theorem Window.contains_iff {w : Window} {count : Int} :
    w.contains count = true ↔ w.first ≤ count ∧ ∀ n ∈ w.last, count ≤ n := by
  cases h : w.last <;> simp [contains, h]

theorem Window.contains_of_reversed {w : Window} {n : Int} (hl : w.last = some n)
    (h : n < w.first) (count : Int) : w.contains count = false := by
  simp only [contains, hl, Option.all_some, Bool.and_eq_false_iff, decide_eq_false_iff_not]
  omega

end PromptRules.Directive
