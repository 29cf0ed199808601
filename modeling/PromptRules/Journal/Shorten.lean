import PromptRules.Data.Tree

/-!
# Shortening

Values are shortened before they enter a journal: long texts, long lists and large maps are
cut and say how much was left out, and what lies too deep is replaced as a whole.

Results:
* `shortText_of_short`: a text that is not too long is kept.
* `shorten_of_deep`: nothing below the deepest level is kept.
-/

namespace PromptRules.Journal

open Data

/-- The longest text that is kept whole. -/
def maxText : Nat := 200

/-- The longest list that is kept whole. -/
def maxItems : Nat := 10

/-- The largest map that is kept whole. -/
def maxEntries : Nat := 20

/-- The deepest level that is kept. -/
def maxDepth : Int := 3

/-- A text with a long tail cut off. -/
def shortText (s : String) : String :=
  if s.length ≤ maxText then s
  else
    let count := s.length
    String.ofList (s.toList.take maxText) ++ s!"... ({count} chars)"

/-- The note at the end of a list that was cut. -/
def itemsLeftOut (count : Nat) : List Tree :=
  if count ≤ maxItems then []
  else
    let rest := count - maxItems
    [.text s!"... +{rest} more"]

/-- Adds to the entries that are kept how many of `count` were left out. -/
def noteLeftOut (count : Nat) (kept : Record) : Record :=
  if count ≤ maxEntries then kept
  else
    let rest := count - maxEntries
    Assoc.put kept "_truncated" (.text s!"+{rest} keys")

mutual

/-- A value at a depth, shortened. -/
def shorten (depth : Int) (t : Tree) : Tree :=
  if maxDepth < depth then .text "<nested>"
  else
    match t with
    | .text s => .text (shortText s)
    | .list items =>
      .list (shortenItems maxItems (depth + 1) items ++ itemsLeftOut items.length)
    | .map entries =>
      .map (noteLeftOut entries.length (shortenEntries maxEntries (depth + 1) entries))
    | t => t

/-- The first `room` items of a list, shortened. -/
def shortenItems (room : Nat) (depth : Int) : List Tree → List Tree
  | [] => []
  | t :: ts =>
    match room with
    | 0 => []
    | room + 1 => shorten depth t :: shortenItems room depth ts

/-- The first `room` entries of a map, shortened. -/
def shortenEntries (room : Nat) (depth : Int) : Record → Record
  | [] => []
  | (key, t) :: es =>
    match room with
    | 0 => []
    | room + 1 => (key, shorten depth t) :: shortenEntries room depth es

end

/-- A record on the top level, shortened. -/
def shortRecord (r : Record) : Record := noteLeftOut r.length (shortenEntries maxEntries 1 r)

/-- The text of something that is no value of a tree: its first characters, without a note. -/
def shownText (s : String) : Tree := .text (String.ofList (s.toList.take maxText))

theorem shortText_of_short {s : String} (h : s.length ≤ maxText) : shortText s = s := by
  simp [shortText, h]

theorem shorten_of_deep {depth : Int} (h : maxDepth < depth) (t : Tree) :
    shorten depth t = .text "<nested>" := by
  unfold shorten
  simp [h]

end PromptRules.Journal
