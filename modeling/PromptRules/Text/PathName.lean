import PromptRules.Text.Pieces

/-!
# Path names

Paths of files in writing: names with slashes between them, perhaps after a root. Empty
names and single points say nothing and are dropped; a path of nothing else is a point.
-/

namespace PromptRules.Text

/-- A path of a file. -/
structure PathName where
  /-- The slashes that a path from the root starts with. -/
  root : String
  parts : List String
deriving DecidableEq, Repr

namespace PathName

/-- The root of a path: two slashes are a root of their own, any other number is one. -/
def rootOf (cs : List Char) : String :=
  match (cs.takeWhile (· = '/')).length with
  | 0 => ""
  | 2 => "//"
  | _ => "/"

/-- A path from its text. -/
def ofString (s : String) : PathName where
  root := rootOf s.toList
  parts := ((pieces '/' s.toList).map String.ofList).filter fun p => p != "" && p != "."

/-- The text of a path. -/
def text (p : PathName) : String :=
  match p.root ++ "/".intercalate p.parts with
  | "" => "."
  | s => s

/-- The last name. -/
def name (p : PathName) : String := p.parts.getLast?.getD ""

/-- The end of the last name from its last point on; a point that is its first or last
    character does not count. -/
def suffix (p : PathName) : String :=
  let cs := p.name.toList
  match (pieces '.' cs).reverse with
  | ending :: before :: rest =>
    if ending.isEmpty || (before.isEmpty && rest.isEmpty) then "" else String.ofList ('.' :: ending)
  | _ => ""

end PathName

end PromptRules.Text
