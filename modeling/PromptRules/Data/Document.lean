import PromptRules.Data.Node

/-!
# Documents

A value with the places in it that hold one and the same list or map. What is written at one
of these places is written at all of them. Each such link names a place and the earlier
place, or the one around it, whose value it shares.

Results:
* `settle_nil`, `home_nil`: without links there is nothing to share.
* `put_of_unlinked`: without links a write changes its place only.
-/

namespace PromptRules.Data

/-- A step from a list or a map into it. -/
inductive Step where
  | key (k : Key)
  | index (i : Nat)
deriving DecidableEq, Repr

/-- The way from a value to one inside of it. -/
abbrev Path := List Step

/-- A place, and the place whose value it shares. -/
abbrev Link := Path × Path

namespace Node

/-- The value at a place. -/
def at? : Path → Node → Option Node
  | [], t => some t
  | .key k :: p, map entries => (Assoc.get? entries k).bind (at? p)
  | .index i :: p, list items => items[i]?.bind (at? p)
  | _, _ => none

/-- A value with `v` at a place; nothing changes if there is no such place. -/
def setAt : Path → Node → Node → Node
  | [], v, _ => v
  | .key k :: p, v, map entries =>
    map (entries.map fun e => if e.1 = k then (e.1, setAt p v e.2) else e)
  | .index i :: p, v, list items => list (items.modify i (setAt p v))
  | _, _, t => t

end Node

/-- What is left of a path after another one that it begins with. -/
def Path.after? : (start : Path) → Path → Option Path
  | [], p => some p
  | s :: start, t :: p => if s = t then after? start p else none
  | _ :: _, [] => none

/-- A value with the places that share values. -/
structure Document where
  root : Node
  /-- The links, in the order of their places. -/
  links : List Link := []

namespace Document

/-- A place, or that whose value it shares. -/
def homeFrom (links : List Link) : (fuel : Nat) → Path → Path
  | 0, p => p
  | fuel + 1, p =>
    match links.findSome? fun l => (Path.after? l.1 p).map (l.2 ++ ·) with
    | some q => homeFrom links fuel q
    | none => p

/-- The place that holds the value of a place for all that share it. Every link on the way
    leads to an earlier place, or to a shorter one. -/
def home (links : List Link) (p : Path) : Path :=
  homeFrom links (links.length + p.length) p

/-- Whether a link leads to a value around its place. -/
def isLoop (l : Link) : Bool := (Path.after? l.2 l.1).isSome

/-- A value in which every place that shares another's value has that value. -/
def settle (links : List Link) (root : Node) : Node :=
  links.foldl (fun root l =>
    if isLoop l then root
    else
      match root.at? l.2 with
      | some v => Node.setAt l.1 v root
      | none => root) root

/-- Whether a link leads from or to a place inside another. -/
def touches (p : Path) (l : Link) : Bool :=
  (Path.after? p l.1).isSome || (Path.after? p l.2).isSome

/-- The entries of a document that is a map. -/
def fields (d : Document) : Fields :=
  match d.root with
  | .map entries => entries
  | _ => []

/-- The value at a place. -/
def at? (d : Document) (p : Path) : Option Node := d.root.at? p

/-- Writes the value at a place. -/
def put (p : Path) (v : Node) (d : Document) : Document :=
  { d with root := settle d.links (Node.setAt (home d.links p) v d.root) }

/-- Writes a field of the map at a place; what the field shared with others is theirs. -/
def putField (p : Path) (key : String) (v : Node) (d : Document) : Document :=
  match d.at? p with
  | some (.map entries) =>
    let place := home d.links p ++ [.key key]
    let d := { d with links := d.links.filter fun l => !touches place l }
    d.put p (.map (Assoc.put entries (.text key) v))
  | _ => d

/-- Adds an item at the end of the list at a place. -/
def append (p : Path) (v : Node) (d : Document) : Document :=
  match d.at? p with
  | some (.list items) => d.put p (.list (items ++ [v]))
  | _ => d

theorem settle_nil (root : Node) : settle [] root = root := rfl

theorem home_nil (p : Path) : home [] p = p := by
  unfold home
  cases h : ([] : List Link).length + p.length with
  | zero => rfl
  | succ n => rfl

theorem put_of_unlinked (p : Path) (v root : Node) :
    put p v { root := root } = { root := Node.setAt p v root } := by
  simp [put, settle_nil, home_nil]

end Document

end PromptRules.Data
