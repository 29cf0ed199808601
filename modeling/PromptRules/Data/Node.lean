import PromptRules.Data.Moment
import PromptRules.Data.Tree
import PromptRules.Decimal.Layout
import PromptRules.Decimal.Whole
import PromptRules.Text.Quoted

/-!
# Nodes

The values of a preset file: scalars, lists, and maps in the order of their entries. Beyond
data trees there are moments, bytes, sets, pairs, and keys that are no texts. A truth value
counts as the number 0 or 1 and a whole double as its integer wherever values are compared.

Results:
* `same_text`: a text equals only the same text.
* `toTree_ofTree`: a tree is the tree of its node.
-/

namespace PromptRules.Data

open Decimal Text

/-- A key of a map or a member of a set. -/
inductive Key where
  | null
  | bool (b : Bool)
  | int (n : Int)
  /-- A double by its bits. -/
  | float (bits : UInt64)
  | text (s : String)
  | moment (m : Moment)
  | bytes (data : List UInt8)
deriving DecidableEq, Repr

instance : Coe String Key := ⟨Key.text⟩

/-- A value of a preset file. -/
inductive Node where
  | null
  | bool (b : Bool)
  | int (n : Int)
  | float (x : Float)
  | text (s : String)
  | moment (m : Moment)
  | bytes (data : List UInt8)
  | list (items : List Node)
  | map (entries : List (Key × Node))
  | set (members : List Key)
  | pair (first second : Node)
  /-- A list or a map that this value is itself inside of. -/
  | loop (isMap : Bool)
deriving Inhabited

/-- The entries of a map. -/
abbrev Fields := List (Key × Node)

/-- A key as a value. -/
def Key.node : Key → Node
  | .null => .null
  | .bool b => .bool b
  | .int n => .int n
  | .float bits => .float (Float.ofBits bits)
  | .text s => .text s
  | .moment m => .moment m
  | .bytes data => .bytes data

namespace Node

/-- A value as a key; no container can be one. -/
def key? : Node → Option Key
  | null => some .null
  | bool b => some (.bool b)
  | int n => some (.int n)
  | float x => some (.float x.toBits)
  | text s => some (.text s)
  | moment m => some (.moment m)
  | bytes data => some (.bytes data)
  | _ => none

/-- Whether a value is null. -/
def isNull : Node → Bool
  | null => true
  | _ => false

/-- Whether a value counts as true: all do but null, false, zeros and what is empty. -/
def isTrue : Node → Bool
  | null => false
  | bool b => b
  | int n => n != 0
  | float x => x != 0.0
  | text s => s != ""
  | bytes data => !data.isEmpty
  | list items => !items.isEmpty
  | map entries => !entries.isEmpty
  | set members => !members.isEmpty
  | moment _ | pair _ _ | loop _ => true

/-! ## Equality -/

/-- Scalars compared: numbers by value, truth values being 0 and 1. -/
def sameScalar : Node → Node → Bool
  | null, null => true
  | text s, text t => s == t
  | moment m, moment n => m.same n
  | bytes a, bytes b => a == b
  | bool a, bool b => a == b
  | bool a, int n => (if a then 1 else 0) == n
  | int n, bool a => (if a then 1 else 0) == n
  | int m, int n => m == n
  | float x, int n => (Binary.ofFloat x).isInt n
  | int n, float x => (Binary.ofFloat x).isInt n
  | float x, bool b => x == if b then 1.0 else 0.0
  | bool b, float x => x == if b then 1.0 else 0.0
  | float x, float y => x == y
  | _, _ => false

end Node

/-- Whether two keys are equal. -/
def Key.same (k l : Key) : Bool := k.node.sameScalar l.node

/-- The key of a map that equals a key, with its value. -/
def Fields.find? (entries : Fields) (k : Key) : Option (Key × Node) :=
  List.find? (fun e => e.1.same k) entries

namespace Node

mutual

/-- Whether two values are equal: numbers by value, lists item by item, maps and sets
    without regard to order. -/
def same : Node → Node → Bool
  | list xs, list ys => sameItems xs ys
  | map es, map fs => es.length == fs.length && sameEntries es fs
  | set ks, set ls => ks.length == ls.length && ks.all fun k => ls.any k.same
  | pair a b, pair c d => same a c && same b d
  | s, t => sameScalar s t

/-- Equality of lists, item by item. -/
def sameItems : List Node → List Node → Bool
  | [], [] => true
  | x :: xs, y :: ys => same x y && sameItems xs ys
  | _, _ => false

/-- Whether every entry of the first map is in the second. -/
def sameEntries : Fields → Fields → Bool
  | [], _ => true
  | (key, value) :: es, fs =>
    (match Fields.find? fs key with
     | some other => same value other.2
     | none => false) && sameEntries es fs

end

/-! ## In messages -/

/-- One byte between `quote`s. -/
def byteLiteral (quote : Char) (b : UInt8) : List Char :=
  let c := Char.ofNat b.toNat
  if b < 0x80 then escapeChar quote c else '\\' :: 'x' :: hexDigits 2 b.toNat

/-- Bytes as messages show them. -/
def bytesLiteral (data : List UInt8) : String :=
  let quote := quoteFor (data.map fun b => Char.ofNat b.toNat)
  String.ofList ('b' :: quote :: data.flatMap (byteLiteral quote) ++ [quote])

/-- A scalar as messages show it. -/
def scalarLiteral : Node → String
  | null => "None"
  | bool b => if b then "True" else "False"
  | int n => toString n
  | float x => exact.write x
  | text s => quoted s
  | moment m => m.literal
  | bytes data => bytesLiteral data
  | _ => ""

/-- A list of parts between brackets. -/
def enclosed (opening closing : String) (parts : List String) : String :=
  opening ++ ", ".intercalate parts ++ closing

mutual

/-- A value as messages show it: texts quoted, lists in brackets, maps in braces. -/
def literal : Node → String
  | list items => enclosed "[" "]" (literalItems items)
  | map entries => enclosed "\x7b" "\x7d" (literalEntries entries)
  | set [] => "set()"
  | set members => enclosed "\x7b" "\x7d" (members.map fun k => k.node.scalarLiteral)
  | pair a b => enclosed "(" ")" [literal a, literal b]
  | loop isMap => if isMap then "\x7b...\x7d" else "[...]"
  | t => scalarLiteral t

/-- The items of a list as messages show them. -/
def literalItems : List Node → List String
  | [] => []
  | x :: xs => literal x :: literalItems xs

/-- The entries of a map as messages show them. -/
def literalEntries : Fields → List String
  | [] => []
  | (key, value) :: es => (key.node.scalarLiteral ++ ": " ++ literal value) :: literalEntries es

end

/-- A value as plain text: texts and moments as they are, everything else as its literal. -/
def display : Node → String
  | text s => s
  | moment m => m.text
  | t => t.literal

mutual

/-- Whether all integers of a value are short enough to be written. -/
def isShort : Node → Bool
  | int n => n.natAbs < Nat.pow 10 maxDigits
  | list items => areShort items
  | map entries => areShortEntries entries
  | set members => members.all keyIsShort
  | pair a b => isShort a && isShort b
  | _ => true

/-- Whether all integers of some values are short enough to be written. -/
def areShort : List Node → Bool
  | [] => true
  | x :: xs => isShort x && areShort xs

/-- Whether all integers of some entries are short enough to be written. -/
def areShortEntries : Fields → Bool
  | [] => true
  | (key, value) :: es => keyIsShort key && isShort value && areShortEntries es

/-- Whether a key is no integer that is too long to be written. -/
def keyIsShort : Key → Bool
  | .int n => n.natAbs < Nat.pow 10 maxDigits
  | _ => true

end

/-! ## Trees -/

mutual

/-- A tree as a value. -/
def ofTree : Tree → Node
  | .null => null
  | .bool b => bool b
  | .int n => int n
  | .float x => float x
  | .text s => text s
  | .list items => list (ofTrees items)
  | .map entries => map (ofEntries entries)

/-- Trees as values. -/
def ofTrees : List Tree → List Node
  | [] => []
  | t :: ts => ofTree t :: ofTrees ts

/-- The entries of a tree as those of a map. -/
def ofEntries : Record → Fields
  | [] => []
  | (key, t) :: es => (.text key, ofTree t) :: ofEntries es

end

mutual

/-- A value as a tree; what a tree cannot hold is shown as text. -/
def toTree : Node → Tree
  | null => .null
  | bool b => .bool b
  | int n => .int n
  | float x => .float x
  | text s => .text s
  | list items => .list (toTrees items)
  | map entries => .map (toEntries entries)
  | pair a b => .list [toTree a, toTree b]
  | t => .text t.display

/-- Values as trees. -/
def toTrees : List Node → List Tree
  | [] => []
  | t :: ts => toTree t :: toTrees ts

/-- The entries of a map as those of a tree. -/
def toEntries : Fields → Record
  | [] => []
  | (key, t) :: es => (key.node.display, toTree t) :: toEntries es

end

mutual

theorem toTree_ofTree (t : Tree) : toTree (ofTree t) = t := by
  cases t with
  | list items => simp [ofTree, toTree, toTrees_ofTrees items]
  | map entries => simp [ofTree, toTree, toEntries_ofEntries entries]
  | _ => rfl

theorem toTrees_ofTrees (ts : List Tree) : toTrees (ofTrees ts) = ts := by
  cases ts with
  | nil => rfl
  | cons t ts => simp [ofTrees, toTrees, toTree_ofTree t, toTrees_ofTrees ts]

theorem toEntries_ofEntries (es : Record) : toEntries (ofEntries es) = es := by
  cases es with
  | nil => rfl
  | cons e es =>
    obtain ⟨key, t⟩ := e
    simp [ofEntries, toEntries, Key.node, display, toTree_ofTree t, toEntries_ofEntries es]

end

/-- What a value is to a typed field: scalars are themselves and bytes the text that they
    encode. All else fits no field, just like an empty list. -/
def asField : Node → Tree
  | null => .null
  | bool b => .bool b
  | int n => .int n
  | float x => .float x
  | text s => .text s
  | bytes data =>
    match String.fromUTF8? ⟨data.toArray⟩ with
    | some s => .text s
    | none => .list []
  | _ => .list []

theorem same_text {t : Node} {s : String} : same t (text s) = true ↔ t = text s := by
  cases t <;> simp [same, sameScalar]

end Node

end PromptRules.Data
