import PromptRules.Data.Document
import PromptRules.Data.Yaml.Part
import PromptRules.Data.Yaml.Value

/-!
# Reading YAML

The value of a YAML document, from its parts. An alias shares the value of its name. Maps
under a merge key lend their entries to the map around it, whose own entries go before
theirs. A repeated key keeps its first place and its last value. Of several faults that
counts which the least number of collections is around, and of those the first.
-/

namespace PromptRules.Data.Yaml

/-- The form of a part. -/
inductive Form where
  | scalar | list | map
deriving DecidableEq, Repr

/-- What was made of a part. -/
structure Built where
  value : Node
  tag : Tag
  /-- The place where the value stands for the first time. -/
  place : Path
  form : Form := .scalar
  items : List Built := []
  /-- The entries of a map, with those that were lent to it in front. -/
  entries : List (Built × Built) := []
  /-- What is wrong with the part. -/
  fault : Option ReadError := none
  /-- The first faults inside the part, by the number of collections around them. -/
  inner : List (Option ReadError) := []

/-! ## Faults -/

/-- The first fault of a list. -/
def firstFault (faults : List (Option ReadError)) : Option ReadError := faults.findSome? id

/-- The faults of one part before those of another, number by number. -/
def beside : List (Option ReadError) → List (Option ReadError) → List (Option ReadError)
  | [], ys => ys
  | xs, [] => xs
  | x :: xs, y :: ys => x.or y :: beside xs ys

/-- The faults inside of parts that stand side by side. -/
def innerOf (parts : List Built) : List (Option ReadError) :=
  parts.foldl (fun faults b => beside faults b.inner) []

/-- The first fault of a part. -/
def Built.firstFault (b : Built) : Option ReadError := Yaml.firstFault (b.fault :: b.inner)

/-! ## Scalars and lists -/

/-- A scalar. One that is to be a container is found out only when it is filled. -/
def scalarOf (place : Path) (tag : Tag) (text : String) : Built :=
  if tag.isContainer then
    { value := .list [], tag := tag, place := place, inner := [some .malformed] }
  else
    match Value.ofText tag text with
    | .ok v => { value := v, tag := tag, place := place }
    | .error e => { value := .text text, tag := tag, place := place, fault := some e }

/-- The fault of an entry: its key has one or is a container, or its value has one. -/
def entryFault (key value : Built) : Option ReadError :=
  key.fault.or (if key.value.key?.isNone then some .malformed else value.fault)

/-- The only entry of a map that is to be a pair. -/
def pairOf? (b : Built) : Option (Built × Built) :=
  match b.entries with
  | [e] => some e
  | _ => none

/-- The fault of an item that is to be a pair. -/
def pairFault (b : Built) : Option ReadError :=
  match pairOf? b with
  | some (key, value) => key.fault.or value.fault
  | none => some .malformed

/-- The value of an item that is to be a pair. -/
def pairValue (b : Built) : Node :=
  match pairOf? b with
  | some (key, value) => .pair key.value value.value
  | none => .null

/-- A list, of items or of pairs. -/
def listOf (place : Path) (tag : Tag) (items : List Built) : Built :=
  let made : Built :=
    { value := .list (items.map Built.value), tag := tag, place := place, form := .list
      items := items }
  match tag with
  | .list => { made with inner := firstFault (items.map Built.fault) :: innerOf items }
  | .omap | .pairs =>
    { made with
      value := .list (items.map pairValue)
      inner := firstFault (items.map pairFault)
        :: innerOf ((items.filterMap pairOf?).flatMap fun e => [e.1, e.2]) }
  | .map | .set => { made with inner := [some .malformed] }
  | _ => { made with fault := some .malformed }

/-! ## Maps -/

/-- The entries that the value of a merge key lends: those of a map, or of the maps in a
    list, of which the first goes before the others. -/
def lent (b : Built) : Option (List (Built × Built)) :=
  match b.form with
  | .map => some b.entries
  | .list =>
    if b.items.all (·.form = .map) then some (b.items.reverse.flatMap Built.entries) else none
  | .scalar => none

/-- An entry whose key is taken as a text if it is the special one. -/
def plainKey (e : Built × Built) : Built × Built :=
  if e.1.tag = .value then ({ e.1 with fault := none }, e.2) else e

/-- The entries of a map with those that are lent to it in front; none if something lends
    that is no map. -/
def merged (entries : List (Built × Built)) : Option (List (Built × Built)) := do
  let lenders := entries.filter (·.1.tag = .merge)
  let own := (entries.filter (·.1.tag ≠ .merge)).map plainKey
  return (← lenders.mapM fun e => lent e.2).flatten ++ own

/-- Adds an entry; a key that is there keeps its place. -/
def addEntry (read : List (Key × Built)) (key : Key) (value : Built) : List (Key × Built) :=
  match read with
  | [] => [(key, value)]
  | e :: es => if e.1.same key then (e.1, value) :: es else e :: addEntry es key value

/-- The entries that count. -/
def effective (entries : List (Built × Built)) : List (Key × Built) :=
  entries.foldl (fun read e =>
    match e.1.value.key? with
    | some key => addEntry read key e.2
    | none => read) []

/-- A map or a set. -/
def mapOf (place : Path) (tag : Tag) (entries : List (Built × Built)) : Built :=
  let all := merged entries
  let inner := match all with
    | none => [some .malformed]
    | some es => firstFault (es.map fun e => entryFault e.1 e.2) :: innerOf (es.map Prod.snd)
  let read := effective (all.getD [])
  let made : Built :=
    { value := .map (read.map fun e => (e.1, e.2.value)), tag := tag, place := place
      form := .map, entries := all.getD [], inner := inner }
  match tag with
  | .map => made
  | .set => { made with value := .set (read.map Prod.fst) }
  | .list | .omap | .pairs => { made with inner := [some .malformed] }
  | _ => { made with fault := some .malformed }

/-! ## Names -/

/-- What is known on the way through a document: what has a name, and the links so far, the
    last one first. -/
structure Known where
  named : List (String × Built) := []
  links : List Link := []

/-- A step on the way through a document. -/
abbrev Build := StateM Known

/-- Remembers a part under its name. -/
def remember (name : Option String) (b : Built) : Build Unit :=
  match name with
  | some name => modify fun k => { k with named := Assoc.put k.named name b }
  | none => return

/-- Whether a value can be shared: collections, in which writing to one shows in the other,
    and moments. -/
def isShareable : Node → Bool
  | .list _ | .map _ | .set _ | .loop _ | .moment _ => true
  | _ => false

/-- Links a place to that where its value stands first. -/
def linkTo (place : Path) (b : Built) : Build Unit :=
  if b.place ≠ place && isShareable b.value then
    modify fun k => { k with links := (place, b.place) :: k.links }
  else return

/-- The place of an entry. -/
def entryPlace (place : Path) (key : Built) : Path :=
  if key.tag = .merge then place else place ++ [.key (key.value.key?.getD .null)]

/-! ## The whole document -/

/-- The place of the keys of a map, at which no value stands. -/
def keyPlace (place : Path) : Path := place ++ [.index 0]

mutual

/-- What is made of a part at a place. While a collection is being read its name stands for
    a loop. -/
def build : Part → (place : Path) → Build Built
  | .scalar name tag text, place => do
    let b := scalarOf place tag text
    remember name b
    return b
  | .list name tag items, place => do
    remember name { value := .loop false, tag := tag, place := place, form := .list }
    let items ← buildItems items place 0
    let b := listOf place tag items
    if tag = .list then
      (List.range items.length).zip items |>.forM fun e => linkTo (place ++ [.index e.1]) e.2
    remember name b
    return b
  | .map name tag entries, place => do
    remember name { value := .loop true, tag := tag, place := place, form := .map }
    let entries ← buildEntries entries place
    let b := mapOf place tag entries
    if tag = .map then
      (effective b.entries).forM fun e => linkTo (place ++ [.key e.1]) e.2
    remember name b
    return b
  | .alias name, place =>
    return ((← get).named.lookup name).getD { value := .null, tag := .null, place := place }

/-- What is made of the items of a list. -/
def buildItems : List Part → (place : Path) → (index : Nat) → Build (List Built)
  | [], _, _ => return []
  | t :: ts, place, index => do
    let b ← build t (place ++ [.index index])
    return b :: (← buildItems ts place (index + 1))

/-- What is made of the entries of a map. -/
def buildEntries : List (Part × Part) → (place : Path) → Build (List (Built × Built))
  | [], _ => return []
  | (key, value) :: es, place => do
    let k ← build key (keyPlace place)
    let v ← build value (entryPlace place k)
    return (k, v) :: (← buildEntries es place)

end

/-- Whether two values have the same items or keys, but for what is in them. -/
def isAlike : Node → Node → Bool
  | .list xs, .list ys => xs.length == ys.length
  | .map es, .map fs => es.map Prod.fst == fs.map Prod.fst
  | .set ks, .set ls => ks == ls
  | .moment m, .moment n => m == n
  | _, _ => false

/-- Whether the places of a link are there, and hold the same. -/
def holds (root : Node) (l : Link) : Bool :=
  Document.isLoop l ||
    match root.at? l.1, root.at? l.2 with
    | some a, some b => isAlike a b
    | _, _ => false

/-- The document that its parts make. -/
def documentOf (t : Part) : Except ReadError Document :=
  let (b, known) := (build t []).run {}
  match b.firstFault with
  | some e => .error e
  | none => .ok { root := b.value, links := known.links.reverse.filter (holds b.value) }

/-- The document that a text holds. -/
def read (s : String) : Except ReadError Document :=
  match parts s with
  | .error e => .error e
  | .ok none => .ok { root := .null }
  | .ok (some t) => documentOf t

end PromptRules.Data.Yaml
