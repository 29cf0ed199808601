import PromptRules.Data.Yaml.Token

/-!
# Parts of a document

A YAML document as its scalars and collections, from its tokens. Every part has its kind:
that of its tag, of its form, or of the word that it is. Parts can have names, which aliases
refer to; a name is given once, and before its first alias.
-/

namespace PromptRules.Data.Yaml

/-- A part of a document, with the name that it is given. -/
inductive Part where
  | scalar (name : Option String) (tag : Tag) (text : String)
  | list (name : Option String) (tag : Tag) (items : List Part)
  | map (name : Option String) (tag : Tag) (entries : List (Part × Part))
  | alias (name : String)

/-- A part that was left out. -/
def Part.nothing : Part := .scalar none .null ""

/-- What stands in front of a part: its name, and its tag in full. -/
structure Properties where
  name : Option String := none
  tag : Option String := none
deriving DecidableEq, Repr

namespace Properties

/-- Whether there are none. -/
def isEmpty (p : Properties) : Bool := p.name.isNone && p.tag.isNone

/-- The kind of a scalar: a tag of nothing but its mark asks for the kind of the word. -/
def kindOf (p : Properties) (text : String) (isPlain : Bool) : Tag :=
  match p.tag with
  | none => if isPlain then wordTag text else .text
  | some uri => if uri = "!" then wordTag text else .ofUri uri

/-- The kind of a collection that has a form. -/
def formOf (p : Properties) (form : Tag) : Tag :=
  match p.tag with
  | none => form
  | some uri => if uri = "!" then form else .ofUri uri

end Properties

/-- A document that is being read: the tokens to come, the names given so far, what handles
    stand for, and the number of collections around. -/
structure Reading where
  tokens : List Token
  names : List String := []
  handles : List (String × String) := []
  depth : Nat := 0

/-- A step of reading, which can break the rules. -/
abbrev Read := StateT Reading (Except ReadError)

namespace Read

/-- The rules are broken. -/
def refuse {α : Type} : Read α := throw .malformed

/-- The next token. -/
def peek : Read (Option Token) := do
  match (← get).tokens.head? with
  | some (.broken e) => throw e
  | t => return t

/-- Passes over a token. -/
def skip : Read Unit := modify fun r => { r with tokens := r.tokens.drop 1 }

/-- Passes over a token that must be there. -/
def expect (t : Token) : Read Unit := do
  if (← peek) = some t then skip else refuse

/-- Passes over a token if it is there, and tells whether it was. -/
def accept (t : Token) : Read Bool := do
  if (← peek) = some t then
    skip
    return true
  else return false

/-- Whether the next token is one of some. -/
def nextIn (ts : List Token) : Read Bool := return (← peek).any ts.contains

/-- Collections can be nested so deep. -/
def maxDepth : Nat := 490

/-- Reads the inside of a collection. -/
def inside {α : Type} (read : Read α) : Read α := do
  if maxDepth ≤ (← get).depth then throw .tooDeep
  modify fun r => { r with depth := r.depth + 1 }
  let a ← read
  modify fun r => { r with depth := r.depth - 1 }
  return a

end Read

/-! ## Names and tags -/

/-- A tag in full. -/
def fullTag (handle : Option String) (rest : String) : Read String := do
  match handle with
  | none => return rest
  | some handle =>
    match (← get).handles.lookup handle with
    | some start => return start ++ rest
    | none => Read.refuse

/-- The tag that comes next, if there is one. -/
def readTag : Read (Option String) := do
  match ← Read.peek with
  | some (.tag handle rest) =>
    Read.skip
    return some (← fullTag handle rest)
  | _ => return none

/-- The name that comes next, if there is one. -/
def readName : Read (Option String) := do
  match ← Read.peek with
  | some (.anchor name) =>
    Read.skip
    return some name
  | _ => return none

/-- A name and a tag in either order, if they are there. -/
def readProperties : Read Properties := do
  match ← readName with
  | some name => return { name := some name, tag := ← readTag }
  | none =>
    match ← readTag with
    | some tag => return { tag := some tag, name := ← readName }
    | none => return {}

/-- Gives a name, which must be new. -/
def giveName (name : Option String) : Read Unit := do
  match name with
  | none => return
  | some name =>
    if (← get).names.contains name then Read.refuse
    else modify fun r => { r with names := name :: r.names }

/-- A part without content: null, or what its tag makes of the empty text. -/
def readNothing (p : Properties) : Read Part := do
  if p.isEmpty then Read.refuse
  else
    giveName p.name
    return .scalar p.name (p.kindOf "" true) ""

/-! ## Parts -/

/-- The tokens that can follow a key or a value that is left out in a block. -/
def afterEntry : List Token := [.key, .value, .blockEnd]

mutual

/-- A part. Blocks are allowed where `inBlock` says so, and a list that is not indented
    further than its key where `flush` does. -/
def readPart : (fuel : Nat) → (inBlock flush : Bool) → Read Part
  | 0, _, _ => Read.refuse
  | fuel + 1, inBlock, flush => do
    match ← Read.peek with
    | some (.alias name) =>
      Read.skip
      if (← get).names.contains name then return .alias name else Read.refuse
    | _ =>
      let p ← readProperties
      readContent fuel inBlock flush p

/-- The content of a part after its properties. It may be left out if there are some. -/
def readContent : (fuel : Nat) → (inBlock flush : Bool) → Properties → Read Part
  | 0, _, _, _ => Read.refuse
  | fuel + 1, inBlock, flush, p => do
    match ← Read.peek with
    | some (.scalar text isPlain) =>
      giveName p.name
      Read.skip
      return .scalar p.name (p.kindOf text isPlain) text
    | some .flowSequenceStart =>
      giveName p.name
      Read.skip
      return .list p.name (p.formOf .list) (← Read.inside (readFlowItems fuel true))
    | some .flowMappingStart =>
      giveName p.name
      Read.skip
      return .map p.name (p.formOf .map) (← Read.inside (readFlowEntries fuel true))
    | some .sequenceStart =>
      if inBlock then
        giveName p.name
        Read.skip
        let items ← Read.inside (readItems fuel [.item, .blockEnd])
        Read.expect .blockEnd
        return .list p.name (p.formOf .list) items
      else readNothing p
    | some .mappingStart =>
      if inBlock then
        giveName p.name
        Read.skip
        let entries ← Read.inside (readEntries fuel)
        Read.expect .blockEnd
        return .map p.name (p.formOf .map) entries
      else readNothing p
    | some .item =>
      if flush then
        giveName p.name
        return .list p.name (p.formOf .list)
          (← Read.inside (readItems fuel (.item :: afterEntry)))
      else readNothing p
    | _ => readNothing p

/-- The items of a block list; one that is left out is followed by one of some tokens. -/
def readItems : (fuel : Nat) → (afterNothing : List Token) → Read (List Part)
  | 0, _ => Read.refuse
  | fuel + 1, afterNothing => do
    if ← Read.accept .item then
      let t ← if ← Read.nextIn afterNothing then pure .nothing else readPart fuel true false
      return t :: (← readItems fuel afterNothing)
    else return []

/-- A key or a value of a block map, which may be left out. -/
def readSide : (fuel : Nat) → Read Part
  | 0 => Read.refuse
  | fuel + 1 => do
    if ← Read.nextIn afterEntry then return .nothing else readPart fuel true true

/-- The entries of a block map. -/
def readEntries : (fuel : Nat) → Read (List (Part × Part))
  | 0 => Read.refuse
  | fuel + 1 => do
    if ← Read.accept .key then
      let key ← readSide fuel
      let value ← if ← Read.accept .value then readSide fuel else pure .nothing
      return (key, value) :: (← readEntries fuel)
    else return []

/-- A key or a value inside brackets or braces, which may be left out before some tokens. -/
def readFlowSide : (fuel : Nat) → (afterNothing : List Token) → Read Part
  | 0, _ => Read.refuse
  | fuel + 1, afterNothing => do
    if ← Read.nextIn afterNothing then return .nothing else readPart fuel false false

/-- The rest of an entry inside brackets or braces, after its key mark. -/
def readFlowEntry : (fuel : Nat) → (closing : Token) → Read (Part × Part)
  | 0, _ => Read.refuse
  | fuel + 1, closing => do
    let key ← readFlowSide fuel [.value, .comma, closing]
    let value ← if ← Read.accept .value then readFlowSide fuel [.comma, closing] else pure .nothing
    return (key, value)

/-- The items of a list in brackets, with the closing one. -/
def readFlowItems : (fuel : Nat) → (isFirst : Bool) → Read (List Part)
  | 0, _ => Read.refuse
  | fuel + 1, isFirst => do
    if ← Read.accept .flowSequenceEnd then return []
    if !isFirst then Read.expect .comma
    if ← Read.accept .flowSequenceEnd then return []
    let t ←
      if ← Read.accept .key then
        pure (.map none .map [← Read.inside (readFlowEntry fuel .flowSequenceEnd)])
      else readPart fuel false false
    return t :: (← readFlowItems fuel false)

/-- The entries of a map in braces, with the closing one. -/
def readFlowEntries : (fuel : Nat) → (isFirst : Bool) → Read (List (Part × Part))
  | 0, _ => Read.refuse
  | fuel + 1, isFirst => do
    if ← Read.accept .flowMappingEnd then return []
    if !isFirst then Read.expect .comma
    if ← Read.accept .flowMappingEnd then return []
    let entry ←
      if ← Read.accept .key then readFlowEntry fuel .flowMappingEnd
      else pure (← readPart fuel false false, .nothing)
    return entry :: (← readFlowEntries fuel false)

end

/-! ## The document -/

/-- The handles that every document knows. -/
def standardHandles : List (String × String) := [("!", "!"), ("!!", Tag.nameStart)]

/-- What the handles in directives stand for; none if a directive is repeated or asks for
    another version. The flag tells that a version was asked for. -/
def takeDirectives (hasVersion : Bool) (handles : List (String × String)) :
    List Directive → Option (List (String × String))
  | [] => some (handles ++ standardHandles)
  | .version major :: ds => if hasVersion || major ≠ 1 then none else takeDirectives true handles ds
  | .handle handle start :: ds =>
    if (handles.lookup handle).isSome then none
    else takeDirectives hasVersion (handles ++ [(handle, start)]) ds
  | .other :: ds => takeDirectives hasVersion handles ds

/-- The directive that a token is. -/
def directive? : Token → Option Directive
  | .directive d => some d
  | _ => none

/-- A document that opens with directives or a separator. -/
def readExplicit (fuel : Nat) : Read Part := do
  let found := (← get).tokens.map directive?
  let ds := (found.takeWhile Option.isSome).filterMap id
  match takeDirectives false [] ds with
  | none => Read.refuse
  | some handles =>
    modify fun r => { r with tokens := r.tokens.drop ds.length, handles := handles }
    Read.expect .documentStart
    match ← Read.peek with
    | none | some (.directive _) | some .documentStart | some .documentEnd => return .nothing
    | _ => readPart fuel true false

/-- Passes over the ends of a document. -/
def skipEnds : Read Unit :=
  modify fun r => { r with tokens := r.tokens.dropWhile (· == .documentEnd) }

/-- The only document of a text; none if there is no document. -/
def readDocument (fuel : Nat) : Read (Option Part) := do
  let t ← match ← Read.peek with
    | none => pure none
    | some (.directive _) | some .documentStart => some <$> readExplicit fuel
    | _ =>
      modify fun r => { r with handles := standardHandles }
      some <$> readPart fuel true false
  skipEnds
  if (← Read.peek).isSome then Read.refuse
  return t

/-- The only document of a text, as its parts. -/
def parts (s : String) : Except ReadError (Option Part) :=
  match tokens s with
  | none => .error .malformed
  | some ts => ((readDocument (4 * ts.size + 8)).run { tokens := ts.toList }).map Prod.fst

end PromptRules.Data.Yaml
