/-!
# Tags

The kinds of values that YAML documents know. A tag is named in full by a URI.
-/

namespace PromptRules.Data.Yaml

/-- The kind of a value. -/
inductive Tag where
  | null | bool | int | float | text | moment | bytes
  | list | map | set
  /-- Lists of pairs: with keys of their own, or with any. -/
  | omap | pairs
  /-- The key whose maps are merged into its own. -/
  | merge
  /-- The key of a map's own value. -/
  | value
  | other
deriving DecidableEq, Repr

namespace Tag

/-- What the names of all kinds but `other` start with. -/
def nameStart : String := "tag:yaml.org,2002:"

/-- The kinds by the ends of their names. -/
def names : List (String × Tag) :=
  [("null", .null), ("bool", .bool), ("int", .int), ("float", .float), ("str", .text),
   ("timestamp", .moment), ("binary", .bytes), ("seq", .list), ("map", .map), ("set", .set),
   ("omap", .omap), ("pairs", .pairs), ("merge", .merge), ("value", .value)]

/-- The kind of a name. -/
def ofUri (uri : String) : Tag :=
  ((names.find? fun e => nameStart ++ e.1 == uri).map Prod.snd).getD .other

/-- Whether values of a kind are containers. -/
def isContainer : Tag → Bool
  | .list | .map | .set | .omap | .pairs => true
  | _ => false

end Tag

end PromptRules.Data.Yaml
