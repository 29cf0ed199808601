import PromptRules.Data.Json.Reader
import PromptRules.Data.Json.Writer
import PromptRules.Data.Yaml.Reader
import PromptRules.Data.Yaml.Writer
import PromptRules.Text.LowerCase
import PromptRules.Text.PathName

/-!
# Formats of preset files

The ending of a preset file's name tells its format, without regard to case.
-/

namespace PromptRules.PresetFile

open Data Text

/-- The formats of preset files. -/
inductive Format where
  | json | yaml
deriving DecidableEq, Repr

/-- The format of a file with this name. -/
def Format.ofPath (path : PathName) : Format :=
  if lower path.suffix ∈ [".yaml", ".yml"] then .yaml else .json

/-- The document that a text holds in a format. -/
def Format.read (f : Format) (text : String) : Except ReadError Document :=
  match f with
  | .json => (Json.read text).map fun t => { root := .ofTree t }
  | .yaml => Yaml.read text

/-- A document as a text in a format; none if it holds an integer that is too long. -/
def Format.write? (f : Format) (d : Document) : Option String :=
  if d.root.isShort then
    some <| match f with
      | .json => Json.page 0 d.root.toTree
      | .yaml => Yaml.write d
  else none

/-- The format as messages name it: the ending without its point. -/
def formatWord (path : PathName) : String :=
  match String.ofList (path.suffix.toList.dropWhile (· = '.')) with
  | "" => "json"
  | word => word

end PromptRules.PresetFile
