import PromptRules.Data.Assoc

/-!
# Data trees

The values of JSON texts, journals and reports: scalars, lists, and maps with text keys in
their order.
-/

namespace PromptRules.Data

/-- A value without links. -/
inductive Tree where
  | null
  | bool (b : Bool)
  | int (n : Int)
  | float (x : Float)
  | text (s : String)
  | list (items : List Tree)
  | map (entries : List (String × Tree))
deriving Inhabited

/-- A map with text keys. -/
abbrev Record := List (String × Tree)

namespace Tree

/-- The value of a key; none for what is not a map or lacks the key. -/
def get? : Tree → String → Option Tree
  | map entries, key => Assoc.get? entries key
  | _, _ => none

end Tree

end PromptRules.Data
