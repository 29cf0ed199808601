import PromptRules.Data.Assoc
import PromptRules.Data.Coerce

/-!
# Prompts

A prompt is one unit of a prompt set: an identifier, a name for display, a content that may
carry directives, a chat role, and whether it is enabled.

Results:
* `get?_firstById`: the index by identifier finds the first prompt that has it.
-/

namespace PromptRules

open Data

/-- The chat role that a prompt is sent as. -/
inductive Role where
  | system | user | assistant
deriving DecidableEq, Repr

/-- The name of a role. -/
def Role.name : Role → String
  | .system => "system"
  | .user => "user"
  | .assistant => "assistant"

/-- The role of a name. -/
def Role.ofName? (name : String) : Option Role :=
  [Role.system, .user, .assistant].find? fun r => r.name == name

/-- One unit of a prompt set. -/
structure Prompt where
  identifier : String
  name : String := ""
  content : String := ""
  enabled : Bool := false
  role : Role := .system
deriving DecidableEq, Repr

namespace Prompt

/-- What the prompt is called in messages: its name, or its identifier if it has none. -/
def displayName (p : Prompt) : String := if p.name = "" then p.identifier else p.name

/-- The prompt as a record of its fields. -/
def toRecord (p : Prompt) : Record :=
  [("identifier", .text p.identifier), ("name", .text p.name), ("content", .text p.content),
   ("enabled", .bool p.enabled), ("role", .text p.role.name)]

/-- A role from its name. -/
def asRole : Tree → Except Mismatch Role
  | .text s =>
    match Role.ofName? s with
    | some r => .ok r
    | none => .error .notChoice
  | _ => .error .notChoice

/-- A prompt from its fields; fields of other names are passed over. All faults are
    reported, in the order of the fields. -/
def ofFields (fields : Record) : Except (List FieldFault) Prompt :=
  let identifier := required fields "identifier" asText
  let name := optional fields "name" "" asText
  let content := optional fields "content" "" asText
  let enabled := optional fields "enabled" false asFlag
  let role := optional fields "role" .system asRole
  match identifier, name, content, enabled, role with
  | .ok identifier, .ok name, .ok content, .ok enabled, .ok role =>
    .ok { identifier := identifier, name := name, content := content, enabled := enabled,
          role := role }
  | _, _, _, _, _ =>
    .error (faultOf "identifier" identifier ++ faultOf "name" name ++ faultOf "content" content
      ++ faultOf "enabled" enabled ++ faultOf "role" role)

end Prompt

/-- The prompts by identifier; of several with one identifier, the first. -/
def firstById (prompts : List Prompt) : List (String × Prompt) :=
  prompts.foldl (fun m p =>
    if (Assoc.get? m p.identifier).isSome then m else Assoc.put m p.identifier p) []

/-- The first prompt with an identifier. -/
def Prompt.find? (prompts : List Prompt) (identifier : String) : Option Prompt :=
  prompts.find? fun p => p.identifier == identifier

theorem get?_foldl_firstById (prompts : List Prompt) (m : List (String × Prompt)) (k : String) :
    Assoc.get? (prompts.foldl (fun m p =>
        if (Assoc.get? m p.identifier).isSome then m else Assoc.put m p.identifier p) m) k
      = (Assoc.get? m k).or (Prompt.find? prompts k) := by
  unfold Prompt.find?
  induction prompts generalizing m with
  | nil => simp
  | cons p ps ih =>
    rw [List.foldl_cons, ih, List.find?_cons]
    by_cases hk : p.identifier = k
    · subst hk
      cases hm : Assoc.get? m p.identifier <;> simp [hm]
    · have hb : (p.identifier == k) = false := by simpa using hk
      rw [hb]
      cases hm : Assoc.get? m p.identifier
      · simp [Assoc.get?_put_of_ne _ _ (Ne.symm hk)]
      · simp

/-- The index finds the first prompt with the identifier. -/
theorem get?_firstById (prompts : List Prompt) (k : String) :
    Assoc.get? (firstById prompts) k = Prompt.find? prompts k := by
  simp [firstById, get?_foldl_firstById]

end PromptRules
