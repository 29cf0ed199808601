import PromptRules.Prompt.Lookup
import PromptRules.Text.Blank
import PromptRules.Text.LowerCase

/-!
# Search

Prompts whose name, tags, tooltip, help or categories contain a term, without regard to
case. An empty term finds every prompt.

Results:
* `occursIn_iff`: a text occurs in another iff the other is something, the text, something.
-/

namespace PromptRules.Search

open Directive Text

/-- Whether the first text occurs in the second. -/
def occursIn (needle : List Char) : List Char → Bool
  | [] => needle.isEmpty
  | c :: cs => needle.isPrefixOf (c :: cs) || occursIn needle cs

/-- The text of a prompt that is searched. -/
def haystack (p : Prompt) (d : Directives) : String :=
  lower <| " ".intercalate <|
    [p.name] ++ d.list .tags ++ [(d.text .tooltip).getD "", (d.text .help).getD ""]
      ++ d.list .categories

/-- The prompts that match a term. -/
def find {m : Type → Type} [Monad m] (lookup : Lookup m) (term : String) (prompts : List Prompt) :
    m (List Prompt) := do
  let needle := trim (lower term).toList
  if needle.isEmpty then return prompts
  else
    let around ← prompts.mapM fun p => do return (p, ← directivesOf lookup p)
    return (around.filter fun o => occursIn needle (haystack o.1 o.2).toList).map Prod.fst

theorem occursIn_iff {needle cs : List Char} :
    occursIn needle cs = true ↔ ∃ before after, cs = before ++ needle ++ after := by
  induction cs with
  | nil =>
    simp only [occursIn, List.isEmpty_iff]
    constructor
    · rintro rfl
      exact ⟨[], [], rfl⟩
    · rintro ⟨before, after, h⟩
      simp only [List.append_assoc] at h
      have := List.append_eq_nil_iff.1 h.symm
      exact (List.append_eq_nil_iff.1 this.2).1
  | cons c cs ih =>
    simp only [occursIn, Bool.or_eq_true, List.isPrefixOf_iff_prefix, ih]
    constructor
    · rintro (⟨after, h⟩ | ⟨before, after, h⟩)
      · exact ⟨[], after, by simpa using h.symm⟩
      · exact ⟨c :: before, after, by simp [h]⟩
    · rintro ⟨before, after, h⟩
      cases before with
      | nil => exact .inl ⟨after, by simpa using h.symm⟩
      | cons b before =>
        simp only [List.cons_append, List.cons.injEq] at h
        exact .inr ⟨before, after, h.2⟩

end PromptRules.Search
