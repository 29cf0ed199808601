import PromptRules.Files.Basic
import PromptRules.Proofs.Json.RoundTrip

/-!
# Line ends in what is written in JSON

Lines end with a line feed only: a carriage return in a text is escaped, and no number has one. So
nothing is changed when the line ends of a file are made alike before it is read.

Results:
* `not_mem_page`: no page has a carriage return.
* `unified_page`: a page is kept as it is when line ends are made alike.
-/

namespace PromptRules.Data.Json

open Decimal Text

variable {ds : List Char}

/-! ## Numbers -/

theorem not_mem_digits (h : ∀ c ∈ ds, c.isDigit = true) : '\r' ∉ ds := fun hr => by
  cases h '\r' hr

theorem not_mem_written (n : Nat) : '\r' ∉ written n :=
  not_mem_digits fun _ hc => isDigit_of_mem_written hc

theorem not_mem_exponentText (e : Int) : '\r' ∉ exponentText e := by
  obtain ⟨ds, -, hd, -, htext⟩ := exists_exponentText e
  rw [htext]
  split <;> simp [not_mem_digits hd]

theorem not_mem_positional (h : '\r' ∉ ds) (keepsPoint : Bool) (point : Int) :
    '\r' ∉ positional keepsPoint ds point := by
  unfold positional
  split
  · simp [h]
  simp only
  split
  · cases keepsPoint <;> simp [h]
  · simp [mt List.mem_of_mem_take h, mt List.mem_of_mem_drop h]

theorem not_mem_scientific (h : '\r' ∉ ds) (pointsMantissa : Bool) (e : Int) :
    '\r' ∉ scientific pointsMantissa ds e := by
  have hexp := not_mem_exponentText e
  unfold scientific
  split
  · simp
  · cases pointsMantissa <;> simp_all
  · simp_all

theorem not_mem_write (x : Float) : '\r' ∉ (numbers.write x).toList := by
  unfold Layout.write
  split
  · decide
  · split <;> decide
  · rename_i negative m q _
    have hnumber :
        '\r' ∉ if m = 0 then ['0', '.', '0'] else numbers.writeScaled (shortest m q) := by
      split
      · decide
      · unfold Layout.writeScaled
        simp only
        split
        · exact not_mem_positional (not_mem_written _) _ _
        · exact not_mem_scientific (not_mem_written _) _ _
    have hsign : '\r' ∉ if negative then ['-'] else [] := by
      cases negative <;> decide
    rw [String.toList_ofList, List.mem_append]
    exact not_or.2 ⟨hsign, hnumber⟩

theorem not_mem_toString (n : Int) : '\r' ∉ (toString n).toList := by
  cases n with
  | ofNat n =>
    rw [Int.ofNat_eq_natCast, toList_toString_natCast]
    exact not_mem_written n
  | negSucc n =>
    rw [toList_toString_negSucc]
    simp [not_mem_written]

/-! ## Texts -/

theorem not_mem_hexDigits (width n : Nat) : '\r' ∉ hexDigits width n := by
  have hdigit : ∀ d < 16, Nat.digitChar d ≠ '\r' := by decide
  induction width generalizing n with
  | zero => exact List.not_mem_nil
  | succ width ih =>
    simp [hexDigits, ih, Ne.symm (hdigit _ (Nat.mod_lt n (by decide)))]

/-- A carriage return in a text is escaped. -/
theorem not_mem_escape (c : Char) : '\r' ∉ escape false c := by
  by_cases hc : c = '\r'
  · subst hc
    decide
  · unfold escape
    simp only
    split_ifs <;> simp [Ne.symm hc, not_mem_hexDigits]

theorem not_mem_writeText (s : String) : '\r' ∉ (writeText false s).toList := by
  rw [writeText, String.toList_ofList]
  simp [not_mem_escape]

/-! ## Pages -/

theorem not_mem_intercalate {sep : List Char} (hsep : '\r' ∉ sep) {parts : List (List Char)}
    (h : ∀ part ∈ parts, '\r' ∉ part) : '\r' ∉ sep.intercalate parts := by
  induction parts with
  | nil => simp
  | cons part parts ih =>
    obtain ⟨hpart, hparts⟩ := List.forall_mem_cons.1 h
    cases parts with
    | nil => rwa [List.intercalate_singleton]
    | cons part' parts =>
      rw [List.intercalate_cons_cons]
      simp [hsep, hpart, ih hparts]

theorem not_mem_newLine (depth : Nat) : '\r' ∉ (newLine depth).toList := by
  simp [newLine]

theorem not_mem_block (depth : Nat) {opening closing : String} (ho : '\r' ∉ opening.toList)
    (hc : '\r' ∉ closing.toList) {parts : List String} (h : ∀ part ∈ parts, '\r' ∉ part.toList) :
    '\r' ∉ (block depth opening closing parts).toList := by
  by_cases hne : parts = []
  · rw [hne, toList_block_nil]
    simp [ho, hc]
  · have hparts : ∀ part ∈ parts.map String.toList, '\r' ∉ part := by simpa using h
    have hsep : '\r' ∉ ',' :: (newLine (depth + 1)).toList := by simp [not_mem_newLine]
    rw [toList_block _ _ _ hne]
    simp [ho, hc, not_mem_newLine, not_mem_intercalate hsep hparts]

mutual

/-- **No page has a carriage return.** -/
theorem not_mem_page (depth : Nat) (t : Tree) : '\r' ∉ (page depth t).toList := by
  cases t with
  | null =>
    show '\r' ∉ "null".toList
    decide
  | bool b =>
    show '\r' ∉ (if b then "true" else "false").toList
    cases b <;> decide
  | int n => exact not_mem_toString n
  | float x => exact not_mem_write x
  | text s => exact not_mem_writeText s
  | list items =>
    exact not_mem_block depth (by decide) (by decide) (not_mem_pageItems (depth + 1) items)
  | map entries =>
    exact not_mem_block depth (by decide) (by decide) (not_mem_pageEntries (depth + 1) entries)

theorem not_mem_pageItems (depth : Nat) (items : List Tree) :
    ∀ part ∈ pageItems depth items, '\r' ∉ part.toList := by
  cases items with
  | nil => exact List.forall_mem_nil _
  | cons t items =>
    exact List.forall_mem_cons.2 ⟨not_mem_page depth t, not_mem_pageItems depth items⟩

theorem not_mem_pageEntries (depth : Nat) (entries : Record) :
    ∀ part ∈ pageEntries depth entries, '\r' ∉ part.toList := by
  cases entries with
  | nil => exact List.forall_mem_nil _
  | cons e entries =>
    obtain ⟨key, t⟩ := e
    refine List.forall_mem_cons.2 ⟨?_, not_mem_pageEntries depth entries⟩
    simp [not_mem_writeText, not_mem_page depth t]

end

/-- A page is kept as it is when line ends are made alike. -/
theorem unified_page (depth : Nat) (t : Tree) : unified (page depth t) = page depth t := by
  rw [unified, unifyLines_of_no_return (not_mem_page depth t), String.ofList_toList]

end PromptRules.Data.Json
