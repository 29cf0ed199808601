import PromptRules.Directive.Comment
import PromptRules.Proofs.Text.Trim

/-!
# What stands in a comment block

The inner text of a block is on one line and holds no two closing braces in a row. Any such
text can stand in a block: the scan that meets the block gives the text back, unless it ends
in a brace that joins those of the block.

Results:
* `isInline_of_mem_scan`: what a scan finds is on one line and without closing braces.
* `scan_block`: a scan that meets a block finds its text, and goes on behind it.
-/

namespace PromptRules.Directive.Comment

open Text

/-- On one line, and without two closing braces in a row. -/
structure IsInline (cs : List Char) : Prop where
  newline : '\n' ∉ cs
  braces : ¬ ['}', '}'] <:+: cs

theorem IsInline.part {cs ds : List Char} (h : IsInline cs) (hi : ds <:+: cs) : IsInline ds :=
  ⟨fun hn => h.newline (hi.subset hn), fun hb => h.braces (hb.trans hi)⟩

/-- A character other than a brace keeps what is before it apart from what is behind it. -/
theorem pair_infix_append_cons {x y : Char} (hne : x ≠ y) {front back : List Char}
    (h : [x, x] <:+: front ++ y :: back) : [x, x] <:+: front ∨ [x, x] <:+: back := by
  induction front with
  | nil =>
    rcases List.infix_cons_iff.1 h with h | h
    · exact absurd (List.cons_prefix_cons.1 h).1 hne
    · exact .inr h
  | cons c front ih =>
    rcases List.infix_cons_iff.1 h with h | h
    · obtain ⟨rfl, hnext⟩ := List.cons_prefix_cons.1 h
      cases front with
      | nil => exact absurd (List.cons_prefix_cons.1 hnext).1 hne
      | cons d front =>
        obtain ⟨rfl, -⟩ := List.cons_prefix_cons.1 hnext
        exact .inl (List.prefix_append [x, x] front).isInfix
    · exact (ih h).imp_left fun h => List.infix_cons h

theorem isInline_nil : IsInline [] :=
  ⟨List.not_mem_nil, fun h => List.cons_ne_nil _ _ (List.infix_nil.1 h)⟩

theorem IsInline.append_cons {front back : List Char} {c : Char} (hf : IsInline front)
    (hb : IsInline back) (hn : c ≠ '\n') (hc : c ≠ '}') : IsInline (front ++ c :: back) := by
  constructor
  · simp [hf.newline, hb.newline, Ne.symm hn]
  · intro h
    rcases pair_infix_append_cons (Ne.symm hc) h with h | h
    · exact hf.braces h
    · exact hb.braces h

theorem IsInline.cons {back : List Char} {c : Char} (hb : IsInline back) (hn : c ≠ '\n')
    (hc : c ≠ '}') : IsInline (c :: back) := isInline_nil.append_cons hb hn hc

theorem IsInline.append {back : List Char} (hb : IsInline back) (front : List Char)
    (hf : ∀ c ∈ front, c ≠ '\n' ∧ c ≠ '}') : IsInline (front ++ back) := by
  induction front with
  | nil => exact hb
  | cons c front ih =>
    obtain ⟨hc, hfront⟩ := List.forall_mem_cons.1 hf
    exact (ih hfront).cons hc.1 hc.2

theorem IsInline.of_keepsMarks {cs ds : List Char} (h : IsInline cs) (hk : KeepsMarks cs ds) :
    IsInline ds :=
  ⟨fun hn => h.newline (hk.mem (by decide) hn), fun hb => h.braces (hk.pair (by decide) hb)⟩

/-- What has been passed inside a block is on one line and not about to be closed. -/
def Place.Fits : Place → List Char → Prop
  | .outside, _ => True
  | .inside passed, rest =>
    IsInline passed.reverse ∧ (passed.head? = some '}' → rest.head? ≠ some '}')

theorem IsInline.concat {cs : List Char} {c : Char} (h : IsInline cs) (hc : c ≠ '\n')
    (hlast : cs.getLast? = some '}' → c ≠ '}') : IsInline (cs ++ [c]) := by
  constructor
  · simp [h.newline, Ne.symm hc]
  · intro hb
    rcases List.infix_concat_iff.1 hb with hb | hb
    · obtain ⟨ds, hds, hsuffix⟩ := (List.suffix_concat_iff.1 hb).resolve_left (List.cons_ne_nil _ _)
      obtain ⟨rfl, rfl⟩ : ds = ['}'] ∧ c = '}' := by
        have hsplit : ['}'] ++ ['}'] = ds ++ [c] := hds
        obtain ⟨hinit, hlast⟩ := List.append_inj' hsplit rfl
        exact ⟨hinit.symm, by simpa using hlast.symm⟩
      obtain ⟨front, rfl⟩ := hsuffix
      exact hlast (by simp) rfl
    · exact h.braces hb

/-- What a scan finds is on one line and without closing braces. -/
theorem isInline_of_mem_scan {p : Place} {cs : List Char} (hp : p.Fits cs) {t : List Char}
    (ht : t ∈ scan p cs) : IsInline t := by
  fun_induction scan p cs with
  | case1 cs ih =>
    refine ih ⟨isInline_nil, ?_⟩ ht
    rintro ⟨⟩
  | case2 c cs _ ih => exact ih trivial ht
  | case3 passed cs ih =>
    rcases List.mem_cons.1 ht with rfl | ht
    · exact hp.1
    · exact ih trivial ht
  | case4 passed cs ih => exact ih trivial ht
  | case5 passed c cs hclose hnewline ih =>
    refine ih ⟨?_, ?_⟩ ht
    · rw [List.reverse_cons]
      refine hp.1.concat hnewline ?_
      rw [List.getLast?_reverse]
      rintro hlast rfl
      exact hp.2 hlast rfl
    · rintro hc hcs
      obtain ⟨rest, rfl⟩ := List.head?_eq_some_iff.1 hcs
      exact hclose rest (Option.some.inj hc) rfl
  | case6 => cases ht

/-! ## Meeting a block -/

/-- Inside a block, a character that ends neither the block nor the line is taken up. -/
theorem scan_inside_cons {c : Char} {cs : List Char} (passed : List Char) (hc : c ≠ '\n')
    (hclose : c = '}' → cs.head? ≠ some '}') :
    scan (.inside passed) (c :: cs) = scan (.inside (c :: passed)) cs := by
  rw [scan]
  · rintro rest rfl rfl
    exact hclose rfl rfl
  · exact hc

theorem scan_inside {cs : List Char} (h : IsInline cs) (hlast : cs.getLast? ≠ some '}')
    (passed rest : List Char) :
    scan (.inside passed) (cs ++ '}' :: '}' :: rest)
      = (passed.reverse ++ cs) :: scan .outside rest := by
  induction cs generalizing passed with
  | nil => rw [List.nil_append, List.append_nil, scan]
  | cons c cs ih =>
    have hc : c ≠ '\n' := fun hc => h.newline (hc ▸ List.mem_cons_self)
    have hclose : c = '}' → (cs ++ '}' :: '}' :: rest).head? ≠ some '}' := by
      rintro rfl hhead
      cases cs with
      | nil => exact hlast rfl
      | cons d cs =>
        obtain rfl : d = '}' := Option.some.inj hhead
        exact h.braces (List.prefix_append ['}', '}'] cs).isInfix
    have hlast' : cs.getLast? ≠ some '}' := by
      cases cs with
      | nil => rintro ⟨⟩
      | cons d cs => rwa [List.getLast?_cons_cons] at hlast
    rw [List.cons_append, scan_inside_cons passed hc hclose,
      ih (h.part (List.suffix_cons c cs).isInfix) hlast', List.reverse_cons, List.append_assoc]
    rfl

/-- **A scan that meets a block finds its text**, and goes on behind it. -/
theorem scan_block {cs : List Char} (h : IsInline cs) (hlast : cs.getLast? ≠ some '}')
    (rest : List Char) :
    scan .outside ('{' :: '{' :: '/' :: '/' :: (cs ++ '}' :: '}' :: rest)) =
      cs :: scan .outside rest := by
  rw [scan, scan_inside h hlast]
  rfl

end PromptRules.Directive.Comment
