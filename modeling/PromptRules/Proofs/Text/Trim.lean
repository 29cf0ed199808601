import PromptRules.Proofs.Text.LowerCase
import PromptRules.Text.Pieces

/-!
# Trimmed texts

A text is trimmed if it neither begins nor ends with a blank. Trimming gives such a text, a
part of the given one, and leaves it as it is from then on. Lower case and the pieces between
commas keep what this needs.

Results:
* `isTrimmed_trim`, `trim_of_isTrimmed`: trimming gives a trimmed text and keeps one.
* `trim_surrounded`: blanks around a trimmed text are all that trimming drops.
* `KeepsMarks.isTrimmed`: what keeps blanks where they are keeps a text trimmed.
-/

namespace PromptRules.Text

variable {cs ds : List Char}

/-- Neither the first nor the last character is blank. -/
structure IsTrimmed (cs : List Char) : Prop where
  head : ∀ c ∈ cs.head?, isBlank c = false
  last : ∀ c ∈ cs.getLast?, isBlank c = false

theorem isTrimmed_nil : IsTrimmed [] := ⟨by rintro _ ⟨⟩, by rintro _ ⟨⟩⟩

theorem isTrimmed_of_forall (h : ∀ c ∈ cs, isBlank c = false) : IsTrimmed cs :=
  ⟨fun c hc => h c (List.mem_of_mem_head? hc), fun c hc => h c (List.mem_of_mem_getLast? hc)⟩

/-! ## Dropping blanks -/

theorem trimStart_suffix (cs : List Char) : trimStart cs <:+ cs := List.dropWhile_suffix _

theorem trimStart_eq_self (h : ∀ c ∈ cs.head?, isBlank c = false) : trimStart cs = cs := by
  cases cs with
  | nil => rfl
  | cons c cs => exact trimStart_of_head cs (h c rfl)

theorem head_trimStart (cs : List Char) : ∀ c ∈ (trimStart cs).head?, isBlank c = false := by
  intro c hc
  have h := List.head?_dropWhile_not isBlank cs
  rw [trimStart] at hc
  rw [hc] at h
  exact h

theorem trimEnd_eq (cs : List Char) : trimEnd cs = (trimStart cs.reverse).reverse := rfl

theorem trimEnd_prefix_self (cs : List Char) : trimEnd cs <+: cs := by
  rw [trimEnd_eq, ← List.reverse_suffix, List.reverse_reverse]
  exact trimStart_suffix cs.reverse

theorem trim_infix_self (cs : List Char) : trim cs <:+: cs :=
  (trimEnd_prefix_self _).isInfix.trans (trimStart_suffix cs).isInfix

theorem trimEnd_eq_self (h : ∀ c ∈ cs.getLast?, isBlank c = false) : trimEnd cs = cs := by
  rw [trimEnd_eq, trimStart_eq_self, List.reverse_reverse]
  rw [List.head?_reverse]
  exact h

/-- **Trimming keeps a trimmed text.** -/
theorem trim_of_isTrimmed (h : IsTrimmed cs) : trim cs = cs := by
  rw [trim, trimStart_eq_self h.head, trimEnd_eq_self h.last]

theorem isTrimmed_trim (cs : List Char) : IsTrimmed (trim cs) := by
  constructor
  · intro c hc
    obtain ⟨rest, hrest⟩ := trimEnd_prefix_self (trimStart cs)
    refine head_trimStart cs c ?_
    rw [← hrest, List.head?_append]
    exact Option.or_eq_some_iff.2 (.inl hc)
  · intro c hc
    rw [trim, trimEnd_eq, List.getLast?_reverse] at hc
    exact head_trimStart _ c hc

theorem trimStart_append_of_blank {front : List Char} (h : ∀ c ∈ front, isBlank c = true) :
    trimStart (front ++ cs) = trimStart cs := by
  induction front with
  | nil => rfl
  | cons c front ih =>
    obtain ⟨hc, hfront⟩ := List.forall_mem_cons.1 h
    rw [List.cons_append, trimStart_cons_blank _ hc, ih hfront]

/-- What follows a text that does not end with a blank is all that loses blanks at the end. -/
theorem trimEnd_append (h : ∀ c ∈ cs.getLast?, isBlank c = false) (ds : List Char) :
    trimEnd (cs ++ ds) = cs ++ trimEnd ds := by
  have hhead : ∀ c ∈ cs.reverse.head?, isBlank c = false := by
    rw [List.head?_reverse]
    exact h
  rw [trimEnd_eq, trimEnd_eq, List.reverse_append, trimStart, List.dropWhile_append]
  split
  · rename_i hnil
    rw [List.isEmpty_iff] at hnil
    rw [trimStart, hnil, ← trimStart, trimStart_eq_self hhead]
    simp
  · rw [List.reverse_append, List.reverse_reverse, trimStart]

/-- Blanks around a trimmed text are all that trimming drops. -/
theorem trim_surrounded (front back : List Char) (hf : ∀ c ∈ front, isBlank c = true)
    (hb : ∀ c ∈ back, isBlank c = true) (h : IsTrimmed cs) (hne : cs ≠ []) :
    trim (front ++ (cs ++ back)) = cs := by
  have hhead : ∀ c ∈ (cs ++ back).head?, isBlank c = false := by
    obtain ⟨c, cs, rfl⟩ := List.exists_cons_of_ne_nil hne
    exact h.head
  have hback : ∀ c ∈ back.reverse, isBlank c = true := fun c hc => hb c (List.mem_reverse.1 hc)
  have hlast : ∀ c ∈ cs.reverse.head?, isBlank c = false := by
    rw [List.head?_reverse]
    exact h.last
  rw [trim, trimStart_append_of_blank hf, trimStart_eq_self hhead, trimEnd_eq,
    List.reverse_append, trimStart_append_of_blank hback, trimStart_eq_self hlast,
    List.reverse_reverse]

theorem IsTrimmed.append (hc : IsTrimmed cs) (middle : List Char) (hcs : cs ≠ [])
    (hd : IsTrimmed ds) (hds : ds ≠ []) : IsTrimmed (cs ++ (middle ++ ds)) := by
  constructor
  · obtain ⟨c, cs, rfl⟩ := List.exists_cons_of_ne_nil hcs
    exact hc.head
  · obtain ⟨front, last, rfl⟩ := (List.eq_nil_or_concat ds).resolve_left hds
    rw [← List.append_assoc, List.concat_eq_append, ← List.append_assoc, List.getLast?_concat]
    rw [List.concat_eq_append] at hd
    simpa using hd.last

/-! ## Lower case and pieces -/

theorem isMark_of_isBlank {c : Char} (h : isBlank c = true) : isMark c = true := by
  simp [isMark, h]

theorem KeepsMarks.isTrimmed (h : KeepsMarks cs ds) (ht : IsTrimmed cs) : IsTrimmed ds := by
  constructor
  · intro c hc
    rw [← Bool.not_eq_true]
    intro hb
    have := ht.head c (h.head? (isMark_of_isBlank hb) hc)
    rw [hb] at this
    cases this
  · intro c hc
    rw [← Bool.not_eq_true]
    intro hb
    have := ht.last c (h.getLast? (isMark_of_isBlank hb) hc)
    rw [hb] at this
    cases this

variable {separator : Char} {piece : List Char}

theorem pieces_cons_of_ne {c : Char} (h : c ≠ separator) (cs : List Char) :
    ∃ p ps, pieces separator cs = p :: ps ∧ pieces separator (c :: cs) = (c :: p) :: ps := by
  obtain ⟨p, ps, hp⟩ := List.exists_cons_of_ne_nil (pieces_ne_nil separator cs)
  exact ⟨p, ps, hp, by rw [pieces, if_neg h, hp]⟩

theorem prefix_of_pieces {rest : List (List Char)} (h : pieces separator cs = piece :: rest) :
    piece <+: cs := by
  induction cs generalizing piece rest with
  | nil =>
    cases h
    exact List.prefix_refl []
  | cons c cs ih =>
    by_cases hc : c = separator
    · rw [pieces, if_pos hc] at h
      cases h
      exact List.nil_prefix
    · obtain ⟨p, ps, hp, hcons⟩ := pieces_cons_of_ne hc cs
      rw [hcons] at h
      cases h
      exact List.cons_prefix_cons.2 ⟨rfl, ih hp⟩

theorem infix_of_mem_pieces (h : piece ∈ pieces separator cs) : piece <:+: cs := by
  induction cs with
  | nil =>
    obtain rfl := List.mem_singleton.1 h
    exact List.infix_refl []
  | cons c cs ih =>
    by_cases hc : c = separator
    · rw [pieces, if_pos hc] at h
      rcases List.mem_cons.1 h with rfl | h
      · exact List.nil_infix
      · exact List.infix_cons (ih h)
    · obtain ⟨p, ps, hp, hcons⟩ := pieces_cons_of_ne hc cs
      rw [hcons] at h
      rcases List.mem_cons.1 h with rfl | h
      · exact (prefix_of_pieces hcons).isInfix
      · exact List.infix_cons (ih (hp ▸ List.mem_cons_of_mem p h))

theorem not_mem_of_mem_pieces (h : piece ∈ pieces separator cs) : separator ∉ piece := by
  induction cs generalizing piece with
  | nil =>
    rw [List.mem_singleton.1 h]
    exact List.not_mem_nil
  | cons c cs ih =>
    by_cases hc : c = separator
    · rw [pieces, if_pos hc] at h
      rcases List.mem_cons.1 h with rfl | h
      · exact List.not_mem_nil
      · exact ih h
    · obtain ⟨p, ps, hp, hcons⟩ := pieces_cons_of_ne hc cs
      rw [hcons] at h
      rcases List.mem_cons.1 h with rfl | h
      · rw [List.mem_cons, not_or]
        exact ⟨Ne.symm hc, ih (hp ▸ List.mem_cons_self)⟩
      · exact ih (hp ▸ List.mem_cons_of_mem p h)

end PromptRules.Text
