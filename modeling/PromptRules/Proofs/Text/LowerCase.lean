import PromptRules.Text.Blank
import PromptRules.Text.LowerCase

/-!
# Lower case is stable

The characters that lower case produces are their own lower case, and none of them is a
blank, a comma or a brace that was not there before. Both follow from the runs of the case
table: the images of two runs may overlap, but no image meets a run, and no image meets the
characters that mark where a value ends.

Results:
* `lower_lower`: lower case of lower case changes nothing.
* `keepsMarks_lowerFrom`: blanks, commas and braces are neither created nor moved together.
-/

namespace PromptRules.Text

open Case

/-! ## The case table -/

/-- Whether a run maps the character with this code point. -/
def Case.Run.holds (r : Run) (n : Nat) : Bool :=
  r.low ≤ n && n ≤ r.high && (n - r.low) % r.step == 0

/-- The code point that a run maps a code point to. -/
def Case.Run.image (r : Run) (n : Nat) : Nat := ((n : Int) + r.delta).toNat

/-- The characters that no run maps to, as far as they matter: ASCII but `k`, blanks, the two
    capitals with rules of their own, and what is no character. -/
def unmapped : List (Nat × Nat) :=
  [(0, 0x6A), (0x6C, 0xA0), (0x130, 0x130), (0x3A3, 0x3A3), (0x1680, 0x1680), (0x2000, 0x200A),
   (0x2028, 0x2029), (0x202F, 0x202F), (0x205F, 0x205F), (0x3000, 0x3000), (0xD800, 0xDFFF)]

/-- Whether the image of a run ends before `low` or begins after `high`. -/
def Case.Run.misses (r : Run) (low high : Nat) : Bool :=
  (r.image r.high).blt low || high.blt (r.image r.low)

/-- Whether the image of a run does not meet another run: they are apart, or one of them holds
    the even and the other the odd characters. -/
def Case.Run.avoids (r q : Run) : Bool :=
  r.misses q.low q.high
    || q.step == 2 && (r.step == 2 || r.low == r.high) && (r.image r.low + q.low) % 2 != 0

-- The next three run through the table, the second one through all its pairs.

theorem runs_miss : runs.all (fun r => unmapped.all fun u => r.misses u.1 u.2) = true := by
  decide

theorem runs_avoid : runs.all (fun r => runs.all fun q => r.avoids q) = true := by decide +kernel

theorem runs_bounds :
    runs.all (fun r => 0 ≤ r.low + r.delta && r.high + r.delta < 0x110000) = true := by
  decide

variable {r q : Run} {n : Nat}

theorem Case.Run.image_eq (hmem : r ∈ runs) (hr : r.holds n = true) :
    (r.image n : Int) = n + r.delta ∧ (r.image r.low : Int) = r.low + r.delta ∧
      (r.image r.high : Int) = r.high + r.delta ∧ r.image r.high < 0x110000 := by
  have h := List.all_eq_true.1 runs_bounds r hmem
  simp only [holds, Bool.and_eq_true, decide_eq_true_eq] at h hr
  unfold image
  omega

theorem Case.Run.not_mem_of_misses (hmem : r ∈ runs) (hr : r.holds n = true) {low high : Nat}
    (h : r.misses low high = true) : r.image n < low ∨ high < r.image n := by
  have himage := image_eq hmem hr
  simp only [holds, misses, Bool.and_eq_true, Bool.or_eq_true, decide_eq_true_eq,
    Nat.blt_eq] at hr h
  omega

/-- What a run maps to is mapped by no run. -/
theorem Case.Run.not_holds_image (hmem : r ∈ runs) (hr : r.holds n = true) (hq : q ∈ runs) :
    q.holds (r.image n) = false := by
  have himage := image_eq hmem hr
  have h := List.all_eq_true.1 (List.all_eq_true.1 runs_avoid r hmem) q hq
  rw [← Bool.not_eq_true]
  intro hh
  simp only [avoids, Bool.or_eq_true] at h
  rcases h with h | h
  · have hmiss := not_mem_of_misses hmem hr h
    simp only [holds, Bool.and_eq_true, decide_eq_true_eq] at hh
    omega
  · simp only [holds, Bool.and_eq_true, Bool.or_eq_true, decide_eq_true_eq, beq_iff_eq,
      bne_iff_ne] at hr hh h
    obtain ⟨⟨hq2, hr2⟩, hparity⟩ := h
    rw [hq2] at hh
    rcases hr2 with hr2 | hr2
    · rw [hr2] at hr
      omega
    · have : n = r.low := by omega
      subst this
      omega

/-! ## One character -/

/-- The characters that mark where a value ends, or an item of it. -/
def isMark (c : Char) : Bool := isBlank c || c == ',' || c == '}'

/-- A character that is its own lower case in every context. -/
def IsLow (c : Char) : Prop := lowerChar c = [c] ∧ c ≠ capitalSigma

instance (c : Char) : Decidable (IsLow c) := inferInstanceAs (Decidable (_ ∧ _))

theorem lowerChar_of_holds {c : Char} (hr : runs.find? (·.holds c.toNat) = some r)
    (h1 : ¬ c.toNat < 0x80) (h2 : c.toNat ≠ 0x130) :
    lowerChar c = [Char.ofNat (r.image c.toNat)] := by
  unfold lowerChar
  rw [if_neg h1, if_neg h2]
  unfold Run.holds at hr
  rw [hr]
  rfl

theorem lowerChar_of_not_holds {c : Char} (hr : ∀ r ∈ runs, r.holds c.toNat = false)
    (h1 : ¬ c.toNat < 0x80) (h2 : c.toNat ≠ 0x130) : lowerChar c = [c] := by
  unfold lowerChar
  rw [if_neg h1, if_neg h2]
  have hnone : runs.find? (·.holds c.toNat) = none :=
    List.find?_eq_none.2 fun r h => by simp [hr r h]
  unfold Run.holds at hnone
  rw [hnone]

theorem lowerChar_ascii (n : Fin 0x80) : ∀ x ∈ lowerChar (Char.ofNat n),
    IsLow x ∧ (isMark x = true → lowerChar (Char.ofNat n) = [Char.ofNat n]) := by
  have hall : ∀ n : Fin 0x80, (lowerChar (Char.ofNat n)).all (fun x =>
      decide (IsLow x ∧ (isMark x = true → lowerChar (Char.ofNat n) = [Char.ofNat n]))) = true := by
    decide
  exact fun x hx => of_decide_eq_true (List.all_eq_true.1 (hall n) x hx)

theorem lowerChar_ne_nil (c : Char) : lowerChar c ≠ [] := by
  unfold lowerChar
  split
  · exact List.cons_ne_nil _ _
  · split
    · exact List.cons_ne_nil _ _
    · split <;> exact List.cons_ne_nil _ _

theorem toNat_ofNat_of_isValidChar {m : Nat} (h : m.isValidChar) : (Char.ofNat m).toNat = m := by
  rw [Char.ofNat, dif_pos h]
  rfl

/-- The image of a run is its own lower case, and marks nothing. -/
theorem image_of_holds {c : Char} (hmem : r ∈ runs) (hr : r.holds c.toNat = true) :
    IsLow (Char.ofNat (r.image c.toNat)) ∧ isMark (Char.ofNat (r.image c.toNat)) = false := by
  have himage := Run.image_eq hmem hr
  have hmiss : ∀ u ∈ unmapped, r.image c.toNat < u.1 ∨ u.2 < r.image c.toNat := fun u hu =>
    Run.not_mem_of_misses hmem hr
      (List.all_eq_true.1 (List.all_eq_true.1 runs_miss r hmem) u hu)
  have hnot : ∀ q ∈ runs, q.holds (r.image c.toNat) = false := fun q hq =>
    Run.not_holds_image hmem hr hq
  have hle : c.toNat ≤ r.high := by
    simp only [Run.holds, Bool.and_eq_true, decide_eq_true_eq] at hr
    exact hr.1.2
  have hlt : r.image c.toNat < 0x110000 := by omega
  clear himage hle
  generalize r.image c.toNat = m at hmiss hnot hlt
  simp only [unmapped, List.forall_mem_cons, List.not_mem_nil, false_imp_iff, implies_true,
    and_true] at hmiss
  by_cases hk : m = 0x6B
  · subst hk
    decide
  have hm : (Char.ofNat m).toNat = m :=
    toNat_ofNat_of_isValidChar (by unfold Nat.isValidChar; omega)
  have hne : ∀ x : Char, x.toNat ≤ 0xA0 ∨ x.toNat = 0x3A3 → Char.ofNat m ≠ x := by
    rintro x hx rfl
    omega
  refine ⟨⟨lowerChar_of_not_holds (hm.symm ▸ hnot) (by omega) (by omega), hne _ (by decide)⟩, ?_⟩
  unfold isMark
  rw [beq_eq_false_iff_ne.2 (hne ',' (by decide)), beq_eq_false_iff_ne.2 (hne '}' (by decide)),
    Bool.or_false, Bool.or_false]
  simp [isBlank, hm]
  omega

/-- What a character becomes is its own lower case, and marks nothing unless the character is
    kept as it is. -/
theorem low_of_mem_lowerChar {c x : Char} (hc : c ≠ capitalSigma) (hx : x ∈ lowerChar c) :
    IsLow x ∧ (isMark x = true → lowerChar c = [c]) := by
  by_cases h1 : c.toNat < 0x80
  · have h := lowerChar_ascii ⟨c.toNat, h1⟩
    simp only [Char.ofNat_toNat] at h
    exact h x hx
  by_cases h2 : c.toNat = 0x130
  · have hx' : x = 'i' ∨ x = '\u0307' := by
      simpa [lowerChar, h1, h2] using hx
    obtain ⟨hl, hm⟩ : IsLow x ∧ isMark x = false := by
      rcases hx' with rfl | rfl <;> decide
    exact ⟨hl, fun h => by rw [hm] at h; cases h⟩
  cases hr : runs.find? (·.holds c.toNat) with
  | some r =>
    rw [lowerChar_of_holds hr h1 h2, List.mem_singleton] at hx
    have hholds : r.holds c.toNat = true := by simpa using List.find?_some hr
    obtain ⟨hlow, hmark⟩ := image_of_holds (List.mem_of_find?_eq_some hr) hholds
    subst hx
    exact ⟨hlow, fun h => by rw [hmark] at h; cases h⟩
  | none =>
    have hkeep : lowerChar c = [c] := by
      refine lowerChar_of_not_holds (fun r h => ?_) h1 h2
      simpa using List.find?_eq_none.1 hr r h
    rw [hkeep, List.mem_singleton] at hx
    subst hx
    exact ⟨⟨hkeep, hc⟩, fun _ => hkeep⟩

/-! ## A text -/

variable {before cs : List Char} {x : Char}

/-- What stands for the next character in the lower case of a text. -/
def lowerNext (before : List Char) (c : Char) (after : List Char) : List Char :=
  if c = capitalSigma then [lowerSigma before after] else lowerChar c

theorem lowerFrom_cons (before : List Char) (c : Char) (cs : List Char) :
    lowerFrom before (c :: cs) = lowerNext before c cs ++ lowerFrom (c :: before) cs := rfl

theorem low_of_mem_lowerNext {c : Char} (hx : x ∈ lowerNext before c cs) :
    IsLow x ∧ (isMark x = true → lowerNext before c cs = [c]) := by
  unfold lowerNext at hx ⊢
  split at hx
  · rename_i hc
    have hx' : x = 'ς' ∨ x = 'σ' := by
      rw [List.mem_singleton.1 hx, lowerSigma]
      split <;> simp
    obtain ⟨hl, hm⟩ : IsLow x ∧ isMark x = false := by
      rcases hx' with rfl | rfl <;> decide
    exact ⟨hl, fun h => by rw [hm] at h; cases h⟩
  · rename_i hc
    rw [if_neg hc]
    exact low_of_mem_lowerChar hc hx

theorem isLow_of_mem_lowerFrom (hx : x ∈ lowerFrom before cs) : IsLow x := by
  induction cs generalizing before with
  | nil => cases hx
  | cons c cs ih =>
    rw [lowerFrom_cons, List.mem_append] at hx
    rcases hx with hx | hx
    · exact (low_of_mem_lowerNext hx).1
    · exact ih hx

theorem lowerFrom_of_isLow (h : ∀ x ∈ cs, IsLow x) : lowerFrom before cs = cs := by
  induction cs generalizing before with
  | nil => rfl
  | cons c cs ih =>
    obtain ⟨hc, hcs⟩ := List.forall_mem_cons.1 h
    rw [lowerFrom_cons, lowerNext, if_neg hc.2, hc.1, ih hcs]
    rfl

theorem lowerFrom_eq_nil_iff : lowerFrom before cs = [] ↔ cs = [] := by
  cases cs with
  | nil => exact iff_of_true rfl rfl
  | cons c cs =>
    rw [lowerFrom, List.append_eq_nil_iff]
    split
    · simp
    · simp [lowerChar_ne_nil]

theorem lower_eq_empty_iff {s : String} : lower s = "" ↔ s = "" := by
  rw [lower, String.ofList_eq_empty_iff, lowerFrom_eq_nil_iff, String.toList_eq_nil_iff]

/-- **Lower case of lower case changes nothing.** -/
theorem lower_lower (s : String) : lower (lower s) = lower s := by
  unfold lower
  rw [String.toList_ofList, lowerFrom_of_isLow fun _ => isLow_of_mem_lowerFrom]

/-! ## Marks in a text -/

/-- Every character is kept or becomes characters that mark nothing. -/
inductive KeepsMarks : List Char → List Char → Prop
  | nil : KeepsMarks [] []
  | keep (c : Char) {cs ds : List Char} : KeepsMarks cs ds → KeepsMarks (c :: cs) (c :: ds)
  | change (c : Char) {image cs ds : List Char} : image ≠ [] → (∀ x ∈ image, isMark x = false) →
      KeepsMarks cs ds → KeepsMarks (c :: cs) (image ++ ds)

theorem lowerNext_ne_nil (before : List Char) (c : Char) (cs : List Char) :
    lowerNext before c cs ≠ [] := by
  unfold lowerNext
  split
  · exact List.cons_ne_nil _ _
  · exact lowerChar_ne_nil c

theorem keepsMarks_lowerFrom (before cs : List Char) : KeepsMarks cs (lowerFrom before cs) := by
  induction cs generalizing before with
  | nil => exact .nil
  | cons c cs ih =>
    rw [lowerFrom_cons]
    by_cases hmark : ∃ x ∈ lowerNext before c cs, isMark x = true
    · obtain ⟨x, hx, hm⟩ := hmark
      rw [(low_of_mem_lowerNext hx).2 hm]
      exact .keep c (ih (c :: before))
    · refine .change c (lowerNext_ne_nil before c cs) (fun x hx => ?_) (ih (c :: before))
      rw [← Bool.not_eq_true]
      exact fun hm => hmark ⟨x, hx, hm⟩

namespace KeepsMarks

variable {ds cs' ds' : List Char}

theorem append (h : KeepsMarks cs ds) (h' : KeepsMarks cs' ds') :
    KeepsMarks (cs ++ cs') (ds ++ ds') := by
  induction h with
  | nil => exact h'
  | keep c _ ih => exact .keep c ih
  | change c hne himage _ ih =>
    rw [List.append_assoc]
    exact .change c hne himage ih

theorem reverse (h : KeepsMarks cs ds) : KeepsMarks cs.reverse ds.reverse := by
  induction h with
  | nil => exact .nil
  | keep c _ ih =>
    rw [List.reverse_cons, List.reverse_cons]
    exact ih.append (.keep c .nil)
  | @change c image _ _ hne himage _ ih =>
    rw [List.reverse_cons, List.reverse_append]
    have hlast : KeepsMarks [c] (image.reverse ++ []) :=
      .change c (by simpa using hne) (by simpa using himage) .nil
    rw [List.append_nil] at hlast
    exact ih.append hlast

theorem mem (h : KeepsMarks cs ds) (hm : isMark x = true) (hx : x ∈ ds) : x ∈ cs := by
  induction h with
  | nil => exact hx
  | keep c _ ih =>
    rcases List.mem_cons.1 hx with rfl | hx
    · exact List.mem_cons_self
    · exact List.mem_cons_of_mem c (ih hx)
  | change c _ himage _ ih =>
    rcases List.mem_append.1 hx with hx | hx
    · rw [himage x hx] at hm
      cases hm
    · exact List.mem_cons_of_mem c (ih hx)

theorem head? (h : KeepsMarks cs ds) (hm : isMark x = true) (hx : ds.head? = some x) :
    cs.head? = some x := by
  cases h with
  | nil => exact hx
  | keep c _ => exact hx
  | @change c image _ _ hne himage _ =>
    obtain ⟨y, ys, rfl⟩ := List.exists_cons_of_ne_nil hne
    obtain rfl : y = x := Option.some.inj hx
    rw [himage y List.mem_cons_self] at hm
    cases hm

theorem getLast? (h : KeepsMarks cs ds) (hm : isMark x = true) (hx : ds.getLast? = some x) :
    cs.getLast? = some x := by
  rw [← List.head?_reverse] at hx ⊢
  exact h.reverse.head? hm hx

theorem infix_of_append {image : List Char} (hx : x ∉ image) (h : [x, x] <:+: image ++ ds) :
    [x, x] <:+: ds := by
  induction image with
  | nil => exact h
  | cons y ys ih =>
    rw [List.mem_cons, not_or] at hx
    rcases List.infix_cons_iff.1 h with h | h
    · rw [List.cons_prefix_cons] at h
      exact absurd h.1 hx.1
    · exact ih hx.2 h

/-- A mark that stands twice in a row does so from the start. -/
theorem pair (h : KeepsMarks cs ds) (hm : isMark x = true) (hx : [x, x] <:+: ds) :
    [x, x] <:+: cs := by
  induction h with
  | nil => exact hx
  | keep c h ih =>
    rcases List.infix_cons_iff.1 hx with hpre | hx
    · obtain ⟨rfl, rest, rfl⟩ := List.cons_prefix_cons.1 hpre
      obtain ⟨cs', rfl⟩ := List.head?_eq_some_iff.1 (h.head? hm rfl)
      exact (List.prefix_append [x, x] cs').isInfix
    · exact List.infix_cons (ih hx)
  | change c _ himage _ ih =>
    refine List.infix_cons (ih (infix_of_append ?_ hx))
    intro hmem
    rw [himage x hmem] at hm
    cases hm

end KeepsMarks

end PromptRules.Text
