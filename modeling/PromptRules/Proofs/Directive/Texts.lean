import PromptRules.Directive.Directives
import PromptRules.Proofs.Data.Outcome
import PromptRules.Proofs.Text.LowerCase

/-!
# What a content can say

A content is read comment by comment, so what holds of nothing said, and is kept by each
value that a row of the keyword table reads, holds of everything a content says. One such
property is that texts are not empty: only the advice about a deprecated prompt may be.

Results:
* `ofContent_induction`: what holds at the start and is kept by every value holds at the end;
  `ofContent_induction_comments` also tells the comment that says the value.
* `text_ne_empty`: no text is empty but the advice about a deprecated prompt.
-/

namespace PromptRules

/-! ## Reading comment by comment -/

namespace Directive

/-- A comment block with this inner text. -/
def Comment.block (text : String) : String := "\x7b\x7b// " ++ text ++ "\x7d\x7d"

namespace Directives

variable {P : Directives → Prop}

theorem mem_rows_of_ofLine? {line raw : String} {r : Row} (h : Row.ofLine? line = some (r, raw)) :
    r ∈ rows := by
  unfold Row.ofLine? at h
  split at h
  · obtain ⟨r', hr', heq⟩ := Option.map_eq_some_iff.1 h
    cases heq
    exact List.mem_of_find?_eq_some hr'
  · cases h

theorem keep_addComment {d d' : Directives} {line : String}
    (hput : ∀ r raw v, Row.ofLine? line = some (r, raw) → r.spec.read raw = .ok (some v) → P d →
      P (d.put r.field v))
    (hd : P d) (h : d.addComment line = .ok d') : P d' := by
  unfold addComment at h
  split at h
  · cases h
    exact hd
  · rename_i r raw hr
    obtain ⟨v, hv, h⟩ := Data.bind_eq_ok_iff.1 h
    cases v with
    | none =>
      cases h
      exact hd
    | some v =>
      cases h
      exact hput r raw v hr hv hd

/-- What holds of nothing said, and is kept by every value that a comment of a content says,
    holds of what the content says. -/
theorem ofContent_induction_comments {content : String} (hempty : P .empty)
    (hput : ∀ d line r raw v, line ∈ Comment.blocks content → Row.ofLine? line = some (r, raw) →
      r.spec.read raw = .ok (some v) → P d → P (d.put r.field v))
    {d : Directives} (h : ofContent content = .ok d) : P d := by
  have hfold : ∀ lines ⊆ Comment.blocks content, ∀ d₀ : Directives, P d₀ →
      lines.foldlM addComment d₀ = .ok d → P d := by
    intro lines
    induction lines with
    | nil =>
      rintro _ d₀ hd ⟨⟩
      exact hd
    | cons line lines ih =>
      intro hsub d₀ hd h
      obtain ⟨hline, hsub⟩ := List.cons_subset.1 hsub
      rw [List.foldlM_cons] at h
      obtain ⟨d₁, hl, h⟩ := Data.bind_eq_ok_iff.1 h
      exact ih hsub d₁ (keep_addComment (fun r raw v => hput d₀ line r raw v hline) hd hl) h
  exact hfold _ (List.Subset.refl _) _ hempty h

/-- What holds of nothing said, and is kept by every value that a row reads, holds of what a
    content says. -/
theorem ofContent_induction (hempty : P .empty)
    (hput : ∀ d r raw v, r ∈ rows → r.spec.read raw = .ok (some v) → P d → P (d.put r.field v))
    {content : String} {d : Directives} (h : ofContent content = .ok d) : P d :=
  ofContent_induction_comments hempty
    (fun d _ r raw v _ hr => hput d r raw v (mem_rows_of_ofLine? hr)) h

/-! ## Texts -/

theorem allowsEmpty_iff {r : Row} (h : r ∈ rows) :
    r.spec.allowsEmpty = true ↔ r.field = .text .deprecated := by
  have hall : ∀ r ∈ rows, r.spec.allowsEmpty = true ↔ r.field = .text .deprecated := by
    decide
  exact hall r h

theorem read_text_ne_empty {spec : Spec} (ha : spec.allowsEmpty = false) {raw s : String}
    (h : spec.read raw = .ok (some (.text s))) : s ≠ "" := by
  unfold Spec.read at h
  split at h
  · cases h
  · rw [Except.ok.injEq, Spec.readText] at h
    split at h
    · cases h
    · rename_i hne
      cases h
      unfold Spec.keep
      split
      · rw [Ne, Text.lower_eq_empty_iff]
        exact fun h => hne ⟨h, ha⟩
      · exact fun h => hne ⟨h, ha⟩
  · rw [Except.ok.injEq, Spec.readList] at h
    split at h <;> cases h
  · obtain ⟨n, -, hn⟩ := Data.map_eq_ok_iff.1 h
    cases n <;> cases hn
  · obtain ⟨w, -, hw⟩ := Data.map_eq_ok_iff.1 h
    cases w <;> cases hw

/-- No text is empty but the advice about a deprecated prompt. -/
theorem text_ne_empty {content : String} {d : Directives} (h : ofContent content = .ok d)
    {f : TextField} (hf : f ≠ .deprecated) : d.text f ≠ some "" := by
  refine ofContent_induction (P := fun d => d.text f ≠ some "") (by rintro ⟨⟩) ?_ h
  intro d r raw v hr hv hd
  obtain ⟨field, spec⟩ := r
  unfold put
  split
  · rename_i g s hg
    simp only
    split
    · rename_i hfg
      subst hfg
      have ha : spec.allowsEmpty = false := by
        rw [← Bool.not_eq_true, allowsEmpty_iff hr, hg]
        exact fun h => hf (by cases h; rfl)
      exact fun h => read_text_ne_empty ha hv (Option.some.inj h)
    · exact hd
  · exact hd
  · exact hd
  · exact hd
  · exact hd
  · exact hd

end Directives

end Directive

end PromptRules
