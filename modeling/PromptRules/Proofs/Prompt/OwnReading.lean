import PromptRules.Proofs.Data.Outcome
import PromptRules.Proofs.Memo.Transparency
import PromptRules.Proofs.Prompt.PlainIssues

/-!
# Checks that read the contents themselves

A check may read contents itself, without a memory, and reading one can fail. It reads the
content of the prompt and the contents of the other prompts that matter, and no more. If all of
these can be read, it raises the issues of a plain lookup; if not, it fails.

Results:
* `annotate_of_read`, `isOk_of_annotate`: what is read for a list of prompts.
* `issuesOf_eq_ok_iff`: when a check raises issues, and which.
* `eq_issuesBy_of_ok`: the issues that a check raises are those of a plain lookup.
-/

namespace PromptRules.Activation

open Data Directive

variable {ε : Type} {read : Lookup (Except ε)} {D : String → Directives} {p : Prompt}
  {ps : List Prompt}

/-! ## Reading for a list of prompts -/

theorem annotate_of_read (h : ∀ o ∈ ps, read o.content = .ok (D o.content)) :
    annotate read ps = .ok (ps.map fun o => (o, D o.content)) := by
  induction ps with
  | nil => rfl
  | cons p ps ih =>
    rw [List.forall_mem_cons] at h
    rw [annotate_cons, h.1, ih h.2]
    rfl

theorem isOk_of_annotate {answers : List (Prompt × Directives)}
    (h : annotate read ps = .ok answers) : ∀ o ∈ ps, (read o.content).isOk = true := by
  induction ps generalizing answers with
  | nil => exact fun o ho => absurd ho List.not_mem_nil
  | cons p ps ih =>
    rw [annotate_cons] at h
    obtain ⟨d, hd, h⟩ := bind_eq_ok_iff.1 h
    obtain ⟨rest, hrest, _⟩ := bind_eq_ok_iff.1 h
    rw [List.forall_mem_cons, hd]
    exact ⟨rfl, ih hrest⟩

/-! ## Reading for a check -/

theorem rawIssues_of_read (h : ∀ q ∈ p :: others p ps, read q.content = .ok (D q.content)) :
    rawIssues read p ps = .ok (rawIssuesBy D p ps) := by
  rw [List.forall_mem_cons] at h
  have hothers : annotate read (others p ps) = .ok (around D p ps) := annotate_of_read h.2
  have hlimit : ∀ limit, askFor read p ps limit = .ok (answerFor limit (around D p ps)) := by
    intro limit
    cases limit with
    | none => rfl
    | some c => exact hothers
  rw [rawIssues_eq, h.1, hothers]
  show (do
    let forCategory ← askFor read p ps (declaredLimit (D p.content) .maxOnePerCategory)
    let forGroup ← askFor read p ps (declaredLimit (D p.content) .mutualExclusiveGroup)
    let forConflict ← Except.ok (around D p ps)
    return assemble p (D p.content) ps (around D p ps) forCategory forGroup forConflict) = _
  rw [hlimit, hlimit]
  exact congrArg Except.ok (assemble_answerFor p (D p.content) ps (around D p ps))

theorem isOk_of_rawIssues {issues : List Issue} (h : rawIssues read p ps = .ok issues) :
    ∀ q ∈ p :: others p ps, (read q.content).isOk = true := by
  rw [rawIssues_eq] at h
  obtain ⟨d, hd, h⟩ := bind_eq_ok_iff.1 h
  obtain ⟨answers, hanswers, _⟩ := bind_eq_ok_iff.1 h
  rw [List.forall_mem_cons, hd]
  exact ⟨rfl, isOk_of_annotate hanswers⟩

/-- The contents that a check reads are not empty. -/
theorem read_eq_reading (hc : p.content ≠ "")
    (h : ∀ q ∈ p :: others p ps, (read q.content).isOk = true) :
    ∀ q ∈ p :: others p ps, read q.content = .ok (Memo.reading read q.content) := by
  intro q hq
  have hne : q.content ≠ "" := by
    rcases List.mem_cons.1 hq with rfl | hq
    · exact hc
    · exact (others_mem_iff.1 hq).2.2.1
  have hok := h q hq
  cases hr : read q.content with
  | error e =>
    rw [hr] at hok
    cases hok
  | ok d => rw [Memo.reading_of_ok hne hr]

/-- A check of a known prompt with a content raises issues if what it reads can be read, and then
    those of a plain lookup. -/
theorem issuesOf_eq_ok_iff {identifier : String} (hp : Prompt.find? ps identifier = some p)
    (hc : p.content ≠ "") {issues : List Issue} :
    issuesOf read identifier ps = .ok issues ↔
      (∀ q ∈ p :: others p ps, (read q.content).isOk = true) ∧
        issues = issuesBy (Memo.reading read) identifier ps := by
  have hcontent : p.hasContent = true := by simpa [Prompt.hasContent] using hc
  have hcheck : issuesOf read identifier ps =
      (rawIssues read p ps >>= fun raw => return Issue.collapse raw) := by
    unfold issuesOf
    rw [hp]
    exact if_pos hcontent
  rw [hcheck, issuesBy_of_find _ hp hc]
  constructor
  · intro h
    obtain ⟨raw, hraw, h⟩ := bind_eq_ok_iff.1 h
    have hok := isOk_of_rawIssues hraw
    rw [rawIssues_of_read (read_eq_reading hc hok), Except.ok.injEq] at hraw
    rw [hraw]
    exact ⟨hok, (Except.ok.inj h).symm⟩
  · intro h
    rw [rawIssues_of_read (read_eq_reading hc h.1), h.2]
    rfl

theorem eq_issuesBy_of_ok {identifier : String} {issues : List Issue}
    (h : issuesOf read identifier ps = .ok issues) :
    issues = issuesBy (Memo.reading read) identifier ps := by
  by_cases hc : ∀ q ∈ Prompt.find? ps identifier, q.content = ""
  · -- Against an unknown prompt, or one without content, no lookup raises anything.
    have hnil : issuesBy (Memo.reading read) identifier ps = [] := by
      rw [← issuesOf_id]
      exact issuesOf_eq_nil (m := Id) (Memo.reading read) hc
    rw [issuesOf_eq_nil read hc] at h
    rw [hnil]
    exact (Except.ok.inj h).symm
  · simp only [Classical.not_forall] at hc
    obtain ⟨p, hp, hc⟩ := hc
    exact ((issuesOf_eq_ok_iff hp hc).1 h).2

end PromptRules.Activation
