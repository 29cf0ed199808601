import Mathlib.Data.List.ReduceOption
import PromptRules.Proofs.Directive.RoundTrip

/-!
# What a field says

Every field has a row of its own, and only the comments that name the keyword of the row say
something in it. A list is what the row reads from these comments, joined in their order; any
other field keeps the last value that can be read. Nothing else in a content shows in the field.

Results:
* `ofLine?_eq_some_iff`: a comment names a row iff an at sign and the keyword stand in front of it
  and a blank or nothing follows.
* `exists_gains_addComment`, `exists_gains_foldlM`: what one comment, and what several of them, add
  to a field.
* `field_of_ofContent`: a field says what its own comments say, and nothing else does.
-/

namespace PromptRules.Directive

open Data Decimal Text Comment

/-! ## The comments of a keyword -/

namespace Comment

/-- The text behind a keyword, if a comment names just this keyword: an at sign stands before the
    keyword, and a blank or nothing behind it. -/
def textBehind? (keyword line : String) : Option String :=
  (('@' :: keyword.toList).isPrefixOf? line.toList).bind fun rest =>
    if rest.head?.all isBlank then some (String.ofList (trimStart rest)) else none

/-- The texts behind a keyword in a content, in the order of its comments. -/
def textsBehind (keyword content : String) : List String :=
  (blocks content).filterMap (textBehind? keyword)

theorem textBehind?_eq_some_iff {keyword line raw : String} :
    textBehind? keyword line = some raw ↔
      ∃ rest, line.toList = '@' :: (keyword.toList ++ rest) ∧
        (∀ c ∈ rest.head?, isBlank c = true) ∧ String.ofList (trimStart rest) = raw := by
  unfold textBehind?
  simp only [Option.bind_eq_some_iff, Option.ite_none_right_eq_some, Option.some.injEq,
    List.isPrefixOf?_eq_some_iff_append_eq, List.cons_append, Option.all_eq_true, Option.mem_def,
    eq_comm (b := line.toList)]

end Comment

/-- **A comment names a row iff it names just the keyword of the row.** -/
theorem ofLine?_eq_some_iff {r : Row} (hr : r ∈ rows) {line raw : String} :
    Row.ofLine? line = some (r, raw) ↔ textBehind? r.spec.keyword line = some raw := by
  rw [textBehind?_eq_some_iff]
  constructor
  · intro h
    unfold Row.ofLine? at h
    split at h
    · rename_i cs hline
      obtain ⟨r', hfind, heq⟩ := Option.map_eq_some_iff.1 h
      cases heq
      have hkeyword : r.spec.keyword = String.ofList (cs.takeWhile (!isBlank ·)) := by
        simpa using List.find?_some hfind
      refine ⟨cs.dropWhile (!isBlank ·), ?_, ?_, rfl⟩
      · rw [hline, hkeyword, String.toList_ofList, List.takeWhile_append_dropWhile]
      · intro c hc
        have hhead := List.head?_dropWhile_not (!isBlank ·) cs
        rw [hc] at hhead
        simpa using hhead
    · cases h
  · rintro ⟨rest, hline, hrest, rfl⟩
    rw [ofLine?_of_token hline (fun c hc => (plain_of_mem_keyword hr hc).1) hrest,
      String.ofList_toList, ofKeyword?_keyword hr]
    rfl

/-! ## What a field takes up -/

/-- The kind of a value. -/
def Value.kind : Value → Kind
  | .text _ => .text
  | .list _ => .list
  | .int _ => .int
  | .flag => .flag
  | .range _ => .range

/-- The items of a list. -/
def Value.items : Value → List String
  | .list items => items
  | _ => []

/-- What is read is of the kind that the specification asks for. -/
theorem Spec.kind_of_read {spec : Spec} {raw : String} {v : Value}
    (h : spec.read raw = .ok (some v)) : v.kind = spec.kind := by
  unfold read at h
  split at h
  · rename_i hkind
    cases h
    exact hkind.symm
  · rename_i hkind
    rw [Except.ok.injEq, readText] at h
    split at h
    · cases h
    · cases h
      exact hkind.symm
  · rename_i hkind
    rw [Except.ok.injEq, readList] at h
    split at h
    · cases h
    · cases h
      exact hkind.symm
  · rename_i hkind
    obtain ⟨n, -, h⟩ := map_eq_ok_iff.1 h
    cases n <;> cases h
    exact hkind.symm
  · rename_i hkind
    obtain ⟨w, -, h⟩ := map_eq_ok_iff.1 h
    cases w <;> cases h
    exact hkind.symm

namespace Directives

variable {d d₁ d₂ : Directives} {f g : Field} {vs us : List Value} {r : Row}

/-- From `d` to `d₁` a field has taken up these values: a list has their items joined to its end,
    and any other field keeps the last of them. -/
def Gains (d d₁ : Directives) (vs : List Value) : Field → Prop
  | .list f => d₁.list f = d.list f ++ vs.flatMap Value.items
  | f => d₁.value? f = vs.getLast?.or (d.value? f)

theorem gains_of_eq (h : d₁.value? f = d.value? f) : Gains d d₁ [] f := by
  cases f with
  | list f =>
    simp only [value?] at h
    simp only [Gains, List.flatMap_nil, List.append_nil]
    grind
  | text f => exact h
  | int f => exact h
  | flag f => exact h
  | window => exact h

theorem Gains.trans (h : Gains d d₁ vs f) (h' : Gains d₁ d₂ us f) : Gains d d₂ (vs ++ us) f := by
  cases f with
  | list f =>
    simp only [Gains] at h h' ⊢
    rw [h', h, List.append_assoc, List.flatMap_append]
  | text f | int f | flag f | window =>
    simp only [Gains] at h h' ⊢
    rw [h', h, List.getLast?_append, Option.or_assoc]

theorem Gains.items (h : Gains d d₁ vs f) (hf : f.kind = .list) :
    ∃ g, f = .list g ∧ d₁.list g = d.list g ++ vs.flatMap Value.items := by
  cases f with
  | list g => exact ⟨g, rfl, h⟩
  | text f | int f | flag f | window => cases hf

theorem Gains.last (h : Gains d d₁ vs f) (hf : f.kind ≠ .list) :
    d₁.value? f = vs.getLast?.or (d.value? f) := by
  cases f with
  | list g => exact absurd rfl hf
  | text f | int f | flag f | window => exact h

/-- What a field takes up decides what it says then. -/
theorem Gains.unique (h : Gains d d₁ vs f) (h' : Gains d d₂ vs f) : d₁.value? f = d₂.value? f := by
  cases f with
  | list f =>
    simp only [Gains] at h h'
    simp only [value?, h, h']
  | text f | int f | flag f | window =>
    simp only [Gains] at h h'
    rw [h, h']

theorem gains_put {v : Value} (h : v.kind = f.kind) (d : Directives) :
    Gains d (d.put f v) [v] f := by
  cases f with
  | list f =>
    cases v with
    | list items => simp [Gains, put, Value.items]
    | text s | int n | flag | range w => cases h
  | text f =>
    cases v with
    | text s => simp [Gains, put, value?]
    | list items | int n | flag | range w => cases h
  | int f =>
    cases v with
    | int n => simp [Gains, put, value?]
    | list items | text s | flag | range w => cases h
  | flag f =>
    cases v with
    | flag => simp [Gains, put, value?]
    | list items | text s | int n | range w => cases h
  | window =>
    cases v with
    | range w => simp [Gains, put, value?]
    | list items | text s | int n | flag => cases h

/-- What a row reads is of the kind of its field. -/
theorem gains_read {raw : String} {v : Value} (hr : r ∈ rows)
    (hv : r.spec.read raw = .ok (some v)) (d : Directives) :
    Gains d (d.put r.field v) [v] r.field :=
  gains_put ((Spec.kind_of_read hv).trans (kind_of_mem_rows r hr)) d

/-- A comment that names another row, or none, adds nothing to a field. -/
theorem value?_addComment_of_other {line : String} (hr : r ∈ rows)
    (hline : textBehind? r.spec.keyword line = none) (h : d.addComment line = .ok d₁) :
    d₁.value? r.field = d.value? r.field := by
  refine keep_addComment (P := fun e => e.value? r.field = d.value? r.field) ?_ rfl h
  intro q raw v hq _ hd
  have hne : r.field ≠ q.field := by
    intro heq
    have hqr : r = q := List.inj_on_of_nodup_map nodup_fields hr (mem_rows_of_ofLine? hq) heq
    rw [← hqr, ofLine?_eq_some_iff hr, hline] at hq
    cases hq
  rw [value?_put_of_ne hne, hd]

/-- **What one comment adds to a field**: what the row of the field reads from it, if it names the
    row. -/
theorem exists_gains_addComment {line : String} (hr : r ∈ rows) (h : d.addComment line = .ok d₁) :
    ∃ readings, (textBehind? r.spec.keyword line).toList.mapM r.spec.read = .ok readings ∧
      Gains d d₁ readings.reduceOption r.field := by
  cases hline : textBehind? r.spec.keyword line with
  | none => exact ⟨[], rfl, gains_of_eq (value?_addComment_of_other hr hline h)⟩
  | some raw =>
    rw [addComment, (ofLine?_eq_some_iff hr).2 hline] at h
    simp only at h
    obtain ⟨v, hv, h⟩ := bind_eq_ok_iff.1 h
    refine ⟨[v], by simp [hv, pure, Except.pure, bind, Except.bind], ?_⟩
    cases v with
    | none =>
      cases h
      exact gains_of_eq rfl
    | some v =>
      cases h
      exact gains_read hr hv d

/-- **What several comments add to a field**: what the row of the field reads from those that name
    it, in their order. -/
theorem exists_gains_foldlM {lines : List String} (hr : r ∈ rows)
    (h : lines.foldlM addComment d = .ok d₁) :
    ∃ readings, (lines.filterMap (textBehind? r.spec.keyword)).mapM r.spec.read = .ok readings ∧
      Gains d d₁ readings.reduceOption r.field := by
  rw [List.filterMap_eq_flatMap_toList]
  induction lines generalizing d with
  | nil =>
    cases h
    exact ⟨[], rfl, gains_of_eq rfl⟩
  | cons line lines ih =>
    rw [List.foldlM_cons] at h
    obtain ⟨d', hline, h⟩ := bind_eq_ok_iff.1 h
    obtain ⟨first, hfirst, hgains⟩ := exists_gains_addComment hr hline
    obtain ⟨later, hlater, hgains'⟩ := ih h
    refine ⟨first ++ later, ?_, ?_⟩
    · rw [List.flatMap_cons, List.mapM_append, hfirst, hlater]
      rfl
    · rw [List.reduceOption_append]
      exact hgains.trans hgains'

/-- **A field says what its own comments say, and nothing else does.** The row of the field reads
    every text behind its keyword. A list is what can be read of these joined in the order of the
    comments, and any other field has the last value that can be read, or its default. In two
    contents with the same texts behind the keyword the field says the same. -/
theorem field_of_ofContent {content : String} (h : ofContent content = .ok d) (hr : r ∈ rows) :
    (∃ readings, (textsBehind r.spec.keyword content).mapM r.spec.read = .ok readings ∧
      (r.spec.kind = .list → ∃ f, r.field = .list f ∧
        d.list f = readings.reduceOption.flatMap Value.items) ∧
      (r.spec.kind ≠ .list →
        d.value? r.field = readings.reduceOption.getLast?.or (empty.value? r.field))) ∧
    ∀ content' d', ofContent content' = .ok d' →
      textsBehind r.spec.keyword content' = textsBehind r.spec.keyword content →
      d'.value? r.field = d.value? r.field := by
  obtain ⟨readings, hread, hgains⟩ := exists_gains_foldlM hr h
  have hkind := kind_of_mem_rows r hr
  constructor
  · exact ⟨readings, hread, fun hlist => hgains.items (hkind ▸ hlist),
      fun hother => hgains.last (hkind ▸ hother)⟩
  · intro content' d' h' hsame
    obtain ⟨readings', hread', hgains'⟩ := exists_gains_foldlM hr h'
    have hread'' : (textsBehind r.spec.keyword content').mapM r.spec.read = .ok readings' := hread'
    rw [hsame] at hread''
    obtain rfl : readings' = readings := Except.ok.inj (hread''.symm.trans hread)
    exact hgains'.unique hgains

/-- A content with a list in three parts, one of them without an item, a number given three times,
    once in words, a longer keyword, one in capitals, and one that is no comment. -/
def scattered : String :=
  Comment.block "@requires a" ++ Comment.block "@requires-message b" ++ Comment.block "@requires ,"
    ++ "@requires c " ++ Comment.block "@Requires d" ++ Comment.block "@priority 3"
    ++ Comment.block "@requires f, a" ++ Comment.block "@priority 4 or 5"
    ++ Comment.block "@priority low"

theorem blocks_scattered :
    blocks scattered = ["@requires a", "@requires-message b", "@requires ,", "@Requires d",
      "@priority 3", "@requires f, a", "@priority 4 or 5", "@priority low"] := by
  unfold blocks scattered
  simp only [Comment.block, String.toList_append]
  decide

theorem field_of_ofContent_scattered :
    ∃ d, ofContent scattered = .ok d ∧
      row (.list .requires) "requires" "conflicts" ∈ rows ∧
      textsBehind "requires" scattered = ["a", ",", "f, a"] ∧
      d.list .requires = ["a", "f", "a"] ∧
      row (.int .priority) "priority" "organization" ∈ rows ∧
      textsBehind "priority" scattered = ["3", "4 or 5", "low"] ∧
      d.int .priority = some 4 := by
  let requires := row (.list .requires) "requires" "conflicts"
  let priority := row (.int .priority) "priority" "organization"
  have hrequires : requires ∈ rows := by decide
  have hpriority : priority ∈ rows := by decide
  have htexts : textsBehind requires.spec.keyword scattered = ["a", ",", "f, a"] := by
    rw [textsBehind, blocks_scattered]
    decide
  have hnumbers : textsBehind priority.spec.keyword scattered = ["3", "4 or 5", "low"] := by
    rw [textsBehind, blocks_scattered]
    decide
  have hread : (ofContent scattered).isOk = true := by
    rw [ofContent, blocks_scattered]
    decide
  cases hd : ofContent scattered with
  | error e =>
    rw [hd] at hread
    cases hread
  | ok d =>
    obtain ⟨⟨_, hitems, hlist, _⟩, _⟩ := field_of_ofContent hd hrequires
    obtain ⟨⟨_, hvalues, _, hlast⟩, _⟩ := field_of_ofContent hd hpriority
    rw [htexts] at hitems
    rw [hnumbers] at hvalues
    cases hitems
    cases hvalues
    obtain ⟨_, hfield, hlist⟩ := hlist rfl
    cases hfield
    refine ⟨d, rfl, hrequires, htexts, hlist, hpriority, hnumbers, ?_⟩
    exact Option.map_injective (fun _ _ => Value.int.inj) (hlast (by decide))

end Directives

end PromptRules.Directive
