import Mathlib.Data.List.TakeWhile
import PromptRules.Proofs.Directive.KeywordTables
import PromptRules.Proofs.Directive.OwnComments
import PromptRules.Proofs.Text.Pattern

/-!
# Keywords as whole tokens

A comment is matched by a pattern: an at sign, a word, and blanks with a value behind them or
nothing. The word is then looked up in the table of all specifications. Although the pattern may
give characters of a word or of a value back, it matches in one way only, with the word that ends
at the first blank or with the comment. So a comment names a keyword iff the keyword is its first
token, and never by a part of a longer one.

Results:
* `first?_valuePattern`, `first?_endPattern_of_not_blank`: what may stand behind a word.
* `first?_commentPattern_of_word`, `exists_word_of_first?`: the comments that match the pattern.
* `ofLine?_whole`: the comments that name a row, with the text behind its keyword, and the same by
  the pattern and the table.
-/

namespace PromptRules.Directive

open Data Text Comment

/-! ## Words and what follows them -/

/-- The characters of a word behind its first letter. -/
def isWordChar (c : Char) : Bool := c.isAlphanum || c == '-'

/-- A letter with letters, digits and hyphens behind it. -/
def IsWord (word : List Char) : Prop :=
  ∃ c cs, word = c :: cs ∧ c.isAlpha = true ∧ ∀ d ∈ cs, isWordChar d = true

/-- A letter and all that belongs to its word. -/
def wordPattern : Pattern := .seq (.one Char.isAlpha) (.many isWordChar)

/-- A blank and more of them, and everything behind, which is kept. -/
def valuePattern : Pattern :=
  .seq (.one isBlank) (.seq (.many isBlank) (.kept (.many fun _ => true)))

/-- A value or nothing, and the end. -/
def endPattern : Pattern := .seq (.option valuePattern) .ending

/-- An at sign, a word, which is kept, and a value or nothing up to the end. -/
def commentPattern : Pattern := .seq (.one (· == '@')) (.seq (.kept wordPattern) endPattern)

variable {c : Char} {cs word rest : List Char}

/-- There is no blank above the space and below `0x85`. -/
theorem isBlank_of_between {lo hi : Char} (hlo : lo ≤ c) (hhi : c ≤ hi) (hlow : 33 ≤ lo.toNat)
    (hhigh : hi.toNat ≤ 132) : isBlank c = false := by
  have hmin : lo.toNat ≤ c.toNat := hlo
  have hmax : c.toNat ≤ hi.toNat := hhi
  simp [isBlank]
  omega

theorem isBlank_of_isWordChar (h : isWordChar c = true) : isBlank c = false := by
  have hkinds : ((c.isUpper = true ∨ c.isLower = true) ∨ c.isDigit = true) ∨ c = '-' := by
    rw [isWordChar, Bool.or_eq_true, beq_iff_eq] at h
    rw [← Bool.or_eq_true, ← Bool.or_eq_true]
    exact h
  rcases hkinds with ((hupper | hlower) | hdigit) | rfl
  · obtain ⟨hlo, hhi⟩ : 'A' ≤ c ∧ c ≤ 'Z' := of_decide_eq_true hupper
    exact isBlank_of_between hlo hhi (by decide) (by decide)
  · obtain ⟨hlo, hhi⟩ := Bool.and_eq_true_iff.1 hlower
    exact isBlank_of_between (of_decide_eq_true hlo) (of_decide_eq_true hhi) (by decide) (by decide)
  · obtain ⟨hlo, hhi⟩ := Bool.and_eq_true_iff.1 hdigit
    exact isBlank_of_between (of_decide_eq_true hlo) (of_decide_eq_true hhi) (by decide) (by decide)
  · rfl

theorem isWordChar_of_isAlpha (h : c.isAlpha = true) : isWordChar c = true := by
  have hletter : c.isAlphanum = true := Bool.or_eq_true_iff.2 (.inl h)
  exact Bool.or_eq_true_iff.2 (.inl hletter)

theorem IsWord.isBlank (h : IsWord word) : ∀ c ∈ word, isBlank c = false := by
  obtain ⟨c, cs, rfl, hc, hcs⟩ := h
  exact List.forall_mem_cons.2
    ⟨isBlank_of_isWordChar (isWordChar_of_isAlpha hc), fun d hd => isBlank_of_isWordChar (hcs d hd)⟩

theorem isWord_of_mem_rows : ∀ r ∈ rows, IsWord r.spec.keyword.toList := by
  have hall : ∀ r ∈ rows, r.spec.keyword.toList.head?.any Char.isAlpha = true ∧
      r.spec.keyword.toList.tail.all isWordChar = true := by
    decide
  intro r hr
  obtain ⟨hhead, htail⟩ := hall r hr
  cases hword : r.spec.keyword.toList with
  | nil =>
    rw [hword] at hhead
    cases hhead
  | cons c cs =>
    rw [hword] at hhead htail
    exact ⟨c, cs, rfl, by simpa using hhead, List.all_eq_true.1 htail⟩

theorem first?_valuePattern (hc : isBlank c = true) (cs : List Char) :
    valuePattern.first? (c :: cs) = some ⟨c :: cs, [trimStart cs], []⟩ := by
  have hall : (Pattern.kept (.many fun _ => true)).first? (trimStart cs) =
      some ⟨trimStart cs, [trimStart cs], []⟩ := by
    rw [Pattern.first?_kept, Pattern.first?_many, List.takeWhile_eq_self_iff.2 fun _ _ => rfl,
      List.dropWhile_eq_nil_iff.2 fun _ _ => rfl]
    rfl
  have hblanks := Pattern.first?_seq (Pattern.first?_many isBlank cs) hall
  rw [valuePattern, Pattern.first?_seq (Pattern.first?_one hc cs) hblanks]
  simp [Reading.behind, trimStart]

theorem readings_valuePattern_of_not_blank (h : ∀ c ∈ cs.head?, isBlank c = false) :
    valuePattern.readings cs = [] :=
  Pattern.readings_seq_eq_nil (Pattern.readings_one_eq_nil h)

theorem first?_endPattern_of_blank (hc : isBlank c = true) (cs : List Char) :
    endPattern.first? (c :: cs) = some ⟨c :: cs, [trimStart cs], []⟩ := by
  have hending : Pattern.ending.first? [] = some (.nothing []) := rfl
  rw [endPattern, Pattern.first?_seq (Pattern.first?_option (first?_valuePattern hc cs)) hending]
  simp [Reading.behind, Reading.nothing]

theorem first?_endPattern_of_not_blank (hc : isBlank c = false) (cs : List Char) :
    endPattern.first? (c :: cs) = none := by
  have hvalue : valuePattern.readings (c :: cs) = [] :=
    readings_valuePattern_of_not_blank (by rintro _ ⟨⟩; exact hc)
  have hending : Pattern.ending.first? (c :: cs) = none := by
    rw [Pattern.first?, Pattern.readings, if_neg]
    · rfl
    · rintro (h | h)
      · cases h
      · cases h
        cases hc
  rw [endPattern, Pattern.first?_seq_eq, Pattern.readings, hvalue, List.nil_append,
    List.findSome?_singleton, Reading.nothing, hending]
  rfl

/-! ## The match of a comment -/

/-- A word takes all the characters that belong to it first, and gives back what belongs to it. -/
theorem exists_readings_word (hc : c.isAlpha = true) (cs : List Char) :
    ∃ others, (Pattern.kept wordPattern).readings (c :: cs) =
        ⟨c :: cs.takeWhile isWordChar, [c :: cs.takeWhile isWordChar], cs.dropWhile isWordChar⟩ ::
          others ∧
      ∀ r ∈ others, ∃ d ∈ r.rest.head?, isWordChar d = true := by
  obtain ⟨shorter, hsplits, hshorter⟩ := Pattern.exists_splits isWordChar cs
  rw [wordPattern]
  simp only [Pattern.readings, if_pos hc, List.flatMap_singleton, hsplits, List.map_cons]
  refine ⟨_, rfl, ?_⟩
  simp only [List.forall_mem_map]
  exact hshorter

theorem first?_commentPattern (hc : c.isAlpha = true) (cs : List Char) :
    (commentPattern.first? ('@' :: c :: cs)).map Reading.kept =
      (endPattern.first? (cs.dropWhile isWordChar)).map fun r =>
        (c :: cs.takeWhile isWordChar) :: r.kept := by
  obtain ⟨others, hword, hothers⟩ := exists_readings_word hc cs
  have hnone : ∀ r ∈ others, endPattern.first? r.rest = none := by
    intro r hr
    obtain ⟨d, hd, hdword⟩ := hothers r hr
    obtain ⟨rest, hrest⟩ := List.head?_eq_some_iff.1 hd
    rw [hrest]
    exact first?_endPattern_of_not_blank (isBlank_of_isWordChar hdword) rest
  have hat : (Pattern.one (· == '@')).readings ('@' :: c :: cs) = [⟨['@'], [], c :: cs⟩] := rfl
  rw [commentPattern, Pattern.first?_seq_of_greedy hat (List.forall_mem_nil _),
    Pattern.first?_seq_of_greedy hword hnone, Option.map_map, Option.map_map]
  rfl

/-- What a comment keeps of what stands behind its word: the value, if anything stands there. -/
def valueBehind (rest : List Char) : List (List Char) := if rest = [] then [] else [trimStart rest]

theorem first?_endPattern (h : ∀ c ∈ rest.head?, isBlank c = true) :
    (endPattern.first? rest).map Reading.kept = some (valueBehind rest) := by
  cases rest with
  | nil => rfl
  | cons c cs =>
    have hc : isBlank c = true := h c rfl
    rw [first?_endPattern_of_blank hc, valueBehind, if_neg (List.cons_ne_nil c cs),
      trimStart_cons_blank cs hc]
    rfl

/-- A comment with a word in front that ends at a blank or at the end matches with this word. -/
theorem first?_commentPattern_of_word (hword : IsWord word)
    (hrest : ∀ c ∈ rest.head?, isBlank c = true) :
    (commentPattern.first? ('@' :: (word ++ rest))).map Reading.kept =
      some (word :: valueBehind rest) := by
  obtain ⟨c, cs, rfl, hc, hcs⟩ := hword
  have hrest' : ∀ d ∈ rest.head?, isWordChar d = false := by
    intro d hd
    rw [← Bool.not_eq_true]
    intro hdword
    have hblank := hrest d hd
    rw [isBlank_of_isWordChar hdword] at hblank
    cases hblank
  have hsplit : (cs ++ rest).takeWhile isWordChar = cs ∧
      (cs ++ rest).dropWhile isWordChar = rest := by
    rw [List.takeWhile_append_of_pos hcs, List.dropWhile_append_of_pos hcs]
    cases rest with
    | nil => exact ⟨List.append_nil cs, rfl⟩
    | cons d rest =>
      have hd : ¬ isWordChar d = true := by simp [hrest' d rfl]
      rw [List.takeWhile_cons_of_neg hd, List.dropWhile_cons_of_neg hd, List.append_nil]
      exact ⟨rfl, rfl⟩
  have hkept := congrArg (Option.map ((c :: cs) :: ·)) (first?_endPattern hrest)
  rw [Option.map_map] at hkept
  rw [List.cons_append, first?_commentPattern hc, hsplit.1, hsplit.2]
  exact hkept

theorem exists_front_of_first? {r : Reading} (h : commentPattern.first? cs = some r) :
    ∃ c ds, cs = '@' :: c :: ds ∧ c.isAlpha = true := by
  cases cs with
  | nil => cases h
  | cons a cs =>
    by_cases ha : a = '@'
    · subst ha
      have hat : (Pattern.one (· == '@')).readings ('@' :: cs) = [⟨['@'], [], cs⟩] := rfl
      rw [commentPattern, Pattern.first?_seq_of_greedy hat (List.forall_mem_nil _)] at h
      cases cs with
      | nil => cases h
      | cons c ds =>
        by_cases hc : c.isAlpha = true
        · exact ⟨c, ds, rfl, hc⟩
        · have hword : wordPattern.readings (c :: ds) = [] := by
            refine Pattern.readings_seq_eq_nil (Pattern.readings_one_eq_nil ?_)
            rintro _ ⟨⟩
            simpa using hc
          have hkept : (Pattern.kept wordPattern).readings (c :: ds) = [] := by
            rw [Pattern.readings, hword, List.map_nil]
          rw [Pattern.first?, Pattern.readings_seq_eq_nil hkept] at h
          cases h
    · have hat : (Pattern.one (· == '@')).readings (a :: cs) = [] := by
        refine Pattern.readings_one_eq_nil ?_
        rintro _ ⟨⟩
        simpa using ha
      rw [Pattern.first?, commentPattern, Pattern.readings_seq_eq_nil hat] at h
      cases h

/-- A comment that matches has such a word in front. -/
theorem exists_word_of_first? {r : Reading} (h : commentPattern.first? cs = some r) :
    ∃ word rest, cs = '@' :: (word ++ rest) ∧ IsWord word ∧
      (∀ c ∈ rest.head?, isBlank c = true) ∧ r.kept = word :: valueBehind rest := by
  obtain ⟨c, ds, rfl, hc⟩ := exists_front_of_first? h
  have hword : IsWord (c :: ds.takeWhile isWordChar) :=
    ⟨c, _, rfl, hc, List.all_eq_true.1 List.all_takeWhile⟩
  have hfirst := first?_commentPattern hc ds
  rw [h] at hfirst
  have hrest : ∀ d ∈ (ds.dropWhile isWordChar).head?, isBlank d = true := by
    intro d hd
    obtain ⟨rest, hrest⟩ := List.head?_eq_some_iff.1 hd
    rw [← Bool.not_eq_false]
    intro hblank
    rw [hrest, first?_endPattern_of_not_blank hblank] at hfirst
    cases hfirst
  have hsplit : c :: ds = c :: ds.takeWhile isWordChar ++ ds.dropWhile isWordChar := by
    rw [List.cons_append, List.takeWhile_append_dropWhile]
  have hkept := first?_commentPattern_of_word hword hrest
  rw [← hsplit, h] at hkept
  exact ⟨_, _, congrArg ('@' :: ·) hsplit, hword, hrest, Option.some.inj hkept⟩

/-! ## The comments that name a keyword -/

/-- The specification that a table has for the word of a comment, with the value behind it; the
    value is empty if nothing stands there. -/
def matched? (table : List (String × Spec)) (line : String) : Option (Spec × String) :=
  (commentPattern.first? line.toList).bind fun r =>
    (Assoc.get? table (String.ofList (r.kept.headD []))).map fun spec =>
      (spec, String.ofList (r.kept.getD 1 []))

theorem ofList_valueBehind (word rest : List Char) :
    String.ofList ((word :: valueBehind rest).getD 1 []) = String.ofList (trimStart rest) := by
  unfold valueBehind
  split
  · rename_i h
    rw [h]
    rfl
  · rfl

theorem ofLine?_eq_some_iff_mem {line raw : String} {r : Row} :
    Row.ofLine? line = some (r, raw) ↔ r ∈ rows ∧ ∃ rest,
      line.toList = '@' :: (r.spec.keyword.toList ++ rest) ∧
      (∀ c ∈ rest.head?, isBlank c = true) ∧ String.ofList (trimStart rest) = raw := by
  constructor
  · intro h
    have hr := Directives.mem_rows_of_ofLine? h
    exact ⟨hr, textBehind?_eq_some_iff.1 ((ofLine?_eq_some_iff hr).1 h)⟩
  · rintro ⟨hr, hraw⟩
    exact (ofLine?_eq_some_iff hr).2 (textBehind?_eq_some_iff.2 hraw)

/-- **The pattern and the table together give what a comment names.** -/
theorem matched?_byKeyword (line : String) :
    matched? (byKeyword Directive.specs) line =
      (Row.ofLine? line).map fun found => (found.1.spec, found.2) := by
  unfold matched?
  cases hfirst : commentPattern.first? line.toList with
  | none =>
    cases hline : Row.ofLine? line with
    | none => rfl
    | some found =>
      obtain ⟨hr, rest, htext, hrest, -⟩ := ofLine?_eq_some_iff_mem.1 hline
      have hmatch := first?_commentPattern_of_word (isWord_of_mem_rows _ hr) hrest
      rw [← htext, hfirst] at hmatch
      cases hmatch
  | some found =>
    obtain ⟨word, rest, htext, hword, hrest, hkept⟩ := exists_word_of_first? hfirst
    rw [ofLine?_of_token htext hword.isBlank hrest, Option.map_map, Option.bind_some, hkept,
      ofList_valueBehind, List.headD_cons, get?_byKeyword_specs, Option.map_map]
    rfl

/-- **A comment names a keyword iff the keyword is its first token.** An at sign and the keyword
    stand in front of it and a blank or nothing follows; the text behind the keyword is what
    follows, without the blanks in front. Any other comment names none, so that no keyword captures
    a longer or another first token. A match of the pattern with the word looked up in the table
    finds the same. -/
theorem ofLine?_whole (line : String) :
    (∀ r raw, Row.ofLine? line = some (r, raw) ↔ r ∈ rows ∧ ∃ rest,
      line.toList = '@' :: (r.spec.keyword.toList ++ rest) ∧
      (∀ c ∈ rest.head?, isBlank c = true) ∧ String.ofList (trimStart rest) = raw) ∧
    (Row.ofLine? line = none ↔ ∀ r ∈ rows, ∀ rest,
      line.toList = '@' :: (r.spec.keyword.toList ++ rest) → ∃ c ∈ rest.head?, isBlank c = false) ∧
    ∃ table, index Directive.specs = .ok table ∧
      (Row.ofLine? line).map (fun found => (found.1.spec, found.2)) = matched? table line := by
  refine ⟨fun r raw => ofLine?_eq_some_iff_mem, ?_, ?_⟩
  · constructor
    · intro hnone r hr rest htext
      by_contra hno
      have hrest : ∀ c ∈ rest.head?, isBlank c = true := by simpa using hno
      have hsome := ofLine?_eq_some_iff_mem.2 ⟨hr, rest, htext, hrest, rfl⟩
      cases hnone.symm.trans hsome
    · intro hno
      cases hline : Row.ofLine? line with
      | none => rfl
      | some found =>
        obtain ⟨hr, rest, htext, hrest, -⟩ := ofLine?_eq_some_iff_mem.1 hline
        obtain ⟨c, hc, hblank⟩ := hno _ hr rest htext
        cases (hrest c hc).symm.trans hblank
  · exact ⟨_, index_eq_ok_iff.2 ⟨unambiguous_specs, rfl⟩, (matched?_byKeyword line).symm⟩

/-- A space that is no ASCII one and a line break at the end, a keyword that begins with another
    one, and two that are none. -/
example :
    (["@requires\u2002a\n", "@requires-message a", "@requires-messages a", "@requires,a"].map
      fun line => (Row.ofLine? line).map fun found => (found.1.spec.keyword, found.2)) =
      [some ("requires", "a\n"), some ("requires-message", "a"), none, none] := by
  decide

end PromptRules.Directive
