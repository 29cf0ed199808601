import PromptRules.Proofs.Directive.OwnComments

/-!
# Numbers too long to be read

Reading a content fails in one way only: a comment gives a number with more digits than can be
read, in front of a text where a number is asked for, or at an end of a well-formed window. The
first such comment takes all others of the content with it; anything else that cannot be read is
passed over.

Results:
* `leadingInt?_eq_error_iff`, `Window.read?_eq_error_iff`: which texts fail as a number, and which
  as a window.
* `Spec.read_eq_error_iff`, `addComment_eq_error_iff`: which texts fail for a row, and which
  comments fail.
* `foldlM_addComment_eq_error_iff`: comments fail iff one of them does, and the first one counts.
* `ofContent_fails_iff`: when a content fails, and with what.
-/

namespace PromptRules.Directive

open Decimal Text Comment

/-! ## Long numbers and windows -/

/-- Decimal digits of any script. -/
def AreDigits (cs : List Char) : Prop := ∀ c ∈ cs, (digitValue c).isSome

/-- Blanks only. -/
def AreBlank (cs : List Char) : Prop := ∀ c ∈ cs, isBlank c = true

/-- A text with a number of `n` digits in front, which are too many: behind an optional sign stand
    the digits, and no further digit follows them. -/
def LongNumber (text : List Char) (n : Nat) : Prop :=
  maxDigits < n ∧ ∃ sign digits rest, text = sign ++ (digits ++ rest) ∧
    sign ∈ [[], ['-'], ['+']] ∧ AreDigits digits ∧ digits.length = n ∧
    ∀ c ∈ rest.head?, digitValue c = none

/-- A text that writes a window: its first count, a hyphen with or without blanks around it, and
    its last count or nothing. -/
def WritesWindow (text starts ends : List Char) : Prop :=
  ∃ gap gap', text = starts ++ (gap ++ '-' :: (gap' ++ ends)) ∧ AreBlank gap ∧ AreBlank gap' ∧
    starts ≠ [] ∧ AreDigits starts ∧ AreDigits ends

/-- A text that writes a window of which an end has `n` digits, which are too many. If both ends
    have, the first one counts. -/
def LongWindow (text : List Char) (n : Nat) : Prop :=
  ∃ starts ends, WritesWindow text starts ends ∧
    [starts.length, ends.length].find? (maxDigits < ·) = some n

/-- The text behind a keyword has a number of `n` digits where the row reads one, and these are too
    many. -/
def Spec.Exceeds (spec : Spec) (raw : String) (n : Nat) : Prop :=
  match spec.kind with
  | .int => LongNumber (trim raw.toList) n
  | .range => LongWindow (trim raw.toList) n
  | .text | .list | .flag => False

/-- The comment names a row and gives it a number of `n` digits, which are too many. -/
def Exceeding (line : String) (n : Nat) : Prop :=
  ∃ r ∈ rows, ∃ raw, textBehind? r.spec.keyword line = some raw ∧ r.spec.Exceeds raw n

/-! ## Digits and blanks -/

theorem readNat_eq_error_iff {ds : List Nat} {e : TooManyDigits} :
    readNat ds = .error e ↔ maxDigits < ds.length ∧ ds.length = e.digits := by
  unfold readNat
  split
  · rename_i hle
    exact ⟨by rintro ⟨⟩, fun h => absurd hle (Nat.not_le.2 h.1)⟩
  · rename_i hgt
    rw [Except.error.injEq]
    exact ⟨fun h => ⟨Nat.not_le.1 hgt, congrArg TooManyDigits.digits h⟩,
      fun h => congrArg TooManyDigits.mk h.2⟩

theorem AreDigits.length_filterMap {cs : List Char} (h : AreDigits cs) :
    (cs.filterMap digitValue).length = cs.length :=
  List.filterMap_length_eq_length.2 h

theorem AreDigits.filterMap_ne_nil {cs : List Char} (h : AreDigits cs) (hne : cs ≠ []) :
    cs.filterMap digitValue ≠ [] := by
  rw [Ne, ← List.length_eq_zero_iff, h.length_filterMap, List.length_eq_zero_iff]
  exact hne

/-- A blank is no digit. -/
theorem digitValue_of_isBlank {c : Char} (h : isBlank c = true) : digitValue c = none := by
  have hapart : ∀ z ∈ digitZeros, z = 0x30 ∨ 0x660 ≤ z ∧ z + 9 < 0x1680 ∨
      0x1680 < z ∧ z + 9 < 0x2000 ∨ 0x3000 < z := by
    decide
  rw [digitValue, Option.map_eq_none_iff, List.find?_eq_none]
  intro z hz
  have hz := hapart z hz
  simp only [isBlank, Bool.or_eq_true, Bool.and_eq_true, decide_eq_true_eq, beq_iff_eq] at h ⊢
  omega

theorem AreBlank.trimStart {gap cs : List Char} (h : AreBlank gap)
    (hcs : ∀ c ∈ cs.head?, isBlank c = false) : trimStart (gap ++ cs) = cs := by
  rw [trimStart_append_of_blank h, trimStart_eq_self hcs]

/-- Every text is the blanks in front and what follows them. -/
theorem exists_blanks (cs : List Char) : ∃ gap, AreBlank gap ∧ cs = gap ++ trimStart cs :=
  ⟨cs.takeWhile isBlank, fun _ hc => (List.all_eq_true.1 List.all_takeWhile _ hc),
    List.takeWhile_append_dropWhile.symm⟩

theorem AreDigits.isBlank_head {cs : List Char} (h : AreDigits cs) :
    ∀ c ∈ cs.head?, isBlank c = false := by
  intro c hc
  have hdigit := h c (List.mem_of_mem_head? hc)
  rw [← Bool.not_eq_true]
  intro hblank
  rw [digitValue_of_isBlank hblank] at hdigit
  cases hdigit

/-! ## Numbers -/

/-- A text without the sign in front of it, if there is one. -/
def unsigned : List Char → List Char
  | '-' :: cs => cs
  | '+' :: cs => cs
  | cs => cs

theorem exists_sign (text : List Char) :
    ∃ sign ∈ [[], ['-'], ['+']], text = sign ++ unsigned text := by
  unfold unsigned
  split
  · exact ⟨['-'], by simp, rfl⟩
  · exact ⟨['+'], by simp, rfl⟩
  · exact ⟨[], by simp, rfl⟩

/-- The sign in front of digits is all that is dropped. -/
theorem unsigned_append {sign digits : List Char} (hsign : sign ∈ [[], ['-'], ['+']])
    (hd : AreDigits digits) (hne : digits ≠ []) (rest : List Char) :
    unsigned (sign ++ (digits ++ rest)) = digits ++ rest := by
  simp only [List.mem_cons, List.not_mem_nil, or_false] at hsign
  rcases hsign with rfl | rfl | rfl
  · obtain ⟨c, cs, rfl⟩ := List.exists_cons_of_ne_nil hne
    have hdigit : (digitValue c).isSome := hd c List.mem_cons_self
    rw [List.nil_append, List.cons_append, unsigned]
    all_goals
      rintro ds heq
      obtain rfl := (List.cons.inj heq).1
      revert hdigit
      decide
  · rfl
  · rfl

/-- A number fails iff its digits do. -/
theorem leadingInt?_eq_error_iff_readNat {raw : String} {e : TooManyDigits} :
    leadingInt? raw = .error e ↔
      readNat (splitDigits (unsigned (trim raw.toList))).1 = .error e := by
  unfold leadingInt?
  generalize trim raw.toList = text
  fun_cases unsigned text
  all_goals
    simp only
    split
    · rename_i heq
      rw [heq]
      exact ⟨by rintro ⟨⟩, by rintro ⟨⟩⟩
    · cases readNat (splitDigits _).1 with
      | ok n => exact ⟨by rintro ⟨⟩, by rintro ⟨⟩⟩
      | error e' =>
        exact ⟨fun h => congrArg _ (Except.error.inj h), fun h => congrArg _ (Except.error.inj h)⟩

theorem leadingInt?_eq_error_iff {raw : String} {e : TooManyDigits} :
    leadingInt? raw = .error e ↔ LongNumber (trim raw.toList) e.digits := by
  rw [leadingInt?_eq_error_iff_readNat, readNat_eq_error_iff]
  constructor
  · rintro ⟨hlong, hlength⟩
    obtain ⟨sign, hsign, hraw⟩ := exists_sign (trim raw.toList)
    obtain ⟨digits, hd, hvalues, hcs⟩ := exists_digits (unsigned (trim raw.toList))
    rw [← hvalues, AreDigits.length_filterMap hd] at hlong hlength
    rw [hlength] at hlong
    exact ⟨hlong, sign, digits, _, hcs ▸ hraw, hsign, hd, hlength, splitDigits_rest _⟩
  · rintro ⟨hlong, sign, digits, rest, hraw, hsign, hd, hlength, hr⟩
    have hne : digits ≠ [] := by
      rintro rfl
      exact absurd hlong (hlength ▸ Nat.not_lt_zero _)
    rw [hraw, unsigned_append hsign hd hne, splitDigits_digits hd hr, hd.length_filterMap, hlength]
    exact ⟨hlong, rfl⟩

/-! ## Windows -/

theorem WritesWindow.splitDigits {text starts ends : List Char}
    (h : WritesWindow text starts ends) : ∃ rest,
      splitDigits text = (starts.filterMap digitValue, rest) ∧
      ∃ behind, trimStart rest = '-' :: behind ∧
        splitDigits (trimStart behind) = (ends.filterMap digitValue, []) := by
  obtain ⟨gap, gap', rfl, hgap, hgap', -, hstarts, hends⟩ := h
  have hrest : ∀ c ∈ (gap ++ '-' :: (gap' ++ ends)).head?, digitValue c = none := by
    intro c hc
    cases gap with
    | nil =>
      obtain rfl : '-' = c := Option.some.inj hc
      decide
    | cons b gap =>
      obtain rfl : b = c := Option.some.inj hc
      exact digitValue_of_isBlank (hgap b List.mem_cons_self)
  have hbehind : Decimal.splitDigits ends = (ends.filterMap digitValue, []) := by
    have hend : ∀ c ∈ ([] : List Char).head?, digitValue c = none := by rintro _ ⟨⟩
    have hsplit := splitDigits_digits hends hend
    rwa [List.append_nil] at hsplit
  refine ⟨_, splitDigits_digits hstarts hrest, gap' ++ ends, ?_, ?_⟩
  · exact hgap.trimStart (by rintro _ ⟨⟩; decide)
  · rw [hgap'.trimStart hends.isBlank_head, hbehind]

/-- The first run of digits that is too long is the one that fails. -/
theorem find?_lengths_iff {firsts lasts : List Nat} {e : TooManyDigits} :
    [firsts.length, lasts.length].find? (maxDigits < ·) = some e.digits ↔
      readNat firsts = .error e ∨ (∃ n, readNat firsts = .ok n) ∧ readNat lasts = .error e := by
  simp only [readNat_eq_error_iff, readNat_eq_ok_iff, exists_and_left, exists_eq', and_true]
  by_cases hfirst : maxDigits < firsts.length
  · rw [List.find?_cons_of_pos (by simpa using hfirst), Option.some.injEq]
    simp only [hfirst, Nat.not_le.2 hfirst, true_and, false_and, or_false]
  · rw [List.find?_cons_of_neg (by simpa using hfirst)]
    simp only [hfirst, Nat.not_lt.1 hfirst, true_and, false_and, false_or, List.find?_singleton,
      decide_eq_true_eq, Option.ite_none_right_eq_some, Option.some.injEq]

/-- A window that is well-formed fails iff an end of it does. -/
theorem WritesWindow.read?_eq_error_iff {raw : String} {starts ends : List Char} {e : TooManyDigits}
    (h : WritesWindow (trim raw.toList) starts ends) :
    Window.read? raw = .error e ↔
      [starts.length, ends.length].find? (maxDigits < ·) = some e.digits := by
  obtain ⟨rest, hsplit, behind, hrest, hbehind⟩ := h.splitDigits
  obtain ⟨_, _, -, -, -, hne, hstarts, hends⟩ := h
  obtain ⟨v, vs, hvalues⟩ := List.exists_cons_of_ne_nil (hstarts.filterMap_ne_nil hne)
  rw [← hstarts.length_filterMap, ← hends.length_filterMap, find?_lengths_iff, hvalues]
  rw [hvalues] at hsplit
  unfold Window.read?
  simp only [hsplit, hrest, hbehind]
  cases ends.filterMap digitValue with
  | nil =>
    cases readNat (v :: vs) with
    | error e' => simp [Except.map, bind, Except.bind]
    | ok first => simp [Except.map, bind, Except.bind, pure, Except.pure, readNat]
  | cons l ls =>
    simp only
    cases readNat (v :: vs) with
    | error e' => simp [bind, Except.bind]
    | ok first => cases readNat (l :: ls) <;> simp [bind, Except.bind, pure, Except.pure]

/-- Only what is a window but for its length fails. -/
theorem exists_writesWindow {raw : String} {e : TooManyDigits} (h : Window.read? raw = .error e) :
    ∃ starts ends, WritesWindow (trim raw.toList) starts ends := by
  obtain ⟨starts, hstarts, hfirsts, htext⟩ := exists_digits (trim raw.toList)
  obtain ⟨gap, hgap, hrest⟩ := exists_blanks (splitDigits (trim raw.toList)).2
  unfold Window.read? at h
  simp only at h
  split at h
  · cases h
  · rename_i _ _ behind hhyphen hne
    obtain ⟨gap', hgap', hbehind⟩ := exists_blanks behind
    obtain ⟨ends, hends, hlasts, hall⟩ := exists_digits (trimStart behind)
    have hnil : (splitDigits (trimStart behind)).2 = [] := by
      split at h
      · rename_i heq
        rw [heq]
      · rename_i heq
        rw [heq]
      · cases h
    rw [hnil, List.append_nil] at hall
    refine ⟨starts, ends, gap, gap', ?_, hgap, hgap', ?_, hstarts, hends⟩
    · rw [← hall, ← hbehind, ← hhyphen, ← hrest, ← htext]
    · rintro rfl
      exact hne hfirsts.symm
  · cases h

theorem Window.read?_eq_error_iff {raw : String} {e : TooManyDigits} :
    Window.read? raw = .error e ↔ LongWindow (trim raw.toList) e.digits := by
  constructor
  · intro h
    obtain ⟨starts, ends, hwrites⟩ := exists_writesWindow h
    exact ⟨starts, ends, hwrites, hwrites.read?_eq_error_iff.1 h⟩
  · rintro ⟨starts, ends, hwrites, hlong⟩
    exact hwrites.read?_eq_error_iff.2 hlong

/-! ## Comments -/

/-- **Which texts fail for a row.** -/
theorem Spec.read_eq_error_iff {spec : Spec} {raw : String} {e : TooManyDigits} :
    spec.read raw = .error e ↔ spec.Exceeds raw e.digits := by
  unfold read Exceeds
  cases spec.kind with
  | text | list | flag => exact ⟨by rintro ⟨⟩, by rintro ⟨⟩⟩
  | int =>
    simp only
    rw [← leadingInt?_eq_error_iff]
    cases leadingInt? raw <;> simp [Except.map]
  | range =>
    simp only
    rw [← Window.read?_eq_error_iff]
    cases Window.read? raw <;> simp [Except.map]

namespace Directives

variable {d : Directives}

/-- **Which comments fail**, whatever has been said before. -/
theorem addComment_eq_error_iff {line : String} {e : TooManyDigits} :
    d.addComment line = .error e ↔ Exceeding line e.digits := by
  unfold addComment Exceeding
  constructor
  · intro h
    split at h
    · cases h
    · rename_i r raw hline
      have hr := mem_rows_of_ofLine? hline
      refine ⟨r, hr, raw, (ofLine?_eq_some_iff hr).1 hline, Spec.read_eq_error_iff.1 ?_⟩
      cases hv : r.spec.read raw with
      | error e' =>
        rw [hv] at h
        cases h
        rfl
      | ok v =>
        rw [hv] at h
        cases v <;> cases h
  · rintro ⟨r, hr, raw, hline, hexceeds⟩
    rw [(ofLine?_eq_some_iff hr).2 hline]
    simp only
    rw [Spec.read_eq_error_iff.2 hexceeds]
    rfl

theorem not_exceeding_of_eq_ok {line : String} {d' : Directives} (h : d.addComment line = .ok d')
    (n : Nat) : ¬ Exceeding line n := by
  intro hexceeds
  have hfails : d.addComment line = .error ⟨n⟩ := addComment_eq_error_iff.2 hexceeds
  cases h.symm.trans hfails

/-- **Comments fail iff one of them does**, and the first that does counts. -/
theorem foldlM_addComment_eq_error_iff {lines : List String} {e : TooManyDigits} :
    lines.foldlM addComment d = .error e ↔ ∃ before line after, lines = before ++ line :: after ∧
      (∀ l ∈ before, ∀ n, ¬ Exceeding l n) ∧ Exceeding line e.digits := by
  induction lines generalizing d with
  | nil =>
    refine ⟨by rintro ⟨⟩, ?_⟩
    rintro ⟨before, line, after, heq, -⟩
    cases before <;> cases heq
  | cons first lines ih =>
    rw [List.foldlM_cons]
    cases hfirst : d.addComment first with
    | error e' =>
      have hexceeds := addComment_eq_error_iff.1 hfirst
      constructor
      · rintro ⟨⟩
        exact ⟨[], first, lines, rfl, List.forall_mem_nil _, hexceeds⟩
      · rintro ⟨before, line, after, heq, hbefore, hline⟩
        cases before with
        | nil =>
          obtain ⟨rfl, -⟩ := List.cons.inj heq
          rw [← hfirst, addComment_eq_error_iff.2 hline]
          rfl
        | cons l before =>
          obtain ⟨rfl, -⟩ := List.cons.inj heq
          exact absurd hexceeds (hbefore first List.mem_cons_self _)
    | ok d' =>
      have hfine := not_exceeding_of_eq_ok hfirst
      refine ih.trans ⟨?_, ?_⟩
      · rintro ⟨before, line, after, rfl, hbefore, hline⟩
        exact ⟨first :: before, line, after, rfl, List.forall_mem_cons.2 ⟨hfine, hbefore⟩, hline⟩
      · rintro ⟨before, line, after, heq, hbefore, hline⟩
        cases before with
        | nil =>
          obtain ⟨rfl, -⟩ := List.cons.inj heq
          exact absurd hline (hfine _)
        | cons l before =>
          obtain ⟨rfl, rfl⟩ := List.cons.inj heq
          exact ⟨before, line, after, rfl, (List.forall_mem_cons.1 hbefore).2, hline⟩

/-- Comments are read iff none of them fails. -/
theorem exists_foldlM_addComment_iff {lines : List String} :
    (∃ d', lines.foldlM addComment d = .ok d') ↔ ∀ line ∈ lines, ∀ n, ¬ Exceeding line n := by
  induction lines generalizing d with
  | nil => exact ⟨fun _ => List.forall_mem_nil _, fun _ => ⟨d, rfl⟩⟩
  | cons first lines ih =>
    rw [List.foldlM_cons, List.forall_mem_cons]
    cases hfirst : d.addComment first with
    | error e =>
      refine ⟨by rintro ⟨_, ⟨⟩⟩, fun h => ?_⟩
      exact absurd (addComment_eq_error_iff.1 hfirst) (h.1 e.digits)
    | ok d' => exact ih.trans (and_iff_right (not_exceeding_of_eq_ok hfirst)).symm

/-- **Reading a content fails in one way only.** It is read iff no comment gives a number that is
    too long. If one does, the reading fails with the digits of the first such number, and none of
    the other comments is taken up. -/
theorem ofContent_fails_iff (content : String) :
    ((∃ d, ofContent content = .ok d) ↔ ∀ line ∈ blocks content, ∀ n, ¬ Exceeding line n) ∧
    ∀ e, ofContent content = .error e ↔ ∃ before line after,
      blocks content = before ++ line :: after ∧
      (∀ l ∈ before, ∀ n, ¬ Exceeding l n) ∧ Exceeding line e.digits :=
  ⟨exists_foldlM_addComment_iff, fun _ => foldlM_addComment_eq_error_iff⟩

/-! ## A content that fails -/

/-- A block at the front of a content gives its text. -/
theorem blocks_block_append {text : String} (h : IsInline text.toList)
    (ht : IsTrimmed text.toList) (hlast : (' ' :: text.toList).getLast? ≠ some '}')
    (rest : String) :
    blocks (Comment.block text ++ rest) = text :: blocks rest := by
  have hscan := scan_block (h.cons (by decide) (by decide)) hlast rest.toList
  have htext : (Comment.block text ++ rest).toList =
      '{' :: '{' :: '/' :: '/' :: (' ' :: text.toList ++ '}' :: '}' :: rest.toList) := by
    simp [Comment.block, String.toList_append]
  have htrim : trim (' ' :: text.toList) = text.toList := by
    rw [trim, trimStart_cons_blank _ rfl]
    exact trim_of_isTrimmed ht
  rw [blocks, blocks, htext, hscan, List.map_cons, htrim, String.ofList_toList]

/-- A number written with `n` ones. -/
def ones (n : Nat) : String := String.ofList (List.replicate n '1')

theorem toList_ones (n : Nat) : (ones n).toList = List.replicate n '1' := String.toList_ofList

theorem isTrimmed_ones (n : Nat) : IsTrimmed (ones n).toList := by
  refine isTrimmed_of_forall fun c hc => ?_
  rw [toList_ones] at hc
  rw [List.eq_of_mem_replicate hc]
  rfl

/-- The comment that gives a priority of `n` ones. -/
def priorityComment (n : Nat) : String := "@priority " ++ ones n

theorem toList_priorityComment (n : Nat) :
    (priorityComment n).toList = '@' :: ("priority".toList ++ ' ' :: List.replicate n '1') := by
  rw [priorityComment, String.toList_append, toList_ones]
  rfl

theorem exceeding_priorityComment {n : Nat} (h : maxDigits < n) :
    Exceeding (priorityComment n) n := by
  refine ⟨row (.int .priority) "priority" "organization", by simp [rows], ones n,
    textBehind?_eq_some_iff.2 ⟨_, toList_priorityComment n, ?_, ?_⟩, ?_⟩
  · rintro _ ⟨⟩
    rfl
  · rw [trimStart_cons_blank _ rfl, ← toList_ones, trimStart_eq_self (isTrimmed_ones n).head,
      String.ofList_toList]
  · show LongNumber (trim (ones n).toList) n
    rw [trim_of_isTrimmed (isTrimmed_ones n), toList_ones]
    refine ⟨h, [], List.replicate n '1', [], by simp, by simp, ?_, List.length_replicate, ?_⟩
    · intro c hc
      rw [List.eq_of_mem_replicate hc]
      rfl
    · rintro _ ⟨⟩

/-- A content with a priority that is one digit too long, and a tooltip. -/
def longPriority : String :=
  Comment.block (priorityComment (maxDigits + 1)) ++ Comment.block "@tooltip Tea"

theorem blocks_longPriority : blocks longPriority =
    priorityComment (maxDigits + 1) :: blocks (Comment.block "@tooltip Tea") := by
  have hlast : ∀ front : List Char,
      (front ++ (priorityComment (maxDigits + 1)).toList).getLast? = some '1' := by
    intro front
    rw [toList_priorityComment, List.replicate_succ', ← List.cons_append, ← List.cons_append,
      ← List.append_assoc, ← List.append_assoc, List.getLast?_concat]
  rw [longPriority, blocks_block_append]
  · have hchars : ∀ c ∈ (priorityComment (maxDigits + 1)).toList, c ≠ '\n' ∧ c ≠ '}' := by
      rw [toList_priorityComment]
      simp
    have hinline := isInline_nil.append _ hchars
    rwa [List.append_nil] at hinline
  · constructor
    · rw [toList_priorityComment]
      rintro _ ⟨⟩
      rfl
    · rw [← List.nil_append (priorityComment _).toList, hlast []]
      rintro _ ⟨⟩
      rfl
  · rw [← List.singleton_append, hlast]
    decide

theorem not_read_longPriority :
    textsBehind "tooltip" longPriority = ["Tea"] ∧ ¬ ∃ d, ofContent longPriority = .ok d := by
  constructor
  · have hother : textBehind? "tooltip" (priorityComment (maxDigits + 1)) = none := by
      rw [textBehind?, toList_priorityComment]
      rfl
    rw [textsBehind, blocks_longPriority, List.filterMap_cons_none hother]
    decide
  · rw [ofContent, exists_foldlM_addComment_iff, blocks_longPriority]
    exact fun h => h _ List.mem_cons_self _ (exceeding_priorityComment (Nat.lt_succ_self maxDigits))

end Directives

end PromptRules.Directive
