import PromptRules.Proofs.Decimal.Written
import PromptRules.Proofs.Directive.Blocks
import PromptRules.Proofs.Directive.Texts

/-!
# Values in writing

Every value has one writing that stands behind its keyword. What a specification reads from
the text of a comment is a value of its own kind that it keeps as it is: texts and items are
trimmed, on one line and without closing braces, items hold no comma, numbers have not too many
digits, and a window ends where it starts or later. Such values are read back from their
writing.

Results:
* `Spec.keeps_of_read`: what is read from a text on one line is kept as it is.
* `Spec.read_written`: a value that is kept as it is is read back from its writing.
* `Spec.Keeps.written_fits`: the writing can stand in a comment.
-/

namespace PromptRules.Directive

open Data Decimal Text Comment

/-- A value as it is written behind its keyword. -/
def Value.written : Value → String
  | .text s => s
  | .list items => ", ".intercalate items
  | .int n => toString n
  | .flag => ""
  | .range w => w.text

namespace Spec

variable {spec : Spec}

/-- A text that the specification keeps as it is, and that can stand in a comment. -/
structure KeepsText (spec : Spec) (s : String) : Prop where
  isTrimmed : IsTrimmed s.toList
  isInline : IsInline s.toList
  keep : spec.keep s = s

/-- A value that the specification keeps as it is. -/
def Keeps (spec : Spec) : Value → Prop
  | .text s => spec.kind = .text ∧ spec.KeepsText s ∧ (s = "" → spec.allowsEmpty = true)
  | .list items => spec.kind = .list ∧ items ≠ [] ∧
      ∀ i ∈ items, spec.KeepsText i ∧ i ≠ "" ∧ ',' ∉ i.toList
  | .int n => spec.kind = .int ∧ n.natAbs < 10 ^ maxDigits
  | .flag => spec.kind = .flag
  | .range w => spec.kind = .range ∧ ∃ first : Nat, w.first = first ∧ first < 10 ^ maxDigits ∧
      ∀ l ∈ w.last, ∃ last : Nat, l = last ∧ first ≤ last ∧ last < 10 ^ maxDigits

/-! ## Texts -/

theorem keepsMarks_refl (cs : List Char) : KeepsMarks cs cs := by
  induction cs with
  | nil => exact .nil
  | cons c cs ih => exact .keep c ih

theorem keepsMarks_keep (spec : Spec) (s : String) : KeepsMarks s.toList (spec.keep s).toList := by
  unfold keep
  split
  · rw [lower, String.toList_ofList]
    exact keepsMarks_lowerFrom [] s.toList
  · exact keepsMarks_refl s.toList

theorem keep_keep (spec : Spec) (s : String) : spec.keep (spec.keep s) = spec.keep s := by
  unfold keep
  split
  · exact lower_lower s
  · rfl

theorem keep_eq_empty_iff {s : String} : spec.keep s = "" ↔ s = "" := by
  unfold keep
  split
  · exact lower_eq_empty_iff
  · rfl

theorem keepsText_keep {s : String} (ht : IsTrimmed s.toList) (hi : IsInline s.toList) :
    spec.KeepsText (spec.keep s) where
  isTrimmed := (keepsMarks_keep spec s).isTrimmed ht
  isInline := hi.of_keepsMarks (keepsMarks_keep spec s)
  keep := keep_keep spec s

theorem trimmed_eq_self {s : String} (h : IsTrimmed s.toList) : trimmed s = s := by
  rw [trimmed, trim_of_isTrimmed h, String.ofList_toList]

theorem isTrimmed_trimmed (s : String) : IsTrimmed (trimmed s).toList := by
  rw [trimmed, String.toList_ofList]
  exact isTrimmed_trim s.toList

theorem isInline_trimmed {s : String} (h : IsInline s.toList) : IsInline (trimmed s).toList := by
  rw [trimmed, String.toList_ofList]
  exact h.part (trim_infix_self s.toList)

/-! ## Lists -/

theorem mem_listItems {s i : String} (h : i ∈ listItems s) :
    i ≠ "" ∧ IsTrimmed i.toList ∧ i.toList <:+: s.toList ∧ ',' ∉ i.toList := by
  unfold listItems at h
  obtain ⟨cs, hcs, rfl⟩ := List.mem_map.1 h
  obtain ⟨hmem, hne⟩ := List.mem_filter.1 hcs
  obtain ⟨piece, hpiece, rfl⟩ := List.mem_map.1 hmem
  rw [String.toList_ofList]
  refine ⟨?_, isTrimmed_trim piece, ?_, ?_⟩
  · rw [Ne, String.ofList_eq_empty_iff]
    simpa using hne
  · exact (trim_infix_self piece).trans
      ((infix_of_mem_pieces hpiece).trans (trim_infix_self s.toList))
  · exact fun hc => not_mem_of_mem_pieces hpiece ((trim_infix_self piece).subset hc)

/-- A blank in front of a list only shows in its first piece. -/
theorem map_trim_pieces_cons {c : Char} (hb : isBlank c = true) (hc : c ≠ ',') (cs : List Char) :
    (pieces ',' (c :: cs)).map trim = (pieces ',' cs).map trim := by
  obtain ⟨p, ps, hp, hcons⟩ := pieces_cons_of_ne hc cs
  rw [hp, hcons, List.map_cons, List.map_cons, trim, trimStart_cons_blank p hb]
  rfl

theorem map_trim_pieces_joined {items : List (List Char)} (hne : items ≠ [])
    (h : ∀ i ∈ items, IsTrimmed i ∧ ',' ∉ i) :
    (pieces ',' ([',', ' '].intercalate items)).map trim = items := by
  induction items with
  | nil => exact absurd rfl hne
  | cons i items ih =>
    obtain ⟨⟨hi, hcomma⟩, hitems⟩ := List.forall_mem_cons.1 h
    cases items with
    | nil =>
      rw [List.intercalate_singleton, pieces_of_not_mem hcomma, List.map_singleton,
        trim_of_isTrimmed hi]
    | cons j items =>
      have hrest := ih (List.cons_ne_nil j items) hitems
      rw [List.intercalate_cons_cons, List.append_assoc, List.cons_append, pieces_append _ hcomma,
        List.map_cons, trim_of_isTrimmed hi, List.cons_append, List.nil_append,
        map_trim_pieces_cons (by decide) (by decide), hrest]

/-- What a list is joined from is trimmed and on one line, and so is the list. -/
theorem joined_ends {items : List (List Char)}
    (h : ∀ i ∈ items, IsTrimmed i ∧ IsInline i ∧ i ≠ []) :
    IsTrimmed ([',', ' '].intercalate items) ∧ IsInline ([',', ' '].intercalate items) ∧
      (items ≠ [] → [',', ' '].intercalate items ≠ []) := by
  induction items with
  | nil => exact ⟨isTrimmed_nil, isInline_nil, fun h => absurd rfl h⟩
  | cons i items ih =>
    obtain ⟨⟨hi, hline, hne⟩, hitems⟩ := List.forall_mem_cons.1 h
    cases items with
    | nil =>
      rw [List.intercalate_singleton]
      exact ⟨hi, hline, fun _ => hne⟩
    | cons j items =>
      obtain ⟨hrest, hrestLine, hrestNe⟩ := ih hitems
      rw [List.intercalate_cons_cons, List.append_assoc]
      refine ⟨hi.append [',', ' '] hne hrest (hrestNe (List.cons_ne_nil j items)), ?_,
        fun _ h => ?_⟩
      · exact hline.append_cons (hrestLine.cons (by decide) (by decide)) (by decide) (by decide)
      · exact hne (List.append_eq_nil_iff.1 h).1

theorem toList_written_list (items : List String) :
    (Value.list items).written.toList = [',', ' '].intercalate (items.map String.toList) :=
  String.toList_intercalate

theorem listItems_written {items : List String} (hne : items ≠ [])
    (h : ∀ i ∈ items, spec.KeepsText i ∧ i ≠ "" ∧ ',' ∉ i.toList) :
    listItems (Value.list items).written = items := by
  have hchars : ∀ cs ∈ items.map String.toList,
      IsTrimmed cs ∧ IsInline cs ∧ cs ≠ [] ∧ ',' ∉ cs := by
    intro cs hcs
    obtain ⟨i, hi, rfl⟩ := List.mem_map.1 hcs
    obtain ⟨htext, hempty, hcomma⟩ := h i hi
    exact ⟨htext.isTrimmed, htext.isInline, by rwa [Ne, String.toList_eq_nil_iff], hcomma⟩
  have hjoined := joined_ends fun cs hcs =>
    ⟨(hchars cs hcs).1, (hchars cs hcs).2.1, (hchars cs hcs).2.2.1⟩
  have hfilter : (items.map String.toList).filter (!·.isEmpty) = items.map String.toList := by
    refine List.filter_eq_self.2 fun cs hcs => ?_
    simpa using (hchars cs hcs).2.2.1
  rw [listItems, toList_written_list, trim_of_isTrimmed hjoined.1,
    map_trim_pieces_joined (by simpa using hne) fun cs hcs =>
      ⟨(hchars cs hcs).1, (hchars cs hcs).2.2.2⟩,
    hfilter, List.map_map]
  refine (List.map_congr_left fun i _ => ?_).trans (List.map_id items)
  exact String.ofList_toList

/-! ## Numbers -/

theorem digit_facts {c : Char} (h : c.isDigit = true) :
    isBlank c = false ∧ c ≠ '\n' ∧ c ≠ '}' ∧ c ≠ '-' ∧ c ≠ '+' := by
  have hc : 48 ≤ c.toNat ∧ c.toNat ≤ 57 := by
    simp only [Char.isDigit, Bool.and_eq_true, decide_eq_true_eq] at h
    exact h
  refine ⟨?_, ?_, ?_, ?_, ?_⟩
  · simp [isBlank]
    omega
  all_goals
    rintro rfl
    revert hc
    decide

/-- A number is written with characters that stand anywhere in a comment. -/
theorem mem_toString {n : Int} {c : Char} (h : c ∈ (toString n).toList) :
    isBlank c = false ∧ c ≠ '\n' ∧ c ≠ '}' := by
  have hwritten : ∀ m, c ∈ written m → isBlank c = false ∧ c ≠ '\n' ∧ c ≠ '}' := fun m hm =>
    let ⟨hb, hn, hbrace, _⟩ := digit_facts (isDigit_of_mem_written hm)
    ⟨hb, hn, hbrace⟩
  cases n with
  | ofNat m => exact hwritten m (toList_toString_natCast m ▸ h)
  | negSucc m =>
    rw [toList_toString_negSucc] at h
    rcases List.mem_cons.1 h with rfl | h
    · decide
    · exact hwritten (m + 1) h

theorem splitDigits_written_end (n : Nat) :
    splitDigits (written n) = ((written n).map fun c => c.toNat - '0'.toNat, []) := by
  have h := splitDigits_written n [] (by rintro _ ⟨⟩)
  rwa [List.append_nil] at h

theorem map_written_ne_nil (n : Nat) : (written n).map (fun c => c.toNat - '0'.toNat) ≠ [] := by
  simpa using written_ne_nil n

theorem leadingInt?_of_written {s : String} {n : Nat} {rest : List Char} (h : n < 10 ^ maxDigits)
    (hs : trim s.toList = written n ++ rest) (hr : ∀ c ∈ rest.head?, digitValue c = none) :
    leadingInt? s = .ok (some n) := by
  have hsign : ∀ c ∈ (written n ++ rest).head?, c ≠ '-' ∧ c ≠ '+' := by
    intro c hc
    rw [List.head?_append_of_ne_nil _ (written_ne_nil n)] at hc
    exact (digit_facts (isDigit_of_mem_written (List.mem_of_mem_head? hc))).2.2.2
  unfold leadingInt?
  rw [hs]
  split
  rename_i negative cs heq
  split at heq
  · rename_i cs' hcs
    exact absurd rfl (hsign '-' (hcs ▸ rfl)).1
  · rename_i cs' hcs
    exact absurd rfl (hsign '+' (hcs ▸ rfl)).2
  · cases heq
    split
    · rename_i hnil
      rw [splitDigits_written n rest hr] at hnil
      exact absurd hnil (map_written_ne_nil n)
    · rw [splitDigits_written n rest hr, readNat_written h]
      rfl

theorem leadingInt?_of_minus_written {s : String} {n : Nat} {rest : List Char}
    (h : n < 10 ^ maxDigits) (hs : trim s.toList = '-' :: (written n ++ rest))
    (hr : ∀ c ∈ rest.head?, digitValue c = none) : leadingInt? s = .ok (some (-n)) := by
  unfold leadingInt?
  rw [hs]
  simp only
  split
  · rename_i hnil
    rw [splitDigits_written n rest hr] at hnil
    exact absurd hnil (map_written_ne_nil n)
  · rw [splitDigits_written n rest hr, readNat_written h]
    rfl

theorem toString_ne_nil (n : Int) : (toString n).toList ≠ [] := by
  cases n with
  | ofNat m => exact toList_toString_natCast m ▸ written_ne_nil m
  | negSucc m => exact toList_toString_negSucc m ▸ List.cons_ne_nil _ _

/-- **A number is read back** from its writing, whatever follows that is no digit. -/
theorem leadingInt?_toString_append {n : Int} {t : String} (h : n.natAbs < 10 ^ maxDigits)
    (ht : ∀ c ∈ t.toList.head?, digitValue c = none) :
    leadingInt? (toString n ++ t) = .ok (some n) := by
  have htrim : trim (toString n ++ t).toList = (toString n).toList ++ trimEnd t.toList := by
    have hplain := isTrimmed_of_forall fun _ hc => (mem_toString (n := n) hc).1
    rw [String.toList_append, trim, trimStart_eq_self, trimEnd_append hplain.last]
    rw [List.head?_append_of_ne_nil _ (toString_ne_nil n)]
    exact hplain.head
  have hrest : ∀ c ∈ (trimEnd t.toList).head?, digitValue c = none := by
    intro c hc
    obtain ⟨back, hback⟩ := trimEnd_prefix_self t.toList
    refine ht c ?_
    rw [← hback, List.head?_append]
    exact Option.or_eq_some_iff.2 (.inl hc)
  cases n with
  | ofNat m =>
    rw [Int.ofNat_eq_natCast, toList_toString_natCast] at htrim
    exact leadingInt?_of_written h htrim hrest
  | negSucc m =>
    rw [toList_toString_negSucc] at htrim
    exact leadingInt?_of_minus_written h htrim hrest

theorem leadingInt?_toString {n : Int} (h : n.natAbs < 10 ^ maxDigits) :
    leadingInt? (toString n) = .ok (some n) := by
  rw [← String.append_empty (s := toString n)]
  exact leadingInt?_toString_append h (by rintro _ ⟨⟩)

/-- The writing of a window, by its two ends. -/
theorem toList_text {w : Window} {first : Nat} (hf : w.first = first) :
    w.text.toList = written first ++ '-' :: (w.last.elim [] fun l => (toString l).toList) := by
  unfold Window.text
  rw [hf, String.toList_append, String.toList_append, toList_toString_natCast, List.append_assoc]
  cases w.last <;> rfl

theorem mem_text {w : Window} {first : Nat} (hf : w.first = first) {c : Char}
    (h : c ∈ w.text.toList) : isBlank c = false ∧ c ≠ '\n' ∧ c ≠ '}' := by
  rw [toList_text hf, List.mem_append, List.mem_cons] at h
  rcases h with h | rfl | h
  · exact mem_toString (n := first) (toList_toString_natCast first ▸ h)
  · decide
  · cases hl : w.last with
    | none =>
      rw [hl] at h
      cases h
    | some l =>
      rw [hl] at h
      exact mem_toString h

theorem splitDigits_written_hyphen (n : Nat) (rest : List Char) :
    splitDigits (written n ++ '-' :: rest) =
      ((written n).map fun c => c.toNat - '0'.toNat, '-' :: rest) :=
  splitDigits_written n _ (by rintro _ ⟨⟩; decide)

theorem read?_of_open {s : String} {first : Nat} (h : first < 10 ^ maxDigits)
    (hs : trim s.toList = written first ++ ['-']) :
    Window.read? s = .ok (some ⟨first, none⟩) := by
  unfold Window.read?
  rw [hs, splitDigits_written_hyphen]
  simp only
  split
  · rename_i hnil
    exact absurd hnil (map_written_ne_nil first)
  · rename_i heq _
    cases heq
    rw [readNat_written h]
    rfl
  · rename_i hother
    exact absurd rfl (hother _)

theorem read?_of_closed {s : String} {first last : Nat} (hf : first < 10 ^ maxDigits)
    (hl : last < 10 ^ maxDigits) (hle : first ≤ last)
    (hs : trim s.toList = written first ++ '-' :: written last) :
    Window.read? s = .ok (some ⟨first, some (last : Int)⟩) := by
  have hblank : trimStart (written last) = written last :=
    trimStart_eq_self fun c hc =>
      (digit_facts (isDigit_of_mem_written (List.mem_of_mem_head? hc))).1
  unfold Window.read?
  rw [hs, splitDigits_written_hyphen]
  simp only
  rw [trimStart_of_head _ (by decide)]
  split
  · rename_i hnil
    exact absurd hnil (map_written_ne_nil first)
  · rename_i heq _
    cases heq
    rw [hblank, splitDigits_written_end]
    split
    · rename_i heq
      exact absurd (congrArg Prod.fst heq) (map_written_ne_nil last)
    · rename_i heq
      cases heq
      rw [readNat_written hf, readNat_written hl]
      have hnot : ¬ last < first := by omega
      simp [bind, Except.bind, pure, Except.pure, hnot]
    · rename_i hother
      exact absurd rfl (hother _)
  · rename_i hother
    exact absurd rfl (hother _)

theorem read?_text {w : Window} {first : Nat} (hf : w.first = first)
    (hfirst : first < 10 ^ maxDigits)
    (hlast : ∀ l ∈ w.last, ∃ last : Nat, l = last ∧ first ≤ last ∧ last < 10 ^ maxDigits) :
    Window.read? w.text = .ok (some w) := by
  have htrim := trim_of_isTrimmed (isTrimmed_of_forall fun _ hc => (mem_text hf hc).1)
  have htext := htrim.trans (toList_text hf)
  obtain ⟨start, stop⟩ := w
  obtain rfl : start = first := hf
  cases stop with
  | none => exact read?_of_open hfirst htext
  | some l =>
    obtain ⟨last, rfl, hle, hlt⟩ := hlast l rfl
    rw [Option.elim, toList_toString_natCast] at htext
    exact read?_of_closed hfirst hlt hle htext

/-! ## Reading and writing -/

/-- **A value that is kept as it is is read back from its writing.** -/
theorem read_written {v : Value} (h : spec.Keeps v) : spec.read v.written = .ok (some v) := by
  cases v with
  | text s =>
    obtain ⟨hkind, htext, hempty⟩ := h
    rw [read, hkind]
    simp only [Value.written, readText, trimmed_eq_self htext.isTrimmed, htext.keep]
    rw [if_neg]
    rintro ⟨rfl, ha⟩
    rw [hempty rfl] at ha
    cases ha
  | list items =>
    obtain ⟨hkind, hne, hitems⟩ := h
    have hkeep : items.map spec.keep = items :=
      (List.map_congr_left fun i hi => (hitems i hi).1.keep).trans (List.map_id items)
    rw [read, hkind]
    simp only [readList]
    rw [listItems_written hne hitems]
    split
    · exact absurd rfl hne
    · rw [hkeep]
  | int n =>
    obtain ⟨hkind, hn⟩ := h
    rw [read, hkind]
    simp only [Value.written]
    rw [leadingInt?_toString hn]
    rfl
  | flag => exact read_flag h _
  | range w =>
    obtain ⟨hkind, first, hf, hfirst, hlast⟩ := h
    rw [read, hkind]
    simp only [Value.written]
    rw [read?_text hf hfirst hlast]
    rfl

theorem keeps_text_of_readText {raw : String} (hraw : IsInline raw.toList)
    (hkind : spec.kind = .text) {v : Value} (h : spec.readText raw = some v) : spec.Keeps v := by
  unfold readText at h
  simp only at h
  split at h
  · cases h
  · rename_i hne
    cases h
    refine ⟨hkind, keepsText_keep (isTrimmed_trimmed raw) (isInline_trimmed hraw), fun he => ?_⟩
    rw [keep_eq_empty_iff] at he
    rw [← Bool.not_eq_false]
    exact fun ha => hne ⟨he, ha⟩

theorem keeps_list_of_readList {raw : String} (hraw : IsInline raw.toList)
    (hkind : spec.kind = .list) {v : Value} (h : spec.readList raw = some v) : spec.Keeps v := by
  unfold readList at h
  split at h
  · cases h
  · rename_i hne
    cases h
    refine ⟨hkind, by simpa using hne, fun i hi => ?_⟩
    obtain ⟨item, hitem, rfl⟩ := List.mem_map.1 hi
    obtain ⟨hempty, htrimmed, hinfix, hcomma⟩ := mem_listItems hitem
    refine ⟨keepsText_keep htrimmed (hraw.part hinfix), ?_, ?_⟩
    · rwa [Ne, keep_eq_empty_iff]
    · exact fun hc => hcomma ((keepsMarks_keep spec item).mem (by decide) hc)

theorem natAbs_lt_of_leadingInt? {raw : String} {n : Int} (h : leadingInt? raw = .ok (some n)) :
    n.natAbs < 10 ^ maxDigits := by
  unfold leadingInt? at h
  split at h
  rename_i negative cs _
  split at h
  · cases h
  · obtain ⟨_, hm, h⟩ := map_eq_ok_iff.1 h
    obtain ⟨m, hdigits, ⟨⟩⟩ := bind_eq_ok_iff.1 hm
    have hlt := lt_of_readNat_splitDigits hdigits
    cases negative <;> cases h <;> omega

/-- The ends of a window that is read. -/
theorem ends_of_read? {raw : String} {w : Window} (h : Window.read? raw = .ok (some w)) :
    ∃ first : Nat, w.first = first ∧ first < 10 ^ maxDigits ∧
      ∀ l ∈ w.last, ∃ last : Nat, l = last ∧ first ≤ last ∧ last < 10 ^ maxDigits := by
  unfold Window.read? at h
  simp only at h
  have hstart := @lt_of_readNat_splitDigits (trim raw.toList)
  generalize splitDigits (trim raw.toList) = digits at h hstart
  obtain ⟨starts, rest⟩ := digits
  simp only at h hstart
  split at h
  · cases h
  · rename_i starts _ _ rest' _ _
    have hend := @lt_of_readNat_splitDigits (trimStart rest')
    generalize splitDigits (trimStart rest') = digits at h hend
    obtain ⟨ends, behind⟩ := digits
    simp only at h hend
    split at h
    · obtain ⟨_, hf, h⟩ := map_eq_ok_iff.1 h
      obtain ⟨first, hdigits, ⟨⟩⟩ := bind_eq_ok_iff.1 hf
      cases h
      exact ⟨first, rfl, hstart hdigits, by rintro _ ⟨⟩⟩
    · rename_i heq
      cases heq
      obtain ⟨first, hf, h⟩ := bind_eq_ok_iff.1 h
      obtain ⟨last, hl, h⟩ := bind_eq_ok_iff.1 h
      have hw := Except.ok.inj h
      split at hw
      · cases hw
      · cases hw
        refine ⟨first, rfl, hstart hf, ?_⟩
        rintro _ ⟨⟩
        exact ⟨last, rfl, by omega, hend hl⟩
    · cases h
  · cases h

/-- **What is read from a text on one line is kept as it is.** -/
theorem keeps_of_read {raw : String} (hraw : IsInline raw.toList) {v : Value}
    (h : spec.read raw = .ok (some v)) : spec.Keeps v := by
  unfold read at h
  split at h
  · rename_i hkind
    cases h
    exact hkind
  · rename_i hkind
    exact keeps_text_of_readText hraw hkind (Except.ok.inj h)
  · rename_i hkind
    exact keeps_list_of_readList hraw hkind (Except.ok.inj h)
  · rename_i hkind
    obtain ⟨n, hn, h⟩ := map_eq_ok_iff.1 h
    cases n with
    | none => cases h
    | some n =>
      cases h
      exact ⟨hkind, natAbs_lt_of_leadingInt? hn⟩
  · rename_i hkind
    obtain ⟨w, hw, h⟩ := map_eq_ok_iff.1 h
    cases w with
    | none => cases h
    | some w =>
      cases h
      exact ⟨hkind, ends_of_read? hw⟩

/-- **The writing can stand in a comment.** -/
theorem Keeps.written_fits {v : Value} (h : spec.Keeps v) :
    IsTrimmed v.written.toList ∧ IsInline v.written.toList := by
  have hplain : ∀ cs : List Char, (∀ c ∈ cs, isBlank c = false ∧ c ≠ '\n' ∧ c ≠ '}') →
      IsTrimmed cs ∧ IsInline cs := fun cs hcs =>
    ⟨isTrimmed_of_forall fun c hc => (hcs c hc).1, by
      rw [← List.append_nil cs]
      exact isInline_nil.append cs fun c hc => (hcs c hc).2⟩
  cases v with
  | text s => exact ⟨h.2.1.isTrimmed, h.2.1.isInline⟩
  | list items =>
    obtain ⟨_, _, hitems⟩ := h
    rw [toList_written_list]
    have hjoined := @joined_ends (items.map String.toList) fun cs hcs => by
      obtain ⟨i, hi, rfl⟩ := List.mem_map.1 hcs
      obtain ⟨htext, hempty, _⟩ := hitems i hi
      exact ⟨htext.isTrimmed, htext.isInline, by rwa [Ne, String.toList_eq_nil_iff]⟩
    exact ⟨hjoined.1, hjoined.2.1⟩
  | int n => exact hplain _ fun c hc => mem_toString hc
  | flag => exact hplain _ fun c hc => by cases hc
  | range w =>
    obtain ⟨_, first, hf, _, _⟩ := h
    exact hplain _ fun c hc => mem_text hf hc

end Spec

end PromptRules.Directive
