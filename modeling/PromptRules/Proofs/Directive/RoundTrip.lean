import Mathlib.Data.List.Nodup
import PromptRules.Proofs.Directive.Written

/-!
# Writing directives down and reading them again

Whatever a content says can be written down in a plain form: one line for each field that says
something, with the keyword of the field and the value in writing. Reading that form gives the
same directives, in whatever order the lines stand.

Results:
* `keeps_of_ofContent`: what a content says in a field is kept as it is by the row of the field.
* `blocks_page`: the comments of a page of lines are what the lines say.
* `ofContent_page`: reading what a content says in its plain form gives the same directives.
-/

namespace PromptRules.Directive

open Decimal Text Comment

/-! ## Rows and fields -/

theorem nodup_fields : (rows.map Row.field).Nodup := by decide

theorem kind_of_mem_rows : ∀ r ∈ rows, r.spec.kind = r.field.kind := by decide

theorem keyword_of_mem_rows :
    ∀ r ∈ rows, r.spec.keyword ≠ "" ∧ ∀ c ∈ r.spec.keyword.toList, isMark c = false := by
  have hall : ∀ r ∈ rows,
      r.spec.keyword ≠ "" ∧ r.spec.keyword.toList.all (fun c => !isMark c) = true := by
    decide
  exact fun r hr => ⟨(hall r hr).1, by simpa using (hall r hr).2⟩

/-- The keyword of a field. -/
def Field.keyword (f : Field) : String :=
  ((rows.find? fun r => decide (r.field = f)).map fun r => r.spec.keyword).getD ""

theorem keyword_field {r : Row} (h : r ∈ rows) : r.field.keyword = r.spec.keyword := by
  have hfind : rows.find? (fun q => decide (q.field = r.field)) = some r := by
    cases hq : rows.find? fun q => decide (q.field = r.field) with
    | none => simpa using List.find?_eq_none.1 hq r h
    | some q =>
      have hfield : q.field = r.field := by simpa using List.find?_some hq
      rw [List.inj_on_of_nodup_map nodup_fields (List.mem_of_find?_eq_some hq) h hfield]
  rw [Field.keyword, hfind]
  rfl

theorem ofKeyword?_keyword {r : Row} (h : r ∈ rows) : Row.ofKeyword? r.spec.keyword = some r := by
  unfold Row.ofKeyword?
  cases hq : rows.find? fun q => q.spec.keyword == r.spec.keyword with
  | none => simpa using List.find?_eq_none.1 hq r h
  | some q =>
    have hkeyword : q.spec.keyword = r.spec.keyword := by simpa using List.find?_some hq
    have hnodup : (rows.map fun r => r.spec.keyword).Nodup := by
      have h := nodup_keywords
      rwa [specs, List.map_map] at h
    rw [List.inj_on_of_nodup_map hnodup (List.mem_of_find?_eq_some hq) h hkeyword]

theorem exists_row (f : Field) : ∃ r ∈ rows, r.field = f := List.mem_map.1 (mem_fields f)

/-! ## Lines -/

/-- The comment that says a value: the keyword after an at sign, and the value in writing unless
    that is empty. -/
def saying (keyword : String) (v : Value) : String :=
  if v.written = "" then "@" ++ keyword else "@" ++ keyword ++ " " ++ v.written

/-- The line that says the value of a field. -/
def line (e : Field × Value) : String := Comment.block (saying e.1.keyword e.2 ++ " ")

/-- A page with one line for each of some fields. -/
def page (entries : List (Field × Value)) : String := "\n".intercalate (entries.map line)

/-- What stands behind the keyword. -/
def behind (v : Value) : List Char := if v.written = "" then [] else ' ' :: v.written.toList

theorem toList_saying (keyword : String) (v : Value) :
    (saying keyword v).toList = '@' :: (keyword.toList ++ behind v) := by
  unfold saying behind
  split
  · rw [String.toList_append, List.append_nil]
    rfl
  · rw [String.toList_append, String.toList_append, String.toList_append, List.append_assoc]
    rfl

theorem trimStart_behind {v : Value} (h : IsTrimmed v.written.toList) :
    trimStart (behind v) = v.written.toList := by
  unfold behind
  split
  · rename_i hv
    rw [hv]
    rfl
  · rw [trimStart_cons_blank _ (by decide), trimStart_eq_self h.head]

variable {r : Row} {v : Value}

theorem plain_of_mem_keyword (hr : r ∈ rows) {c : Char} (hc : c ∈ r.spec.keyword.toList) :
    isBlank c = false ∧ c ≠ '\n' ∧ c ≠ '}' := by
  have hmark := (keyword_of_mem_rows r hr).2 c hc
  refine ⟨?_, ?_, ?_⟩
  · simp only [isMark, Bool.or_eq_false_iff] at hmark
    exact hmark.1.1
  all_goals
    rintro rfl
    revert hmark
    decide

/-- A token ends where the first blank behind it stands. -/
theorem split_token {token rest : List Char} (ht : ∀ c ∈ token, isBlank c = false)
    (hrest : ∀ c ∈ rest.head?, isBlank c = true) :
    (token ++ rest).takeWhile (!isBlank ·) = token ∧
      (token ++ rest).dropWhile (!isBlank ·) = rest := by
  have htoken : ∀ c ∈ token, (!isBlank c) = true := by simpa using ht
  rw [List.takeWhile_append_of_pos htoken, List.dropWhile_append_of_pos htoken]
  cases rest with
  | nil => exact ⟨List.append_nil _, rfl⟩
  | cons c rest =>
    have hc : (!isBlank c) = false := by simp [hrest c rfl]
    simp only [List.takeWhile_cons, List.dropWhile_cons, hc, Bool.false_eq_true, if_false,
      List.append_nil, and_self]

/-- A comment names the row of its first token. -/
theorem ofLine?_of_token {line : String} {token rest : List Char}
    (hline : line.toList = '@' :: (token ++ rest)) (ht : ∀ c ∈ token, isBlank c = false)
    (hrest : ∀ c ∈ rest.head?, isBlank c = true) :
    Row.ofLine? line = (Row.ofKeyword? (String.ofList token)).map fun r =>
      (r, String.ofList (trimStart rest)) := by
  obtain ⟨htake, hdrop⟩ := split_token ht hrest
  unfold Row.ofLine?
  rw [hline]
  simp only
  rw [htake, hdrop]

theorem ofLine?_saying (hr : r ∈ rows) (hv : IsTrimmed v.written.toList) :
    Row.ofLine? (saying r.spec.keyword v) = some (r, v.written) := by
  have hbehind : ∀ c ∈ (behind v).head?, isBlank c = true := by
    unfold behind
    split
    · rintro _ ⟨⟩
    · rintro _ ⟨⟩
      rfl
  rw [ofLine?_of_token (toList_saying _ v) (fun c hc => (plain_of_mem_keyword hr hc).1) hbehind,
    String.ofList_toList, ofKeyword?_keyword hr, trimStart_behind hv, String.ofList_toList]
  rfl

/-- Whatever was said before, a line says its value. -/
theorem addComment_saying (hr : r ∈ rows) (hv : r.spec.Keeps v) (d : Directives) :
    d.addComment (saying r.spec.keyword v) = .ok (d.put r.field v) := by
  rw [Directives.addComment, ofLine?_saying hr hv.written_fits.1]
  simp only
  rw [Spec.read_written hv]
  rfl

theorem plain_of_mem_front (hr : r ∈ rows) :
    ∀ c ∈ '@' :: r.spec.keyword.toList, isBlank c = false ∧ c ≠ '\n' ∧ c ≠ '}' :=
  List.forall_mem_cons.2 ⟨by decide, fun _ => plain_of_mem_keyword hr⟩

theorem isTrimmed_saying (hr : r ∈ rows) (hv : IsTrimmed v.written.toList) :
    IsTrimmed (saying r.spec.keyword v).toList := by
  have hfront := isTrimmed_of_forall fun c hc => (plain_of_mem_front hr c hc).1
  rw [toList_saying, behind]
  split
  · rwa [List.append_nil]
  · rename_i hne
    exact hfront.append [' '] (List.cons_ne_nil _ _) hv
      (mt String.toList_eq_nil_iff.1 hne)

theorem isInline_saying (hr : r ∈ rows) (hv : IsInline v.written.toList) :
    IsInline (saying r.spec.keyword v).toList := by
  have hbehind : IsInline (behind v) := by
    unfold behind
    split
    · exact isInline_nil
    · exact hv.cons (by decide) (by decide)
  rw [toList_saying]
  exact hbehind.append _ fun c hc => (plain_of_mem_front hr c hc).2

/-! ## Pages -/

/-- What a field says, by the row of the field, that the row keeps as it is. -/
def Fits (e : Field × Value) : Prop := ∃ r ∈ rows, r.field = e.1 ∧ r.spec.Keeps e.2

theorem toList_line (e : Field × Value) :
    (line e).toList = '{' :: '{' :: '/' :: '/' ::
      (' ' :: (saying e.1.keyword e.2).toList ++ [' ']) ++ ['}', '}'] := by
  rw [line, Comment.block, String.toList_append, String.toList_append, String.toList_append]
  rfl

/-- A scan of a line finds what the line says between two blanks. -/
theorem scan_line {e : Field × Value} (he : Fits e) (rest : List Char) :
    scan .outside ((line e).toList ++ rest) =
      (' ' :: (saying e.1.keyword e.2).toList ++ [' ']) :: scan .outside rest := by
  obtain ⟨f, v⟩ := e
  obtain ⟨r, hr, rfl, hv⟩ := he
  have hinline : IsInline (' ' :: (saying r.field.keyword v).toList ++ [' ']) := by
    rw [keyword_field hr]
    refine IsInline.concat ?_ (by decide) fun _ => by decide
    exact (isInline_saying hr hv.written_fits.2).cons (by decide) (by decide)
  rw [toList_line]
  simp only [List.cons_append, List.append_assoc, List.nil_append]
  have hlast : (' ' :: (saying r.field.keyword v).toList ++ [' ']).getLast? ≠ some '}' := by
    rw [List.getLast?_concat]
    decide
  have hscan := scan_block hinline hlast rest
  simpa only [List.cons_append, List.append_assoc, List.nil_append] using hscan

theorem trim_line {e : Field × Value} (he : Fits e) :
    trim (' ' :: (saying e.1.keyword e.2).toList ++ [' ']) = (saying e.1.keyword e.2).toList := by
  obtain ⟨f, v⟩ := e
  obtain ⟨r, hr, rfl, hv⟩ := he
  simp only
  rw [keyword_field hr]
  have hblank : ∀ c ∈ [' '], isBlank c = true := List.forall_mem_singleton.2 rfl
  refine trim_surrounded [' '] [' '] hblank hblank (isTrimmed_saying hr hv.written_fits.1) ?_
  rw [toList_saying]
  exact List.cons_ne_nil _ _

theorem scan_page {entries : List (Field × Value)} (h : ∀ e ∈ entries, Fits e) :
    scan .outside (page entries).toList =
      entries.map fun e => ' ' :: (saying e.1.keyword e.2).toList ++ [' '] := by
  have hnewline : "\n".toList = ['\n'] := rfl
  rw [page, String.toList_intercalate, List.map_map, hnewline]
  induction entries with
  | nil => exact scan_nil _
  | cons e entries ih =>
    obtain ⟨he, hentries⟩ := List.forall_mem_cons.1 h
    cases entries with
    | nil =>
      have hline := scan_line he []
      rw [List.append_nil, scan_nil] at hline
      rw [List.map_singleton, List.intercalate_singleton]
      exact hline
    | cons e' entries =>
      have hrest := ih hentries
      rw [List.map_cons, List.map_cons, List.intercalate_cons_cons, List.append_assoc,
        Function.comp_apply, scan_line he, List.singleton_append, scan_newline, ← List.map_cons,
        hrest]
      rfl

/-- **The comments of a page are what its lines say.** -/
theorem blocks_page {entries : List (Field × Value)} (h : ∀ e ∈ entries, Fits e) :
    blocks (page entries) = entries.map fun e => saying e.1.keyword e.2 := by
  rw [blocks, scan_page h, List.map_map]
  refine List.map_congr_left fun e he => ?_
  rw [Function.comp_apply, trim_line (h e he), String.ofList_toList]

/-! ## What fields say -/

/-- What a field says once `v` is taken up behind what it said before. -/
def Value.added : Option Value → Value → Value
  | some (.list xs), .list ys => .list (xs ++ ys)
  | _, v => v

theorem Spec.Keeps.added {spec : Spec} (hv : spec.Keeps v) {before : Option Value}
    (hb : ∀ u ∈ before, spec.Keeps u) : spec.Keeps (v.added before) := by
  unfold Value.added
  split
  · obtain ⟨hkind, hne, hitems⟩ := hv
    obtain ⟨_, _, hbefore⟩ := hb _ rfl
    refine ⟨hkind, fun h => hne (List.append_eq_nil_iff.1 h).2, fun i hi => ?_⟩
    exact (List.mem_append.1 hi).elim (hbefore i) (hitems i)
  · exact hv

namespace Directives

variable {d d' : Directives} {f g : Field}

theorem ext_value? (h : ∀ f, d.value? f = d'.value? f) : d = d' := by
  ext f
  · have hf := h (.text f)
    simp only [value?] at hf
    rw [Option.map_injective (fun _ _ => Value.text.inj) hf]
  · have hf := h (.list f)
    simp only [value?] at hf
    have hlist : d.list f = d'.list f := by grind
    rw [hlist]
  · have hf := h (.int f)
    simp only [value?] at hf
    rw [Option.map_injective (fun _ _ => Value.int.inj) hf]
  · have hf := h (.flag f)
    simp only [value?] at hf
    grind
  · have hf := h .window
    simp only [value?] at hf
    rw [Option.map_injective (fun _ _ => Value.range.inj) hf]

theorem value?_put_self {spec : Spec} (hv : spec.Keeps v) (hk : spec.kind = f.kind)
    (d : Directives) : (d.put f v).value? f = some (v.added (d.value? f)) := by
  cases v with
  | text s =>
    have hf := hk.symm.trans hv.1
    cases f <;> cases hf
    simp [put, value?, Value.added]
  | list items =>
    have hf := hk.symm.trans hv.1
    cases f <;> cases hf
    rename_i f
    by_cases hd : d.list f = []
    · simp [put, value?, Value.added, hd, hv.2.1]
    · simp [put, value?, Value.added, hd]
  | int n =>
    have hf := hk.symm.trans hv.1
    cases f <;> cases hf
    simp [put, value?, Value.added]
  | flag =>
    have hf := hk.symm.trans hv
    cases f <;> cases hf
    simp [put, value?, Value.added]
  | range w =>
    have hf := hk.symm.trans hv.1
    cases f <;> cases hf
    simp [put, value?, Value.added]

theorem value?_put_of_ne (h : g ≠ f) (d : Directives) (v : Value) :
    (d.put f v).value? g = d.value? g := by
  unfold put
  split <;> cases g <;> simp_all [value?]

end Directives

/-! ## What a content says -/

theorem infix_of_ofLine? {line raw : String} {r : Row} (h : Row.ofLine? line = some (r, raw)) :
    raw.toList <:+: line.toList := by
  unfold Row.ofLine? at h
  split at h
  · rename_i cs hline
    obtain ⟨r', _, heq⟩ := Option.map_eq_some_iff.1 h
    cases heq
    have hsuffix : trimStart (cs.dropWhile (!isBlank ·)) <:+ cs :=
      (List.dropWhile_suffix _).trans (List.dropWhile_suffix _)
    rw [String.toList_ofList, hline]
    exact (hsuffix.trans (List.suffix_cons '@' cs)).isInfix
  · cases h

theorem isInline_of_mem_blocks {content line : String} (h : line ∈ blocks content) :
    IsInline line.toList := by
  unfold blocks at h
  obtain ⟨cs, hcs, rfl⟩ := List.mem_map.1 h
  rw [String.toList_ofList]
  exact (isInline_of_mem_scan (p := .outside) trivial hcs).part (trim_infix_self cs)

/-- **What a content says in a field is kept as it is by the row of the field.** -/
theorem keeps_of_ofContent {content : String} {d : Directives}
    (h : Directives.ofContent content = .ok d) :
    ∀ r ∈ rows, ∀ v ∈ d.value? r.field, r.spec.Keeps v := by
  refine Directives.ofContent_induction_comments
    (P := fun d => ∀ r ∈ rows, ∀ v ∈ d.value? r.field, r.spec.Keeps v) ?_ ?_ h
  · intro r _ v hv
    rw [Directives.value?_empty] at hv
    cases hv
  · intro d line r raw u hline hrow hread hd r' hr' v hv
    have hr := Directives.mem_rows_of_ofLine? hrow
    have hraw : IsInline raw.toList :=
      (isInline_of_mem_blocks hline).part (infix_of_ofLine? hrow)
    have hu := Spec.keeps_of_read hraw hread
    by_cases hf : r'.field = r.field
    · obtain rfl := List.inj_on_of_nodup_map nodup_fields hr' hr hf
      rw [Directives.value?_put_self hu (kind_of_mem_rows r' hr')] at hv
      cases hv
      exact hu.added (hd r' hr')
    · rw [Directives.value?_put_of_ne hf] at hv
      exact hd r' hr' v hv

namespace Directives

variable {entries : List (Field × Value)}

/-- What lines say, taken up in their order. -/
theorem foldlM_addComment_sayings (h : ∀ e ∈ entries, Fits e) (d : Directives) :
    (entries.map fun e => saying e.1.keyword e.2).foldlM addComment d =
      .ok (entries.foldl (fun d e => d.put e.1 e.2) d) := by
  induction entries generalizing d with
  | nil => rfl
  | cons e entries ih =>
    obtain ⟨⟨r, hr, hf, hv⟩, hentries⟩ := List.forall_mem_cons.1 h
    have he : d.addComment (saying e.1.keyword e.2) = .ok (d.put e.1 e.2) := by
      rw [← hf, keyword_field hr, addComment_saying hr hv]
    rw [List.map_cons, List.foldlM_cons, he, List.foldl_cons, ← ih hentries]
    rfl

/-- Fields that no line is about say what they said before. -/
theorem value?_foldl_put_of_not_mem {f : Field} (hf : f ∉ entries.map Prod.fst) (d : Directives) :
    (entries.foldl (fun d e => d.put e.1 e.2) d).value? f = d.value? f := by
  induction entries generalizing d with
  | nil => rfl
  | cons e entries ih =>
    rw [List.map_cons, List.mem_cons, not_or] at hf
    obtain ⟨he, hentries⟩ := hf
    rw [List.foldl_cons, ih hentries, value?_put_of_ne he]

/-- If every field has one line, it says what its line says. -/
theorem value?_foldl_put_of_mem (h : ∀ e ∈ entries, Fits e)
    (hnodup : (entries.map Prod.fst).Nodup) {d : Directives}
    (hd : ∀ e ∈ entries, d.value? e.1 = none) {e : Field × Value} (he : e ∈ entries) :
    (entries.foldl (fun d e => d.put e.1 e.2) d).value? e.1 = some e.2 := by
  induction entries generalizing d with
  | nil => cases he
  | cons e' entries ih =>
    obtain ⟨⟨r, hr, hf, hv⟩, hentries⟩ := List.forall_mem_cons.1 h
    obtain ⟨hnone, hd⟩ := List.forall_mem_cons.1 hd
    obtain ⟨hnot, hnodup⟩ := List.nodup_cons.1 hnodup
    rw [List.foldl_cons]
    rcases List.mem_cons.1 he with rfl | he
    · rw [value?_foldl_put_of_not_mem hnot,
        value?_put_self hv (hf ▸ kind_of_mem_rows r hr), hnone]
      rfl
    · refine ih hentries hnodup (fun g hg => ?_) he
      have hne : g.1 ≠ e'.1 := fun heq => hnot (heq ▸ List.mem_map_of_mem hg)
      rw [value?_put_of_ne hne, hd g hg]

theorem mem_declared {d : Directives} {e : Field × Value} :
    e ∈ d.declared ↔ d.value? e.1 = some e.2 := by
  unfold declared
  rw [List.mem_filterMap]
  constructor
  · rintro ⟨f, _, hf⟩
    obtain ⟨v, hv, rfl⟩ := Option.map_eq_some_iff.1 hf
    exact hv
  · intro he
    exact ⟨e.1, Field.mem_all e.1, by rw [he]; rfl⟩

theorem nodup_declared (d : Directives) : (d.declared.map Prod.fst).Nodup := by
  have hsub : ∀ fs : List Field,
      ((fs.filterMap fun f => (d.value? f).map (f, ·)).map Prod.fst).Sublist fs := by
    intro fs
    induction fs with
    | nil => exact .slnil
    | cons f fs ih =>
      cases hf : d.value? f with
      | none =>
        rw [List.filterMap_cons_none (by rw [hf]; rfl)]
        exact ih.cons f
      | some v =>
        rw [List.filterMap_cons_some (by rw [hf]; rfl)]
        exact ih.cons_cons f
  exact Field.nodup_all.sublist (hsub Field.all)

theorem fits_of_mem_declared {content : String} {d : Directives} (h : ofContent content = .ok d)
    {e : Field × Value} (he : e ∈ d.declared) : Fits e := by
  obtain ⟨r, hr, hf⟩ := exists_row e.1
  exact ⟨r, hr, hf, keeps_of_ofContent h r hr e.2 (hf ▸ mem_declared.1 he)⟩

/-- **Reading what a content says in its plain form gives the same directives**, in whatever
    order the lines stand. -/
theorem ofContent_page {content : String} {d : Directives} (h : ofContent content = .ok d)
    (hentries : entries.Perm d.declared) : ofContent (page entries) = .ok d := by
  have hfits : ∀ e ∈ entries, Fits e := fun e he =>
    fits_of_mem_declared h (hentries.mem_iff.1 he)
  have hnodup : (entries.map Prod.fst).Nodup :=
    (hentries.map Prod.fst).nodup_iff.2 (nodup_declared d)
  rw [ofContent, blocks_page hfits, foldlM_addComment_sayings hfits]
  congr 1
  refine ext_value? fun f => ?_
  cases hf : d.value? f with
  | some v =>
    have he : (f, v) ∈ entries := hentries.mem_iff.2 (mem_declared.2 hf)
    exact value?_foldl_put_of_mem hfits hnodup (fun e _ => value?_empty e.1) he
  | none =>
    refine (value?_foldl_put_of_not_mem (fun hmem => ?_) _).trans (value?_empty f)
    obtain ⟨e, he, rfl⟩ := List.mem_map.1 hmem
    rw [mem_declared.1 (hentries.mem_iff.1 he)] at hf
    cases hf

/-- A content with a field said twice, an empty item, upper case, and a window that ends before
    it starts. -/
def loose : String :=
  "Tea \n" ++ Comment.block " @requires  a ,, b" ++ Comment.block "@if-api OpenAI "
    ++ Comment.block "@priority +07 high" ++ "\n" ++ Comment.block "@priority 9 "
    ++ Comment.block "@load-order -0012" ++ Comment.block "@message-range 3 - 12"
    ++ Comment.block "@message-range 5-4" ++ "\n" ++ Comment.block "@deprecated"
    ++ Comment.block "@requires c" ++ Comment.block "@hidden now"

/-- What `loose` says. -/
def saidLoosely : List (Field × Value) :=
  [(.list .requires, .list ["a", "b", "c"]), (.list .ifApi, .list ["openai"]),
   (.flag .hidden, .flag), (.int .priority, .int 9), (.int .loadOrder, .int (-12)),
   (.text .deprecated, .text ""), (.window, .range ⟨3, some 12⟩)]

theorem blocks_loose :
    blocks loose = ["@requires  a ,, b", "@if-api OpenAI", "@priority +07 high", "@priority 9",
      "@load-order -0012", "@message-range 3 - 12", "@message-range 5-4", "@deprecated",
      "@requires c", "@hidden now"] := by
  -- The pieces are split into characters one by one: joined they take the kernel far longer.
  unfold blocks loose
  simp only [Comment.block, String.toList_append]
  decide

theorem declared_loose :
    (ofContent loose).toOption.map declared = some saidLoosely := by
  rw [ofContent, blocks_loose]
  decide

theorem ofContent_page_loose :
    ∃ d, ofContent loose = .ok d ∧ d.declared = saidLoosely ∧
      ofContent (page saidLoosely.reverse) = .ok d := by
  have hsaid := declared_loose
  cases hd : ofContent loose with
  | error e =>
    rw [hd] at hsaid
    cases hsaid
  | ok d =>
    rw [hd] at hsaid
    have hdeclared : d.declared = saidLoosely := Option.some.inj hsaid
    exact ⟨d, rfl, hdeclared, ofContent_page hd (hdeclared ▸ List.reverse_perm saidLoosely)⟩

end Directives

end PromptRules.Directive
