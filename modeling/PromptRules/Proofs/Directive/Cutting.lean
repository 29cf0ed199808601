import PromptRules.Proofs.Directive.Lines

/-!
# How a content is cut into blocks and gaps

A content is cut by comment blocks into gaps. A block ends at the first two closing braces behind
its opener, on the same line; and a gap holds no opener that two closing braces follow on its
line, be it within the gap or behind it. These two conditions leave one way to cut a content, and
a scan finds the blocks of this one.

Results:
* `scan_of_not_opens`: where no block opens, the scan goes on at the next character.
* `exists_isCut`, `IsCut.unique`: every content can be cut, and in one way only.
* `scan_of_isCut`: a scan finds the inner texts of the blocks.
* `blocks_of_cut`: all of this together.
-/

namespace PromptRules.Directive.Comment

open Text

/-! ## Blocks and gaps -/

/-- The characters of a block with this inner text. -/
def enclosed (text : List Char) : List Char :=
  '{' :: '{' :: '/' :: '/' :: (text ++ ['}', '}'])

/-- A content that is cut: the gaps with the inner texts of the blocks behind them, and what
    follows the last block. -/
structure Cut where
  parts : List (List Char × List Char)
  rest : List Char

namespace Cut

/-- One more gap and block in front. -/
def behind (gap text : List Char) (c : Cut) : Cut := { c with parts := (gap, text) :: c.parts }

/-- The content that has been cut. -/
def chars (c : Cut) : List Char :=
  c.parts.foldr (fun part chars => part.1 ++ (enclosed part.2 ++ chars)) c.rest

/-- The inner texts of the blocks. -/
def texts (c : Cut) : List (List Char) := c.parts.map Prod.snd

@[simp] theorem chars_behind (gap text : List Char) (c : Cut) :
    (c.behind gap text).chars = gap ++ (enclosed text ++ c.chars) := rfl

@[simp] theorem texts_behind (gap text : List Char) (c : Cut) :
    (c.behind gap text).texts = text :: c.texts := rfl

end Cut

/-- Two closing braces follow before the line ends. -/
def Closes (cs : List Char) : Prop := ∃ text more, '\n' ∉ text ∧ cs = text ++ '}' :: '}' :: more

/-- There is an opener here, and two closing braces follow it before the line ends. -/
def Opens (cs : List Char) : Prop := ∃ ds, cs = '{' :: '{' :: '/' :: '/' :: ds ∧ Closes ds

/-- No block opens in the gap, with what follows it in view. -/
def Quiet (gap following : List Char) : Prop :=
  ∀ back, back <:+ gap → back ≠ [] → ¬ Opens (back ++ following)

/-- The text is on one line, and no two closing braces start before those that end the block. -/
structure IsInner (text : List Char) : Prop where
  newline : '\n' ∉ text
  braces : ∀ back, back <:+ text → back ≠ [] → ¬ ['}', '}'] <+: back ++ ['}', '}']

/-- The content is cut at its blocks. -/
inductive IsCut : Cut → Prop
  | rest {gap : List Char} : Quiet gap [] → IsCut ⟨[], gap⟩
  | behind {gap text : List Char} {c : Cut} :
      Quiet gap (enclosed text ++ c.chars) → IsInner text → IsCut c → IsCut (c.behind gap text)

variable {gap text more following cs : List Char}

/-! ## Where blocks open -/

theorem enclosed_append (text more : List Char) :
    enclosed text ++ more = '{' :: '{' :: '/' :: '/' :: (text ++ '}' :: '}' :: more) := by
  simp [enclosed]

theorem quiet_nil (following : List Char) : Quiet [] following :=
  fun _ hback hne => absurd (List.suffix_nil.1 hback) hne

theorem quiet_cons_iff {c : Char} :
    Quiet (c :: gap) following ↔ ¬ Opens (c :: gap ++ following) ∧ Quiet gap following := by
  constructor
  · intro h
    refine ⟨h _ (List.suffix_refl _) (List.cons_ne_nil c gap), fun back hback => ?_⟩
    exact h back (hback.trans (List.suffix_cons c gap))
  · intro h back hback hne
    rcases List.suffix_cons_iff.1 hback with rfl | hback
    · exact h.1
    · exact h.2 back hback hne

theorem isInner_nil : IsInner [] :=
  ⟨List.not_mem_nil, fun _ hback hne => absurd (List.suffix_nil.1 hback) hne⟩

theorem IsInner.opens (h : IsInner text) (more : List Char) : Opens (enclosed text ++ more) :=
  ⟨text ++ '}' :: '}' :: more, enclosed_append text more, text, more, h.newline, rfl⟩

theorem closes_pair (more : List Char) : Closes ('}' :: '}' :: more) :=
  ⟨[], more, List.not_mem_nil, rfl⟩

theorem Closes.cons {c : Char} (h : Closes cs) (hc : c ≠ '\n') : Closes (c :: cs) := by
  obtain ⟨text, more, hn, rfl⟩ := h
  exact ⟨c :: text, more, List.not_mem_cons_of_ne_of_not_mem (Ne.symm hc) hn, rfl⟩

/-- Two closing braces on the line have a first place where they stand. -/
theorem Closes.exists_isInner (h : Closes cs) :
    ∃ inner rest, IsInner inner ∧ cs = inner ++ '}' :: '}' :: rest := by
  obtain ⟨text, more, hn, rfl⟩ := h
  induction text with
  | nil => exact ⟨[], more, isInner_nil, rfl⟩
  | cons c text ih =>
    by_cases hclose : ['}', '}'] <+: c :: text ++ '}' :: '}' :: more
    · obtain ⟨rest, hrest⟩ := hclose
      exact ⟨[], rest, isInner_nil, hrest.symm⟩
    · obtain ⟨hc, htext⟩ := not_or.1 (mt List.mem_cons.2 hn)
      obtain ⟨inner, rest, hinner, heq⟩ := ih htext
      have hsplit : c :: text ++ '}' :: '}' :: more = c :: inner ++ '}' :: '}' :: rest :=
        congrArg (c :: ·) heq
      refine ⟨c :: inner, rest, ⟨?_, ?_⟩, hsplit⟩
      · exact fun h => (List.mem_cons.1 h).elim hc hinner.newline
      · intro back hback hne hstarts
        rcases List.suffix_cons_iff.1 hback with rfl | hback
        · refine hclose (hstarts.trans ?_)
          rw [hsplit]
          exact ⟨rest, by simp⟩
        · exact hinner.braces back hback hne hstarts

theorem Opens.exists_enclosed (h : Opens cs) :
    ∃ text more, IsInner text ∧ cs = enclosed text ++ more := by
  obtain ⟨ds, rfl, hclose⟩ := h
  obtain ⟨text, more, hinner, rfl⟩ := hclose.exists_isInner
  exact ⟨text, more, hinner, (enclosed_append text more).symm⟩

/-! ## Cutting a content -/

/-- A character where no block opens belongs to the gap in front. -/
theorem IsCut.exists_cons {c : Char} {cut : Cut} (h : IsCut cut)
    (hopens : ¬ Opens (c :: cut.chars)) : ∃ cut', IsCut cut' ∧ cut'.chars = c :: cut.chars := by
  cases h with
  | @rest gap hquiet =>
    have hgap : ¬ Opens (c :: gap ++ []) := by rwa [List.append_nil]
    exact ⟨⟨[], c :: gap⟩, .rest (quiet_cons_iff.2 ⟨hgap, hquiet⟩), rfl⟩
  | @behind gap text cut hquiet hinner hcut =>
    exact ⟨cut.behind (c :: gap) text, .behind (quiet_cons_iff.2 ⟨hopens, hquiet⟩) hinner hcut, rfl⟩

/-- Every content can be cut at its blocks. -/
theorem exists_isCut (cs : List Char) : ∃ cut, IsCut cut ∧ cut.chars = cs := by
  by_cases hopens : Opens cs
  · obtain ⟨text, more, hinner, hcs⟩ := hopens.exists_enclosed
    have hshorter : more.length < cs.length := by
      rw [hcs, List.length_append]
      exact Nat.lt_add_of_pos_left (Nat.succ_pos _)
    obtain ⟨cut, hcut, rfl⟩ := exists_isCut more
    exact ⟨cut.behind [] text, .behind (quiet_nil _) hinner hcut, hcs.symm⟩
  · cases cs with
    | nil => exact ⟨⟨[], []⟩, .rest (quiet_nil []), rfl⟩
    | cons c cs =>
      obtain ⟨cut, hcut, rfl⟩ := exists_isCut cs
      exact hcut.exists_cons hopens
termination_by cs.length

/-! ## One way only -/

/-- What a block opens in is no part of a gap. -/
theorem Quiet.eq_nil_of_opens {back : List Char} (h : Quiet (gap ++ back) following)
    (ho : Opens (back ++ following)) : back = [] :=
  Classical.byContradiction fun hne => h back (List.suffix_append gap back) hne ho

/-- Gaps in front of blocks are the same if they start the same content. -/
theorem Quiet.eq {gap' following' : List Char} (h : Quiet gap following)
    (h' : Quiet gap' following') (ho : Opens following) (ho' : Opens following')
    (heq : gap ++ following = gap' ++ following') : gap = gap' ∧ following = following' := by
  rcases List.append_eq_append_iff.1 heq with ⟨back, rfl, rfl⟩ | ⟨back, rfl, rfl⟩
  · obtain rfl := h'.eq_nil_of_opens ho
    exact ⟨(List.append_nil gap).symm, rfl⟩
  · obtain rfl := h.eq_nil_of_opens ho'
    exact ⟨List.append_nil gap', rfl⟩

theorem IsInner.eq_nil_of_closed {back : List Char} (h : IsInner (text ++ back))
    (hclose : ['}', '}'] <+: back ++ '}' :: '}' :: more) : back = [] := by
  refine Classical.byContradiction fun hne => ?_
  refine h.braces back (List.suffix_append text back) hne ?_
  refine List.prefix_of_prefix_length_le hclose ⟨more, by simp⟩ ?_
  rw [List.length_append]
  exact Nat.le_add_left _ _

/-- The texts of blocks are the same if the blocks start the same content. -/
theorem IsInner.eq {text' more' : List Char} (h : IsInner text) (h' : IsInner text')
    (heq : enclosed text ++ more = enclosed text' ++ more') : text = text' ∧ more = more' := by
  simp only [enclosed_append, List.cons.injEq, true_and] at heq
  rcases List.append_eq_append_iff.1 heq with ⟨back, rfl, hback⟩ | ⟨back, rfl, hback⟩
  · obtain rfl := h'.eq_nil_of_closed ⟨more, hback⟩
    simpa using hback
  · obtain rfl := h.eq_nil_of_closed ⟨more', hback⟩
    simpa using hback.symm

/-- A gap that ends the content holds no block. -/
theorem Quiet.ne_of_isInner (h : Quiet gap []) (hinner : IsInner text) {front : List Char} :
    gap ≠ front ++ (enclosed text ++ more) := by
  rintro rfl
  have hnil := h.eq_nil_of_opens (by simpa using hinner.opens more)
  cases hnil

/-- A content can be cut at its blocks in one way only. -/
theorem IsCut.unique {cut cut' : Cut} (h : IsCut cut) (h' : IsCut cut')
    (heq : cut.chars = cut'.chars) : cut = cut' := by
  induction h generalizing cut' with
  | @rest gap hquiet =>
    cases h' with
    | rest _ => exact congrArg (Cut.mk []) heq
    | behind _ hinner _ => exact absurd heq (hquiet.ne_of_isInner hinner)
  | @behind gap text cut hquiet hinner hcut ih =>
    cases h' with
    | rest hquiet' => exact absurd heq.symm (hquiet'.ne_of_isInner hinner)
    | @behind gap' text' cut' hquiet' hinner' hcut' =>
      obtain ⟨rfl, hblocks⟩ := hquiet.eq hquiet' (hinner.opens _) (hinner'.opens _) heq
      obtain ⟨rfl, hchars⟩ := hinner.eq hinner' hblocks
      rw [ih hcut' hchars]

/-! ## Scanning -/

/-- Without its first brace an opener is passed over. -/
theorem scan_rest_of_opener (cs : List Char) :
    scan .outside ('{' :: '/' :: '/' :: cs) = scan .outside cs := by
  rw [scan_outside_cons, scan_outside_cons, scan_outside_cons]
  all_goals simp

/-- Inside of an opener that is not closed on its line, the scan finds what it would find
    outside. -/
theorem scan_inside_of_not_closes (passed cs : List Char) (h : ¬ Closes cs) :
    scan (.inside passed) cs = scan .outside cs := by
  cases cs with
  | nil => rw [scan_nil, scan_nil]
  | cons c cs =>
    by_cases hc : c = '\n'
    · rw [hc, scan_newline, scan_newline]
    · have hcs : ¬ Closes cs := fun hcs => h (hcs.cons hc)
      have hpair : c = '}' → cs.head? ≠ some '}' := by
        rintro rfl hhead
        obtain ⟨more, rfl⟩ := List.head?_eq_some_iff.1 hhead
        exact h (closes_pair more)
      rw [scan_inside_cons passed hc hpair, scan_inside_of_not_closes (c :: passed) cs hcs]
      by_cases hopener : ['{', '{', '/', '/'] <+: c :: cs
      · -- Another opener, which is not closed on this line either.
        obtain ⟨ds, heq⟩ := hopener
        cases heq
        have hds : ¬ Closes ds := by
          intro hds
          exact hcs (((hds.cons (by decide)).cons (by decide)).cons (by decide))
        show scan .outside ('{' :: '/' :: '/' :: ds) = scan (.inside []) ds
        rw [scan_inside_of_not_closes [] ds hds, scan_rest_of_opener]
      · rw [scan_outside_cons hopener]
termination_by cs.length

/-- Where no block opens, the scan goes on at the next character. -/
theorem scan_of_not_opens {c : Char} (h : ¬ Opens (c :: cs)) :
    scan .outside (c :: cs) = scan .outside cs := by
  by_cases hopener : ['{', '{', '/', '/'] <+: c :: cs
  · obtain ⟨ds, heq⟩ := hopener
    cases heq
    have hds : ¬ Closes ds := fun hds => h ⟨ds, rfl, hds⟩
    show scan (.inside []) ds = scan .outside ('{' :: '/' :: '/' :: ds)
    rw [scan_inside_of_not_closes [] ds hds, scan_rest_of_opener]
  · exact scan_outside_cons hopener

theorem scan_quiet (h : Quiet gap following) :
    scan .outside (gap ++ following) = scan .outside following := by
  induction gap with
  | nil => rfl
  | cons c gap ih =>
    obtain ⟨hopens, hgap⟩ := quiet_cons_iff.1 h
    exact (scan_of_not_opens hopens).trans (ih hgap)

theorem IsInner.isInline (h : IsInner text) : IsInline text := by
  refine ⟨h.newline, fun hbraces => ?_⟩
  obtain ⟨front, back, rfl⟩ := hbraces
  refine h.braces (['}', '}'] ++ back) ⟨front, by simp⟩ (List.cons_ne_nil _ _) ?_
  rw [List.append_assoc]
  exact List.prefix_append _ _

theorem IsInner.getLast? (h : IsInner text) : text.getLast? ≠ some '}' := by
  intro hlast
  obtain ⟨front, rfl⟩ := List.getLast?_eq_some_iff.1 hlast
  exact h.braces ['}'] (List.suffix_append front _) (List.cons_ne_nil _ _) ⟨['}'], rfl⟩

/-- **A scan finds the inner texts of the blocks** at which a content is cut. -/
theorem scan_of_isCut {cut : Cut} (h : IsCut cut) : scan .outside cut.chars = cut.texts := by
  induction h with
  | @rest gap hquiet =>
    have hscan := scan_quiet hquiet
    rwa [List.append_nil, scan_nil] at hscan
  | @behind gap text cut hquiet hinner hcut ih =>
    rw [Cut.chars_behind, scan_quiet hquiet, enclosed_append,
      scan_block hinner.isInline hinner.getLast?, ih, Cut.texts_behind]

/-- **Every content is cut at its blocks in exactly one way**, and its comment blocks are the inner
    texts of these blocks, trimmed. What stands in the gaps is passed over. -/
theorem blocks_of_cut (content : String) :
    ∃ cut : Cut, (IsCut cut ∧ cut.chars = content.toList) ∧
      (∀ cut', IsCut cut' ∧ cut'.chars = content.toList → cut' = cut) ∧
      blocks content = cut.texts.map fun text => String.ofList (trim text) := by
  obtain ⟨cut, hcut, hchars⟩ := exists_isCut content.toList
  refine ⟨cut, ⟨hcut, hchars⟩, ?_, ?_⟩
  · intro cut' hcut'
    exact hcut'.1.unique hcut (hcut'.2.trans hchars.symm)
  · rw [blocks, ← hchars, scan_of_isCut hcut]

/-- A brace before an opener, one behind the closing braces, an opener within a block, and one
    that is not closed on its line. -/
example :
    blocks "\x7b\x7b\x7b//a\x7d\x7d\x7d \x7b\x7b// b \x7b\x7b//c\x7d\x7d \x7b\x7b//\n\x7d\x7d" =
      ["a", "b \x7b\x7b//c"] := by
  decide

end PromptRules.Directive.Comment
