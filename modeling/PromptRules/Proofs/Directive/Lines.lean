import PromptRules.Directive.Directives
import PromptRules.Proofs.Directive.Blocks

/-!
# Contents line by line

No comment block goes on behind the end of its line, so a scan of two texts on different
lines finds the blocks of the one and then the blocks of the other. What they say together
is what each of them says by itself, merged: the lists are joined, a flag is set if one of
them sets it, and of two other values the later one stays.

Results:
* `Comment.scan_append_newline`: a scan of two lines is a scan of each.
* `Directives.put_merge`, `Directives.foldlM_addComment_merge`: comments are taken up into the
  later part of a merge.
* `Directives.ofContent_append_newline`: what two lines say is what each says, merged, and
  what fails first fails the whole.
-/

namespace PromptRules.Directive

/-! ## Blocks -/

namespace Comment

/-- What is on one line and starts a text of two lines starts the first of them. -/
theorem prefix_append_newline {mark front back : List Char} (hmark : '\n' ∉ mark) :
    mark <+: front ++ '\n' :: back ↔ mark <+: front := by
  induction mark generalizing front with
  | nil => simp
  | cons c mark ih =>
    obtain ⟨hc, hmark⟩ := not_or.1 (mt List.mem_cons.2 hmark)
    cases front with
    | nil => simp [Ne.symm hc]
    | cons d front => rw [List.cons_append, List.cons_prefix_cons, List.cons_prefix_cons, ih hmark]

/-- Outside a block, what does not open one is passed over. -/
theorem scan_outside_cons {c : Char} {cs : List Char}
    (h : ¬ ['{', '{', '/', '/'] <+: c :: cs) : scan .outside (c :: cs) = scan .outside cs := by
  rw [scan]
  rintro rest rfl rfl
  exact h (List.prefix_append _ rest)

/-- **A scan of two lines is a scan of each**, the second from outside every block. -/
theorem scan_append_newline (p : Place) (front back : List Char) :
    scan p (front ++ '\n' :: back) = scan p front ++ scan .outside back := by
  fun_induction scan p front with
  | case1 cs ih => simpa only [List.cons_append, scan] using ih
  | case2 c cs hopen ih =>
    have hno : ¬ ['{', '{', '/', '/'] <+: c :: cs := by
      rintro ⟨rest, heq⟩
      cases heq
      exact hopen rest rfl rfl
    rw [List.cons_append, scan_outside_cons, ih]
    rwa [← List.cons_append, prefix_append_newline (by decide)]
  | case3 passed cs ih => simpa only [List.cons_append, scan, List.cons.injEq, true_and] using ih
  | case4 passed cs ih => simpa only [List.cons_append, scan_newline] using ih
  | case5 passed c cs hclose hnewline ih =>
    rw [List.cons_append, scan_inside_cons passed hnewline, ih]
    rintro rfl hhead
    cases cs with
    | nil => cases hhead
    | cons d cs =>
      obtain rfl : d = '}' := Option.some.inj hhead
      exact hclose cs rfl rfl
  | case6 p => rw [List.nil_append, scan_newline, List.nil_append]

theorem blocks_append_newline (above below : String) :
    blocks (above ++ "\n" ++ below) = blocks above ++ blocks below := by
  have hlist : (above ++ "\n" ++ below).toList = above.toList ++ '\n' :: below.toList := by
    simp
  rw [blocks, hlist, scan_append_newline, List.map_append]
  rfl

end Comment

/-! ## Merging -/

namespace Directives

/-- What a content says, and then another. -/
def merge (d e : Directives) : Directives where
  text := fun f => (e.text f).or (d.text f)
  list := fun f => d.list f ++ e.list f
  int := fun f => (e.int f).or (d.int f)
  flag := fun f => d.flag f || e.flag f
  window := e.window.or d.window

@[simp] theorem merge_empty (d : Directives) : d.merge empty = d := by
  ext <;> simp [merge, empty]

theorem put_merge (d e : Directives) (f : Field) (v : Value) :
    (d.merge e).put f v = d.merge (e.put f v) := by
  cases f with
  | text f =>
    cases v with
    | text s =>
      simp only [put, merge]
      congr 1
      funext g
      split <;> rfl
    | _ => rfl
  | list f =>
    cases v with
    | list items =>
      simp only [put, merge]
      congr 1
      funext g
      split
      · exact List.append_assoc ..
      · rfl
    | _ => rfl
  | int f =>
    cases v with
    | int n =>
      simp only [put, merge]
      congr 1
      funext g
      split <;> rfl
    | _ => rfl
  | flag f =>
    cases v with
    | flag =>
      simp only [put, merge]
      congr 1
      funext g
      split
      · exact (Bool.or_true _).symm
      · rfl
    | _ => rfl
  | window => cases v <;> rfl

theorem addComment_merge (d e : Directives) (line : String) :
    (d.merge e).addComment line = (e.addComment line).map d.merge := by
  unfold addComment
  cases Row.ofLine? line with
  | none => rfl
  | some found =>
    obtain ⟨r, raw⟩ := found
    simp only
    cases r.spec.read raw with
    | error failure => rfl
    | ok v =>
      cases v with
      | none => rfl
      | some v => exact congrArg Except.ok (put_merge d e r.field v)

/-- Comments are taken up into the later part of a merge. -/
theorem foldlM_addComment_merge (d e : Directives) (lines : List String) :
    lines.foldlM addComment (d.merge e) = (lines.foldlM addComment e).map d.merge := by
  induction lines generalizing e with
  | nil => rfl
  | cons line lines ih =>
    rw [List.foldlM_cons, List.foldlM_cons, addComment_merge]
    cases e.addComment line with
    | error failure => rfl
    | ok e' => exact ih e'

/-- **What two lines say is what each says, merged.** If the first cannot be read, the whole
    fails as the first does, else as the second does. -/
theorem ofContent_append_newline (above below : String) :
    ofContent (above ++ "\n" ++ below) = (do
      let d ← ofContent above
      let e ← ofContent below
      return d.merge e) := by
  unfold ofContent
  rw [Comment.blocks_append_newline, List.foldlM_append]
  refine bind_congr fun d => ?_
  rw [bind_pure_comp, ← merge_empty d, foldlM_addComment_merge, merge_empty]
  rfl

end Directives

end PromptRules.Directive
