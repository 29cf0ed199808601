import Mathlib.Algebra.BigOperators.Group.List.Lemmas
import Mathlib.Algebra.GroupWithZero.Nat
import PromptRules.Overview.Tag
import PromptRules.Proofs.Overview.Gathering
import PromptRules.Proofs.Prompt.Answered

/-!
# The ranking of tags

Every declared tag is ranked once, with the number of its occurrences over all prompts with a
content. The ranking falls by number, and of tags with the same number the one declared first
leads. No two rankings of the same tags are possible. A limit cuts the ranking off, and a limit
below zero leaves nothing.

Results:
* `tally_eq`, `filter_ranking`: what is counted, and what sorting by number leaves in its place.
* `Ranks.unique`: what a ranking must satisfy determines it.
* `mostUsed_ranks`: a plain lookup, a reading of the contents, and the memory of a session.
-/

namespace PromptRules.Tag

open Data Directive

/-! ## Counting -/

theorem tally_eq (tags : List String) :
    tally tags = (distinct tags).map fun t => (t, tags.count t) := by
  have hcount : ∀ t, (tags.filter fun s => some s = some t).foldl (fun n _ => n + 1) 0 =
      tags.count t := by
    intro t
    rw [List.foldl_add_const, List.count_eq_length_filter]
    simp [beq_eq_decide]
  have hgathered := gathered_eq some (fun _ => 0) (fun (n : Nat) (_ : String) => n + 1) tags
  simp only [byKey, List.filterMap_some, hcount] at hgathered
  exact hgathered

theorem map_fst_tally (tags : List String) : (tally tags).map Prod.fst = distinct tags := by
  rw [tally_eq, List.map_map]
  exact List.map_id _

theorem mem_tally_iff {tags : List String} {t : String} {n : Nat} :
    (t, n) ∈ tally tags ↔ t ∈ tags ∧ n = tags.count t := by
  simp only [tally_eq, List.mem_map, Prod.mk.injEq, mem_distinct]
  constructor
  · rintro ⟨s, hs, rfl, rfl⟩
    exact ⟨hs, rfl⟩
  · rintro ⟨ht, rfl⟩
    exact ⟨t, ht, rfl, rfl⟩

/-- Every occurrence is counted. -/
theorem sum_tally (tags : List String) : ((tally tags).map Prod.snd).sum = tags.length := by
  have hperm : (distinct tags).Perm tags.dedup :=
    (List.perm_ext_iff_of_nodup (nodup_distinct tags) (List.nodup_dedup tags)).2 fun t => by
      rw [mem_distinct, List.mem_dedup]
  rw [tally_eq, List.map_map, ← List.sum_map_count_dedup_eq_length tags]
  exact (hperm.map fun t => tags.count t).sum_eq

/-! ## Sorting by number -/

theorem falls_trans (a b c : String × Nat) (hab : decide (b.2 ≤ a.2) = true)
    (hbc : decide (c.2 ≤ b.2) = true) : decide (c.2 ≤ a.2) = true :=
  decide_eq_true ((of_decide_eq_true hbc).trans (of_decide_eq_true hab))

theorem falls_total (a b : String × Nat) : (decide (b.2 ≤ a.2) || decide (a.2 ≤ b.2)) = true := by
  rw [Bool.or_eq_true, decide_eq_true_eq, decide_eq_true_eq]
  exact Nat.le_total b.2 a.2

theorem pairwise_ranking (tags : List String) : (ranking tags).Pairwise fun a b => b.2 ≤ a.2 := by
  have hsorted : (ranking tags).Pairwise fun a b => decide (b.2 ≤ a.2) = true :=
    List.pairwise_mergeSort falls_trans falls_total (tally tags)
  exact hsorted.imp of_decide_eq_true

/-- Sorting is stable: the tags with a number stand as they were counted. -/
theorem filter_ranking (tags : List String) (n : Nat) :
    (ranking tags).filter (fun a => a.2 = n) = (tally tags).filter fun a => a.2 = n := by
  have hsame : ((tally tags).filter fun a => a.2 = n).Pairwise
      fun a b => decide (b.2 ≤ a.2) = true := by
    refine List.pairwise_of_forall_mem_list fun a ha b hb => decide_eq_true ?_
    rw [of_decide_eq_true (List.mem_filter.1 ha).2, of_decide_eq_true (List.mem_filter.1 hb).2]
  have hsub : ((tally tags).filter fun a => a.2 = n).Sublist (ranking tags) :=
    List.sublist_mergeSort falls_trans falls_total hsame List.filter_sublist
  have hkept := hsub.filter fun a => decide (a.2 = n)
  rw [List.filter_filter, List.filter_congr fun a _ => Bool.and_self _] at hkept
  exact (hkept.eq_of_length ((ranking_perm tags).filter _).length_eq.symm).symm

/-! ## Rankings -/

/-- A ranking of tags has each of them once, with the number of its occurrences. The numbers fall,
    those of tags with the same number as they are first met, and add up to the number of tags. -/
structure Ranks (tags : List String) (ranked : List (String × Nat)) : Prop where
  mem_iff : ∀ t n, (t, n) ∈ ranked ↔ t ∈ tags ∧ n = tags.count t
  nodup : (ranked.map Prod.fst).Nodup
  ordered : ranked.Pairwise fun a b =>
    b.2 < a.2 ∨ b.2 = a.2 ∧ tags.idxOf a.1 < tags.idxOf b.1
  sum : (ranked.map Prod.snd).sum = tags.length

theorem ranks_ranking (tags : List String) : Ranks tags (ranking tags) where
  mem_iff t n := by rw [(ranking_perm tags).mem_iff, mem_tally_iff]
  nodup := by
    rw [((ranking_perm tags).map Prod.fst).nodup_iff, map_fst_tally]
    exact nodup_distinct tags
  ordered := by
    have hfirst : (tally tags).Pairwise fun a b => tags.idxOf a.1 < tags.idxOf b.1 := by
      have hkeys := pairwise_idxOf_distinct tags
      rwa [← map_fst_tally, List.pairwise_map] at hkeys
    refine List.pairwise_of_forall_sublist fun {a b} hab => ?_
    rcases Nat.lt_or_eq_of_le ((pairwise_ranking tags).forall_sublist hab) with hlt | heq
    · exact .inl hlt
    · -- Of tags with the same number, the tally has the earlier one first.
      have hkept := hab.filter fun c => decide (c.2 = a.2)
      rw [filter_ranking, List.filter_cons_of_pos (by simp),
        List.filter_cons_of_pos (by simpa using heq), List.filter_nil] at hkept
      exact .inr ⟨heq, hfirst.forall_sublist (hkept.trans List.filter_sublist)⟩
  sum := by rw [((ranking_perm tags).map Prod.snd).sum_eq, sum_tally]

/-- There is one ranking of the same tags. -/
theorem Ranks.unique {tags : List String} {r₁ r₂ : List (String × Nat)} (h₁ : Ranks tags r₁)
    (h₂ : Ranks tags r₂) : r₁ = r₂ := by
  have hperm : r₁.Perm r₂ :=
    (List.perm_ext_iff_of_nodup h₁.nodup.of_map h₂.nodup.of_map).2 fun a => by
      rw [h₁.mem_iff a.1 a.2, h₂.mem_iff a.1 a.2]
  refine List.Perm.eq_of_pairwise (fun a b _ _ hab hba => ?_) h₁.ordered h₂.ordered hperm
  omega

/-! ## Any lookup -/

/-- The tags that the prompts with a content declare, as often as they declare them. -/
def declared (D : String → Directives) (ps : List Prompt) : List String :=
  (ps.filter fun p => p.content ≠ "").flatMap fun p => (D p.content).list .tags

theorem flatMap_answered (D : String → Directives) (ps : List Prompt) :
    ((answered D ps).flatMap fun o => o.2.list .tags) = declared D ps := by
  rw [answered, List.flatMap_map, declared]
  congr 1
  refine List.filter_congr fun p _ => ?_
  rw [Bool.eq_iff_iff, Prompt.hasContent, bne_iff_ne, decide_eq_true_eq]

theorem top_eq (limit : Option Int) (tags : List String) :
    top limit tags = limit.elim (ranking tags) fun k => (ranking tags).take (max k 0).toNat := by
  cases limit with
  | none => rfl
  | some k =>
    show (ranking tags).take k.toNat = (ranking tags).take (max k 0).toNat
    congr 1
    omega

/-- **The most used tags are the first of the ranking**: all of them without a limit, and of a
    limit below zero none. -/
theorem mostUsed_ranks (ps : List Prompt) (limit : Option Int) :
    AnsweredAs ps (fun lookup => mostUsed lookup limit ps) fun D shown =>
      ∃ ranked, Ranks (declared D ps) ranked ∧
        shown = limit.elim ranked fun k => ranked.take (max k 0).toNat := by
  refine AnsweredAs.of_answered
    (f := fun around => top limit (around.flatMap fun o => o.2.list .tags)) fun D => ?_
  rw [flatMap_answered]
  exact ⟨_, ranks_ranking _, top_eq limit _⟩

/-- A tag that is declared more often leads, and of the others the one declared first. -/
example : ranking ["milk", "tea", "sugar", "tea"] = [("tea", 2), ("milk", 1), ("sugar", 1)] := by
  cbv

end PromptRules.Tag
