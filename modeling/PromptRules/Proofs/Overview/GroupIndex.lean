import PromptRules.Overview.Group
import PromptRules.Proofs.Overview.Gathering
import PromptRules.Proofs.Prompt.Answered

/-!
# The groups of a prompt set

The groups take the prompts apart that declare one: each such prompt stands in one group, the one
that it declares, and in no other. Groups are met, and take up their members, in the order of the
prompts. Any member may describe its group, also after others have joined it; the first that does
is followed.

Results:
* `foldl_addTo`: what a group holds after some prompts have been added to it.
* `gather_eq`: the groups, each with its own prompts.
* `ofPrompts_partition`: a plain lookup, a reading of the contents, and the memory of a session.
-/

namespace PromptRules.Group

open Data Directive

/-! ## Prompts of a group -/

/-- The group that directives declare. -/
def declaredBy (d : Directives) : Option String := (d.text .group).filter (· ≠ "")

/-- The description of a group that directives declare. -/
def describedBy (d : Directives) : Option String := (d.text .groupDescription).filter (· ≠ "")

/-- The group with a prompt whose directives are known. -/
def addTo (g : Group) (o : Prompt × Directives) : Group := g.add o.1 (o.2.text .groupDescription)

theorem sortIn_eq (groups : List (String × Group)) (o : Prompt × Directives) :
    sortIn groups o =
      gatherStep (fun o => declaredBy o.2) (fun name => { name := name }) addTo groups o := by
  unfold sortIn gatherStep declaredBy addTo
  cases hg : o.2.text .group with
  | none => simp only [hg, Option.filter_none]
  | some name =>
    by_cases hn : name = "" <;> simp [hg, hn, Option.filter_some]

/-- The prompts become members in their order, and the first of their descriptions is taken if the
    group has none yet. -/
theorem foldl_addTo (around : List (Prompt × Directives)) (g : Group) :
    around.foldl addTo g =
      { name := g.name
        description := g.description.or (around.findSome? fun o => describedBy o.2)
        members := g.members ++ around.map fun o => o.1.identifier } := by
  induction around generalizing g with
  | nil => simp
  | cons o around ih =>
    have hadd : addTo g o = { g with description := g.description.or (describedBy o.2)
                                     members := g.members ++ [o.1.identifier] } := rfl
    have hfirst : (o :: around).findSome? (fun o => describedBy o.2) =
        (describedBy o.2).or (around.findSome? fun o => describedBy o.2) := by
      rw [List.findSome?_cons]
      cases describedBy o.2 <;> rfl
    rw [List.foldl_cons, ih, hadd, hfirst, List.map_cons, Option.or_assoc, List.append_assoc,
      List.singleton_append]

/-- The groups, each with the prompts that declare it. -/
theorem gather_eq (around : List (Prompt × Directives)) :
    gather around =
      (distinct (around.filterMap fun o => declaredBy o.2)).map fun name =>
        let own := around.filter fun o => declaredBy o.2 = some name
        (name, { name := name
                 description := own.findSome? fun o => describedBy o.2
                 members := own.map fun o => o.1.identifier }) := by
  have hsteps : gather around = around.foldl
      (gatherStep (fun o => declaredBy o.2) (fun name => { name := name }) addTo) [] :=
    congrArg (fun f => around.foldl f []) (funext fun groups => funext (sortIn_eq groups))
  rw [hsteps, gathered_eq, byKey]
  refine List.map_congr_left fun name _ => ?_
  rw [foldl_addTo]
  simp

/-! ## The partition -/

/-- The group that a prompt declares; one without content declares none. -/
def ofPrompt (D : String → Directives) (p : Prompt) : Option String :=
  if p.content = "" then none else declaredBy (D p.content)

/-- Groups sort the prompts that declare one. A group stands under its name; it has as members the
    prompts that declare it, in their order, and the first description that one of them declares.
    The groups stand as they are first declared. Together, they have each prompt that declares a
    group as a member once. -/
structure Partition (D : String → Directives) (ps : List Prompt) (groups : List (String × Group)) :
    Prop where
  declared : ∀ name, name ∈ Assoc.keys groups ↔ ∃ p ∈ ps, ofPrompt D p = some name
  nodup : (Assoc.keys groups).Nodup
  ordered : (Assoc.keys groups).Pairwise fun a b =>
    (ps.filterMap (ofPrompt D)).idxOf a < (ps.filterMap (ofPrompt D)).idxOf b
  name : ∀ e ∈ groups, e.2.name = e.1
  members : ∀ e ∈ groups,
    e.2.members = (ps.filter fun p => ofPrompt D p = some e.1).map Prompt.identifier
  description : ∀ e ∈ groups, e.2.description =
    (ps.filter fun p => ofPrompt D p = some e.1).findSome? fun p => describedBy (D p.content)
  perm : (groups.flatMap fun e => e.2.members).Perm
    ((ps.filter fun p => (ofPrompt D p).isSome).map Prompt.identifier)

section Partition

variable {D : String → Directives} {ps : List Prompt}

/-- A prompt with a content declares what its directives declare, and one without is passed over. -/
theorem filterMap_answered :
    (answered D ps).filterMap (fun o => declaredBy o.2) = ps.filterMap (ofPrompt D) := by
  rw [answered, List.filterMap_map, List.filterMap_filter]
  refine List.filterMap_congr fun p _ => ?_
  by_cases hc : p.content = "" <;> simp [ofPrompt, Prompt.hasContent, hc]

theorem filter_answered (name : String) :
    (answered D ps).filter (fun o => declaredBy o.2 = some name) =
      (ps.filter fun p => ofPrompt D p = some name).map fun p => (p, D p.content) := by
  rw [answered, List.filter_map, List.filter_filter]
  congr 1
  refine List.filter_congr fun p _ => ?_
  by_cases hc : p.content = "" <;> simp [ofPrompt, Prompt.hasContent, hc]

/-- The groups of some prompts, told by the prompts alone. -/
theorem gather_answered :
    gather (answered D ps) = (distinct (ps.filterMap (ofPrompt D))).map fun name =>
      let own := ps.filter fun p => ofPrompt D p = some name
      (name, { name := name
               description := own.findSome? fun p => describedBy (D p.content)
               members := own.map Prompt.identifier }) := by
  rw [gather_eq, filterMap_answered]
  refine List.map_congr_left fun name _ => ?_
  simp only [filter_answered, List.findSome?_map, List.map_map]
  rfl

theorem partition_gather : Partition D ps (gather (answered D ps)) := by
  have hkeys : Assoc.keys (gather (answered D ps)) = distinct (ps.filterMap (ofPrompt D)) := by
    rw [gather_answered, Assoc.keys, List.map_map]
    exact List.map_id _
  -- What holds of the group made for a name holds of every group.
  have hall : ∀ {P : String × Group → Prop}, (∀ name,
      P (name, { name := name
                 description := (ps.filter fun p => ofPrompt D p = some name).findSome?
                   fun p => describedBy (D p.content)
                 members := (ps.filter fun p => ofPrompt D p = some name).map
                   Prompt.identifier })) →
      ∀ e ∈ gather (answered D ps), P e := by
    intro P hP e he
    rw [gather_answered] at he
    obtain ⟨name, _, rfl⟩ := List.mem_map.1 he
    exact hP name
  refine ⟨fun name => ?_, ?_, ?_, hall fun _ => rfl, hall fun _ => rfl, hall fun _ => rfl, ?_⟩
  · rw [hkeys, mem_distinct, List.mem_filterMap]
  · rw [hkeys]
    exact nodup_distinct _
  · rw [hkeys]
    exact pairwise_idxOf_distinct _
  · have hsome : ∀ p ∈ ps, decide (∃ name ∈ distinct (ps.filterMap (ofPrompt D)),
        ofPrompt D p = some name) = (ofPrompt D p).isSome := by
      intro p hp
      rw [Bool.eq_iff_iff, decide_eq_true_eq, Option.isSome_iff_exists]
      refine exists_congr fun name => and_iff_right_of_imp fun hname => ?_
      exact mem_distinct.2 (List.mem_filterMap.2 ⟨p, hp, hname⟩)
    have hperm := flatMap_filter_perm (ofPrompt D) ps (nodup_distinct (ps.filterMap (ofPrompt D)))
    rw [List.filter_congr hsome] at hperm
    rw [gather_answered, List.flatMap_map, ← List.map_flatMap]
    exact hperm.map Prompt.identifier

end Partition

/-! ## Any lookup -/

/-- **The groups of a prompt set are a partition of the prompts that declare one.** -/
theorem ofPrompts_partition (ps : List Prompt) :
    AnsweredAs ps (fun lookup => ofPrompts lookup ps) fun D groups => Partition D ps groups :=
  AnsweredAs.of_answered fun _ => partition_gather

end PromptRules.Group
