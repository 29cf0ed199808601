import PromptRules.Proofs.Prompt.DueTriggers
import PromptRules.Proofs.Session.Carried
import PromptRules.Proofs.Session.OneShots

/-!
# Prompts settle

Once the counts are past every threshold of a prompt, each at-rule has one toggle left to give,
and rules that last bring the prompt back to the state they ask for. So rising counts use up a
small room for toggles, unless lasting rules ask for both states of the prompt: then it changes
its state at every count.

Results:
* `leads_process`: at another count a watcher of a store gets through what is due.
* `room_after`: a toggle of a prompt uses room up, unless the prompt is opposed.
* `toggles_settle`: rising counts toggle a prompt three times at most, or at every count if it is
  opposed.
-/

namespace PromptRules

open Data Directive Session

variable {σ : Type}

/-! ## What a count leads to -/

namespace Trigger

/-- The rules of some prompts that fire at a message count. -/
def dueFor (count : Int) (fired : Fired) (ps : List Prompt) : List Firing :=
  ps.flatMap fun p => due count fired p (said p.content)

/-- A prompt without content says nothing, so it does not matter that it is not asked about. -/
theorem dueFor_annotated (count : Int) (fired : Fired) (ps : List Prompt) :
    ((ps.filter Prompt.hasContent).map fun p => (p, said p.content)).flatMap
      (fun o => due count fired o.1 o.2) = dueFor count fired ps := by
  unfold dueFor
  induction ps with
  | nil => rfl
  | cons p ps ih =>
    cases hp : p.hasContent with
    | true =>
      rw [List.filter_cons_of_pos hp, List.map_cons, List.flatMap_cons, List.flatMap_cons, ih]
    | false =>
      have hc : p.content = "" := by simpa [Prompt.hasContent] using hp
      have hnone : due count fired p (said p.content) = [] := by
        rw [hc]
        exact due_of_no_triggers rfl count fired p
      rw [List.filter_cons_of_neg (by simp [hp]), List.flatMap_cons, hnone, List.nil_append, ih]

end Trigger

namespace Session

theorem leads_forM_say (level : Level) (text : α → String) (as : List α) (w : σ) :
    Leads (as.forM fun a => say level (text a)) w () w := by
  induction as with
  | nil => exact leads_pure () w
  | cons a as ih => exact (leads_say level (text a) w).bind ih

theorem leads_due (host : Host σ) (count : Int) (fired : Trigger.Fired) (w : σ) :
    Leads (due host count fired) w
      (.ofFirings count (Trigger.dueFor count fired (host.listed w).1)) (host.listed w).2 := by
  have htransitions : Leads (Trigger.transitions remembered count (host.listed w).1 fired)
      (host.listed w).2 (.ofFirings count (Trigger.dueFor count fired (host.listed w).1))
      (host.listed w).2 := by
    rw [← Trigger.dueFor_annotated]
    exact (leads_annotate _ _).bind (leads_pure _ _)
  refine ((leads_prompts host w).bind htransitions).bind ?_
  exact (leads_forM_say _ _ _ _).bind ((leads_enter _ _).bind (leads_pure _ _))

/-- A store gets all toggles of its prompts through. -/
theorem leads_commitAll {w : Store} (hd : Distinct w.prompts) (source : String) (b : Bool)
    {es : List String} (hes : ∀ e ∈ es, e ∈ w.prompts.map Prompt.identifier) :
    Leads (commitAll Store.host source b es) w es (w.switched (es.map (·, b))) := by
  have hworks : Store.host.Works (es.map (·, b)) w := by
    refine Store.works_of_known hd fun t ht => ?_
    obtain ⟨e, he, rfl⟩ := List.mem_map.1 ht
    exact hes e he
  have hswitched : Store.host.switchedAll (es.map (·, b)) w = w.switched (es.map (·, b)) :=
    Store.shows_host.switched_of_works hd hworks
  exact hswitched ▸ leads_commitAll_of_works source b hworks

end Session

namespace Watcher

/-- What a watcher of a store asks to be toggled at a count. -/
def asked (count : Int) (w : Watcher) (ps : List Prompt) : List (String × Bool) :=
  let firings := Trigger.dueFor count (Assoc.keys w.fired) ps
  toggles (Transitions.idsOf true firings) (Transitions.idsOf false firings)

/-- What a watcher of a store remembers after a count. -/
def after (count : Int) (w : Watcher) (ps : List Prompt) : Watcher :=
  let firings := Trigger.dueFor count (Assoc.keys w.fired) ps
  let marked := mark (Transitions.idsOf true firings) (Transitions.idsOf false firings)
  { last := some count, fired := firings.foldl marked w.fired }

/-- What is asked for concerns the prompts of the store. -/
theorem known_of_mem_idsOf {enable : Bool} {count : Int} {fired : Trigger.Fired} {ps : List Prompt}
    {e : String} (h : e ∈ Transitions.idsOf enable (Trigger.dueFor count fired ps)) :
    e ∈ ps.map Prompt.identifier := by
  obtain ⟨f, hf, _, rfl⟩ := Transitions.mem_idsOf.1 h
  obtain ⟨p, hp, hdue⟩ := List.mem_flatMap.1 hf
  exact List.mem_map.2 ⟨p, hp, (Trigger.shape_of_mem_due hdue).1.symm⟩

/-- A watcher asks for what is due, and if the toggles work gets it through. -/
theorem leads_fire_of_works {host : Host σ} {count : Int} {w : Watcher} {world : σ}
    (h : host.Works (w.asked count (host.listed world).1) (host.listed world).2) :
    Leads (fire host count w) world
      (some (.ofFirings count
          (Trigger.dueFor count (Assoc.keys w.fired) (host.listed world).1)),
        w.after count (host.listed world).1)
      (host.switchedAll (w.asked count (host.listed world).1) (host.listed world).2) := by
  obtain ⟨hon, hoff⟩ := Host.works_append_iff.1 h
  unfold fire
  refine (leads_due host count _ world).bind ?_
  refine (leads_commitAll_of_works "trigger" true hon).bind ?_
  rw [asked, toggles, Host.switchedAll_append]
  refine (leads_commitAll_of_works "trigger" false hoff).bind ?_
  exact (leads_forM_say _ _ _ _).bind (leads_pure _ _)

/-- A watcher of a store asks for what is due and gets it through. -/
theorem leads_fire {store : Store} (hd : Distinct store.prompts) (count : Int) (w : Watcher) :
    Leads (fire Store.host count w) store
      (some (.ofFirings count (Trigger.dueFor count (Assoc.keys w.fired) store.prompts)),
        w.after count store.prompts)
      (store.switched (w.asked count store.prompts)) := by
  have hworks : Store.host.Works (w.asked count store.prompts) store := by
    refine Store.works_of_known hd fun t ht => ?_
    rcases List.mem_append.1 ht with ht | ht
    · obtain ⟨e, he, rfl⟩ := List.mem_map.1 ht
      exact known_of_mem_idsOf he
    · obtain ⟨e, he, rfl⟩ := List.mem_map.1 ht
      exact known_of_mem_idsOf he
  have hswitched : Store.host.switchedAll (w.asked count store.prompts) store =
      store.switched (w.asked count store.prompts) :=
    Store.shows_host.switched_of_works hd hworks
  exact hswitched ▸ leads_fire_of_works hworks

theorem leads_goBack (count : Int) (w : Watcher) (world : σ) :
    Leads (goBack count w) world (rearm count w) world := by
  unfold goBack
  simp only
  split
  · exact (leads_say _ _ world).bind (leads_pure _ world)
  · exact (leads_pure _ world).bind (leads_pure _ world)

/-- **What another count leads to**: the watcher goes back if it has to, asks for what is due and
    gets it through. -/
theorem leads_process {store : Store} (hd : Distinct store.prompts) {count : Int} {w : Watcher}
    (hn : w.last ≠ some count) :
    Leads (process Store.host count w) store
      (some (.ofFirings count
          (Trigger.dueFor count (Assoc.keys (w.before count).fired) store.prompts)),
        (w.before count).after count store.prompts)
      (store.switched ((w.before count).asked count store.prompts)) := by
  unfold process before
  rw [if_neg hn]
  split
  · exact (leads_goBack count w store).bind (leads_fire hd count (rearm count w))
  · exact leads_fire hd count w

theorem before_eq_self {count : Int} {w : Watcher} (h : ∀ l ∈ w.last, l < count) :
    w.before count = w := by
  unfold before
  rw [if_neg]
  rw [Option.any_eq_true]
  rintro ⟨l, hl, hlt⟩
  exact Int.lt_asymm (h l hl) (of_decide_eq_true hlt)

/-! ## One prompt -/

section OnePrompt

variable {ps : List Prompt} {p : Prompt} {count : Int} {w : Watcher}

/-- The rules of a prompt that fire at a count. -/
def dueOf (count : Int) (w : Watcher) (p : Prompt) : List Firing :=
  Trigger.due count (Assoc.keys w.fired) p (said p.content)

theorem mem_idsOf_dueFor (hd : Distinct ps) (hp : p ∈ ps) {enable : Bool} :
    p.identifier ∈ Transitions.idsOf enable (Trigger.dueFor count (Assoc.keys w.fired) ps) ↔
      dueOf count w p ≠ [] ∧ enable = !p.enabled := by
  rw [Transitions.mem_idsOf]
  constructor
  · rintro ⟨f, hf, rfl, he⟩
    obtain ⟨q, hq, hdue⟩ := List.mem_flatMap.1 hf
    obtain ⟨hid, henable⟩ := Trigger.shape_of_mem_due hdue
    obtain rfl : q = p := List.inj_on_of_nodup_map hd hq hp (hid.symm.trans he)
    exact ⟨List.ne_nil_of_mem hdue, henable⟩
  · rintro ⟨hne, rfl⟩
    obtain ⟨f, hf⟩ := List.exists_mem_of_ne_nil _ hne
    obtain ⟨hid, henable⟩ := Trigger.shape_of_mem_due hf
    exact ⟨f, List.mem_flatMap.2 ⟨p, hp, hf⟩, henable, hid⟩

/-- How many toggles concern a prompt. -/
def togglesOf (e : String) (ts : List (String × Bool)) : Nat := ts.countP fun t => t.1 = e

theorem togglesOf_append (e : String) (ts us : List (String × Bool)) :
    togglesOf e (ts ++ us) = togglesOf e ts + togglesOf e us := List.countP_append

theorem togglesOf_map {e : String} {es : List String} (hn : es.Nodup) (b : Bool) :
    togglesOf e (es.map (·, b)) = if e ∈ es then 1 else 0 := by
  rw [togglesOf, List.countP_map]
  show es.countP (fun x => decide (x = e)) = _
  split
  · rename_i he
    exact List.count_eq_one_of_mem hn he
  · rename_i he
    exact List.count_eq_zero_of_not_mem he

/-- A prompt is toggled once if something is due, and not at all otherwise. -/
theorem togglesOf_asked (hd : Distinct ps) (hp : p ∈ ps) :
    togglesOf p.identifier (w.asked count ps) = if dueOf count w p = [] then 0 else 1 := by
  rw [asked, toggles, togglesOf_append, togglesOf_map (Transitions.nodup_idsOf _ _),
    togglesOf_map (Transitions.nodup_idsOf _ _)]
  simp only [mem_idsOf_dueFor hd hp]
  cases p.enabled <;> by_cases hdue : dueOf count w p = [] <;> simp [hdue]

/-- A prompt changes its state if something is due. -/
theorem enabled_asked (hd : Distinct ps) (hp : p ∈ ps) :
    (p.switchAll (w.asked count ps)).enabled =
      if dueOf count w p = [] then p.enabled else !p.enabled := by
  rw [asked, toggles, Prompt.switchAll_append, Prompt.enabled_switchAll_map,
    Prompt.identifier_switchAll, Prompt.enabled_switchAll_map]
  simp only [mem_idsOf_dueFor hd hp]
  cases p.enabled <;> by_cases hdue : dueOf count w p = [] <;> simp [hdue]

/-- An at-rule is remembered once it is reported, for its toggle gets through. -/
theorem mem_keys_after {key : String × Rule} :
    key ∈ Assoc.keys (w.after count ps).fired ↔ key ∈ Assoc.keys w.fired ∨
      ∃ f ∈ Trigger.dueFor count (Assoc.keys w.fired) ps, f.rule.isOneShot = true ∧
        (f.id, f.rule) = key := by
  have htoggled : ∀ f ∈ Trigger.dueFor count (Assoc.keys w.fired) ps,
      (f.id, f.enable) ∈ w.asked count ps := by
    intro f hf
    rw [asked, ← contains_iff_mem_toggles]
    cases he : f.enable <;> simpa [Transitions.mem_idsOf] using ⟨f, hf, he, rfl⟩
  unfold after
  simp only
  rw [mem_keys_foldl_mark]
  refine or_congr_right (exists_congr fun f => and_congr_right fun hf => ?_)
  have hmem := htoggled f hf
  simp only [asked] at hmem
  simp [took, hmem]

end OnePrompt

/-! ## The room left for toggles -/

section Room

variable {d : Directives} {fired fired' : Trigger.Fired} {e : String} {enabled b : Bool}

/-- Whether an at-rule has not fired yet, as a number. -/
def unspent (fired : Trigger.Fired) (e : String) (b : Bool) : Nat :=
  if fired.contains (e, Rule.atFor b) then 0 else 1

/-- How many more toggles one of the two states is good for: one if it lasts and the prompt is not
    in it; otherwise one by its at-rule, and another one back if the other state lasts. -/
def slack (d : Directives) (fired : Trigger.Fired) (e : String) (enabled b : Bool) : Nat :=
  if d.lasts b then (if enabled = b then 0 else 1)
  else (if d.lasts (!b) then 2 else 1) * unspent fired e b

/-- How many more toggles a prompt is good for. -/
def room (d : Directives) (fired : Trigger.Fired) (e : String) (enabled : Bool) : Nat :=
  slack d fired e enabled true + slack d fired e enabled false

theorem room_eq (b : Bool) :
    room d fired e enabled = slack d fired e enabled b + slack d fired e enabled (!b) := by
  cases b with
  | true => rfl
  | false => exact Nat.add_comm _ _

theorem unspent_le_one : unspent fired e b ≤ 1 := by
  unfold unspent
  split <;> decide

theorem unspent_mono (h : fired ⊆ fired') : unspent fired' e b ≤ unspent fired e b := by
  unfold unspent
  grind

theorem room_le_three (h : ¬ d.Opposed) : room d fired e enabled ≤ 3 := by
  have hon : unspent fired e true ≤ 1 := unspent_le_one
  have hoff : unspent fired e false ≤ 1 := unspent_le_one
  rw [Directives.Opposed, Bool.forall_bool] at h
  unfold room slack
  cases ht : d.lasts true <;> cases hf : d.lasts false <;> cases enabled <;>
    simp [ht, hf] at h ⊢ <;> omega

/-- Nothing but firings uses the room up. -/
theorem slack_mono (h : fired ⊆ fired') :
    slack d fired' e enabled b ≤ slack d fired e enabled b := by
  unfold slack
  split
  · exact Nat.le_refl _
  · exact Nat.mul_le_mul_left _ (unspent_mono h)

theorem room_mono (h : fired ⊆ fired') : room d fired' e enabled ≤ room d fired e enabled :=
  Nat.add_le_add (slack_mono h) (slack_mono h)

/-- A toggle to a state that lasts, or by an at-rule that had not fired, uses room up. -/
theorem room_toggle (ho : ¬ d.Opposed) (h : fired ⊆ fired')
    (hdue : d.lasts (!enabled) = true ∨
      (e, Rule.atFor (!enabled)) ∉ fired ∧ (e, Rule.atFor (!enabled)) ∈ fired') :
    room d fired' e (!enabled) + 1 ≤ room d fired e enabled := by
  have hmono : unspent fired' e enabled ≤ unspent fired e enabled := unspent_mono h
  rw [room_eq (!enabled), room_eq (!enabled), Bool.not_not]
  unfold slack
  rw [Bool.not_not]
  cases hl : d.lasts (!enabled) with
  | true =>
    -- The other state lasts, so this one does not: the prompt is not opposed.
    have hnot : d.lasts enabled = false := by
      rw [Directives.Opposed, Bool.forall_bool] at ho
      cases enabled <;> simp_all
    simp [hnot]
    omega
  | false =>
    obtain ⟨hold, hnew⟩ := hdue.resolve_left (by simp [hl])
    have hspent : unspent fired e (!enabled) = 1 ∧ unspent fired' e (!enabled) = 0 := by
      simp [unspent, hold, hnew]
    rw [hspent.1, hspent.2]
    cases d.lasts enabled with
    | true => simp
    | false => simp; omega

end Room

/-! ## Runs -/

/-- Message counts taken up one after the other. -/
def processAll (host : Host σ) (w : Watcher) (s : Session σ) : List Int → Watcher × Session σ
  | [] => (w, s)
  | n :: ns =>
    let processed := process host n w remembered s
    processAll host processed.1.2 processed.2 ns

section Run

variable {ps : List Prompt} {p : Prompt} {count : Int} {w : Watcher} {s : Session Store}

theorem mem_dueFor (hp : p ∈ ps) {f : Firing} (hf : f ∈ dueOf count w p) :
    f ∈ Trigger.dueFor count (Assoc.keys w.fired) ps := List.mem_flatMap.2 ⟨p, hp, hf⟩

/-- **A toggle of a prompt uses room up**, unless the prompt is opposed. -/
theorem room_after (hd : Distinct ps) (hp : p ∈ ps) (hpast : (said p.content).Past count)
    (ho : ¬ (said p.content).Opposed) :
    room (said p.content) (Assoc.keys (w.after count ps).fired) p.identifier
        (p.switchAll (w.asked count ps)).enabled + togglesOf p.identifier (w.asked count ps) ≤
      room (said p.content) (Assoc.keys w.fired) p.identifier p.enabled := by
  have hsub : Assoc.keys w.fired ⊆ Assoc.keys (w.after count ps).fired :=
    fun _ hk => mem_keys_after.2 (.inl hk)
  rw [enabled_asked hd hp, togglesOf_asked hd hp]
  split
  · exact room_mono hsub
  · rename_i hdue
    refine room_toggle ho hsub ?_
    cases hl : (said p.content).lasts (!p.enabled) with
    | true => exact .inl rfl
    | false =>
      obtain ⟨f, hf⟩ := List.exists_mem_of_ne_nil _ hdue
      have hone := Trigger.oneShot_of_not_lasts hpast hl hf
      obtain ⟨hid, he⟩ := Trigger.shape_of_mem_due hf
      obtain ⟨hr, _, hfresh⟩ := Trigger.oneShot_of_mem_due hf hone
      have hkey : (f.id, f.rule) = (p.identifier, Rule.atFor (!p.enabled)) := by rw [hid, hr, he]
      rw [hkey] at hfresh
      exact .inr ⟨hfresh, mem_keys_after.2 (.inr ⟨f, mem_dueFor hp hf, hone, hkey⟩)⟩

variable {counts : List Int}

/-- A prompt of a session that is to follow rising counts, all past the thresholds of the
    prompt. -/
structure Ready (w : Watcher) (s : Session Store) (p : Prompt) (counts : List Int) : Prop where
  faithful : s.memo.Faithful Directives.ofContent
  distinct : Distinct s.world.prompts
  mem : p ∈ s.world.prompts
  rising : counts.Pairwise (· < ·)
  later : ∀ l ∈ w.last, ∀ n ∈ counts, l < n
  past : ∀ n ∈ counts, (said p.content).Past n

/-- After the first count the prompt is ready for the others. -/
theorem Ready.tail {n : Int} {ns : List Int} (h : Ready w s p (n :: ns)) :
    (process Store.host n w remembered s).1.2 = w.after n s.world.prompts ∧
      (process Store.host n w remembered s).2.world = s.world.switched (w.asked n s.world.prompts) ∧
      Ready (w.after n s.world.prompts) (process Store.host n w remembered s).2
        (p.switchAll (w.asked n s.world.prompts)) ns := by
  obtain ⟨hfirst, hrising⟩ := List.pairwise_cons.1 h.rising
  have hlater : ∀ l ∈ w.last, l < n := fun l hl => h.later l hl n List.mem_cons_self
  have hnew : w.last ≠ some n := fun hl => Int.lt_irrefl n (hlater n hl)
  have hprocess := leads_process h.distinct hnew
  rw [before_eq_self hlater] at hprocess
  obtain ⟨hr, hworld, hmemo⟩ := hprocess s ⟨rfl, h.faithful⟩
  refine ⟨congrArg Prod.snd hr, hworld, hmemo, ?_, ?_, hrising, ?_, ?_⟩
  · exact hworld ▸ Store.distinct_switched h.distinct _
  · exact hworld ▸ List.mem_map_of_mem h.mem
  · rintro l ⟨⟩ m hm
    exact hfirst m hm
  · rw [Prompt.content_switchAll]
    exact fun m hm => h.past m (List.mem_cons_of_mem n hm)

/-- A prompt that is not opposed is toggled as often as there is room at most. -/
theorem Ready.togglesOf_le (h : Ready w s p counts) (ho : ¬ (said p.content).Opposed) :
    togglesOf p.identifier (processAll Store.host w s counts).2.world.toggles ≤
      togglesOf p.identifier s.world.toggles +
        room (said p.content) (Assoc.keys w.fired) p.identifier p.enabled := by
  induction counts generalizing w s p with
  | nil => exact Nat.le_add_right _ _
  | cons n ns ih =>
    obtain ⟨hw, hworld, hready⟩ := h.tail
    have hroom := room_after (w := w) h.distinct h.mem (h.past n List.mem_cons_self) ho
    have hrest := ih hready (by rwa [Prompt.content_switchAll])
    rw [Prompt.identifier_switchAll, Prompt.content_switchAll, hworld, Store.switched,
      togglesOf_append] at hrest
    rw [processAll, hw]
    omega

/-- An opposed prompt is toggled at every count. -/
theorem Ready.togglesOf_eq (h : Ready w s p counts) (ho : (said p.content).Opposed) :
    togglesOf p.identifier (processAll Store.host w s counts).2.world.toggles =
      togglesOf p.identifier s.world.toggles + counts.length := by
  induction counts generalizing w s p with
  | nil => rfl
  | cons n ns ih =>
    obtain ⟨hw, hworld, hready⟩ := h.tail
    have hdue : dueOf n w p ≠ [] :=
      Trigger.due_ne_nil_of_lasts (h.past n List.mem_cons_self) (ho _)
    have hone : togglesOf p.identifier (w.asked n s.world.prompts) = 1 := by
      rw [togglesOf_asked h.distinct h.mem, if_neg hdue]
    have hrest := ih hready (by rwa [Prompt.content_switchAll])
    rw [Prompt.identifier_switchAll, hworld, Store.switched, togglesOf_append, hone] at hrest
    rw [processAll, hw, hrest, List.length_cons]
    omega

/-- **Prompts settle unless they are opposed.** Past every threshold of a prompt, rising counts
    toggle it three times at most, or at every count if lasting rules ask for both of its
    states. -/
theorem toggles_settle (h : Ready w s p counts) :
    (¬ (said p.content).Opposed →
      togglesOf p.identifier (processAll Store.host w s counts).2.world.toggles ≤
        togglesOf p.identifier s.world.toggles + 3) ∧
    ((said p.content).Opposed →
      togglesOf p.identifier (processAll Store.host w s counts).2.world.toggles =
        togglesOf p.identifier s.world.toggles + counts.length) :=
  ⟨fun ho => Nat.le_trans (h.togglesOf_le ho) (Nat.add_le_add_left (room_le_three ho) _),
    h.togglesOf_eq⟩

end Run

/-- A prompt that is to be enabled from the first message on, and only up to the second. -/
def fickle : Prompt where
  identifier := "fickle"
  content := Comment.block "@message-range 1-2" ++ Comment.block "@enable-after-message 1"

/-- A prompt with at-rules for both states, to be enabled from the second message on. -/
def steady : Prompt where
  identifier := "steady"
  content := Comment.block "@enable-at-message 1" ++ Comment.block "@disable-at-message 2"
    ++ Comment.block "@enable-after-message 2"

/-- A session on the two prompts. -/
def twoTeas : Session Store := fresh { prompts := [fickle, steady] }

/-- Five counts past all that the two prompts name are ready to be processed. -/
theorem ready_twoTeas {p : Prompt} (hp : p ∈ [fickle, steady]) :
    Ready {} twoTeas p [3, 4, 5, 6, 7] := by
  have hpast : ∀ p ∈ [fickle, steady], ∀ n ∈ [3, 4, 5, 6, 7], (said p.content).Past n := by
    decide
  exact ⟨(stands_fresh _).2, by decide, hp, by decide, by rintro _ ⟨⟩, hpast p hp⟩

theorem toggles_settle_twoTeas :
    (Ready {} twoTeas steady [3, 4, 5, 6, 7] ∧ Ready {} twoTeas fickle [3, 4, 5, 6, 7]) ∧
    togglesOf "steady" (processAll Store.host {} twoTeas [3, 4, 5, 6, 7]).2.world.toggles ≤ 3 ∧
    togglesOf "fickle" (processAll Store.host {} twoTeas [3, 4, 5, 6, 7]).2.world.toggles = 5 := by
  have hsteady := ready_twoTeas (p := steady) (by decide)
  have hfickle := ready_twoTeas (p := fickle) (by decide)
  exact ⟨⟨hsteady, hfickle⟩, (toggles_settle hsteady).1 (by decide),
    (toggles_settle hfickle).2 (by decide)⟩

/-- The first of the two prompts does not settle: it is toggled at every count. -/
theorem fickle_flips :
    Ready {} twoTeas fickle [3, 4, 5, 6, 7] ∧
      ¬ togglesOf "fickle" (processAll Store.host {} twoTeas [3, 4, 5, 6, 7]).2.world.toggles ≤ 4 := by
  have hready := ready_twoTeas (p := fickle) (by decide)
  have hflip := hready.togglesOf_eq (by decide)
  refine ⟨hready, fun hle => ?_⟩
  rw [show togglesOf "fickle" _ = _ from hflip] at hle
  revert hle
  decide

end Watcher

end PromptRules
