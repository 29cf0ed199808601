import PromptRules.Proofs.Session.ForcedStates

/-!
# Changes that aim at a state

Switching to a profile and enabling the defaults are changes of one kind. What a prompt declares
tells the state that the change aims at, or that it leaves the prompt alone; the prompts that are
not in the state aimed at are listed from one look at the store, and then switched one by one. A
toggle concerns no other prompt, so the list stays right while it is worked off: in the end every
prompt is where the change aims, and a second change finds nothing to list.

Results:
* `Aim.switchAll_toggles`: the listed toggles bring each prompt to the state aimed at.
* `Aim.missing_reach`: then nothing is missing.
* `leads_activate`, `leads_enableDefaults`: what the two changes answer and leave on a store.
* `aims_reached`: after any run both changes reach their aim, and are idle when made again.
-/

namespace PromptRules

open Data Directive Session

/-- The state that a change aims at for a prompt that says this; none if the change leaves the
    prompt alone. -/
abbrev Aim := Directives → Option Bool

/-- A profile is for the prompts that list it, and against those that list other ones only. -/
def Profile.aim (profile : String) : Aim := fun d =>
  if takesPart d then some ((d.list .profiles).contains profile) else none

/-- The defaults are for the prompts that ask to be enabled, and against none. -/
def defaultAim : Aim := fun d => if d.flag .defaultEnabled then some true else none

namespace Aim

/-- The prompt in the state aimed at. -/
def reach (aim : Aim) (p : Prompt) : Prompt :=
  { p with enabled := (aim (said p.content)).getD p.enabled }

/-- Whether a prompt still has to be switched to a state. -/
def lacks (aim : Aim) (b : Bool) (p : Prompt) : Bool :=
  aim (said p.content) == some b && p.enabled != b

/-- The prompts that still have to be switched to a state. -/
def missing (aim : Aim) (b : Bool) (ps : List Prompt) : List String :=
  (ps.filter (aim.lacks b)).map Prompt.identifier

/-- The toggles that are left to make. -/
def toggles (aim : Aim) (ps : List Prompt) : List (String × Bool) :=
  (aim.missing true ps).map (·, true) ++ (aim.missing false ps).map (·, false)

variable {aim : Aim} {ps : List Prompt} {p : Prompt} {b : Bool}

theorem lacks_iff : aim.lacks b p = true ↔ aim (said p.content) = some b ∧ p.enabled = !b := by
  unfold lacks
  rw [Bool.and_eq_true, beq_iff_eq, bne_iff_ne, Bool.eq_not]

/-- A prompt is listed for what it says itself. -/
theorem mem_missing (hd : Distinct ps) (hp : p ∈ ps) :
    p.identifier ∈ aim.missing b ps ↔ aim.lacks b p = true := by
  constructor
  · intro h
    obtain ⟨q, hq, hid⟩ := List.mem_map.1 h
    obtain ⟨hqps, hlacks⟩ := List.mem_filter.1 hq
    have heq : q = p := hd.eq hqps hp hid
    rwa [heq] at hlacks
  · intro h
    have hmem : p ∈ ps.filter (aim.lacks b) := List.mem_filter.2 ⟨hp, h⟩
    exact List.mem_map_of_mem hmem

theorem known_of_mem_missing {e : String} (h : e ∈ aim.missing b ps) :
    e ∈ ps.map Prompt.identifier := by
  obtain ⟨p, hp, rfl⟩ := List.mem_map.1 h
  have hps : p ∈ ps := (List.mem_filter.1 hp).1
  exact List.mem_map_of_mem hps

theorem switchAll_toggles (hd : Distinct ps) (hp : p ∈ ps) :
    p.switchAll (aim.toggles ps) = aim.reach p := by
  have hstate : (p.switchAll (aim.toggles ps)).enabled =
      if aim.lacks false p then false else if aim.lacks true p then true else p.enabled := by
    rw [toggles, Prompt.switchAll_append, Prompt.enabled_switchAll_map,
      Prompt.identifier_switchAll, Prompt.enabled_switchAll_map]
    simp only [mem_missing hd hp]
  rw [Prompt.switchAll_eq, hstate, reach]
  congr 1
  simp only [lacks_iff]
  cases haim : aim (said p.content) with
  | none => simp
  | some c => cases c <;> cases he : p.enabled <;> simp

theorem switched_toggles {w : Store} (hd : Distinct w.prompts) :
    (w.switched (aim.toggles w.prompts)).prompts = w.prompts.map aim.reach := by
  rw [Store.switched]
  exact List.map_congr_left fun p hp => switchAll_toggles hd hp

theorem missing_reach (aim : Aim) (b : Bool) (ps : List Prompt) :
    aim.missing b (ps.map aim.reach) = [] := by
  have hnone : ∀ q ∈ ps.map aim.reach, ¬ aim.lacks b q = true := by
    intro q hq
    obtain ⟨p, _, rfl⟩ := List.mem_map.1 hq
    rw [lacks_iff]
    rintro ⟨haim, hstate⟩
    have hsaid : aim (said p.content) = some b := haim
    have hreached : (aim.reach p).enabled = b := by simp [reach, hsaid]
    rw [hreached] at hstate
    exact (Bool.eq_not_self b).1 hstate
  rw [missing, List.filter_eq_nil_iff.2 hnone, List.map_nil]

theorem toggles_reach (aim : Aim) (ps : List Prompt) : aim.toggles (ps.map aim.reach) = [] := by
  rw [toggles, missing_reach, missing_reach]
  rfl

end Aim

/-! ## The two aims -/

/-- What the prompts say, as it is looked up. -/
def around (ps : List Prompt) : List (Prompt × Directives) := ps.map fun p => (p, said p.content)

theorem lacks_profile_true (profile : String) (p : Prompt) :
    (Profile.aim profile).lacks true p = Profile.toEnable profile (p, said p.content) := by
  unfold Aim.lacks Profile.aim Profile.toEnable Profile.takesPart
  cases (said p.content).list .profiles with
  | nil => simp
  | cons name names => cases p.enabled <;> simp

theorem lacks_profile_false (profile : String) (p : Prompt) :
    (Profile.aim profile).lacks false p = Profile.toDisable profile (p, said p.content) := by
  unfold Aim.lacks Profile.aim Profile.toDisable Profile.takesPart
  cases (said p.content).list .profiles with
  | nil => simp
  | cons name names => cases p.enabled <;> simp

theorem toEnable_changesOf (profile : String) (ps : List Prompt) :
    (Profile.changesOf profile (around ps)).toEnable = (Profile.aim profile).missing true ps := by
  unfold Profile.changesOf around Aim.missing
  simp only
  rw [List.filter_map, List.map_map]
  have hlacks : Profile.toEnable profile ∘ (fun p => (p, said p.content)) =
      (Profile.aim profile).lacks true := funext fun p => (lacks_profile_true profile p).symm
  rw [hlacks]
  rfl

theorem toDisable_changesOf (profile : String) (ps : List Prompt) :
    (Profile.changesOf profile (around ps)).toDisable = (Profile.aim profile).missing false ps := by
  unfold Profile.changesOf around Aim.missing
  simp only
  rw [List.filter_map, List.map_map]
  have hlacks : Profile.toDisable profile ∘ (fun p => (p, said p.content)) =
      (Profile.aim profile).lacks false := funext fun p => (lacks_profile_false profile p).symm
  rw [hlacks]
  rfl

/-- A prompt without content asks for nothing, so it does not matter that it is passed over. -/
theorem lacks_default (p : Prompt) :
    defaultAim.lacks true p =
      (((said p.content).flag .defaultEnabled && !p.enabled) && p.hasContent) := by
  have hstate :
      defaultAim.lacks true p = ((said p.content).flag .defaultEnabled && !p.enabled) := by
    unfold Aim.lacks defaultAim
    cases (said p.content).flag .defaultEnabled <;> cases p.enabled <;> rfl
  rw [hstate]
  by_cases hc : p.content = ""
  · have hnone : (said p.content).flag .defaultEnabled = false := by
      rw [hc]
      rfl
    simp [hnone]
  · have hcontent : p.hasContent = true := by simpa [Prompt.hasContent] using hc
    simp [hcontent]

theorem lacks_default_false (p : Prompt) : defaultAim.lacks false p = false := by
  unfold Aim.lacks defaultAim
  cases (said p.content).flag .defaultEnabled <;> rfl

theorem missing_default_false (ps : List Prompt) : defaultAim.missing false ps = [] := by
  have hnone : ∀ p ∈ ps, ¬ defaultAim.lacks false p = true := by
    intro p _
    rw [lacks_default_false]
    exact Bool.false_ne_true
  rw [Aim.missing, List.filter_eq_nil_iff.2 hnone, List.map_nil]

/-! ## Changes of a store -/

namespace Session

variable {σ : Type}

theorem leads_lookUp (p : Prompt) (w : σ) :
    Leads (PromptRules.directivesOf remembered p) w (said p.content) w := by
  unfold PromptRules.directivesOf
  cases hp : p.hasContent with
  | true => exact leads_remembered p.content w
  | false =>
    have hc : p.content = "" := by simpa [Prompt.hasContent] using hp
    rw [hc]
    exact leads_pure _ w

theorem leads_changes (profile : String) (ps : List Prompt) (w : σ) :
    Leads (Profile.changes remembered profile ps) w (Profile.changesOf profile (around ps)) w := by
  have hall : Leads (ps.mapM fun p => do return (p, ← PromptRules.directivesOf remembered p)) w
      (around ps) w := by
    induction ps with
    | nil => exact leads_pure [] w
    | cons p ps ih =>
      rw [List.mapM_cons]
      have hp : Leads (do return (p, ← PromptRules.directivesOf remembered p)) w
          (p, said p.content) w := (leads_lookUp p w).bind (leads_pure _ w)
      exact hp.bind (ih.bind (leads_pure _ w))
  exact hall.bind (leads_pure _ w)

theorem leads_defaults (ps : List Prompt) (w : σ) :
    Leads (defaults remembered ps) w (defaultAim.missing true ps) w := by
  have hmissing : (((ps.filter Prompt.hasContent).map fun p => (p, said p.content)).filter
      fun o => o.2.flag .defaultEnabled && !o.1.enabled).map (·.1.identifier) =
      defaultAim.missing true ps := by
    rw [Aim.missing, List.filter_map, List.map_map, List.filter_filter]
    have hlacks : defaultAim.lacks true = fun p =>
        (((said p.content).flag .defaultEnabled && !p.enabled) && p.hasContent) :=
      funext lacks_default
    rw [hlacks]
    rfl
  rw [← hmissing]
  exact (leads_annotate _ w).bind (leads_pure _ w)

/-- A store gets the toggles of a change through. -/
theorem leads_toggles {w : Store} (hd : Distinct w.prompts) (source : String) (aim : Aim) :
    Leads (do
        let _ ← commitAll Store.host source true (aim.missing true w.prompts)
        commitAll Store.host source false (aim.missing false w.prompts)) w
      (aim.missing false w.prompts) (w.switched (aim.toggles w.prompts)) := by
  have hknown : ∀ e ∈ aim.missing true w.prompts, e ∈ w.prompts.map Prompt.identifier :=
    fun e => Aim.known_of_mem_missing
  refine (leads_commitAll hd source true hknown).bind ?_
  have hd' := Store.distinct_switched hd ((aim.missing true w.prompts).map (·, true))
  have hknown' : ∀ e ∈ aim.missing false w.prompts,
      e ∈ (w.switched ((aim.missing true w.prompts).map (·, true))).prompts.map
        Prompt.identifier := by
    intro e he
    rw [Store.identifiers_switched]
    exact Aim.known_of_mem_missing he
  have hoff := leads_commitAll hd' source false hknown'
  rwa [Store.switched_switched] at hoff

/-- Switching to a profile tells what was missing, and makes the toggles. -/
theorem leads_activate {w : Store} (hd : Distinct w.prompts) (profile : String) :
    Leads (activate Store.host profile) w (Profile.changesOf profile (around w.prompts))
      (w.switched ((Profile.aim profile).toggles w.prompts)) := by
  have hlist : Leads (prompts Store.host) w w.prompts w := leads_prompts Store.host w
  unfold activate
  refine (hlist.bind (leads_changes profile w.prompts w)).bind ?_
  have htoggles := leads_toggles hd (s!"profile:{profile}") (Profile.aim profile)
  rw [← toEnable_changesOf, ← toDisable_changesOf] at htoggles
  intro s hs
  obtain ⟨_, hstands⟩ := htoggles s hs
  split
  · exact ⟨rfl, hstands⟩
  · exact ⟨rfl, hstands⟩

/-- Enabling the defaults tells what was missing, and makes the toggles. -/
theorem leads_enableDefaults {w : Store} (hd : Distinct w.prompts) :
    Leads (enableDefaults Store.host) w (defaultAim.missing true w.prompts)
      (w.switched (defaultAim.toggles w.prompts)) := by
  have hlist : Leads (prompts Store.host) w w.prompts w := leads_prompts Store.host w
  have htoggles : defaultAim.toggles w.prompts
      = (defaultAim.missing true w.prompts).map (·, true) := by
    rw [Aim.toggles, missing_default_false, List.map_nil, List.append_nil]
  have hknown : ∀ e ∈ defaultAim.missing true w.prompts, e ∈ w.prompts.map Prompt.identifier :=
    fun e => Aim.known_of_mem_missing
  have hon := leads_commitAll hd "default" true hknown
  rw [htoggles]
  unfold enableDefaults
  refine (hlist.bind (leads_defaults w.prompts w)).bind (hon.bind ?_)
  split
  · exact (leads_say _ _ _).bind (leads_pure _ _)
  · exact leads_pure _ _

end Session

/-! ## Reached, and idle -/

/-- From `p` to `q` a prompt has followed the switch to a profile. -/
structure Profile.Followed (profile : String) (p q : Prompt) : Prop where
  same : q = { p with enabled := q.enabled }
  member : (said p.content).list .profiles ≠ [] →
    (q.enabled = true ↔ profile ∈ (said p.content).list .profiles)
  other : (said p.content).list .profiles = [] → q = p

/-- From `p` to `q` a prompt has been given its default. -/
structure DefaultGiven (p q : Prompt) : Prop where
  same : q = { p with enabled := q.enabled }
  asked : (said p.content).flag .defaultEnabled = true → q.enabled = true
  other : (said p.content).flag .defaultEnabled = false → q = p

/-- The prompts that are in another state in the second of two lists. -/
def flipped (ps qs : List Prompt) : List String :=
  ((ps.zip qs).filter fun o => o.1.enabled != o.2.enabled).map (·.1.identifier)

theorem followed_reach (profile : String) (p : Prompt) :
    Profile.Followed profile p ((Profile.aim profile).reach p) where
  same := rfl
  member := by
    intro hsome
    have haim : Profile.aim profile (said p.content) =
        some (((said p.content).list .profiles).contains profile) := by
      have hpart : Profile.takesPart (said p.content) = true := by
        simpa [Profile.takesPart] using hsome
      rw [Profile.aim, if_pos hpart]
    simp [Aim.reach, haim]
  other := by
    intro hnone
    have haim : Profile.aim profile (said p.content) = none := by
      simp [Profile.aim, Profile.takesPart, hnone]
    simp [Aim.reach, haim]

theorem defaultGiven_reach (p : Prompt) : DefaultGiven p (defaultAim.reach p) where
  same := rfl
  asked := by
    intro hasked
    simp [Aim.reach, defaultAim, hasked]
  other := by
    intro hother
    simp [Aim.reach, defaultAim, hother]

/-- The listed prompts are those that change their state. -/
theorem flipped_default (ps : List Prompt) :
    flipped ps (ps.map defaultAim.reach) = defaultAim.missing true ps := by
  have hlacks : ∀ p : Prompt,
      (p.enabled != (defaultAim.reach p).enabled) = defaultAim.lacks true p := by
    intro p
    unfold Aim.reach Aim.lacks defaultAim
    cases (said p.content).flag .defaultEnabled <;> cases p.enabled <;> rfl
  unfold flipped Aim.missing
  induction ps with
  | nil => rfl
  | cons p ps ih =>
    rw [List.map_cons, List.zip_cons_cons, List.filter_cons, List.filter_cons, hlacks p]
    split
    · rw [List.map_cons, List.map_cons, ih]
    · exact ih

namespace Session

/-- After a change no toggle is left to make. -/
theorem switched_toggles_of_reached {aim : Aim} {w : Store} {ps : List Prompt}
    (h : w.prompts = ps.map aim.reach) : w.switched (aim.toggles w.prompts) = w := by
  rw [h, Aim.toggles_reach, Store.switched_nil]

variable {s : Session Store}

/-- Switching to a profile brings every prompt in line, and a second time nothing is to do. -/
theorem activate_twice (hd : Distinct s.world.prompts)
    (hm : s.memo.Faithful Directives.ofContent) {profile : String}
    {switched again : Profile.Changes × Session Store}
    (hswitched : activate Store.host profile remembered s = switched)
    (hagain : activate Store.host profile remembered switched.2 = again) :
    List.Forall₂ (Profile.Followed profile) s.world.prompts switched.2.world.prompts ∧
      again.1.toEnable = [] ∧ again.1.toDisable = [] ∧ again.2.world = switched.2.world := by
  have hfirst := leads_activate hd profile s ⟨rfl, hm⟩
  rw [hswitched] at hfirst
  obtain ⟨-, hworld, hm'⟩ := hfirst
  have hps : switched.2.world.prompts = s.world.prompts.map (Profile.aim profile).reach := by
    rw [hworld]
    exact Aim.switched_toggles hd
  have hd' : Distinct switched.2.world.prompts := by
    rw [hps]
    exact hd.map fun _ => rfl
  have hsecond := leads_activate hd' profile switched.2 ⟨rfl, hm'⟩
  rw [hagain] at hsecond
  obtain ⟨hanswer, hidle, -⟩ := hsecond
  refine ⟨?_, ?_, ?_, ?_⟩
  · rw [hps, List.forall₂_map_right_iff]
    exact List.forall₂_same.2 fun p _ => followed_reach profile p
  · rw [hanswer, toEnable_changesOf, hps, Aim.missing_reach]
  · rw [hanswer, toDisable_changesOf, hps, Aim.missing_reach]
  · rw [hidle, switched_toggles_of_reached hps]

/-- Enabling the defaults tells which prompts have changed, and a second time none does. -/
theorem enableDefaults_twice (hd : Distinct s.world.prompts)
    (hm : s.memo.Faithful Directives.ofContent) {given anew : List String × Session Store}
    (hgiven : enableDefaults Store.host remembered s = given)
    (hanew : enableDefaults Store.host remembered given.2 = anew) :
    List.Forall₂ DefaultGiven s.world.prompts given.2.world.prompts ∧
      given.1 = flipped s.world.prompts given.2.world.prompts ∧
      anew.1 = [] ∧ anew.2.world = given.2.world := by
  have hfirst := leads_enableDefaults hd s ⟨rfl, hm⟩
  rw [hgiven] at hfirst
  obtain ⟨htold, hworld, hm'⟩ := hfirst
  have hps : given.2.world.prompts = s.world.prompts.map defaultAim.reach := by
    rw [hworld]
    exact Aim.switched_toggles hd
  have hd' : Distinct given.2.world.prompts := by
    rw [hps]
    exact hd.map fun _ => rfl
  have hsecond := leads_enableDefaults hd' given.2 ⟨rfl, hm'⟩
  rw [hanew] at hsecond
  obtain ⟨hanswer, hidle, -⟩ := hsecond
  refine ⟨?_, ?_, ?_, ?_⟩
  · rw [hps, List.forall₂_map_right_iff]
    exact List.forall₂_same.2 fun p _ => defaultGiven_reach p
  · rw [htold, hps, flipped_default]
  · rw [hanswer, hps, Aim.missing_reach]
  · rw [hidle, switched_toggles_of_reached hps]

variable {τ : Type}

/-- **Profiles and defaults reach their aim, and then rest.** After every run on a store, switching
    to a profile enables those that list it of the prompts that list any, disables the others of
    them, and leaves alone the rest; a second switch finds nothing to do. Enabling the defaults
    enables the prompts that ask for it, leaves alone the rest, and tells which ones have changed;
    a second time tells of none. -/
theorem aims_reached {start : Store} (hd : Distinct start.prompts) (journal : Journal)
    (limits : Limits) (clock : Nat → Float) {ops : List (Operation Store τ)}
    (hops : ∀ op ∈ ops, op.Lawful id) (profile : String) :
    let reached :=
      (Performer.run (Operation.perform Store.host) ops ({}, begun start journal limits clock)).2
    let switched := activate Store.host profile remembered reached
    let again := activate Store.host profile remembered switched.2
    let given := enableDefaults Store.host remembered reached
    let anew := enableDefaults Store.host remembered given.2
    (List.Forall₂ (Profile.Followed profile) reached.world.prompts switched.2.world.prompts ∧
        again.1.toEnable = [] ∧ again.1.toDisable = [] ∧ again.2.world = switched.2.world) ∧
      List.Forall₂ DefaultGiven reached.world.prompts given.2.world.prompts ∧
        given.1 = flipped reached.world.prompts given.2.world.prompts ∧
        anew.1 = [] ∧ anew.2.world = given.2.world := by
  intro reached
  have hm : reached.memo.Faithful Directives.ofContent :=
    faithful_run Store.host ops (Memo.faithful_new limits)
  have hdr : Distinct reached.world.prompts := Watcher.distinct_of_run hd hops
  exact ⟨activate_twice hdr hm rfl rfl, enableDefaults_twice hdr hm rfl rfl⟩

/-- Prompts for one profile, for another one, for both and for none, of which two ask to be
    enabled. -/
def profiledSet : Store where
  prompts :=
    [{ identifier := "calm", content := Comment.block "@profile calm" },
     { identifier := "wild", content := Comment.block "@profile wild", enabled := true },
     { identifier := "both", content := Comment.block "@profile wild, calm" ++
        Comment.block "@default-enabled" },
     { identifier := "tea", content := Comment.block "@default-enabled" },
     { identifier := "plain", enabled := true }]

/-- Toggles by hand and by the program before. -/
def profiledRun : List (Operation Store Unit) :=
  [.outside (Store.set "both" true), .activate "wild", .disable "tea"]

theorem lawful_profiledRun : ∀ op ∈ profiledRun, op.Lawful id := by
  have hset : Request.Toggles id (Store.set "both" true) := fun w =>
    Store.holds_host.grows rfl "both" true w
  unfold profiledRun
  simp only [List.forall_mem_cons]
  exact ⟨hset, trivial, trivial, List.forall_mem_nil _⟩

theorem aims_reached_profiledRun :
    let reached := (Performer.run (Operation.perform Store.host) profiledRun
      ({}, begun profiledSet Journal.off .standard fun _ => 0)).2
    let switched := activate Store.host "calm" remembered reached
    let again := activate Store.host "calm" remembered switched.2
    let given := enableDefaults Store.host remembered reached
    let anew := enableDefaults Store.host remembered given.2
    Distinct profiledSet.prompts ∧ (∀ op ∈ profiledRun, op.Lawful id) ∧
      (List.Forall₂ (Profile.Followed "calm") reached.world.prompts switched.2.world.prompts ∧
        again.1.toEnable = [] ∧ again.1.toDisable = [] ∧ again.2.world = switched.2.world) ∧
      List.Forall₂ DefaultGiven reached.world.prompts given.2.world.prompts ∧
        given.1 = flipped reached.world.prompts given.2.world.prompts ∧
        anew.1 = [] ∧ anew.2.world = given.2.world := by
  have hd : Distinct profiledSet.prompts := by decide
  exact ⟨hd, lawful_profiledRun,
    aims_reached hd Journal.off .standard (fun _ => 0) lawful_profiledRun "calm"⟩

end Session

end PromptRules
