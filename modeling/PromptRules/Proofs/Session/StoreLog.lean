import PromptRules.Proofs.Session.Moves
import PromptRules.Proofs.Store.Replay

/-!
# The log of a store in a session

When a session works on a store, and whatever else has to do with the store only toggles it,
the prompts of the store are at all times those that it began with and its log replayed.
Answers can be checked against the log: it tells which toggles an operation has got through.

Results:
* `Host.Holds.tracks`: everything that a session does makes the store grow.
* `Host.Holds.finds`: to find something out leaves the store alone.
* `prompts_eq_replay`: after every run the prompts are the log replayed, and each further
  operation accounts for what it adds to the log.
-/

namespace PromptRules

variable {σ τ α : Type} {host : Host σ} {store : σ → Store}

/-- Whatever the surroundings, the request only makes the store grow. -/
def Request.Toggles (store : σ → Store) (request : Request σ α) : Prop :=
  ∀ w, (store w).Grows (store (request w).world)

namespace Operation

/-- What the program brings along for an operation only toggles the store: another sink, a
    question, a counter, or what it does with the surroundings themselves. -/
def Lawful (store : σ → Store) : Operation σ τ → Prop
  | .apply other _ _ _ =>
    ∀ sink ∈ other, ∀ identifier enabled, Request.Toggles store (sink identifier enabled)
  | .enable asker _ =>
    ∀ ask ∈ asker, ∀ identifier issues, Request.Toggles store (ask identifier issues)
  | .onMessage counter => ∀ request ∈ counter, Request.Toggles store request
  | .outside request => Request.Toggles store request
  | _ => True

/-- What an answer tells of the toggles that the operation has added to the log. -/
def Accounts (op : Operation σ τ) (answer : Answer τ) (added : List (String × Bool)) : Prop :=
  match op with
  | .commit _ enabled identifier =>
    answer = .done true ∧ added = [(identifier, enabled)] ∨ answer = .done false ∧ added = []
  | .enableDefaults => ∃ names, answer = .names names ∧ added = names.map (·, true)
  | op => op.finds = true → added = []

end Operation

namespace Session

/-! ## What a session does with a store -/

/-- From one session to the other the store has only grown. -/
def Grown (store : σ → Store) (s t : Session σ) : Prop := (store s.world).Grows (store t.world)

theorem overlooks_grown : Overlooks (Grown store) where
  quiet := by
    intro s t hw _
    rw [Grown, hw]
    exact .refl _
  trans := Store.Grows.trans

end Session

namespace Host.Holds

open Session

theorem finds (h : host.Holds store) :
    Finds host fun s t : Session σ => store t.world = store s.world := finds_view h.list

theorem tracks (h : host.Holds store) : Tracks host (Grown store) where
  toOverlooks := overlooks_grown
  list := by
    intro list hl s
    have hlist : store (consult list s).2.world = store s.world := h.list list hl s.world
    rw [Grown, hlist]
    exact .refl _
  validation := fun _ _ _ => .refl _
  triggers := fun _ _ => .refl _
  commit := by
    refine overlooks_grown.commit (fun sink hs identifier enabled s => ?_) fun _ _ _ _ => .refl _
    exact h.grows hs identifier enabled s.world

/-- A plan only toggles the store, whichever sink it goes through. -/
theorem moves_apply (h : host.Holds store) {other : Option (Sink σ)}
    (ho : ∀ sink ∈ other, ∀ identifier enabled, Request.Toggles store (sink identifier enabled))
    (known : Option (List Prompt)) (issues : List Issue) (identifier : String) :
    Moves (Grown store) (Session.apply host other known issues identifier).run := by
  refine h.tracks.apply ?_ (fun _ _ _ => .refl _) known issues identifier
  intro sink hs identifier enabled s
  cases other with
  | none => exact h.grows hs identifier enabled s.world
  | some sink' =>
    obtain rfl : sink' = sink := Option.some.inj hs
    exact ho sink' rfl identifier enabled s.world

/-- Every operation only makes the store grow. -/
theorem moves_perform (h : host.Holds store) {op : Operation σ τ} (hop : op.Lawful store)
    (w : Watcher) : Moves (Grown store) (op.perform host w) := by
  have ht := h.tracks
  by_cases hfinds : op.finds = true
  · exact ht.toFinds.perform w hfinds
  by_cases hcommits : op.commits = true
  · exact ht.perform w hcommits
  cases op with
  | apply other known issues identifier =>
    exact ht.aside (h.moves_apply hop known issues identifier) w _
  | enable asker identifier =>
    refine ht.aside (ht.enable (fun ask ha identifier issues s => ?_)
      (fun ps issues id => ?_) _) w _
    · exact hop ask ha identifier issues s.world
    · exact h.moves_apply (by simp) (some ps) issues id
  | onMessage counter =>
    exact ht.watching (ht.onMessage (fun request hr s => hop request hr s.world) w)
  | outside request =>
    have hrequest : Moves (Grown store) (consult request) := fun s => hop s.world
    exact ht.aside hrequest w _
  | close =>
    have hclose : Moves (Grown store) (Session.close : Action σ _) := fun _ => .refl _
    exact ht.aside hclose w _
  | _ => first | exact absurd rfl hfinds | exact absurd rfl hcommits

/-! ## What the answers tell -/

/-- Enabling the defaults tells what it has added to the log. -/
theorem toggles_enableDefaults (h : host.Holds store) (s : Session σ) :
    (store (enableDefaults host remembered s).2.world).toggles =
      (store s.world).toggles ++ (enableDefaults host remembered s).1.map (·, true) := by
  have hf := h.finds
  have hask : store (survey host defaults remembered s).2.world = store s.world :=
    hf.survey (fun ps => hf.map (hf.annotated ps) _) s
  have hall := log_commitAll h.logs "default" true (survey host defaults remembered s).1
    (survey host defaults remembered s).2
  rw [hask] at hall
  unfold enableDefaults
  simp only [run_bind]
  split <;> exact hall

/-- Every operation accounts for what it adds to the log. -/
theorem accounts (h : host.Holds store) {op : Operation σ τ} (hop : op.Lawful store)
    (w : Watcher) (s : Session σ) :
    ∃ added, (store (op.perform host w s).2.world).toggles = (store s.world).toggles ++ added ∧
      op.Accounts (op.perform host w s).1.1 added := by
  by_cases hfinds : op.finds = true
  · have hkept : store (op.perform host w s).2.world = store s.world := h.finds.perform w hfinds s
    refine ⟨[], by rw [hkept, List.append_nil], ?_⟩
    cases op <;> first | exact fun _ => rfl | cases hfinds
  · cases op with
    | commit source enabled identifier =>
      have hlog := log_commit h.logs source enabled identifier s
      cases hdone : (commit host source enabled identifier s).1 with
      | true =>
        rw [hdone, if_pos rfl] at hlog
        exact ⟨[(identifier, enabled)], hlog, .inl ⟨congrArg Answer.done hdone, rfl⟩⟩
      | false =>
        rw [hdone, if_neg Bool.false_ne_true] at hlog
        exact ⟨[], hlog.trans (List.append_nil _).symm, .inr ⟨congrArg Answer.done hdone, rfl⟩⟩
    | enableDefaults => exact ⟨_, h.toggles_enableDefaults s, _, rfl, rfl⟩
    | _ =>
      obtain ⟨added, hlog, _, _⟩ := h.moves_perform hop w s
      exact ⟨added, hlog, fun hf => absurd hf hfinds⟩

end Host.Holds

namespace Session

/-- **The prompts of a store are its log replayed**, after every run in which the store is only
    toggled; they are the prompts that the store began with but for their flags, and in the same
    order. Whatever is asked next, its answer accounts for what is added to the log. -/
theorem prompts_eq_replay (h : host.Holds store) {start : Watcher × Session σ}
    (hstart : (store start.2.world).toggles = []) {ops : List (Operation σ τ)}
    (hops : ∀ op ∈ ops, op.Lawful store) {op : Operation σ τ} (hop : op.Lawful store) :
    let ps := (store start.2.world).prompts
    let reached := Performer.run (Operation.perform host) ops start
    let log := (store reached.2.world).toggles
    let answered := op.perform host reached.1 reached.2
    (store reached.2.world).prompts = Prompt.replay log ps ∧
      (store reached.2.world).prompts.map Prompt.off = ps.map Prompt.off ∧
      ∃ added, (store answered.2.world).toggles = log ++ added ∧
        op.Accounts answered.1.1 added := by
  intro ps reached log answered
  obtain ⟨ts, hlog, hprompts, _⟩ : (store start.2.world).Grows (store reached.2.world) :=
    overlooks_grown.run (fun op hmem w => h.moves_perform (hops op hmem) w) start
  rw [hstart, List.nil_append] at hlog
  obtain rfl : log = ts := hlog
  refine ⟨hprompts, ?_, h.accounts hop reached.1 reached.2⟩
  rw [hprompts]
  exact Prompt.off_replay log ps

/-- Two prompts share an identifier, and a third is never to be switched. -/
def twinsSession : Session Store.Served :=
  fresh
    { store := { prompts :=
        [{ identifier := "tea", content := Directive.Comment.block "@default-enabled" },
         { identifier := "tea", content := "Green.", enabled := true },
         { identifier := "ale", content := Directive.Comment.block "@default-enabled" }] }
      outage := { refusal := fun e => if e = "ale" then some "dry" else none } }

/-- The defaults are enabled, one of them in vain; an unknown prompt is switched; the program
    disables the first of the two itself; from then on the prompts cannot be listed. -/
def twinsRun : List (Operation Store.Served Unit) :=
  [.enableDefaults, .commit "user" true "gin", .outside (Store.Served.set "tea" false),
   .outside fun w => { answer := .ok (), world := { w with outage := { listing := some "lost" } } }]

theorem lawful_twinsRun : ∀ op ∈ twinsRun, op.Lawful Store.Served.store := by
  unfold twinsRun
  simp only [List.forall_mem_cons]
  refine ⟨trivial, trivial, ?_, ?_, List.forall_mem_nil _⟩
  · exact fun w => holds_servedHost.grows rfl "tea" false w
  · exact fun w => Store.Grows.refl w.store

theorem prompts_eq_replay_twinsRun :
    let reached := Performer.run (Operation.perform servedHost) twinsRun ({}, twinsSession)
    let log := reached.2.world.store.toggles
    let op : Operation Store.Served Unit := .commit "user" true "tea"
    let answered := op.perform servedHost reached.1 reached.2
    log = [("tea", true), ("tea", false)] ∧
      reached.2.world.store.prompts = Prompt.replay log twinsSession.world.store.prompts ∧
      reached.2.world.store.prompts.map Prompt.off =
        twinsSession.world.store.prompts.map Prompt.off ∧
      ∃ added, answered.2.world.store.toggles = log ++ added ∧ op.Accounts answered.1.1 added :=
  ⟨by decide +kernel, prompts_eq_replay holds_servedHost rfl lawful_twinsRun trivial⟩

end Session

end PromptRules
