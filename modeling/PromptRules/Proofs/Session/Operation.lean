import PromptRules.Session.Watcher

/-!
# Operations

All that can be asked of a session and of the watcher beside it, and what the surroundings may
do of their own, as data. So a run of a program that uses the library is a list of operations,
and what it can see of the run is a list of reports: after each operation the answer, the
surroundings, the journal and the watcher. Counters of the memory and notes are no part of a
report.

Results:
* `reports_append`: a run goes on where the run before it ended.
-/

namespace PromptRules

open Decimal Directive

/-- A host that lists these prompts, if there are any given. -/
def Host.showing {σ : Type} (host : Host σ) : Option (List Prompt) → Host σ
  | none => host
  | some ps => { host with list? := some fun w => { answer := .ok ps, world := w } }

/-- An operation of a program on a session with surroundings in `σ`; `τ` is what requests of
    the surroundings' own answer. -/
inductive Operation (σ τ : Type) where
  /-- Asks what a content says. -/
  | look (content : Option String)
  /-- Reads a content without the memory. -/
  | read (content : Option String)
  | directivesOf (known : Option (List Prompt)) (identifier : String)
  | list
  | forget
  | commit (source : String) (enabled : Bool) (identifier : String)
  | check (known : Option (List Prompt)) (identifier : String)
  | canClear (known : Option (List Prompt)) (issues : List Issue) (identifier : String)
  | apply (other : Option (Sink σ)) (known : Option (List Prompt)) (issues : List Issue)
      (identifier : String)
  | enable (asker : Option (Asker σ)) (identifier : String)
  | disable (identifier : String)
  | due (known : Option (List Prompt)) (count : Int) (fired : Trigger.Fired)
  | enableDefaults
  | profiles
  | activate (profile : String)
  | shown (api : Option String)
  | tokenBudget
  | tags (limit : Option Int)
  | groups
  | search (term : String)
  | close
  /-- The watcher takes up the count that a counter tells. -/
  | onMessage (counter : Option (Request σ Int))
  | process (count : Int)
  | reset
  /-- Something that the program does with the surroundings themselves. -/
  | outside (request : Request σ τ)

/-- What an operation answers. -/
inductive Answer (τ : Type) where
  | nothing
  | directives (d : Directives)
  | reading (r : Except TooManyDigits Directives)
  | prompts (ps : List Prompt)
  | done (b : Bool)
  | issues (issues : List Issue)
  | plan (r : Except Fault Plan)
  | outcome (o : Outcome)
  | transitions (t : Option Transitions)
  | names (names : List String)
  | changes (c : Profile.Changes)
  | budget (b : TokenBudget)
  | tags (tags : List (String × Nat))
  | groups (groups : List (String × Group))
  | file (name : Option String)
  | outside (r : Except Fault τ)

namespace Operation

variable {σ τ α : Type}

/-- An operation that leaves the watcher as it is. -/
def aside (w : Watcher) (answer : α → Answer τ) (x : Action σ α) :
    Action σ (Answer τ × Watcher) := do
  return (answer (← x), w)

/-- An operation of the watcher. -/
def watching (x : Action σ (Option Transitions × Watcher)) : Action σ (Answer τ × Watcher) := do
  let (t, w) ← x
  return (.transitions t, w)

/-- Carries out an operation, with a lookup for what contents say. -/
def performThrough (l : Lookup (Action σ)) (host : Host σ) (w : Watcher) :
    Operation σ τ → Action σ (Answer τ × Watcher)
  | .look content => aside w .directives (l (content.getD ""))
  | .read content => aside w .reading (pure (Directives.ofContent (content.getD "")))
  | .directivesOf known identifier => aside w .directives do
    Session.directivesOf (← Session.promptsOr host known) identifier l
  | .list => aside w .prompts (Session.prompts host)
  | .forget => aside w (fun _ => .nothing) Session.forget
  | .commit source enabled identifier =>
    aside w .done (Session.commit host source enabled identifier)
  | .check known identifier => aside w .issues do
    Session.check (← Session.promptsOr host known) identifier l
  | .canClear known issues identifier => aside w .done do
    Session.canClear (← Session.promptsOr host known) issues identifier l
  | .apply other known issues identifier =>
    aside w .plan (Session.apply host other known issues identifier l).run
  | .enable asker identifier => aside w .outcome (Session.enable host asker identifier l)
  | .disable identifier => aside w .outcome (Session.disable host identifier)
  | .due known count fired =>
    aside w (.transitions ∘ some) (Session.due (host.showing known) count fired l)
  | .enableDefaults => aside w .names (Session.enableDefaults host l)
  | .profiles => aside w .names (Session.survey host Profile.names l)
  | .activate profile => aside w .changes (Session.activate host profile l)
  | .shown api => aside w .prompts (Session.shown host api l)
  | .tokenBudget => aside w .budget (Session.survey host TokenBudget.ofPrompts l)
  | .tags limit =>
    aside w .tags (Session.survey host (fun lookup ps => Tag.mostUsed lookup limit ps) l)
  | .groups => aside w .groups (Session.survey host Group.ofPrompts l)
  | .search term =>
    aside w .prompts (Session.survey host (fun lookup ps => Search.find lookup term ps) l)
  | .close => aside w .file Session.close
  | .onMessage counter => watching (Watcher.onMessage host counter w l)
  | .process count => watching (Watcher.process host count w l)
  | .reset => return (.nothing, Watcher.reset)
  | .outside request => aside w .outside (Session.consult request)

/-- Carries out an operation of a session, which asks its memory what contents say. -/
def perform (host : Host σ) (w : Watcher) (op : Operation σ τ) : Action σ (Answer τ × Watcher) :=
  performThrough Session.remembered host w op

end Operation

/-! ## Runs -/

/-- What can be seen after an operation. -/
structure Report (σ τ : Type) where
  answer : Answer τ
  world : σ
  journal : Journal
  watcher : Watcher

/-- A way to carry out operations. -/
abbrev Performer (σ τ : Type) := Watcher → Operation σ τ → Action σ (Answer τ × Watcher)

namespace Performer

variable {σ τ : Type}

/-- The watcher and the session after some operations. -/
def run (perform : Performer σ τ) :
    List (Operation σ τ) → Watcher × Session σ → Watcher × Session σ
  | [], start => start
  | op :: ops, (w, s) => run perform ops ((perform w op s).1.2, (perform w op s).2)

/-- What can be seen of some operations, one after the other. -/
def reports (perform : Performer σ τ) :
    List (Operation σ τ) → Watcher × Session σ → List (Report σ τ)
  | [], _ => []
  | op :: ops, (w, s) =>
    let answered := perform w op s
    { answer := answered.1.1, world := answered.2.world, journal := answered.2.journal,
      watcher := answered.1.2 } :: reports perform ops (answered.1.2, answered.2)

theorem reports_append (perform : Performer σ τ) (ops ops' : List (Operation σ τ))
    (start : Watcher × Session σ) :
    reports perform (ops ++ ops') start =
      reports perform ops start ++ reports perform ops' (run perform ops start) := by
  induction ops generalizing start with
  | nil => rfl
  | cons op ops ih => exact congrArg (List.cons _) (ih _)

end Performer

end PromptRules
