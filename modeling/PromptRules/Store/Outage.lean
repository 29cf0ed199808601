import PromptRules.Store.Basic

/-!
# Stores that can fail

A store behind a host that is out of order at times: listing may fail as a whole, and the
toggles of some prompts may be refused before anything changes.
-/

namespace PromptRules.Store

/-- What fails at present, with the words of the failure. -/
structure Outage where
  listing : Option String := none
  refusal : String → Option String := fun _ => none

/-- A store and what fails of it. -/
structure Served where
  store : Store
  outage : Outage := {}

namespace Served

/-- Lists the prompts unless listing fails. -/
def list : Request Served (List Prompt) := fun w =>
  match w.outage.listing with
  | some why => { answer := .error (.outside why), world := w }
  | none => (Store.list w.store).map fun s => { w with store := s }

/-- Switches a prompt unless its toggles are refused. -/
def set : Sink Served := fun identifier enabled w =>
  match w.outage.refusal identifier with
  | some why => { answer := .error (.outside why), world := w }
  | none => (Store.set identifier enabled w.store).map fun s => { w with store := s }

end Served

end PromptRules.Store
