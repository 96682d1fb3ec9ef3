import Templating.Session.Models

set_option autoImplicit false

/-! # Values handed over in a session

Using the hand-over tables directly: depositing values, claiming them and taking them back.
-/

namespace Templating.Session

variable {τ : Type}

/-- Deposits a value and issues its key. -/
def deposit (address : Address) (value : Value τ) : Act τ String := do
  let key ← onServices address fun s =>
    let (key, handover) := s.handover.deposit value
    (key, { s with handover })
  return (← get).numbering.textOut key

/-- Makes a model, deposits it and issues its key. -/
def depositModel (address : Address) (r : Recipe τ) : Act τ String := do
  deposit address (.model (← make r none))

/-- Claims what is under a key. -/
def claim {α : Type} (address : Address) (select : Value τ → Option α) (key : String) :
    Act τ (Except Fault α) := do
  let numbering := (← get).numbering
  let result ← onServices address fun s =>
    let (result, handover) := s.handover.claim select (numbering.keyIn key)
    (result, { s with handover })
  return result.mapError numbering.faultOut

/-- Takes the value under a key out of the table, and says whether there was one. -/
def discard (address : Address) (key : String) : Act τ Bool := do
  let numbering := (← get).numbering
  onServices address fun s =>
    let (found, handover) := s.handover.discard (numbering.keyIn key)
    (found, { s with handover })

end Templating.Session
