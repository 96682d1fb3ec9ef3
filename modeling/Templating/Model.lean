import Templating.Fault
import Templating.LengthBound

set_option autoImplicit false

/-! # Models

A model gives a text for a target. Either the text is the same for every target, or it depends
on the target; then evaluating it may also be aborted, and the payload of the abort reaches
whoever asked for the text.

Models are instances: two models may give the same texts and still be told apart. The empty
text has one canonical model, every other model has an instance number of its own. A model
that is a loaded unit, or holds one, keeps that unit alive.
-/

namespace Templating

/-- The number of an instance: a model, or a unit that is loaded. -/
abbrev Instance := Nat

/-- An evaluation that was given up, with the payload it was given up with. -/
structure Abort where
  payload : String
deriving DecidableEq, Repr

/-- What evaluating a model gives: a text, or an abort. -/
abbrev Outcome := Except Abort String

/-- The greatest number of bytes that room can be made for: 2^63 - 1. -/
def maxCapacity : Nat := 0x7fffffffffffffff

/-- Makes room for an output of `bytes` bytes. -/
def reserve (bytes : Nat) : Except Abort Unit :=
  if bytes ≤ maxCapacity then .ok () else .error ⟨"capacity overflow"⟩

/-- A model of texts for targets of type `τ`. -/
inductive Model (τ : Type) where
  | empty
  | fixed (self : Instance) (text : String)
  -- a text that depends on the target, with what is known about its length and with the loaded
  -- units that live as long as the model does
  | dynamic (self : Instance) (bound : LengthBound) (eval : τ → Outcome) (keeps : List Instance)

namespace Model

variable {τ : Type}

/-- The model of a fixed text; that of the empty text is the canonical one. -/
def ofText (self : Instance) (text : String) : Model τ :=
  if text = "" then empty else fixed self text

/-- The model that evaluates a function, with a hint about the length of its texts. -/
def ofFunction (self : Instance) (eval : τ → Outcome) (hint : LengthBound) : Model τ :=
  dynamic self hint eval []

/-- The text, if it does not depend on the target. -/
def fixedText? : Model τ → Option String
  | empty => some ""
  | fixed _ text => some text
  | dynamic _ _ _ _ => none

/-- Whether the text may depend on the target. -/
def isDynamic (m : Model τ) : Bool := m.fixedText?.isNone

/-- What is known about the length of the texts. -/
def bound : Model τ → LengthBound
  | empty => .exact 0
  | fixed _ text => .exact text.utf8ByteSize
  | dynamic _ bound _ _ => bound

/-- Evaluates the model for a target. -/
def text : Model τ → τ → Outcome
  | empty, _ => .ok ""
  | fixed _ text, _ => .ok text
  | dynamic _ _ eval _, target => eval target

/-- Evaluates the model for a target that may be missing. A fixed text needs none. -/
def render (m : Model τ) (target? : Option τ) : Except Fault Outcome :=
  match m.fixedText?, target? with
  | some text, _ => .ok (.ok text)
  | none, some target => .ok (m.text target)
  | none, none => .error .missingTarget

/-- The loaded units that live as long as the model does. -/
def keeps : Model τ → List Instance
  | dynamic _ _ _ keeps => keeps
  | _ => []

/-- The number of the instance; the canonical model of the empty text has none. -/
def self? : Model τ → Option Instance
  | empty => none
  | fixed self _ => some self
  | dynamic self _ _ _ => some self

/-- Whether the model is the canonical model of the empty text. -/
def isEmpty (m : Model τ) : Bool := m.self?.isNone

/-- Whether two models are the same instance. -/
def same (m n : Model τ) : Bool := m.self? == n.self?

end Model

end Templating
