import Templating.Model
import Templating.Program.Basic

set_option autoImplicit false

/-! # Linked programs

A program whose slots are filled. Every reference to a slot is replaced by the model in it, so
a linked program runs without looking anything up, and keeps only the models that it uses.
-/

namespace Templating

/-- How the output of a linked program begins. -/
inductive Start (τ : Type) where
  -- empty, with room for this many bytes
  | capacity (bytes : UInt64)
  | model (model : Model τ)

/-- One step of a linked program. -/
inductive Step (τ : Type) where
  | text (text : String)
  | char (c : Char)
  | model (model : Model τ)

/-- A program whose slots are filled. -/
structure Linked (τ : Type) where
  bound : LengthBound
  start : Start τ
  steps : List (Step τ)

variable {τ : Type}

namespace Start

/-- The output that the program begins with. -/
def eval (target : τ) : Start τ → Outcome
  | capacity bytes => (reserve bytes.toNat).map fun _ => ""
  | model m => m.text target

/-- The model that the output begins with, if it begins with one. -/
def model? : Start τ → Option (Model τ)
  | capacity _ => none
  | model m => some m

end Start

namespace Step

/-- What the step appends. -/
def eval (target : τ) : Step τ → Outcome
  | text t => .ok t
  | char c => .ok (String.singleton c)
  | model m => m.text target

/-- The model of the step, if it has one. -/
def model? : Step τ → Option (Model τ)
  | model m => some m
  | _ => none

end Step

namespace Linked

/-- Runs the program for a target. The first model that aborts ends the run. -/
def eval (l : Linked τ) (target : τ) : Outcome := do
  let first ← l.start.eval target
  l.steps.foldlM (fun written step => (step.eval target).map (written ++ ·)) first

/-- The models that the program uses. -/
def models (l : Linked τ) : List (Model τ) :=
  l.start.model?.toList ++ l.steps.filterMap Step.model?

/-- The program as a model: a loaded unit, which keeps itself and the units of its models
alive. Its text counts as dependent on the target whatever its instructions are. -/
def toModel (l : Linked τ) (self : Instance) : Model τ :=
  .dynamic self l.bound l.eval (self :: l.models.flatMap Model.keeps).eraseDups

end Linked

/-- The model in a slot. Slots of an accepted program are all declared, and each declared slot
is filled; any other slot would be empty. -/
def slotModel (models : List (Model τ)) (index : Nat) : Model τ :=
  (models[index]?).getD .empty

/-- Fills the slots of an opening. -/
def Opening.link (models : List (Model τ)) : Opening → Start τ
  | .capacity bytes => .capacity bytes
  | .slot index => .model (slotModel models index)

/-- Fills the slots of an instruction. -/
def Instruction.link (models : List (Model τ)) : Instruction → Step τ
  | .text t => .text t
  | .char c => .char c
  | .slot index => .model (slotModel models index)

/-- Fills the slots of a program, the first slot with the first model and so on. -/
def Program.link (p : Program) (models : List (Model τ)) : Linked τ :=
  ⟨p.bound, p.opening.link models, p.instructions.map (Instruction.link models)⟩

end Templating
