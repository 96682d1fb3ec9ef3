import Templating.Template.Basic

set_option autoImplicit false

/-! # Builders

A builder collects the pieces of a template and turns it into a model, time after time: it is
building, then built, and clearing it makes it ready for the next template. Releasing hands the
template over for good, and a released builder refuses everything.

    building  --append, clear-->  building
    building  --build---------->  built     --clear-->  building
    building  --release-------->  released

How a template becomes a model is not for the builder to decide. `Builder.build` and
`Builder.release` take it as an argument, in any monad, so that the way may fail or have a state
of its own.
-/

namespace Templating

/-- What a builder can be used for. -/
inductive BuilderState where
  | building
  | built
  -- the template has been handed over
  | released
deriving DecidableEq, Repr

namespace BuilderState

/-- Whether a builder may go from one state to another. -/
def canBecome : BuilderState → BuilderState → Bool
  | building, _ => true
  | built, building => true
  | _, _ => false

/-- Whether a builder stays in the state for ever. -/
def isFinal : BuilderState → Bool
  | released => true
  | _ => false

/-- Why an operation is refused in the state. -/
def fault (s : BuilderState) : Fault :=
  if s.isFinal then .alreadyReleased else .alreadyBuilt

end BuilderState

/-- A template that is being built. -/
structure Builder (τ : Type) where
  state : BuilderState
  template : Template τ

namespace Builder

variable {τ : Type}

/-- The builder of the template without pieces. -/
def new : Builder τ := ⟨.building, .empty⟩

/-! ## Collecting pieces -/

/-- Changes the template, which only a builder that is building admits. -/
def edit (change : Template τ → Template τ) (b : Builder τ) : Except Fault (Builder τ) :=
  if b.state = .building then .ok { b with template := change b.template }
  else .error b.state.fault

/-- Appends a literal text. -/
def append (text : String) : Builder τ → Except Fault (Builder τ) :=
  edit (·.pushText text)

/-- Appends a model. -/
def appendModel (m : Model τ) : Builder τ → Except Fault (Builder τ) :=
  edit (·.pushModel m)

/-- Goes back to the template without pieces. -/
def clear (b : Builder τ) : Except Fault (Builder τ) :=
  if b.state.canBecome .building then .ok new else .error b.state.fault

/-! ## Making models -/

variable {m : Type → Type} [Monad m]

/-- Turns the template into a model. If that fails the builder goes on building, and in either
case it keeps the template. -/
def build (assemble : Template τ → m (Except Fault (Model τ))) (b : Builder τ) :
    m (Except Fault (Model τ) × Builder τ) :=
  if b.state.canBecome .built then do
    let result ← assemble b.template
    match result with
    | .ok model => return (.ok model, { b with state := .built })
    | .error fault => return (.error fault, b)
  else return (.error b.state.fault, b)

/-- Hands the template over to be turned into a model. The builder is released even if that
fails. -/
def release (assemble : Template τ → m (Except Fault (Model τ))) (b : Builder τ) :
    m (Except Fault (Model τ) × Builder τ) :=
  if b.state.canBecome .released then do
    let result ← assemble b.template
    return (result, ⟨.released, .empty⟩)
  else return (.error b.state.fault, b)

end Builder

end Templating
