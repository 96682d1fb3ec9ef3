import Templating.Builder
import Templating.Session.Numbering

set_option autoImplicit false

/-! # Sessions

A session holds services, models, builders and units under names, so that one request can refer
to what an earlier one made. It also answers the question which units live: a unit lives as long
as something in the session holds it, be it directly or through the models it is part of.
-/

namespace Templating

/-- Which services of a session are meant. -/
inductive Address where
  -- those at a place in the list that the session was opened with
  | own (place : Nat)
  -- those that all sessions share
  | shared
deriving DecidableEq, Repr

/-- A way to turn templates into models. -/
inductive Backend where
  | interpreting
  | compiling (services : Address) (loader : Loader)

/-- Whether the sources that the backend gives to its loader are kept for inspection. -/
def Backend.records : Backend → Bool
  | interpreting => false
  | compiling _ loader => loader.records

/-- A builder with the backend that it uses. -/
structure Workbench (τ : Type) where
  builder : Builder τ
  backend : Backend

/-- The state of a session. -/
structure Session (τ : Type) where
  -- the numbers of the hand-over tables of the services
  numbering : Numbering
  services : List (Services τ)
  -- the services that all sessions share
  shared : Services τ
  nextInstance : Instance
  models : Std.HashMap String (Model τ)
  benches : Std.HashMap String (Workbench τ)
  -- the units that are held by a name of their own
  handles : Std.HashMap String Instance

/-- Why a session does not do what it is asked for. -/
inductive Refusal where
  | unbound (name : String)
  | noServices (address : Address)
  | fault (fault : Fault)
deriving DecidableEq, Repr

/-- An action in a session. What it did before it was refused stays done. -/
abbrev Act (τ : Type) : Type → Type := ExceptT Refusal (StateM (Session τ))

namespace Session

variable {τ : Type}

/-- The session with services for each of the settings, in which nothing has a name. The
hand-over tables are numbered in order after the `before` tables that were made earlier, and that
of the shared services comes last. -/
def new (before : Nat) (settings : List Settings) : Session τ :=
  let numbering : Numbering := ⟨before, settings.length + 1⟩
  { numbering
    services := settings.mapIdx fun place => .new (numbering.number place)
    shared := .new (numbering.number settings.length) .default
    nextInstance := 0
    models := ∅
    benches := ∅
    handles := ∅ }

/-! ## What lives -/

/-- The units that are held by something in the session. -/
def keeps (s : Session τ) : List Instance :=
  s.models.values.flatMap Model.keeps
    ++ s.benches.values.flatMap (·.builder.template.keeps)
    ++ (s.shared :: s.services).flatMap (·.handover.keeps)
    ++ s.handles.values

/-- Whether a unit lives, given the units that the running action itself holds. -/
def alive (held : List Instance) (s : Session τ) : Instance → Bool :=
  let roots := s.keeps ++ held
  fun unit => roots.contains unit

/-! ## Services -/

/-- The services at an address. -/
def services? (s : Session τ) : Address → Option (Services τ)
  | .own place => s.services[place]?
  | .shared => some s.shared

/-- Puts other services at an address. -/
def putServices (services : Services τ) (s : Session τ) : Address → Session τ
  | .own place => { s with services := s.services.set place services }
  | .shared => { s with shared := services }

/-! ## Elementary actions -/

/-- The number for a new instance. -/
def fresh : Act τ Instance :=
  modifyGet fun s => (s.nextInstance, { s with nextInstance := s.nextInstance + 1 })

/-- The model under a name. -/
def model (name : String) : Act τ (Model τ) := do
  match (← get).models[name]? with
  | some m => return m
  | none => throw (.unbound name)

/-- Gives a name to a model; what had the name before loses it. -/
def bind (name : String) (m : Model τ) : Act τ Unit :=
  modify fun s => { s with models := s.models.insert name m }

/-- The builder under a name. -/
def bench (name : String) : Act τ (Workbench τ) := do
  match (← get).benches[name]? with
  | some bench => return bench
  | none => throw (.unbound name)

/-- The services at an address. -/
def servicesAt (address : Address) : Act τ (Services τ) := do
  match (← get).services? address with
  | some services => return services
  | none => throw (.noServices address)

/-- Does something to the services at an address. -/
def onServices {α : Type} (address : Address) (act : Services τ → α × Services τ) : Act τ α := do
  let (answer, services) := act (← servicesAt address)
  modify (·.putServices services address)
  return answer

/-- Accepts a result or passes its fault on. -/
def accept {α : Type} : Except Fault α → Act τ α
  | .ok value => return value
  | .error fault => throw (.fault fault)

end Session

end Templating
