import Templating.Session.Basic

set_option autoImplicit false

/-! # Units in a session

Using the unit names and the registries directly. A unit that is defined this way has no
program; a handle can hold it.
-/

namespace Templating.Session

variable {τ : Type}

/-- Issues a name for a unit. -/
def nextName (address : Address) : Act τ String :=
  onServices address fun s =>
    let (name, names) := s.names.next
    (name, { s with names })

/-- The unit under a handle, which is made if there is none. -/
def unit (handle : String) : Act τ Instance := do
  match (← get).handles[handle]? with
  | some unit => return unit
  | none =>
    let unit ← fresh
    modify fun s => { s with handles := s.handles.insert handle unit }
    return unit

/-- Defines the name of a unit. Without a handle nothing holds the unit afterwards; a handle
holds it even if its name cannot be defined. -/
def define (address : Address) (name : String) (handle? : Option String) :
    Act τ (Except Fault Unit) := do
  let unit ← match handle? with
    | some handle => unit handle
    | none => fresh
  let alive := (← get).alive []
  onServices address fun s =>
    let (result, registry) := s.registry.define alive name unit
    (result, { s with registry })

/-- Drops the handle of a unit, and says whether there was one. -/
def dropUnit (handle : String) : Act τ Bool :=
  modifyGet fun s =>
    (s.handles.contains handle, { s with handles := s.handles.erase handle })

/-- Whether a living unit has the name. -/
def isDefined (address : Address) (name : String) : Act τ Bool := do
  let alive := (← get).alive []
  return (← servicesAt address).registry.isDefined alive name

/-- Purges the registry, and gives the number of entries removed. -/
def purge (address : Address) : Act τ Nat := do
  let alive := (← get).alive []
  onServices address fun s =>
    let registry := s.registry.purge alive
    (s.registry.size - registry.size, { s with registry })

/-- What the services have come to. -/
def counts (address : Address) : Act τ Services.Counts := do
  let alive := (← get).alive []
  return (← servicesAt address).counts alive

end Templating.Session
