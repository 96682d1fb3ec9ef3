import Templating.Services.Handover
import Templating.Services.Registry
import Templating.Services.UnitNames
import Templating.Settings.Basic

set_option autoImplicit false

/-! # Services

What a compiler and its loader share: the settings, the unit names, the hand-over table and the
registry.
-/

namespace Templating

/-- The services of a compiler. -/
structure Services (τ : Type) where
  settings : Settings
  names : UnitNames
  -- the models on their way into units
  handover : Handover τ
  registry : Registry

namespace Services

variable {τ : Type}

/-- Services that have done nothing, with the given number for their hand-over table. -/
def new (id : Nat) (settings : Settings) : Services τ where
  settings := settings
  names := .new settings.namePrefix settings.pageSize
  handover := .new id
  registry := .new settings.purgeThreshold.toNat

/-- The number of names issued, of values that wait, and of the registry's entries, living units
and purges. -/
structure Counts where
  issued : UInt64
  pending : Nat
  entries : Nat
  -- the units of the registry that live
  live : Nat
  purges : Nat
deriving DecidableEq, Repr

/-- What the services have come to. -/
def counts (alive : Instance → Bool) (s : Services τ) : Counts where
  issued := s.names.issued
  pending := s.handover.pending.size
  entries := s.registry.size
  live := s.registry.live alive
  purges := s.registry.purges

end Services

end Templating
