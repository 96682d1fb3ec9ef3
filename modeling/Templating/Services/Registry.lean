import Std.Data.HashMap
import Templating.Model

set_option autoImplicit false

/-! # The registry of units

The registry sees to it that no two living units have the same name. It does not keep units
alive: which units live is for its callers to say, as a predicate `alive` at every operation.
Entries of dead units stay until a purge removes them. A definition purges first when as many
entries as the mark have come together, and every purge sets the mark to twice the entries that
are left, but never below the threshold, so purging costs a constant for each definition.
-/

namespace Templating

/-- The names of units that were defined, with the mark of the next purge. -/
structure Registry where
  -- the entries: the unit of each name's last definition
  units : Std.HashMap String Instance
  -- the least mark
  threshold : Nat
  -- the number of entries from which a definition purges first
  mark : Nat
  purges : Nat

namespace Registry

/-- The registry without entries. A threshold of zero counts as one. -/
def new (threshold : Nat) : Registry := ⟨∅, max threshold 1, max threshold 1, 0⟩

/-- The number of entries. -/
def size (r : Registry) : Nat := r.units.size

variable (alive : Instance → Bool)

/-- Whether a living unit has the name. -/
def isDefined (name : String) (r : Registry) : Bool := (r.units[name]?).any alive

/-- The number of living units. -/
def live (r : Registry) : Nat := (r.units.filter fun _ unit => alive unit).size

/-- Removes the entries of dead units and sets the mark anew. -/
def purge (r : Registry) : Registry :=
  let units := r.units.filter fun _ unit => alive unit
  { r with units, mark := max r.threshold (2 * units.size), purges := r.purges + 1 }

/-- Purges if the mark is reached. -/
def tidy (r : Registry) : Registry := if r.mark ≤ r.size then r.purge alive else r

/-- Defines the name of a unit, unless a living unit has it. -/
def define (name : String) (unit : Instance) (r : Registry) : Except Fault Unit × Registry :=
  let r := r.tidy alive
  if r.isDefined alive name then (.error (.unitAlreadyDefined name), r)
  else (.ok (), { r with units := r.units.insert name unit })

end Registry

end Templating
