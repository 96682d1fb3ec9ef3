set_option autoImplicit false

/-! # Unit names

Names of units are issued in pages: a name is a fixed prefix, the number of the page and the
place on the page. The number of names issued so far is a 64-bit word.
-/

namespace Templating

/-- A source of unit names. -/
structure UnitNames where
  namePrefix : String
  pageSize : UInt64
  issued : UInt64
deriving DecidableEq, Repr

namespace UnitNames

/-- A source that has issued no name. A page holds at least one name. -/
def new (namePrefix : String) (pageSize : UInt64) : UnitNames :=
  ⟨namePrefix, max pageSize 1, 0⟩

/-- The name that is issued next. -/
def current (n : UnitNames) : String :=
  n.namePrefix ++ toString (n.issued / n.pageSize).toNat ++ "$"
    ++ toString (n.issued % n.pageSize).toNat

/-- Issues a name. -/
def next (n : UnitNames) : String × UnitNames :=
  (n.current, { n with issued := n.issued + 1 })

end UnitNames

end Templating
