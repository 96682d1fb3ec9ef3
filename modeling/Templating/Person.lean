import Templating.Model
import Templating.Text.Repetition

set_option autoImplicit false

/-! # Persons

A target that templates are often filled in for: a person with a name and an age. A `Phrase` is
a text about a person, with the ways in which evaluating it can be aborted.
-/

namespace Templating

/-- A person. -/
structure Person where
  name : String
  age : Int
deriving DecidableEq, Repr

/-- A text about a person. -/
inductive Phrase where
  | name
  | age
  -- the age in base ten, unless it is zero
  | properAge
  | constant (text : String)
  | addressed (text : String)
  -- the name, several times, if there is room for it
  | repeated (times : Nat)
  | aborted (payload : String)
deriving DecidableEq, Repr

/-- Says the phrase about a person. -/
def Phrase.eval : Phrase → Person → Outcome
  | name, p => .ok p.name
  | age, p => .ok (toString p.age)
  | properAge, p => if p.age = 0 then .error ⟨"age zero is reserved"⟩ else .ok (toString p.age)
  | constant text, _ => .ok text
  | addressed text, p => .ok (text ++ p.name)
  | repeated times, p => do
    reserve (times * p.name.utf8ByteSize)
    return Text.repeated times p.name
  | aborted payload, _ => .error ⟨payload⟩

end Templating
