import Templating.LengthBound

set_option autoImplicit false

/-! # Programs

A program is the straight-line form of a template. It declares slots, each by the key under
which a model is handed over, says how the output begins, and then appends to it: a literal
text, a single character, or the text of the model in a slot.
-/

namespace Templating

/-- A named program text, as a compiler writes it and a loader reads it. -/
structure Source where
  name : String
  body : String
deriving DecidableEq, Repr

/-- One step of a program: what is appended to the output. -/
inductive Instruction where
  | text (text : String)
  | char (c : Char)
  | slot (index : Nat)
deriving DecidableEq, Repr

/-- How the output begins. -/
inductive Opening where
  -- empty, with room for this many bytes
  | capacity (bytes : UInt64)
  | slot (index : Nat)
deriving DecidableEq, Repr

/-- A straight-line program over the models in its slots. -/
structure Program where
  name : String
  -- the keys of the slots, in order
  slots : List String
  bound : LengthBound
  opening : Opening
  instructions : List Instruction
deriving DecidableEq, Repr

end Templating
