import Templating.Services.Compilation
import Templating.Text.Lines

set_option autoImplicit false

/-! # Patches

A loader may alter a source before it is read, or refuse it. A patch describes the alterations:
another name for the unit, and texts to be exchanged in the body.
-/

namespace Templating

/-- What is done to a source before it is read. -/
structure Patch where
  refusal? : Option String
  name? : Option String
  -- the texts to be exchanged everywhere in the body, one pair after another
  exchanges : List (String × String)
deriving DecidableEq, Repr

namespace Patch

/-- Gives the unit of a source another name, also where the body mentions it first. -/
def rename (name : String) (source : Source) : Source :=
  ⟨name, String.ofList
    (Text.replaceFirst source.name.toList name.toList source.body.toList)⟩

/-- Exchanges a text everywhere in the body of a source. -/
def exchange (source : Source) : String × String → Source
  | (old, new) =>
    { source with
      body := String.ofList (Text.replaceAll old.toList new.toList source.body.toList) }

/-- Alters a source, or says why it is refused. -/
def apply (p : Patch) (source : Source) : Except Fault Source :=
  match p.refusal? with
  | some detail => .error (.synthesis source.name (.refused detail))
  | none =>
    let named := p.name?.elim source (rename · source)
    .ok (p.exchanges.foldl exchange named)

end Patch

/-- The loader that patches every source and keeps what it was given. -/
def Loader.patching (p : Patch) : Loader := ⟨"Hook", true, p.apply⟩

end Templating
