import Templating.Session.Basic

set_option autoImplicit false

/-! # Recipes

A recipe says how a model is made: from a text, from a function, by name, or from parts that are
recipes themselves. The parts of a template are made from left to right. A part that is made
already is held by the template it is going to be in, so its units live while the later parts are
made.
-/

namespace Templating

/-- A description of a model that can be made in a session. -/
inductive Recipe (τ : Type) where
  | empty
  | fixed (text : String)
  -- a model of a fixed text that is not canonical even if the text is empty
  | constant (text : String)
  | function (eval : τ → Outcome) (hint : LengthBound)
  -- a template that is evaluated piece by piece, however few pieces it has
  | interpreted (parts : List (Recipe τ))
  | assembled (backend : Backend) (parts : List (Recipe τ))
  | named (name : String)

/-- Turns a template into a model. The units in `held` are held by the running action. -/
def Backend.assemble {τ : Type} (held : List Instance) (t : Template τ) :
    Backend → Act τ (Assembly τ)
  | interpreting => return ⟨.ok (t.assemble (← Session.fresh)), none⟩
  | compiling services loader => do
    let self ← Session.fresh
    let s ← get
    let alive := s.alive (held ++ t.keeps)
    let assembly ← Session.onServices services
      (·.assemble (s.numbering.loaderIn loader) alive self t)
    return s.numbering.assemblyOut assembly

namespace Recipe

variable {τ : Type}

mutual

/-- The names that a recipe refers to, in order. -/
def names : Recipe τ → List String
  | interpreted parts => namesOfParts parts
  | assembled _ parts => namesOfParts parts
  | named name => [name]
  | _ => []

/-- The names that the parts of a recipe refer to, in order. -/
def namesOfParts : List (Recipe τ) → List String
  | [] => []
  | part :: parts => part.names ++ namesOfParts parts

end

mutual

/-- Makes a model. The units in `held` are held by the running action. -/
def make (held : List Instance) : Recipe τ → Act τ (Model τ)
  | empty => return .empty
  | fixed text => return .ofText (← Session.fresh) text
  | constant text => return .fixed (← Session.fresh) text
  | function eval hint => return .ofFunction (← Session.fresh) eval hint
  | interpreted parts => do
    let t ← fill held .empty parts
    return t.interpret (← Session.fresh)
  | assembled backend parts => do
    let t ← fill held .empty parts
    Session.accept (← backend.assemble held t).result
  | named name => Session.model name

/-- Makes models and appends them to a template. -/
def fill (held : List Instance) (t : Template τ) : List (Recipe τ) → Act τ (Template τ)
  | [] => return t
  | part :: parts => do
    let m ← part.make (held ++ t.keeps)
    fill held (t.pushModel m) parts

end

/-- Refuses recipes that refer to a name nothing has, before anything is made. -/
def check (r : Recipe τ) : Act τ Unit :=
  r.names.forM fun name => do
    let _ ← Session.model name

end Recipe

end Templating
