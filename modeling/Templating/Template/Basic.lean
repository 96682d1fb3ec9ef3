import Templating.Model

set_option autoImplicit false

/-! # Templates

A template is a sequence of pieces, each a literal text or a model that depends on the target.
Pieces are appended one by one and kept in normal form: no text piece is empty, no two text
pieces are neighbours, and a model with a fixed text is taken in as that text. The template
counts along, so that its length bound is at hand at any time.
-/

namespace Templating

/-- A part of a template. -/
inductive Piece (τ : Type) where
  | text (text : String)
  | model (model : Model τ)

namespace Piece

variable {τ : Type}

/-- What is known about the length of the piece's text. -/
def bound : Piece τ → LengthBound
  | text t => .exact t.utf8ByteSize
  | model m => m.bound

/-- Evaluates the piece for a target. -/
def eval (target : τ) : Piece τ → Outcome
  | text t => .ok t
  | model m => m.text target

/-- The model of the piece, if it is one. -/
def model? : Piece τ → Option (Model τ)
  | text _ => none
  | model m => some m

/-- The literal text of the piece, if it is one. -/
def text? : Piece τ → Option String
  | text t => some t
  | model _ => none

end Piece

/-- A sequence of pieces in normal form, with its counts. -/
structure Template (τ : Type) where
  pieces : List (Piece τ)
  -- the number of bytes of all text pieces
  textLength : Nat
  modelCount : Nat
  -- the sum of the models' bounds
  modelBound : LengthBound

namespace Template

variable {τ : Type}

/-- The template without pieces. -/
def empty : Template τ := ⟨[], 0, 0, .exact 0⟩

/-- Appends a literal text to pieces: to the last piece if that is a text, as a piece of its
own otherwise. -/
def extend (text : String) : List (Piece τ) → List (Piece τ)
  | [] => [.text text]
  | [.text last] => [.text (last ++ text)]
  | piece :: pieces => piece :: extend text pieces

/-- Appends a literal text. The empty text adds nothing. -/
def pushText (t : Template τ) (text : String) : Template τ :=
  if text = "" then t
  else { t with
    pieces := extend text t.pieces
    textLength := t.textLength + text.utf8ByteSize }

/-- Appends a model, or its text if that is fixed. -/
def pushModel (t : Template τ) (m : Model τ) : Template τ :=
  match m.fixedText? with
  | some text => t.pushText text
  | none =>
    { t with
      pieces := t.pieces ++ [.model m]
      modelCount := t.modelCount + 1
      modelBound := t.modelBound + m.bound }

/-- What is known about the length of the template's text. -/
def bound (t : Template τ) : LengthBound := .exact t.textLength + t.modelBound

/-- Whether the text may depend on the target. -/
def isDynamic (t : Template τ) : Bool := 0 < t.modelCount

/-- The models, in order. -/
def models (t : Template τ) : List (Model τ) := t.pieces.filterMap Piece.model?

/-- The loaded units that live as long as the template does. -/
def keeps (t : Template τ) : List Instance := (t.models.flatMap Model.keeps).eraseDups

end Template

end Templating
