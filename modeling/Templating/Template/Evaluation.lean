import Templating.Template.Basic

set_option autoImplicit false

/-! # Evaluating templates directly

The plain way from a template to a model: the model evaluates the pieces in order for its
target and writes their texts one after another. Templates of at most one piece need no new
evaluation at all; `Template.shortcut?` gives their models.
-/

namespace Templating.Template

variable {τ : Type}

/-- The texts of the pieces for a target, one after another. The first piece that aborts ends
the evaluation. -/
def evalPieces (target : τ) (pieces : List (Piece τ)) : Outcome :=
  pieces.foldlM (fun written piece => (piece.eval target).map (written ++ ·)) ""

/-- The room that is made before the pieces are evaluated: the least length, or the length of
the literal texts if that is unknown. -/
def capacity (t : Template τ) : Nat :=
  match t.bound.min with
  | some least => least.toNat
  | none => t.textLength

/-- The model that evaluates the pieces in order. Without a model among them its text is
fixed. -/
def interpret (self : Instance) (t : Template τ) : Model τ :=
  if t.isDynamic then
    let room := t.capacity
    .dynamic self t.bound (fun target => do reserve room; evalPieces target t.pieces) t.keeps
  else .fixed self (String.join (t.pieces.filterMap Piece.text?))

/-- The model of a template of at most one piece: the canonical empty model, the model of the
only text, or the only model itself. -/
def shortcut? (self : Instance) (t : Template τ) : Option (Model τ) :=
  match t.pieces with
  | [] => some .empty
  | [.text text] => some (.fixed self text)
  | [.model m] => some m
  | _ => none

/-- The model of a template, made directly. -/
def assemble (self : Instance) (t : Template τ) : Model τ :=
  (t.shortcut? self).getD (t.interpret self)

end Templating.Template
