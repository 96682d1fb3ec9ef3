import Templating.Template.Basic

set_option autoImplicit false

/-! # Drafts

A draft is a template that is being edited, with one saved copy to go back to.
-/

namespace Templating

/-- A template and the copy of it that was saved last. -/
structure Draft (τ : Type) where
  current : Template τ
  saved? : Option (Template τ)

namespace Draft

variable {τ : Type}

/-- The draft without pieces, of which nothing is saved. -/
def new : Draft τ := ⟨.empty, none⟩

/-- Changes the template. -/
def edit (change : Template τ → Template τ) (d : Draft τ) : Draft τ :=
  { d with current := change d.current }

/-- Takes away all pieces. -/
def clear : Draft τ → Draft τ := edit fun _ => .empty

/-- Saves a copy. -/
def save (d : Draft τ) : Draft τ := { d with saved? := some d.current }

/-- Goes back to the saved copy, or to the template without pieces. -/
def restore (d : Draft τ) : Draft τ := { d with current := d.saved?.getD .empty }

/-- The loaded units that live as long as the draft does. -/
def keeps (d : Draft τ) : List Instance :=
  d.current.keeps ++ (d.saved?.map Template.keeps).getD []

end Draft

end Templating
