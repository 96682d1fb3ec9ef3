import Templating.Session.Recipe

set_option autoImplicit false

/-! # Models in a session

Making models from recipes and loading them from sources, evaluating them, and telling them
apart. A new model is made before the one that had its name is let go.
-/

namespace Templating.Session

variable {τ : Type}

/-- Makes a model, and binds it if it gets a name. -/
def make (r : Recipe τ) (as? : Option String) : Act τ (Model τ) := do
  r.check
  let m ← r.make []
  as?.forM (bind · m)
  return m

/-- Loads a source, and binds the unit if it gets a name. -/
def load (address : Address) (source : Source) (as? : Option String) : Act τ (Model τ) := do
  let self ← fresh
  let s ← get
  let result ← onServices address (·.load (s.alive []) self (s.numbering.sourceIn source))
  let m ← accept (result.mapError s.numbering.faultOut)
  as?.forM (bind · m)
  return m

/-- Drops a model, and says whether there was one. -/
def drop (name : String) : Act τ Bool :=
  modifyGet fun s => (s.models.contains name, { s with models := s.models.erase name })

/-- Evaluates a model for a target that may be missing. -/
def render (name : String) (target? : Option τ) : Act τ Outcome := do
  accept ((← model name).render target?)

/-- Evaluates a model for a target. -/
def text (name : String) (target : τ) : Act τ Outcome :=
  return (← model name).text target

/-- Whether two names stand for the same model. -/
def same (one other : String) : Act τ Bool :=
  return (← model one).same (← model other)

end Templating.Session
