import Templating.Session.Recipe

set_option autoImplicit false

/-! # Building in a session

The builders of a session. What a backend makes of a template may fail; then the answer carries
the fault and also the source that was given to the loader, if the loader keeps its sources.
-/

namespace Templating.Session

variable {τ : Type}

/-- Gives a name to a new builder; what had the name before loses it. -/
def openBench (name : String) (backend : Backend) : Act τ Unit :=
  modify fun s => { s with benches := s.benches.insert name ⟨.new, backend⟩ }

/-- Puts a builder back under a name after it was used. -/
def putBuilder (name : String) (backend : Backend) (b : Builder τ) : Act τ Unit :=
  modify fun s => { s with benches := s.benches.insert name ⟨b, backend⟩ }

/-! ## Collecting pieces -/

/-- Changes the builder under a name, if it admits the change. -/
def edit (name : String) (change : Builder τ → Except Fault (Builder τ)) :
    Act τ (Except Fault Unit) := do
  let bench ← bench name
  let changed := change bench.builder
  if let .ok builder := changed then putBuilder name bench.backend builder
  return changed.map fun _ => ()

/-- Appends a literal text. -/
def append (name text : String) : Act τ (Except Fault Unit) := edit name (·.append text)

/-- Makes a model and appends it. The names that the recipe refers to are looked up first, then
that of the builder, and the model is made whether or not the builder admits it. That the builder
does not admit it is an answer; that it cannot be made is a refusal, and the builder is not
asked. -/
def appendModel (name : String) (r : Recipe τ) : Act τ (Except Fault Unit) := do
  r.check
  let _ ← bench name
  let m ← r.make []
  edit name (·.appendModel m)

/-- Goes back to the template without pieces. -/
def clear (name : String) : Act τ (Except Fault Unit) := edit name Builder.clear

/-! ## Making models -/

/-- Turns a template into a model, and notes the source if the loader keeps it. -/
def assembleNoting (backend : Backend) (t : Template τ) :
    StateT (Option Source) (Act τ) (Except Fault (Model τ)) := do
  let assembly ← (backend.assemble [] t : Act τ (Assembly τ))
  set (if backend.records then assembly.given? else none)
  return assembly.result

/-- Finishes the template of a builder in one of the two ways, and binds the model. -/
def finish
    (way : (Template τ → StateT (Option Source) (Act τ) (Except Fault (Model τ))) → Builder τ →
      StateT (Option Source) (Act τ) (Except Fault (Model τ) × Builder τ))
    (name as : String) : Act τ (Assembly τ) := do
  let bench ← bench name
  let ((result, builder), given?) ← (way (assembleNoting bench.backend) bench.builder).run none
  putBuilder name bench.backend builder
  if let .ok m := result then bind as m
  return ⟨result, given?⟩

/-- Builds the template and binds the model. -/
def build (name as : String) : Act τ (Assembly τ) := finish Builder.build name as

/-- Releases the builder and binds the model. -/
def release (name as : String) : Act τ (Assembly τ) := finish Builder.release name as

/-- Drops a builder, and says whether there was one. -/
def dropBench (name : String) : Act τ Bool :=
  modifyGet fun s =>
    (s.benches.contains name, { s with benches := s.benches.erase name })

end Templating.Session
