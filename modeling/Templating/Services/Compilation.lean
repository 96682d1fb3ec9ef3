import Templating.Program.Linked
import Templating.Program.Printer
import Templating.Program.Reader
import Templating.Services.Basic
import Templating.Template.Evaluation

set_option autoImplicit false

/-! # Compiling templates

The other way from a template to a model. The template becomes a program in its written form,
with a key for every model in it; a loader reads the program back, claims the models and
defines the unit. What the two sides agree on is the written form alone, so a loader may alter
a source before it is read. Where a compilation fails, the models that were deposited for it
and not claimed are taken back, and the fault is passed on as it is.
-/

namespace Templating

variable {τ : Type}

/-! ## From templates to sources -/

/-- One instruction for every piece; the models are in the slots from `first` on. -/
def Template.instructions : (first : Nat) → List (Piece τ) → List Instruction
  | _, [] => []
  | first, .text t :: pieces => .text t :: instructions first pieces
  | first, .model _ :: pieces => .slot first :: instructions (first + 1) pieces

/-- The program of a template whose models are handed over under `keys`. Without a literal text
the output begins with the first model. Otherwise there is an instruction for every piece, and
room is made for the least length or, if that is unknown, for the literal texts and at least
`capacity` bytes. -/
def Template.program (name : String) (keys : List String) (capacity : UInt64)
    (t : Template τ) : Program :=
  if t.textLength = 0 then
    ⟨name, keys, t.bound, .slot 0, (List.range' 1 (keys.length - 1)).map .slot⟩
  else
    let room := t.bound.min.getD (max capacity (nearestWord t.textLength))
    ⟨name, keys, t.bound, .capacity room, instructions 0 t.pieces⟩

namespace Services

/-- Issues a name, deposits the models of a template and writes its program. Gives the source
and the keys of the models. -/
def synthesize (t : Template τ) (s : Services τ) : (Source × List String) × Services τ :=
  let (name, names) := s.names.next
  let (keys, handover) := s.handover.depositAll (t.models.map .model)
  let source := (t.program name keys s.settings.capacity).source
  ((source, keys), { s with names, handover })

/-! ## From sources to units -/

/-- Loads a unit from its source: reads the program, claims the models of its slots, and
defines the name. The units that live while the models are claimed live until the name is
defined. -/
def load (alive : Instance → Bool) (self : Instance) (source : Source) (s : Services τ) :
    Except Fault (Model τ) × Services τ :=
  match source.read with
  | .error e => (.error (.synthesis source.name (.malformed e)), s)
  | .ok program =>
    match s.handover.claimModels program.slots with
    | (.error fault, handover) => (.error fault, { s with handover })
    | (.ok models, handover) =>
      let (defined, registry) := s.registry.define alive program.name self
      (defined.map fun _ => (program.link models).toModel self, { s with handover, registry })

end Services

/-- A way to load sources: what is done to a source before it is read. -/
structure Loader where
  name : String
  -- whether the sources given to it are kept for inspection
  records : Bool
  -- what is done to a source, or why it is refused
  prepare : Source → Except Fault Source

/-- The loader that reads sources as they are. -/
def Loader.plain : Loader := ⟨"ThunkLoader", false, .ok⟩

/-- The result of turning a template into a model. -/
structure Assembly (τ : Type) where
  result : Except Fault (Model τ)
  -- the source that was given to the loader, if one was needed
  given? : Option Source

namespace Services

/-- Prepares a source as a loader does, and loads it. -/
def loadWith (loader : Loader) (alive : Instance → Bool) (self : Instance) (source : Source)
    (s : Services τ) : Except Fault (Model τ) × Services τ :=
  match loader.prepare source with
  | .error fault => (.error fault, s)
  | .ok prepared => s.load alive self prepared

/-- The model of a template, made by compiling it. Templates of at most one piece need no
unit. -/
def assemble (loader : Loader) (alive : Instance → Bool) (self : Instance) (t : Template τ)
    (s : Services τ) : Assembly τ × Services τ :=
  match t.shortcut? self with
  | some model => (⟨.ok model, none⟩, s)
  | none =>
    let ((source, keys), s) := s.synthesize t
    match s.loadWith loader alive self source with
    | (.ok model, s) => (⟨.ok model, some source⟩, s)
    | (.error fault, s) =>
      (⟨.error fault, some source⟩, { s with handover := s.handover.discardAll keys })

end Services

end Templating
