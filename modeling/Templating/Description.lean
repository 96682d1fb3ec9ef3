import Templating.Session.Basic
import Templating.Text.Hidden
import Templating.Text.Literal

set_option autoImplicit false

/-! # Descriptions

Values are described as records: the name of the type and, between braces, the fields with their
values. Texts are written in double quotes, as in a program, but all their hidden characters are
escaped and not only the control characters.
-/

namespace Templating

namespace Description

/-- A character inside double quotes. Control characters have the escapes of a program. -/
def quotedChar (c : Char) : List Char :=
  if Text.isHidden c ∧ ¬Text.isControl c then Text.numericEscape c else Text.escapeStringChar c

/-- A text in double quotes. -/
def quoted (text : String) : String :=
  "\"" ++ String.ofList (text.toList.flatMap quotedChar) ++ "\""

/-- A number. -/
def number (n : UInt64) : String := toString n.toNat

/-- A value that may be missing. -/
def optional (n : Option UInt64) : String :=
  match n with
  | none => "None"
  | some n => "Some(" ++ number n ++ ")"

/-- Several values. -/
def list (items : List String) : String := "[" ++ ", ".intercalate items ++ "]"

/-- A record of the type `name`. Each field is a name and a value. -/
def record (name : String) (fields : List (String × String)) : String :=
  name ++ " \x7b " ++ ", ".intercalate (fields.map fun (field, value) => field ++ ": " ++ value)
    ++ " \x7d"

/-- A record of the type `name` of which only one field is shown. -/
def openRecord (name field value : String) : String :=
  name ++ " \x7b " ++ field ++ ": " ++ value ++ ", .. \x7d"

end Description

open Description

/-- The description of a bound. -/
def LengthBound.describe (b : LengthBound) : String :=
  record "LengthBound" [("min", optional b.min), ("max", optional b.max)]

/-- What is shown in place of a model of a fixed text: the text, but the canonical model of the
empty text by its name. -/
def Model.shown? {τ : Type} : Model τ → Option String
  | empty => some "Empty TextModel"
  | m => m.fixedText?

/-- The description of a piece. -/
def Piece.describe {τ : Type} : Piece τ → String
  | text t => "Static(" ++ quoted t ++ ")"
  | model m => "Dynamic(" ++ openRecord "DynamicNode" "bound" m.bound.describe ++ ")"

/-- The description of a template. -/
def Template.describe {τ : Type} (t : Template τ) : String :=
  record "NodeSequence"
    [("nodes", list (t.pieces.map Piece.describe)),
      ("static_length", toString t.textLength),
      ("dynamic_count", toString t.modelCount)]

/-- The description of settings. -/
def Settings.describe (s : Settings) : String :=
  record "CompilerConfig"
    [("unit_name_prefix", quoted s.namePrefix),
      ("name_page_size", number s.pageSize),
      ("default_capacity", number s.capacity),
      ("registry_purge_threshold", number s.purgeThreshold)]

/-- The description of a source of unit names. -/
def UnitNames.describe (n : UnitNames) : String :=
  record "UnitNameAllocator"
    [("prefix", quoted n.namePrefix),
      ("page_size", number n.pageSize),
      ("allocated", number n.issued)]

/-- The description of a hand-over table. -/
def Handover.describe {τ : Type} (h : Handover τ) : String :=
  record "CorrelationTable" [("id", toString h.id), ("pending", toString h.pending.size)]

/-- The description of a registry. -/
def Registry.describe (r : Registry) : String :=
  record "UnitRegistry"
    [("entries", toString r.size),
      ("purge_threshold", toString r.threshold),
      ("next_purge", toString r.mark),
      ("purges", toString r.purges)]

/-- The description of services. -/
def Services.describe {τ : Type} (s : Services τ) : String :=
  record "CompilerServices"
    [("config", s.settings.describe),
      ("names", s.names.describe),
      ("correlation", s.handover.describe),
      ("registry", s.registry.describe)]

/-- The name of a state. -/
def BuilderState.describe : BuilderState → String
  | building => "Building"
  | built => "Built"
  | released => "Released"

namespace Session

variable {τ : Type}

/-- The description of the services at an address, with their hand-over table by its place. -/
def describeServices (address : Address) : Act τ String := do
  let services ← servicesAt address
  return ((← get).numbering.servicesOut services).describe

/-- The description of a backend. -/
def describeBackend : Backend → Act τ String
  | .interpreting => return "InterpretingBackend"
  | .compiling services loader =>
    return record "CompilingBackend"
      [("services", ← describeServices services), ("loader", loader.name)]

/-- The description of the builder under a name. -/
def describeBench (name : String) : Act τ String := do
  let bench ← bench name
  return record "TextModelBuilder"
    [("state", bench.builder.state.describe),
      ("nodes", bench.builder.template.describe),
      ("backend", ← describeBackend bench.backend)]

end Session

end Templating
