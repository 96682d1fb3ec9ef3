import Templating.Services.Compilation
import Templating.Text.Lines

set_option autoImplicit false

/-! # The numbers of hand-over tables

Hand-over tables are numbered in the order in which they are made, by all sessions together. A
session shows its tables by their places instead, `0`, `1`, `2` and so on, so that its answers do
not depend on what was made before it. Texts that come in get numbers for places, and texts that
go out get places for numbers.

What comes in is exchanged as it is written. A key that is spelled with escapes is therefore left
alone, and names a table of another session.
-/

namespace Templating

/-- The numbers that the hand-over tables of a session have. -/
structure Numbering where
  before : Nat
  count : Nat
deriving DecidableEq, Repr

namespace Numbering

/-- The number of the table at a place. -/
def number (n : Numbering) (place : Nat) : Nat := n.before + place

/-- The place of the table with a number. -/
def place (n : Numbering) (number : Nat) : Nat := number - n.before

/-! ## Texts -/

/-- Puts the numbers of tables for their places, once in a text for each, where the place stands
in the form `lead`. The last place is the first to be exchanged: a number that was put in can
only be taken for a later place. -/
def enter (n : Numbering) (lead : Nat → String) (text : String) : String :=
  let exchange (place : Nat) (text : List Char) : List Char :=
    Text.replaceFirst (lead place).toList (lead (n.number place)).toList text
  String.ofList ((List.range n.count).foldr exchange text.toList)

/-- A key as the session's tables know it. -/
def keyIn (n : Numbering) (key : String) : String := n.enter Handover.keyLead key

/-- A line of a source, in which the key of a slot stands after an arrow and a quote. -/
def lineIn (n : Numbering) (line : String) : String :=
  if line.startsWith "slot " then n.enter (fun place => " <- \"" ++ Handover.keyLead place) line
  else line

/-- A source with the keys of its slots as the session's tables know them. -/
def sourceIn (n : Numbering) (source : Source) : Source :=
  { source with body := "\n".intercalate ((source.body.splitOn "\n").map n.lineIn) }

/-- A text as the session shows it: places for the numbers of tables, wherever a key stands. The
first place is the first to be put in, so that it is not taken for a number. -/
def textOut (n : Numbering) (text : String) : String :=
  let exchange (text : List Char) (place : Nat) : List Char :=
    Text.replaceAll (Handover.keyLead (n.number place)).toList (Handover.keyLead place).toList text
  String.ofList ((List.range n.count).foldl exchange text.toList)

/-- A source as the session shows it. -/
def sourceOut (n : Numbering) (source : Source) : Source :=
  { source with body := n.textOut source.body }

/-! ## What is made of texts -/

/-- A fault as the session shows it. The key that nothing is under can stand in one, and the
line of a slot where no slot may be. -/
def faultOut (n : Numbering) : Fault → Fault
  | .unknownKey key => .unknownKey (n.textOut key)
  | .synthesis unit (.malformed ⟨line, .instruction found⟩) =>
    .synthesis unit (.malformed ⟨line, .instruction (n.textOut found)⟩)
  | fault => fault

/-- A loader as the session uses it. One that keeps its sources is given them as the session
shows them. -/
def loaderIn (n : Numbering) (loader : Loader) : Loader :=
  if loader.records then
    { loader with
      prepare := fun source => (loader.prepare (n.sourceOut source)).map n.sourceIn }
  else loader

/-- The result of turning a template into a model, as the session shows it. -/
def assemblyOut {τ : Type} (n : Numbering) (a : Assembly τ) : Assembly τ where
  result := a.result.mapError n.faultOut
  given? := a.given?.map n.sourceOut

/-- Services as the session shows them in descriptions. -/
def servicesOut {τ : Type} (n : Numbering) (s : Services τ) : Services τ :=
  { s with handover := { s.handover with id := n.place s.handover.id } }

end Numbering

end Templating
