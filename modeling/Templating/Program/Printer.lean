import Templating.Program.Basic
import Templating.Text.Literal

set_option autoImplicit false

/-! # The written form of programs

A program is written one declaration or instruction a line:

    unit NAME
    slot D0 <- "KEY"             one line for each slot, numbered from 0
    bound MIN MAX                a number, or ? for an unknown side
    begin capacity N             or: begin from D0
    push "TEXT"                  a literal text
    push 'C'                     a single character
    push #N                      a single character below the space, by its code
    push D0                      the text of the model in a slot
    end

Literals hold no raw control character, so an instruction is always exactly one line. The
writer drops empty texts and writes a text of one character as that character.
-/

namespace Templating

open Text

/-- The name of a slot. -/
def slotName (index : Nat) : List Char := 'D' :: decimal index

/-- The line that names the unit. -/
def headerLine (name : List Char) : List Char := "unit ".toList ++ name

/-- The line that declares a slot. -/
def slotLine (index : Nat) (key : String) : List Char :=
  "slot ".toList ++ slotName index ++ " <- \"".toList ++ escapeString key.toList ++ ['"']

/-- One side of a bound. -/
def limitText : Option UInt64 → List Char
  | none => ['?']
  | some n => decimal n.toNat

/-- The line that declares the bound. -/
def boundLine (bound : LengthBound) : List Char :=
  "bound ".toList ++ limitText bound.min ++ ' ' :: limitText bound.max

/-- The line that says how the output begins. -/
def Opening.line : Opening → List Char
  | .capacity bytes => "begin capacity ".toList ++ decimal bytes.toNat
  | .slot index => "begin from ".toList ++ slotName index

/-- The operand of an instruction that appends one character. -/
def charOperand (c : Char) : List Char :=
  if c < ' ' then '#' :: decimal c.toNat else '\'' :: escapeChar c ++ ['\'']

/-- The line of an instruction, if it has one: an empty text needs none. -/
def Instruction.line? : Instruction → Option (List Char)
  | .text t =>
    match t.toList with
    | [] => none
    | [c] => some ("push ".toList ++ charOperand c)
    | cs => some ("push ".toList ++ '"' :: escapeString cs ++ ['"'])
  | .char c => some ("push ".toList ++ charOperand c)
  | .slot index => some ("push ".toList ++ slotName index)

/-- The last line. -/
def endLine : List Char := "end".toList

namespace Program

/-- The lines of a program. -/
def lines (p : Program) : List (List Char) :=
  headerLine p.name.toList :: p.slots.mapIdx slotLine
    ++ boundLine p.bound :: p.opening.line :: p.instructions.filterMap Instruction.line?
    ++ [endLine]

/-- The written form of a program, each line ended by a line feed. -/
def source (p : Program) : Source :=
  ⟨p.name, String.ofList (p.lines.flatMap (· ++ ['\n']))⟩

end Program

end Templating
