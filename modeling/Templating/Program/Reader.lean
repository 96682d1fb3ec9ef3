import Templating.Program.Basic
import Templating.Program.Malformed

set_option autoImplicit false

/-! # Reading programs

Programs are read line by line. A `Stage` says what has been read and so what the next line
may be; `Stage.step` takes one line, `Stage.run` takes all lines and numbers them, and
`Stage.finish` accepts the end of the text after the last line of a program. Blank lines are
counted and otherwise ignored. A step decides on its line alone, so the first line that does
not continue a program is the one that is reported.
-/

namespace Templating

open Text

/-! ## Parts of lines -/

/-- Reads the name of a slot. -/
def readSlotName (text : List Char) : Except Malformed Nat :=
  match (after? ['D'] text).bind (readDecimal? UInt64.size) with
  | some index => .ok index
  | none => .error (.slotName (String.ofList text))

/-- Reads the name of one of the `declared` slots. -/
def readSlotRef (declared : Nat) (text : List Char) : Except Malformed Nat :=
  match readSlotName text with
  | .error e => .error e
  | .ok index => if index < declared then .ok index else .error (.undeclaredSlot index)

/-- Reads what follows the first word of a slot line: the name of the next slot, an arrow and
the key, which ends the line. -/
def readSlot (declared : Nat) (text : List Char) : Except Malformed String :=
  match cut? " <- ".toList text with
  | none => .error .slotSyntax
  | some (name, rest) =>
    match readSlotName name with
    | .error e => .error e
    | .ok index =>
      if index ≠ declared then .error (.slotOrder index)
      else match readLiteral '"' rest with
        | .error e => .error (.literal e)
        | .ok (key, tail) => if tail = [] then .ok (String.ofList key) else .error .afterKey

/-- Reads one side of a bound. -/
def readLimit? (text : List Char) : Option (Option UInt64) :=
  if text = ['?'] then some none
  else (readDecimal? UInt64.size text).map fun n => some (UInt64.ofNat n)

/-- Reads a bound line. -/
def readBound? (line : List Char) : Option LengthBound := do
  let limits ← after? "bound ".toList line
  let (least, greatest) ← cut? [' '] limits
  return ⟨← readLimit? least, ← readLimit? greatest⟩

/-- Reads an opening line. -/
def readOpening (declared : Nat) (line : List Char) : Except Malformed Opening :=
  match after? "begin capacity ".toList line with
  | some number =>
    match readDecimal? UInt64.size number with
    | some n => .ok (.capacity (UInt64.ofNat n))
    | none => .error .capacity
  | none =>
    match after? "begin from ".toList line with
    | some name => (readSlotRef declared name).map .slot
    | none => .error .openingSyntax

/-- Reads a character code below that of the space. -/
def readControlCode? (number : List Char) : Option Char :=
  match readDecimal? UInt32.size number with
  | some code => if code < 0x20 then some (Char.ofNat code) else none
  | none => none

/-- Reads the operand of an instruction. Its first character tells which kind it is. -/
def readOperand (declared : Nat) (operand : List Char) : Except Malformed Instruction :=
  match operand with
  | '"' :: _ =>
    match readLiteral '"' operand with
    | .error e => .error (.literal e)
    | .ok (text, tail) => if tail = [] then .ok (.text (String.ofList text)) else .error .afterText
  | '\'' :: _ =>
    match readLiteral '\'' operand with
    | .error e => .error (.literal e)
    | .ok ([c], []) => .ok (.char c)
    | .ok _ => .error .charCount
  | '#' :: number =>
    match readControlCode? number with
    | some c => .ok (.char c)
    | none => .error (.controlCode (String.ofList number))
  | _ => (readSlotRef declared operand).map .slot

/-! ## Stages -/

/-- How far the reading of a program has come. -/
inductive Stage where
  | header
  -- the header and these slots are read
  | slots (keys : List String)
  | opening (keys : List String) (bound : LengthBound)
  -- the opening is read, and some instructions
  | body (program : Program)
  | closed (program : Program)
deriving DecidableEq, Repr

namespace Stage

/-- Reads one line. -/
def step (name : String) : Stage → List Char → Except Malformed Stage
  | header, line =>
    match after? "unit ".toList line with
    | some found =>
      if found = name.toList then .ok (slots []) else .error (.otherName (String.ofList found))
    | none => .error .noHeader
  | slots keys, line =>
    match after? "slot ".toList line with
    | some rest => (readSlot keys.length rest).map fun key => slots (keys ++ [key])
    | none =>
      if keys = [] then .error .noSlots
      else match readBound? line with
        | some bound => .ok (opening keys bound)
        | none => .error .boundSyntax
  | opening keys bound, line =>
    (readOpening keys.length line).map fun first => body ⟨name, keys, bound, first, []⟩
  | body p, line =>
    if line = "end".toList then .ok (closed p)
    else match after? "push ".toList line with
      | some operand =>
        (readOperand p.slots.length operand).map fun i =>
          body { p with instructions := p.instructions ++ [i] }
      | none => .error (.instruction (String.ofList line))
  | closed _, _ => .error .afterEnd

/-- Reads lines, the first of which has the number `n`. -/
def run (name : String) : (n : Nat) → Stage → List (List Char) → Except SyntaxError Stage
  | _, stage, [] => .ok stage
  | n, stage, line :: rest =>
    if line.all isBlank then run name (n + 1) stage rest
    else match step name stage line with
      | .ok next => run name (n + 1) next rest
      | .error cause => .error ⟨n, cause⟩

/-- The program, if the text may end here. A missing part shows at the last line, a missing
header or slot at the first. -/
def finish (last : Nat) : Stage → Except SyntaxError Program
  | header => .error ⟨1, .empty⟩
  | slots [] => .error ⟨1, .noSlots⟩
  | slots _ => .error ⟨last, .noBound⟩
  | opening _ _ => .error ⟨last, .noOpening⟩
  | body _ => .error ⟨last, .noEnd⟩
  | closed p => .ok p

end Stage

/-- Reads a program from its written form. -/
def Source.read (source : Source) : Except SyntaxError Program :=
  let all := lines source.body.toList
  match Stage.run source.name 1 .header all with
  | .error e => .error e
  | .ok stage => stage.finish (max 1 all.length)

end Templating
