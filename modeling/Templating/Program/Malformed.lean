import Templating.Text.Literal

set_option autoImplicit false

/-! # Malformed programs

Why a text is not the written form of a program, and at which line that shows.
-/

namespace Templating

/-- Why a line, or the end of the text, does not continue a program. -/
inductive Malformed where
  | empty
  | noHeader
  | otherName (found : String)
  | slotSyntax
  | slotName (found : String)
  -- a slot is declared with a number that is not the next one
  | slotOrder (index : Nat)
  | undeclaredSlot (index : Nat)
  | literal (error : Text.LiteralError)
  | afterKey
  -- the slot declarations are over and there was none
  | noSlots
  | noBound
  | boundSyntax
  | noOpening
  -- the opening is of neither form
  | openingSyntax
  | capacity
  | noEnd
  | instruction (found : String)
  | afterText
  | charCount
  -- a character code is not a number below that of the space
  | controlCode (found : String)
  | afterEnd
deriving DecidableEq, Repr

/-- The description of the cause. -/
def Malformed.message : Malformed → String
  | empty => "empty unit source"
  | noHeader => "expected `unit <name>`"
  | otherName found => "header names `" ++ found ++ "`"
  | slotSyntax => "expected `slot D<i> <- \"<key>\"`"
  | slotName found => "malformed slot reference `" ++ found ++ "`"
  | slotOrder index => "slot D" ++ toString index ++ " declared out of order"
  | undeclaredSlot index => "slot D" ++ toString index ++ " is not declared"
  | literal error => error.message
  | afterKey => "trailing input after slot key"
  | noSlots => "unit declares no slots"
  | noBound => "missing `bound`"
  | boundSyntax => "expected `bound <min|?> <max|?>`"
  | noOpening => "missing `begin`"
  | openingSyntax => "expected `begin capacity <n>` or `begin from D<i>`"
  | capacity => "invalid capacity"
  | noEnd => "missing `end`"
  | instruction found => "unknown instruction `" ++ found ++ "`"
  | afterText => "trailing input after string literal"
  | charCount => "char literal must hold exactly one character"
  | controlCode found => "invalid control code `#" ++ found ++ "`"
  | afterEnd => "input after `end`"

/-- A cause with the number of the line where it shows, counted from 1. -/
structure SyntaxError where
  line : Nat
  cause : Malformed
deriving DecidableEq, Repr

/-- The description of the error, with its line. -/
def SyntaxError.message (e : SyntaxError) : String :=
  "line " ++ toString e.line ++ ": " ++ e.cause.message

end Templating
