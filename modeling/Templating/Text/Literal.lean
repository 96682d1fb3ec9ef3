import Templating.Text.Classes
import Templating.Text.Numeral

set_option autoImplicit false

/-! # Quoted literals

A literal is a text between two quotes, double for a string and single for a character. Inside
it a backslash introduces an escape and no control character stands for itself, so a literal
never breaks a line. The writers `escapeString` and `escapeChar` produce what `readLiteral`
takes back; the reader also accepts spellings that the writers never use.
-/

namespace Templating.Text

/-- An escape that names its character by number in base sixteen. -/
def numericEscape (c : Char) : List Char :=
  ['\\', 'u', '\x7b'] ++ hexadecimal c.toNat ++ ['\x7d']

/-- The written form of one character inside double quotes. -/
def escapeStringChar : Char → List Char
  | '\\' => ['\\', '\\']
  | '"' => ['\\', '"']
  | '\n' => ['\\', 'n']
  | '\r' => ['\\', 'r']
  | '\t' => ['\\', 't']
  | '\x00' => ['\\', '0']
  | c => if isControl c then numericEscape c else [c]

/-- Whether a character cannot stand for itself inside double quotes. -/
def needsEscape (c : Char) : Bool := c == '\\' || c == '"' || isControl c

/-- The written form of a text inside double quotes. A text in which nothing needs an escape is
taken as it is. -/
def escapeString (text : List Char) : List Char :=
  if text.any needsEscape then text.flatMap escapeStringChar else text

/-- The written form of a character inside single quotes. -/
def escapeChar : Char → List Char
  | '\\' => ['\\', '\\']
  | '\'' => ['\\', '\'']
  | c => if isControl c then numericEscape c else [c]

/-- Why a literal cannot be read. -/
inductive LiteralError where
  | missingQuote (quote : Char)
  | unknownEscape (c : Char)
  -- a control character stands for itself
  | rawControl (c : Char)
  | unterminated
  | missingBrace
  -- a numeric escape holds something other than one to six digits of base sixteen
  | malformedEscape
  | invalidCodePoint (digits : List Char)
deriving DecidableEq, Repr

namespace LiteralError

/-- The code of a character in base sixteen, in upper case and at least four digits wide. -/
def paddedCode (c : Char) : List Char :=
  let digits := (hexadecimal c.toNat).map Char.toUpper
  List.replicate (4 - digits.length) '0' ++ digits

/-- The description of the error. -/
def message : LiteralError → String
  | missingQuote quote => "expected `" ++ String.ofList [quote] ++ "`"
  | unknownEscape c => "unknown escape `\\" ++ String.ofList [c] ++ "`"
  | rawControl c => "raw control character U+" ++ String.ofList (paddedCode c) ++ " in literal"
  | unterminated => "unterminated literal"
  | missingBrace => "expected `\x7b` after `\\u`"
  | malformedEscape => "malformed `\\u\x7b..\x7d` escape"
  | invalidCodePoint digits => "invalid code point `" ++ String.ofList digits ++ "`"

end LiteralError

/-- The character that a one-letter escape stands for. -/
def namedEscape? : Char → Option Char
  | '\\' => some '\\'
  | '"' => some '"'
  | '\'' => some '\''
  | 'n' => some '\n'
  | 'r' => some '\r'
  | 't' => some '\t'
  | '0' => some '\x00'
  | _ => none

/-- Where a reader of literals stands: between two items, or inside an escape. -/
inductive LiteralMode where
  | plain
  | escape
  | brace
  -- inside the braces of a numeric escape, after these digits
  | digits (seen : List Char)

/-- Reads the rest of a literal up to its closing quote, and gives the decoded text and what
follows the quote. Each character either continues the current item or decides its error. -/
def readItems (quote : Char) :
    LiteralMode → List Char → Except LiteralError (List Char × List Char)
  | .plain, [] => .error .unterminated
  | .escape, [] => .error .unterminated
  | .brace, [] => .error .missingBrace
  | .digits _, [] => .error .malformedEscape
  | .plain, c :: rest =>
    if c = quote then .ok ([], rest)
    else if c = '\\' then readItems quote .escape rest
    else if isControl c then .error (.rawControl c)
    else (readItems quote .plain rest).map fun (text, tail) => (c :: text, tail)
  | .escape, c :: rest =>
    match namedEscape? c with
    | some d => (readItems quote .plain rest).map fun (text, tail) => (d :: text, tail)
    | none => if c = 'u' then readItems quote .brace rest else .error (.unknownEscape c)
  | .brace, c :: rest =>
    if c = '\x7b' then readItems quote (.digits []) rest else .error .missingBrace
  | .digits seen, c :: rest =>
    if c = '\x7d' then
      match if seen = [] then none else scalar? (valueInBase 16 seen) with
      | some d => (readItems quote .plain rest).map fun (text, tail) => (d :: text, tail)
      | none => .error (.invalidCodePoint seen)
    else if (hexDigit? c).isSome ∧ seen.length < 6 then
      readItems quote (.digits (seen ++ [c])) rest
    else .error .malformedEscape

/-- Reads a literal in the given quotes from the front of the input, and gives the decoded text
and the rest of the input. -/
def readLiteral (quote : Char) : List Char → Except LiteralError (List Char × List Char)
  | [] => .error (.missingQuote quote)
  | c :: rest => if c = quote then readItems quote .plain rest else .error (.missingQuote quote)

end Templating.Text
