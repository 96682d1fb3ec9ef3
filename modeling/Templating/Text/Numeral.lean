import Templating.Text.Lines

set_option autoImplicit false

/-! # Numerals

Natural numbers in decimal notation, and the digits of base sixteen.
-/

namespace Templating.Text

/-- The decimal numeral of a number, without leading zeros. -/
def decimal (n : Nat) : List Char := Nat.toDigits 10 n

/-- The base sixteen numeral of a number, in lower case. -/
def hexadecimal (n : Nat) : List Char := Nat.toDigits 16 n

/-- Reads a decimal numeral of a number below `limit`: an optional plus sign and one or more
digits `0` to `9`. Leading zeros are allowed. -/
def readDecimal? (limit : Nat) (text : List Char) : Option Nat :=
  let digits := (after? ['+'] text).getD text
  let value := Nat.ofDigitChars 10 digits 0
  if digits ≠ [] ∧ digits.all Char.isDigit ∧ value < limit then some value else none

/-- The value of a digit of base sixteen, in either case. -/
def hexDigit? (c : Char) : Option Nat :=
  if '0' ≤ c ∧ c ≤ '9' then some (c.toNat - '0'.toNat)
  else if 'a' ≤ c ∧ c ≤ 'f' then some (c.toNat - 'a'.toNat + 10)
  else if 'A' ≤ c ∧ c ≤ 'F' then some (c.toNat - 'A'.toNat + 10)
  else none

/-- The number that digits of base `base` stand for; a character that is no digit counts as
zero. -/
def valueInBase (base : Nat) (digits : List Char) : Nat :=
  digits.foldl (fun value c => base * value + (hexDigit? c).getD 0) 0

/-- The character with the given code point, if it is a Unicode scalar value. -/
def scalar? (code : Nat) : Option Char :=
  if code.isValidChar then some (Char.ofNat code) else none

end Templating.Text
