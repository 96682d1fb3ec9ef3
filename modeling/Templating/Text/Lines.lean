set_option autoImplicit false

/-! # Lines and parts of a text

Texts are taken apart as lists of characters: into lines, after a fixed beginning, and at the
first occurrence of a separator.
-/

namespace Templating.Text

/-- The lines of a text. A line feed ends a line, and a carriage return right before it belongs
to the line end. What follows the last line feed is a line of its own unless it is empty, and
keeps a carriage return at its end. -/
def lines : List Char → List (List Char)
  | [] => []
  | '\n' :: rest => [] :: lines rest
  | '\r' :: '\n' :: rest => [] :: lines rest
  | c :: rest =>
    match lines rest with
    | [] => [[c]]
    | line :: more => (c :: line) :: more

/-- What follows `lead` in `text`, if `text` begins with it. -/
def after? : (lead text : List Char) → Option (List Char)
  | [], text => some text
  | _ :: _, [] => none
  | l :: lead, c :: text => if l = c then after? lead text else none

/-- The parts before and after the first occurrence of a separator. -/
def cut? (separator : List Char) : List Char → Option (List Char × List Char)
  | [] => if separator = [] then some ([], []) else none
  | c :: text =>
    match after? separator (c :: text) with
    | some rest => some ([], rest)
    | none => (cut? separator text).map fun (before, rest) => (c :: before, rest)

/-- The text with its first occurrence of `old` exchanged for `new`. -/
def replaceFirst (old new text : List Char) : List Char :=
  match cut? old text with
  | some (before, rest) => before ++ new ++ rest
  | none => text

/-- The text with every occurrence of `old` exchanged for `new`, from left to right and without
overlaps. The empty text occurs before every character and at the end. -/
def replaceAll (old new text : List Char) : List Char :=
  go 0 text
where
  -- replaces in the rest of the text after leaving out its first `skip` characters
  go : (skip : Nat) → List Char → List Char
    | _, [] => if old = [] then new else []
    | skip + 1, _ :: rest => go skip rest
    | 0, c :: rest =>
      match after? old (c :: rest) with
      | none => c :: go 0 rest
      | some _ => if old = [] then new ++ c :: go 0 rest else new ++ go (old.length - 1) rest

end Templating.Text
