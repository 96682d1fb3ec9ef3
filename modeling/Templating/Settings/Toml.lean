import Templating.Settings.Basic
import Templating.Text.Numeral

set_option autoImplicit false

/-! # Settings in TOML

Settings can be read from a TOML document. No setting is a table, an array or anything else
than a string or an integer, so only documents that are a flat list of such entries are ever
accepted, and only they are read here: `readEntries?` gives nothing for any other document,
well-formed or not.
-/

namespace Templating.Toml

open Text

/-- The value of an entry. -/
inductive Value where
  | string (text : String)
  | integer (value : Int)
deriving DecidableEq, Repr

/-! ## Blanks, comments and line ends -/

/-- White space inside a line. -/
def isSpace (c : Char) : Bool := c = ' ' || c = '\t'

/-- A character that may stand for itself: a tab or no control character below U+0080. -/
def isPlain (c : Char) : Bool := c = '\t' || (0x20 ≤ c.toNat && c.toNat ≠ 0x7f)

/-- The text after white space. -/
def skipSpaces (text : List Char) : List Char := text.dropWhile isSpace

/-- What follows a line end: a line feed, or a carriage return and a line feed. -/
def newline? : List Char → Option (List Char)
  | '\n' :: rest => some rest
  | '\r' :: '\n' :: rest => some rest
  | _ => none

/-- What follows the rest of a line that holds at most white space and a comment. -/
def lineEnd? (text : List Char) : Option (List Char) :=
  let rest := match skipSpaces text with
    | '#' :: comment => comment.dropWhile isPlain
    | other => other
  if rest = [] then some [] else newline? rest

/-! ## Strings -/

/-- Where a reader of double-quoted strings stands. -/
inductive Mode where
  -- between items; `skipping` after a line end was escaped, when white space and further line
  -- ends are left out
  | plain (skipping : Bool)
  | escape
  -- after a backslash and white space, before the line end that is escaped
  | lineEnd
  -- inside a numeric escape, after `seen` and before `left` more digits
  | code (left : Nat) (seen : List Char)

/-- The character that a one-letter escape stands for. -/
def namedEscape? : Char → Option Char
  | 'b' => some '\x08'
  | 't' => some '\t'
  | 'n' => some '\n'
  | 'f' => some '\x0c'
  | 'r' => some '\r'
  | '"' => some '"'
  | '\\' => some '\\'
  | _ => none

/-- The end of a multi-line string, after its first three closing quotes: up to two quotes
before the closing ones belong to the string. -/
def closing (quote : Char) : List Char → List Char × List Char
  | [] => ([], [])
  | a :: rest =>
    if a ≠ quote then ([], a :: rest)
    else match rest with
      | [] => ([quote], [])
      | b :: more => if b = quote then ([quote, quote], more) else ([quote], b :: more)

/-- Puts a character before the text that is read next. -/
def prepend (c : Char) (read : Option (List Char × List Char)) : Option (List Char × List Char) :=
  read.map fun (text, rest) => (c :: text, rest)

/-- Reads the rest of a double-quoted string, and gives its text and what follows it. Only a
string over several lines may hold line ends, and quotes fewer than three. -/
def readQuoted? (multi : Bool) : Mode → List Char → Option (List Char × List Char)
  | _, [] => none
  | .plain skipping, c :: rest =>
    if c = '"' then
      if multi then
        match rest with
        | '"' :: '"' :: tail => some (closing '"' tail)
        | _ => prepend '"' (readQuoted? multi (.plain false) rest)
      else some ([], rest)
    else if c = '\\' then readQuoted? multi .escape rest
    else if c = '\n' then
      if multi then
        if skipping then readQuoted? multi (.plain true) rest
        else prepend '\n' (readQuoted? multi (.plain false) rest)
      else none
    else if c = '\r' then
      match rest with
      | '\n' :: tail =>
        if multi then
          if skipping then readQuoted? multi (.plain true) tail
          else prepend '\n' (readQuoted? multi (.plain false) tail)
        else none
      | _ => none
    else if skipping && isSpace c then readQuoted? multi (.plain true) rest
    else if isPlain c then prepend c (readQuoted? multi (.plain false) rest)
    else none
  | .escape, c :: rest =>
    match namedEscape? c with
    | some d => prepend d (readQuoted? multi (.plain false) rest)
    | none =>
      if c = 'u' then readQuoted? multi (.code 4 []) rest
      else if c = 'U' then readQuoted? multi (.code 8 []) rest
      else if multi && c = '\n' then readQuoted? multi (.plain true) rest
      else if multi && c = '\r' then
        match rest with
        | '\n' :: tail => readQuoted? multi (.plain true) tail
        | _ => none
      else if multi && isSpace c then readQuoted? multi .lineEnd rest
      else none
  | .lineEnd, c :: rest =>
    if c = '\n' then readQuoted? multi (.plain true) rest
    else if c = '\r' then
      match rest with
      | '\n' :: tail => readQuoted? multi (.plain true) tail
      | _ => none
    else if isSpace c then readQuoted? multi .lineEnd rest
    else none
  | .code left seen, c :: rest =>
    if (hexDigit? c).isNone then none
    else if left ≤ 1 then
      match scalar? (valueInBase 16 (seen ++ [c])) with
      | some d => prepend d (readQuoted? multi (.plain false) rest)
      | none => none
    else readQuoted? multi (.code (left - 1) (seen ++ [c])) rest

/-- Reads the rest of a single-quoted string, which has no escapes. -/
def readRaw? (multi : Bool) : List Char → Option (List Char × List Char)
  | [] => none
  | c :: rest =>
    if c = '\'' then
      if multi then
        match rest with
        | '\'' :: '\'' :: tail => some (closing '\'' tail)
        | _ => prepend '\'' (readRaw? multi rest)
      else some ([], rest)
    else if c = '\n' then if multi then prepend '\n' (readRaw? multi rest) else none
    else if c = '\r' then
      match rest with
      | '\n' :: tail => if multi then prepend '\n' (readRaw? multi tail) else none
      | _ => none
    else if isPlain c then prepend c (readRaw? multi rest)
    else none

/-- The text after a line end right at its beginning, which does not belong to a multi-line
string. -/
def dropFirstNewline (text : List Char) : List Char := (newline? text).getD text

/-- Reads a string in any of the four forms. -/
def readString? : List Char → Option (List Char × List Char)
  | '"' :: '"' :: '"' :: rest => readQuoted? true (.plain false) (dropFirstNewline rest)
  | '"' :: rest => readQuoted? false (.plain false) rest
  | '\'' :: '\'' :: '\'' :: rest => readRaw? true (dropFirstNewline rest)
  | '\'' :: rest => readRaw? false rest
  | _ => none

/-! ## Integers -/

/-- The longest run of digits with single underscores between them, without the underscores,
and what follows it. -/
def takeDigits (isDigit : Char → Bool) : List Char → List Char × List Char
  | [] => ([], [])
  | c :: rest =>
    if isDigit c then
      let (digits, tail) := takeDigits isDigit rest
      (c :: digits, tail)
    else
      match rest with
      | d :: more =>
        if c = '_' && isDigit d then
          let (digits, tail) := takeDigits isDigit more
          (d :: digits, tail)
        else ([], c :: rest)
      | [] => ([], [c])

/-- Reads one or more digits of the given base. -/
def readBase? (base : Nat) (text : List Char) : Option (Nat × List Char) :=
  let isDigit (c : Char) : Bool := (hexDigit? c).any (· < base)
  match text with
  | c :: _ =>
    if isDigit c then
      let (digits, rest) := takeDigits isDigit text
      some (valueInBase base digits, rest)
    else none
  | [] => none

/-- Reads a decimal number without leading zeros. -/
def readUnsigned? : List Char → Option (Nat × List Char)
  | '0' :: rest => some (0, rest)
  | text => readBase? 10 text

/-- The number of integers that are not negative and fit 64 bits with a sign: 2^63. -/
def integerLimit : Nat := 0x8000000000000000

/-- Reads an integer: decimal with an optional sign, or without a sign in base sixteen, eight or
two. It has to fit 64 bits with a sign. -/
def readInteger? (text : List Char) : Option (Int × List Char) :=
  let positive (read : Option (Nat × List Char)) : Option (Int × List Char) :=
    read.bind fun (n, rest) => if n < integerLimit then some ((n : Int), rest) else none
  match text with
  | '0' :: 'x' :: rest => positive (readBase? 16 rest)
  | '0' :: 'o' :: rest => positive (readBase? 8 rest)
  | '0' :: 'b' :: rest => positive (readBase? 2 rest)
  | '+' :: rest => positive (readUnsigned? rest)
  | '-' :: rest =>
    (readUnsigned? rest).bind fun (n, rest) =>
      if n ≤ integerLimit then some (-(n : Int), rest) else none
  | _ => positive (readUnsigned? text)

/-! ## Entries -/

/-- A character of an unquoted key. -/
def isKeyChar (c : Char) : Bool :=
  c.isAlphanum || c = '-' || c = '_'

/-- Reads a key that is not composed of several. -/
def readKey? (text : List Char) : Option (List Char × List Char) :=
  match text with
  | '"' :: rest => readQuoted? false (.plain false) rest
  | '\'' :: rest => readRaw? false rest
  | _ =>
    let key := text.takeWhile isKeyChar
    if key = [] then none else some (key, text.dropWhile isKeyChar)

/-- Reads a string or an integer. -/
def readValue? (text : List Char) : Option (Value × List Char) :=
  match text with
  | '"' :: _ | '\'' :: _ =>
    (readString? text).map fun (value, rest) => (.string (String.ofList value), rest)
  | _ => (readInteger? text).map fun (value, rest) => (.integer value, rest)

/-- Reads a key, an equals sign and a value, which are a line of their own. -/
def readEntry? (text : List Char) : Option ((String × Value) × List Char) := do
  let (key, rest) ← readKey? text
  let rest ← after? ['='] (skipSpaces rest)
  let (value, rest) ← readValue? (skipSpaces rest)
  return ((String.ofList key, value), ← lineEnd? rest)

/-- Reads up to `fuel` lines, each blank, a comment or an entry. Every line takes at least one
character, so as many lines as there are characters are enough. -/
def readLines? : (fuel : Nat) → List Char → Option (List (String × Value))
  | _, [] => some []
  | 0, _ :: _ => none
  | fuel + 1, text =>
    match lineEnd? text with
    | some rest => readLines? fuel rest
    | none => do
      let (entry, rest) ← readEntry? (skipSpaces text)
      return entry :: (← readLines? fuel rest)

/-- Reads a document that is a flat list of entries. A byte order mark at its beginning does
not count. -/
def readEntries? (document : String) : Option (List (String × Value)) :=
  let text := (after? ['\ufeff'] document.toList).getD document.toList
  readLines? text.length text

end Templating.Toml

namespace Templating.Settings

/-- A number that is not negative, as a word. -/
def wordOf? : Toml.Value → Option UInt64
  | .integer value => if 0 ≤ value then word? value.toNat else none
  | .string _ => none

/-- Sets the setting that an entry names, if there is one and the value is of its type. -/
def set? (s : Settings) : String × Toml.Value → Option Settings
  | ("unit_name_prefix", .string text) => some { s with namePrefix := text }
  | ("name_page_size", value) => (wordOf? value).map fun n => { s with pageSize := n }
  | ("default_capacity", value) => (wordOf? value).map fun n => { s with capacity := n }
  | ("registry_purge_threshold", value) =>
    (wordOf? value).map fun n => { s with purgeThreshold := n }
  | _ => none

/-- The settings in a document: the defaults, but for the entries, no two of which name the
same setting. -/
def read? (document : String) : Option Settings := do
  let entries ← Toml.readEntries? document
  if (entries.map Prod.fst).Nodup then entries.foldlM set? default else none

/-- Reads settings from a TOML document and validates them. -/
def ofToml (document : String) : Except SettingsFault Settings :=
  match read? document with
  | some s => s.validate
  | none => .error .document

end Templating.Settings
