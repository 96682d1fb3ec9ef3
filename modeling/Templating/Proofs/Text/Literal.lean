import Mathlib.Data.List.Basic
import Templating.Text.Literal
import Templating.Proofs.Text.Lines
import Templating.Proofs.Text.Numeral

set_option autoImplicit false

/-! # Literals are read back

What `escapeString` and `escapeChar` write between two quotes, `readLiteral` takes back, and it
leaves what follows the closing quote alone. The reader is followed one written character at a
time (`readItems_escapeStringChar`, `readItems_escapeChar`), each in the state between two
items; the texts follow by induction. Texts are written one character at a time
(`escapeString_eq_flatMap`), and as they are exactly if nothing in them needs an escape
(`escapeString_eq_self_iff`). Nothing that is written holds a control character.
-/

namespace Templating.Text

/-- The character that is read first, put before what is read after it. -/
def prepend (c : Char) (read : Except LiteralError (List Char × List Char)) :
    Except LiteralError (List Char × List Char) :=
  read.map fun (text, tail) => (c :: text, tail)

@[simp] theorem prepend_ok (c : Char) (text tail : List Char) :
    prepend c (.ok (text, tail)) = .ok (c :: text, tail) := rfl

/-! ## One item at a time -/

/-- The digits of a numeric escape are collected one by one. -/
theorem readItems_digits (quote : Char) (ds seen rest : List Char)
    (hds : ∀ c ∈ ds, (hexDigit? c).isSome = true) (hlen : seen.length + ds.length ≤ 6) :
    readItems quote (.digits seen) (ds ++ rest) = readItems quote (.digits (seen ++ ds)) rest := by
  induction ds generalizing seen with
  | nil => simp
  | cons d ds ih =>
      have hd : (hexDigit? d).isSome = true := hds d List.mem_cons_self
      have hne : d ≠ '\x7d' := by
        rintro rfl
        exact absurd hd (by decide)
      rw [List.length_cons] at hlen
      have hseen : seen.length < 6 := by omega
      rw [List.cons_append, readItems]
      simp only [hne, hd, hseen, if_false, if_true, and_self]
      rw [ih (seen ++ [d]) (fun c hc => hds c (List.mem_cons_of_mem d hc))
        (by rw [List.length_append, List.length_singleton]; omega)]
      simp

/-- A numeric escape reads as the character with the code that its digits stand for. -/
theorem readItems_code {quote c : Char} {ds : List Char} (hq : quote ≠ '\\') (hne : ds ≠ [])
    (hlen : ds.length ≤ 6) (hds : ∀ d ∈ ds, (hexDigit? d).isSome = true)
    (hcode : scalar? (valueInBase 16 ds) = some c) (rest : List Char) :
    readItems quote .plain ('\\' :: 'u' :: '\x7b' :: (ds ++ '\x7d' :: rest))
      = prepend c (readItems quote .plain rest) := by
  have hdigits := readItems_digits quote ds [] ('\x7d' :: rest) hds (by simpa using hlen)
  have hname : namedEscape? 'u' = none := by decide
  simp only [readItems, hq.symm, hname, if_false, if_true]
  rw [hdigits, List.nil_append, readItems]
  simp only [if_true, hne, if_false, hcode]
  rfl

/-- A numeric escape reads as the character that it was written for. -/
theorem readItems_numericEscape {quote : Char} (hq : quote ≠ '\\') (c : Char)
    (rest : List Char) :
    readItems quote .plain (numericEscape c ++ rest)
      = prepend c (readItems quote .plain rest) := by
  have hcode : scalar? (valueInBase 16 (hexadecimal c.toNat)) = some c := by
    rw [valueInBase_hexadecimal, scalar?_toNat]
  simp only [numericEscape, List.append_assoc, List.cons_append, List.nil_append]
  exact readItems_code hq (hexadecimal_ne_nil _) (length_hexadecimal_le c)
    (fun _ hc => isSome_hexDigit?_of_mem hc) hcode rest

/-- A named escape reads as the character that it names. -/
theorem readItems_namedEscape {quote c d : Char} (hq : quote ≠ '\\')
    (hd : namedEscape? c = some d) (rest : List Char) :
    readItems quote .plain ('\\' :: c :: rest) = prepend d (readItems quote .plain rest) := by
  simp only [readItems, hq.symm, hd, if_false, if_true]
  rfl

/-- A character that is neither special nor a control character stands for itself. -/
theorem readItems_self {quote c : Char} (hquote : c ≠ quote) (hslash : c ≠ '\\')
    (hc : isControl c = false) (rest : List Char) :
    readItems quote .plain (c :: rest) = prepend c (readItems quote .plain rest) := by
  simp only [readItems, hquote, hslash, hc, if_false, Bool.false_eq_true]
  rfl

/-- **The written form of a character inside double quotes** is read as that character. -/
theorem readItems_escapeStringChar (c : Char) (rest : List Char) :
    readItems '"' .plain (escapeStringChar c ++ rest)
      = prepend c (readItems '"' .plain rest) := by
  unfold escapeStringChar
  split
  -- the escapes with a name of their own
  · exact readItems_namedEscape (by decide) rfl rest
  · exact readItems_namedEscape (by decide) rfl rest
  · exact readItems_namedEscape (by decide) rfl rest
  · exact readItems_namedEscape (by decide) rfl rest
  · exact readItems_namedEscape (by decide) rfl rest
  · exact readItems_namedEscape (by decide) rfl rest
  -- any other character: by number if it is a control character, raw otherwise
  · next hslash hquote _ _ _ _ =>
      split
      · exact readItems_numericEscape (by decide) c rest
      · next hc =>
          exact readItems_self (fun h => hquote h) (fun h => hslash h)
            (Bool.eq_false_iff.mpr hc) rest

/-- **The written form of a character inside single quotes** is read as that character. -/
theorem readItems_escapeChar (c : Char) (rest : List Char) :
    readItems '\'' .plain (escapeChar c ++ rest)
      = prepend c (readItems '\'' .plain rest) := by
  unfold escapeChar
  split
  · exact readItems_namedEscape (by decide) rfl rest
  · exact readItems_namedEscape (by decide) rfl rest
  · next hslash hquote =>
      split
      · exact readItems_numericEscape (by decide) c rest
      · next hc =>
          exact readItems_self (fun h => hquote h) (fun h => hslash h)
            (Bool.eq_false_iff.mpr hc) rest

/-! ## Whole literals -/

theorem readItems_quote (quote : Char) (tail : List Char) :
    readItems quote .plain (quote :: tail) = .ok ([], tail) := by
  simp [readItems]

/-- A character that needs no escape is written as it is. -/
theorem escapeStringChar_of_not_needsEscape {c : Char} (h : needsEscape c = false) :
    escapeStringChar c = [c] := by
  have hcontrol : isControl c = false := (Bool.or_eq_false_iff.mp h).2
  unfold escapeStringChar
  split <;> try exact absurd h (by decide)
  rw [hcontrol]
  rfl

/-- **A text is written one character at a time**, also where it is taken as it is. -/
theorem escapeString_eq_flatMap (text : List Char) :
    escapeString text = text.flatMap escapeStringChar := by
  unfold escapeString
  split
  · rfl
  next hany =>
  have hself : ∀ c ∈ text, escapeStringChar c = [c] := by
    intro c hc
    apply escapeStringChar_of_not_needsEscape
    exact Bool.eq_false_iff.mpr fun hneeds => hany (List.any_eq_true.mpr ⟨c, hc, hneeds⟩)
  calc text
      = text.flatMap fun c => [c] := (List.flatMap_singleton' text).symm
    _ = text.flatMap escapeStringChar := List.flatMap_congr fun c hc => (hself c hc).symm

@[simp] theorem escapeString_nil : escapeString [] = [] := rfl

@[simp] theorem escapeString_cons (c : Char) (text : List Char) :
    escapeString (c :: text) = escapeStringChar c ++ escapeString text := by
  rw [escapeString_eq_flatMap, escapeString_eq_flatMap, List.flatMap_cons]

/-- Texts one after the other are written one after the other. -/
theorem escapeString_append (a b : List Char) :
    escapeString (a ++ b) = escapeString a ++ escapeString b := by
  simp only [escapeString_eq_flatMap, List.flatMap_append]

/-- **A string literal is read back**, and the reader stops right after its closing quote. -/
theorem readLiteral_escapeString (text tail : List Char) :
    readLiteral '"' ('"' :: escapeString text ++ '"' :: tail) = .ok (text, tail) := by
  have key : readItems '"' .plain (escapeString text ++ '"' :: tail) = .ok (text, tail) := by
    induction text with
    | nil => exact readItems_quote '"' tail
    | cons c text ih =>
        rw [escapeString_cons, List.append_assoc, readItems_escapeStringChar, ih, prepend_ok]
  simp [readLiteral, key]

/-- **A character literal is read back**, and the reader stops right after its closing quote. -/
theorem readLiteral_escapeChar (c : Char) (tail : List Char) :
    readLiteral '\'' ('\'' :: escapeChar c ++ '\'' :: tail) = .ok ([c], tail) := by
  simp [readLiteral, readItems_escapeChar, readItems_quote]

/-! ## Texts that are written as they are -/

/-- No character needs an escape exactly where there is no backslash, no double quote and no control
character. -/
theorem needsEscape_eq_false_iff {text : List Char} :
    (∀ c ∈ text, needsEscape c = false) ↔ '\\' ∉ text ∧ '"' ∉ text ∧ NoControl text := by
  constructor
  · intro h
    refine ⟨fun hslash => absurd (h _ hslash) (by decide),
      fun hquote => absurd (h _ hquote) (by decide), fun c hc => ?_⟩
    exact (Bool.or_eq_false_iff.mp (h c hc)).2
  · rintro ⟨hslash, hquote, hcontrol⟩ c hc
    have hcs : c ≠ '\\' := fun heq => hslash (heq ▸ hc)
    have hcq : c ≠ '"' := fun heq => hquote (heq ▸ hc)
    simp only [needsEscape, hcontrol c hc, beq_eq_false_iff_ne.mpr hcs,
      beq_eq_false_iff_ne.mpr hcq, Bool.or_self]

/-- An escape is longer than its character. -/
theorem one_lt_length_escapeStringChar {c : Char} (h : needsEscape c = true) :
    1 < (escapeStringChar c).length := by
  unfold escapeStringChar
  split <;> try decide
  next hslash hquote _ _ _ _ =>
  have hcontrol : isControl c = true := by
    simpa [needsEscape, show c ≠ '\\' from hslash, show c ≠ '"' from hquote] using h
  rw [if_pos hcontrol, numericEscape, List.length_append, List.length_append]
  show 1 < 3 + _ + 1
  omega

/-- A text does not get shorter when it is written. -/
theorem length_le_length_escapeString (text : List Char) :
    text.length ≤ (escapeString text).length := by
  induction text with
  | nil => exact Nat.le_refl 0
  | cons c text ih =>
      have hc : 1 ≤ (escapeStringChar c).length := by
        cases hneeds : needsEscape c with
        | false =>
            rw [escapeStringChar_of_not_needsEscape hneeds]
            exact Nat.le_refl 1
        | true => exact Nat.le_of_lt (one_lt_length_escapeStringChar hneeds)
      rw [escapeString_cons, List.length_append, List.length_cons]
      omega

/-- **A text is written as it is** exactly if it holds no backslash, no double quote and no control
character. -/
theorem escapeString_eq_self_iff {text : List Char} :
    escapeString text = text ↔ '\\' ∉ text ∧ '"' ∉ text ∧ NoControl text := by
  rw [← needsEscape_eq_false_iff]
  constructor
  · intro h c hc
    by_contra hneeds
    have hneeds : needsEscape c = true := by simpa using hneeds
    obtain ⟨before, after, rfl⟩ := List.append_of_mem hc
    -- the escape of `c` alone makes the whole longer
    have hlength := congrArg List.length h
    have hbefore := length_le_length_escapeString before
    have hafter := length_le_length_escapeString after
    have hescape := one_lt_length_escapeStringChar hneeds
    rw [escapeString_append, escapeString_cons] at hlength
    simp only [List.length_append, List.length_cons] at hlength
    omega
  · intro h
    have hany : text.any needsEscape = false := by
      rw [List.any_eq_false]
      intro c hc
      simp [h c hc]
    rw [escapeString, hany]
    rfl

/-! ## Literals hold no control character -/

theorem noControl_numericEscape (c : Char) : NoControl (numericEscape c) := by
  have hdigits : NoControl (hexadecimal c.toNat) := fun _ hd => isControl_of_mem_hexadecimal hd
  simp only [numericEscape, noControl_append, noControl_cons, noControl_nil, hdigits]
  decide

theorem noControl_escapeStringChar (c : Char) : NoControl (escapeStringChar c) := by
  unfold escapeStringChar
  split <;> try (simp only [noControl_cons, noControl_nil]; decide)
  split
  · exact noControl_numericEscape c
  · next hc => simpa using hc

theorem noControl_escapeChar (c : Char) : NoControl (escapeChar c) := by
  unfold escapeChar
  split <;> try (simp only [noControl_cons, noControl_nil]; decide)
  split
  · exact noControl_numericEscape c
  · next hc => simpa using hc

theorem noControl_escapeString (text : List Char) : NoControl (escapeString text) := by
  induction text with
  | nil => exact noControl_nil
  | cons c text ih =>
      rw [escapeString_cons, noControl_append]
      exact ⟨noControl_escapeStringChar c, ih⟩

end Templating.Text
