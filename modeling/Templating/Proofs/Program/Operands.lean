import Templating.Proofs.Program.RoundTrip

set_option autoImplicit false

/-! # Texts and characters as they are written

What holds of every text and every character between the writer and the reader of literals: the
written form is read back, by `readLiteral` in front of anything and by `readOperand` as the operand
of an instruction; it stays on its line; and a text is written one character at a time, although
the writer looks at the whole of it first.
-/

namespace Templating

open Text

/-- What the written form of a text comes to. -/
structure Text.Written (text : List Char) : Prop where
  -- between double quotes it is read back, and what follows the closing quote is left alone
  read : ∀ tail, readLiteral '"' ('"' :: escapeString text ++ '"' :: tail) = .ok (text, tail)
  noControl : NoControl (escapeString text)
  -- it is the written forms of the characters one after another
  chars : escapeString text = text.flatMap fun c => escapeString [c]
  append : ∀ more, escapeString (text ++ more) = escapeString text ++ escapeString more
  unchanged_iff : escapeString text = text ↔ '\\' ∉ text ∧ '"' ∉ text ∧ NoControl text
  -- a text of more than one character is the operand of an instruction that appends it
  operand : 2 ≤ text.length → ∃ operand,
    (Instruction.text (String.ofList text)).line? = some ("push ".toList ++ operand) ∧
      ∀ declared, readOperand declared operand = .ok (.text (String.ofList text))

/-- What the written form of a character comes to, be it a control character or not. -/
structure Text.WrittenChar (c : Char) : Prop where
  -- between single quotes it is read back, and what follows the closing quote is left alone
  read : ∀ tail, readLiteral '\'' ('\'' :: escapeChar c ++ '\'' :: tail) = .ok ([c], tail)
  -- it is the operand of an instruction that appends it
  operand : ∃ operand, (Instruction.char c).line? = some ("push ".toList ++ operand) ∧
    ∀ declared, readOperand declared operand = .ok (.char c)

/-- A character by itself is written as it is in a text. -/
theorem Text.escapeString_singleton (c : Char) : escapeString [c] = escapeStringChar c := by
  rw [escapeString_cons, escapeString_nil, List.append_nil]

theorem Text.written (text : List Char) : Written text where
  read := readLiteral_escapeString text
  noControl := noControl_escapeString text
  chars := by
    simp only [escapeString_singleton]
    exact escapeString_eq_flatMap text
  append := escapeString_append text
  unchanged_iff := escapeString_eq_self_iff
  operand := by
    intro hlength
    refine ⟨'"' :: escapeString text ++ ['"'], ?_, fun declared => ?_⟩
    · rcases text with _ | ⟨c, _ | ⟨d, cs⟩⟩
      · simp at hlength
      · simp at hlength
      · simp only [Instruction.line?, String.toList_ofList, List.append_assoc]
    · have hread := readOperand_escapeString declared (String.ofList text)
      rwa [String.toList_ofList] at hread

theorem Text.writtenChar (c : Char) : WrittenChar c where
  read := readLiteral_escapeChar c
  operand := ⟨charOperand c, rfl, fun declared => readOperand_charOperand declared c⟩

/-- **Writers and readers of literals agree** on every text and every character. -/
theorem literals_agree :
    (∀ text : List Char, Text.Written text) ∧ ∀ c : Char, Text.WrittenChar c :=
  ⟨Text.written, Text.writtenChar⟩

end Templating
