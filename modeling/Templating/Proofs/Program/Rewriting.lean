import Templating.Proofs.Program.Grammar
import Templating.Proofs.Program.Linking

set_option autoImplicit false

/-! # Programs are written again

A program has many spellings: numbers with a plus sign or leading zeros, blank lines, escapes for
characters that need none, empty texts. Once it is read, all of this is gone, and the writer knows
a single spelling. What is written is therefore read as the normal form of the program, is the same
text for the program and its normal form, and means the same (`rewritten_of_read`).

What is read is such that it can be written: its slots can be counted by words, and it refers to
its slots only (`SpellsProgram.length_slots_le`, `SpellsProgram.opening_inRange`,
`SpellsProgram.instructions_inRange`).
-/

namespace Templating

open Text

/-! ## What is read refers to its slots only -/

/-- The numbers of slot lines are words. -/
theorem SpellsSlots.length_le {first : Nat} {ls : List (List Char)} {keys : List String}
    (h : SpellsSlots first ls keys) : keys = [] ∨ first + keys.length ≤ UInt64.size := by
  induction h with
  | nil => exact Or.inl rfl
  | @cons first line key ls keys hline hlines ih =>
      right
      obtain ⟨_, _, ⟨_, hnumber, -⟩, -, -⟩ := hline
      have hfirst : first < UInt64.size := hnumber.lt
      rw [List.length_cons]
      rcases ih with rfl | hkeys
      · exact hfirst
      · omega

theorem SpellsOpening.inRange {declared : Nat} {line : List Char} {opening : Opening}
    (h : SpellsOpening declared line opening) : opening.InRange declared := by
  cases h with
  | capacity _ => trivial
  | slot _ hindex => exact hindex

theorem SpellsOperand.inRange {declared : Nat} {operand : List Char} {i : Instruction}
    (h : SpellsOperand declared operand i) : i.InRange declared := by
  cases h with
  | text _ => trivial
  | char _ => trivial
  | code _ _ => trivial
  | slot _ hindex => exact hindex

namespace SpellsProgram

variable {ls : List (List Char)} {p : Program}

theorem slots_ne_nil (h : SpellsProgram ls p) : p.slots ≠ [] := by
  cases h with
  | intro hkeys => exact hkeys

theorem length_slots_le (h : SpellsProgram ls p) : p.slots.length ≤ UInt64.size := by
  cases h with
  | intro hkeys hslots =>
      have hlength := hslots.length_le.resolve_left hkeys
      rwa [Nat.zero_add] at hlength

theorem opening_inRange (h : SpellsProgram ls p) : p.opening.InRange p.slots.length := by
  cases h with
  | intro _ _ _ hopening => exact hopening.inRange

theorem instructions_inRange (h : SpellsProgram ls p) :
    ∀ i ∈ p.instructions, i.InRange p.slots.length := by
  cases h with
  | intro _ _ _ _ hinstructions =>
      intro i hi
      obtain ⟨n, hn, rfl⟩ := List.mem_iff_getElem.mp hi
      obtain ⟨hlength, hget⟩ := List.forall₂_iff_get.mp hinstructions
      obtain ⟨_, hoperand, -⟩ := hget n (hlength ▸ hn) hn
      exact hoperand.inRange

end SpellsProgram

/-- A program that is read can be written, if its name fits a line. -/
theorem Source.wellFormed_of_read {source : Source} {p : Program}
    (hname : NoControl source.name.toList) (h : source.read = .ok p) : p.WellFormed := by
  obtain ⟨hsame, hspells⟩ := (source.read_eq_ok_iff p).mp h
  exact ⟨hsame ▸ hname, hspells.slots_ne_nil, hspells.opening_inRange,
    hspells.instructions_inRange⟩

/-! ## The normal form is written in the same way -/

/-- An instruction has the line of its normal form. -/
theorem Instruction.bind_normal?_line? (i : Instruction) : i.normal?.bind line? = i.line? := by
  cases i with
  | char c => rfl
  | slot index => rfl
  | text t =>
      -- no character, one, or more
      rcases ht : t.toList with _ | ⟨c, _ | ⟨d, cs⟩⟩
      · simp only [normal?, line?, ht, Option.bind_none]
      · simp only [normal?, line?, ht, Option.bind_some]
      · simp only [normal?, line?, ht, Option.bind_some]

/-- What is in normal form stays as it is. -/
theorem Instruction.bind_normal?_normal? (i : Instruction) :
    i.normal?.bind normal? = i.normal? := by
  cases i with
  | char c => rfl
  | slot index => rfl
  | text t =>
      rcases ht : t.toList with _ | ⟨c, _ | ⟨d, cs⟩⟩
      · simp only [normal?, ht, Option.bind_none]
      · simp only [normal?, ht, Option.bind_some]
      · simp only [normal?, ht, Option.bind_some]

namespace Program

theorem lines_normal (p : Program) : p.normal.lines = p.lines := by
  simp only [lines, normal, List.filterMap_filterMap, Instruction.bind_normal?_line?]

/-- **A program and its normal form are written in the same way.** -/
theorem source_normal (p : Program) : p.normal.source = p.source := by
  simp only [source, lines_normal]
  rfl

theorem normal_normal (p : Program) : p.normal.normal = p.normal := by
  simp only [normal, List.filterMap_filterMap, Instruction.bind_normal?_normal?]

/-- Two programs that can be written are written in the same way exactly if they have the same
normal form. -/
theorem source_eq_iff {p q : Program} (hp : p.WellFormed) (hq : q.WellFormed)
    (hpsize : p.slots.length ≤ UInt64.size) (hqsize : q.slots.length ≤ UInt64.size) :
    p.source = q.source ↔ p.normal = q.normal := by
  constructor
  · intro h
    have hread := read_source hp hpsize
    rw [h, read_source hq hqsize] at hread
    exact (Except.ok.inj hread).symm
  · intro h
    rw [← source_normal p, h, source_normal q]

/-! ## What is read and written again -/

/-- What writing a program again comes to. -/
structure Rewritten (p : Program) : Prop where
  -- it is read back without its empty texts, and with texts of one character as that character
  read : p.source.read = .ok p.normal
  -- the normal form is written as the same text, and is its own normal form
  again : p.normal.source = p.source
  normal : p.normal.normal = p.normal
  -- only programs with that normal form are written so
  canonical : ∀ {source : Source} {q : Program}, NoControl source.name.toList →
    source.read = .ok q → (q.source = p.source ↔ q.normal = p.normal)
  -- over any models both programs have the same output
  text : ∀ {τ : Type} (models : List (Model τ)) (self : Instance) (target : τ),
    ((p.normal.link models).toModel self).text target
      = ((p.link models).toModel self).text target

/-- **Whatever spelling a program was read from, writing it gives its normal form**, in a text that
no further writing changes. -/
theorem rewritten_of_read {source : Source} {p : Program} (hname : NoControl source.name.toList)
    (h : source.read = .ok p) : p.Rewritten := by
  have hsize {source : Source} {p : Program} (h : source.read = .ok p) :
      p.slots.length ≤ UInt64.size := ((source.read_eq_ok_iff p).mp h).2.length_slots_le
  have hp := Source.wellFormed_of_read hname h
  refine ⟨read_source hp (hsize h), source_normal p, normal_normal p, fun hname' hq => ?_,
    fun models self target => ?_⟩
  · exact source_eq_iff (Source.wellFormed_of_read hname' hq) hp (hsize hq) (hsize h)
  · exact eval_link_normal p models target

/-- A source with blank lines, plus signs, leading zeros, needless escapes and an empty text. -/
def sprawling : Source where
  name := "u$0"
  body := "unit u$0\r\n\n  \nslot D+0 <- \"\\u\x7b06b\x7d\\'\"\nbound +01 ?\n"
    ++ "begin capacity 007\n\npush \"\"\npush \"x\"\npush '\\n'\npush D00\nend"

/-- Written again, it has nothing of the kind. -/
theorem rewritten_of_read_sprawling :
    let p : Program := ⟨"u$0", ["k'"], ⟨some 1, none⟩, .capacity 7,
      [.text "", .text "x", .char '\n', .slot 0]⟩
    sprawling.read = .ok p ∧ p.Rewritten ∧
      p.source.body = "unit u$0\nslot D0 <- \"k'\"\nbound 1 ?\n"
        ++ "begin capacity 7\npush 'x'\npush #10\npush D0\nend\n" := by
  intro p
  have hread : sprawling.read = .ok p := by decide +kernel
  exact ⟨hread, rewritten_of_read (by decide) hread, by decide +kernel⟩

end Program

end Templating
