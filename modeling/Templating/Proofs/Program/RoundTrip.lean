import Templating.Program.Printer
import Templating.Program.Reader
import Templating.Proofs.Text.Literal

set_option autoImplicit false

/-! # Programs are read back

The written form of a program is read as that program in normal form (`Program.normal`): empty
texts are dropped and texts of one character have become that character. This needs a name
without control characters, at least one slot, and references to declared slots only
(`Program.WellFormed`). The one thing that may then go wrong is the size: a slot whose number
does not fit a word cannot be read. So

    p.source.read = .ok q  ↔  p.slots.length ≤ 2^64 ∧ q = p.normal

The proof goes line by line: each written line is no blank line, holds no control character
and moves the reader from one stage to the next.
-/

namespace Templating

open Text

/-! ## The normal form -/

/-- What an instruction is read back as, if it has a line. -/
def Instruction.normal? : Instruction → Option Instruction
  | .text t =>
    match t.toList with
    | [] => none
    | [c] => some (.char c)
    | _ => some (.text t)
  | .char c => some (.char c)
  | .slot index => some (.slot index)

/-- What a program is read back as. -/
def Program.normal (p : Program) : Program :=
  { p with instructions := p.instructions.filterMap Instruction.normal? }

/-- The opening refers to one of `declared` slots, if it refers to a slot. -/
def Opening.InRange (declared : Nat) : Opening → Prop
  | .capacity _ => True
  | .slot index => index < declared

/-- The instruction refers to one of `declared` slots, if it refers to a slot. -/
def Instruction.InRange (declared : Nat) : Instruction → Prop
  | .slot index => index < declared
  | _ => True

/-- A program that a compiler may write. -/
structure Program.WellFormed (p : Program) : Prop where
  -- the name fits a line
  name : NoControl p.name.toList
  slots_ne_nil : p.slots ≠ []
  -- the opening refers to a declared slot
  opening : p.opening.InRange p.slots.length
  -- the instructions refer to declared slots
  instructions : ∀ i ∈ p.instructions, i.InRange p.slots.length

/-! ## Parts of lines -/

theorem readSlotName_slotName (index : Nat) :
    readSlotName (slotName index) = if index < UInt64.size then .ok index
      else .error (.slotName (String.ofList (slotName index))) := by
  have hafter : after? ['D'] (slotName index) = some (decimal index) :=
    after?_append ['D'] (decimal index)
  by_cases h : index < UInt64.size
  · simp only [readSlotName, hafter, Option.bind_some, readDecimal?_decimal, if_pos h]
  · simp only [readSlotName, hafter, Option.bind_some, readDecimal?_decimal, if_neg h]

theorem readSlotRef_slotName {declared index : Nat} (h : index < declared)
    (hsize : declared ≤ UInt64.size) : readSlotRef declared (slotName index) = .ok index := by
  simp only [readSlotRef, readSlotName_slotName, if_pos (Nat.lt_of_lt_of_le h hsize), if_pos h]

theorem space_not_mem_slotName (index : Nat) : ' ' ∉ slotName index := by
  intro h
  rcases List.mem_cons.mp h with h | h
  · exact absurd h (by decide)
  · exact not_mem_decimal (by decide) index h

/-- What follows the first word of a slot line. -/
theorem readSlot_slotLine (index : Nat) (key : String) :
    readSlot index (slotName index ++ " <- \"".toList ++ escapeString key.toList ++ ['"'])
      = if index < UInt64.size then .ok key
        else .error (.slotName (String.ofList (slotName index))) := by
  have hcut : cut? " <- ".toList
      (slotName index ++ " <- \"".toList ++ escapeString key.toList ++ ['"'])
      = some (slotName index, '"' :: escapeString key.toList ++ ['"']) := by
    have h := cut?_append (space_not_mem_slotName index) ['<', '-', ' ']
      ('"' :: escapeString key.toList ++ ['"'])
    simpa using h
  have hkey : readLiteral '"' ('"' :: escapeString key.toList ++ ['"'])
      = .ok (key.toList, []) := readLiteral_escapeString key.toList []
  simp only [readSlot, hcut, readSlotName_slotName]
  by_cases h : index < UInt64.size
  · simp only [if_pos h, ne_eq, not_true_eq_false, if_false, hkey, if_true, String.ofList_toList]
  · simp only [if_neg h]

theorem limitText_some_ne (n : UInt64) : limitText (some n) ≠ ['?'] := by
  intro h
  have hmem : '?' ∈ decimal n.toNat := by
    rw [show decimal n.toNat = ['?'] from h]
    exact List.mem_singleton_self '?'
  exact not_mem_decimal (by decide) n.toNat hmem

theorem readLimit?_limitText (side : Option UInt64) : readLimit? (limitText side) = some side := by
  cases side with
  | none => rfl
  | some n =>
      have hread : readDecimal? UInt64.size (limitText (some n)) = some n.toNat :=
        readDecimal?_decimal_of_lt n.toNat_lt_size
      rw [readLimit?, if_neg (limitText_some_ne n), hread, Option.map_some, UInt64.ofNat_toNat]

theorem space_not_mem_limitText (side : Option UInt64) : ' ' ∉ limitText side := by
  cases side with
  | none => decide
  | some n => exact not_mem_decimal (by decide) n.toNat

theorem readBound?_boundLine (b : LengthBound) : readBound? (boundLine b) = some b := by
  have hafter : after? "bound ".toList (boundLine b)
      = some (limitText b.min ++ ' ' :: limitText b.max) := after?_append "bound ".toList _
  have hcut : cut? [' '] (limitText b.min ++ ' ' :: limitText b.max)
      = some (limitText b.min, limitText b.max) := by
    have h := cut?_append (space_not_mem_limitText b.min) [] (limitText b.max)
    simpa using h
  simp only [readBound?, hafter, hcut, readLimit?_limitText, Option.bind_eq_bind,
    Option.bind_some]
  rfl

theorem readOpening_line {declared : Nat} {o : Opening} (h : o.InRange declared)
    (hsize : declared ≤ UInt64.size) : readOpening declared o.line = .ok o := by
  cases o with
  | capacity bytes =>
      have hafter : after? "begin capacity ".toList (Opening.line (.capacity bytes))
          = some (decimal bytes.toNat) := after?_append "begin capacity ".toList _
      simp only [readOpening, hafter, readDecimal?_decimal_of_lt bytes.toNat_lt_size,
        UInt64.ofNat_toNat]
  | slot index =>
      have hnone : after? "begin capacity ".toList (Opening.line (.slot index)) = none := rfl
      have hafter : after? "begin from ".toList (Opening.line (.slot index))
          = some (slotName index) := after?_append "begin from ".toList _
      simp only [readOpening, hnone, hafter, readSlotRef_slotName h hsize]
      rfl

/-! ## Operands -/

theorem readControlCode?_decimal {c : Char} (h : c < ' ') :
    readControlCode? (decimal c.toNat) = some c := by
  have hcode : c.toNat < 0x20 := h
  have hsize : c.toNat < UInt32.size := Nat.lt_trans hcode (by decide)
  simp only [readControlCode?, readDecimal?_decimal_of_lt hsize, if_pos hcode, Char.ofNat_toNat]

/-- **Characters are read back** from their operand, be it a code or a literal. -/
theorem readOperand_charOperand (declared : Nat) (c : Char) :
    readOperand declared (charOperand c) = .ok (.char c) := by
  unfold charOperand
  split
  · next h => simp only [readOperand, readControlCode?_decimal h]
  · have hread : readLiteral '\'' ('\'' :: escapeChar c ++ ['\'']) = .ok ([c], []) :=
      readLiteral_escapeChar c []
    rw [List.cons_append] at hread ⊢
    simp only [readOperand, hread]

/-- **Texts are read back** from their operand. -/
theorem readOperand_escapeString (declared : Nat) (text : String) :
    readOperand declared ('"' :: escapeString text.toList ++ ['"']) = .ok (.text text) := by
  have hread : readLiteral '"' ('"' :: escapeString text.toList ++ ['"'])
      = .ok (text.toList, []) := readLiteral_escapeString text.toList []
  rw [List.cons_append] at hread ⊢
  simp only [readOperand, hread, if_true, String.ofList_toList]

theorem readOperand_slotName {declared index : Nat} (h : index < declared)
    (hsize : declared ≤ UInt64.size) :
    readOperand declared (slotName index) = .ok (.slot index) := by
  have hread := readSlotRef_slotName h hsize
  unfold slotName at hread ⊢
  simp only [readOperand, hread]
  rfl

/-- A line of an instruction is the word `push` and an operand that reads as its normal form. -/
theorem line?_eq_some {declared : Nat} {i : Instruction} {line : List Char}
    (hline : i.line? = some line) (h : i.InRange declared) (hsize : declared ≤ UInt64.size) :
    ∃ operand j, line = "push ".toList ++ operand ∧ i.normal? = some j
      ∧ readOperand declared operand = .ok j := by
  cases i with
  | text t =>
      -- no character, one, or more
      rcases ht : t.toList with _ | ⟨c, _ | ⟨d, cs⟩⟩
      · simp only [Instruction.line?, ht] at hline
        cases hline
      · simp only [Instruction.line?, ht] at hline
        have hnormal : (Instruction.text t).normal? = some (.char c) := by
          simp only [Instruction.normal?, ht]
        exact ⟨charOperand c, .char c, (Option.some.inj hline).symm, hnormal,
          readOperand_charOperand declared c⟩
      · simp only [Instruction.line?, ht] at hline
        have hnormal : (Instruction.text t).normal? = some (.text t) := by
          simp only [Instruction.normal?, ht]
        have hread := readOperand_escapeString declared t
        rw [ht] at hread
        exact ⟨_, .text t, (Option.some.inj hline).symm, hnormal, hread⟩
  | char c =>
      exact ⟨charOperand c, .char c, (Option.some.inj hline).symm, rfl,
        readOperand_charOperand declared c⟩
  | slot index =>
      exact ⟨slotName index, .slot index, (Option.some.inj hline).symm, rfl,
        readOperand_slotName h hsize⟩

/-- Exactly the instructions that have a line have a normal form. -/
theorem normal?_eq_none {i : Instruction} (hline : i.line? = none) : i.normal? = none := by
  cases i with
  | text t =>
      simp only [Instruction.line?] at hline
      split at hline
      · next ht => simp [Instruction.normal?, ht]
      · exact absurd hline (by simp)
      · exact absurd hline (by simp)
  | char c => exact absurd hline (by simp [Instruction.line?])
  | slot index => exact absurd hline (by simp [Instruction.line?])

/-! ## Lines -/

namespace Stage

theorem step_headerLine (name : String) :
    step name header (headerLine name.toList) = .ok (slots []) := by
  have hafter : after? "unit ".toList (headerLine name.toList) = some name.toList :=
    after?_append "unit ".toList name.toList
  simp only [step, hafter, if_true]

theorem slotLine_eq (index : Nat) (key : String) :
    slotLine index key = "slot ".toList
      ++ (slotName index ++ " <- \"".toList ++ escapeString key.toList ++ ['"']) := by
  unfold slotLine
  simp only [List.append_assoc]

theorem step_slotLine (name key : String) (keys : List String) :
    step name (slots keys) (slotLine keys.length key)
      = if keys.length < UInt64.size then .ok (slots (keys ++ [key]))
        else .error (.slotName (String.ofList (slotName keys.length))) := by
  have hafter : after? "slot ".toList (slotLine keys.length key)
      = some (slotName keys.length ++ " <- \"".toList ++ escapeString key.toList ++ ['"']) := by
    rw [slotLine_eq]
    exact after?_append "slot ".toList _
  by_cases h : keys.length < UInt64.size
  · simp only [step, hafter, readSlot_slotLine, if_pos h]
    rfl
  · simp only [step, hafter, readSlot_slotLine, if_neg h]
    rfl

theorem step_boundLine (name : String) {keys : List String} (hkeys : keys ≠ [])
    (b : LengthBound) : step name (slots keys) (boundLine b) = .ok (opening keys b) := by
  have hnone : after? "slot ".toList (boundLine b) = none := rfl
  simp only [step, hnone, if_neg hkeys, readBound?_boundLine]

theorem step_openingLine (name : String) {keys : List String} {o : Opening} (b : LengthBound)
    (h : o.InRange keys.length) (hsize : keys.length ≤ UInt64.size) :
    step name (opening keys b) o.line = .ok (body ⟨name, keys, b, o, []⟩) := by
  simp only [step, readOpening_line h hsize]
  rfl

theorem step_endLine (name : String) (p : Program) :
    step name (body p) endLine = .ok (closed p) := by
  simp only [step, endLine, if_true]

/-- A line of an instruction adds its normal form to the program. -/
theorem step_instructionLine (name : String) {p : Program} {i : Instruction} {line : List Char}
    (hline : i.line? = some line) (h : i.InRange p.slots.length)
    (hsize : p.slots.length ≤ UInt64.size) :
    ∃ j, i.normal? = some j
      ∧ step name (body p) line = .ok (body { p with instructions := p.instructions ++ [j] }) := by
  obtain ⟨operand, j, rfl, hj, hread⟩ := line?_eq_some hline h hsize
  refine ⟨j, hj, ?_⟩
  have hend : "push ".toList ++ operand ≠ "end".toList := by simp
  have hafter : after? "push ".toList ("push ".toList ++ operand) = some operand :=
    after?_append _ _
  simp only [step, if_neg hend, hafter, hread]
  rfl

/-! ## Runs -/

/-- A line that is not blank takes the reader to the next stage. -/
theorem run_cons {name : String} {n : Nat} {stage next : Stage} {line : List Char}
    (hblank : line.all isBlank = false) (hstep : step name stage line = .ok next)
    (rest : List (List Char)) :
    run name n stage (line :: rest) = run name (n + 1) next rest := by
  simp only [run, hblank, Bool.false_eq_true, if_false, hstep]

/-- The slot lines are read if their numbers fit words. -/
theorem run_slotLines (name : String) (keys seen : List String) (n : Nat)
    (rest : List (List Char)) (hsize : seen.length + keys.length ≤ UInt64.size) :
    run name n (slots seen) (keys.mapIdx (fun i => slotLine (seen.length + i)) ++ rest)
      = run name (n + keys.length) (slots (seen ++ keys)) rest := by
  induction keys generalizing seen n with
  | nil => simp
  | cons key keys ih =>
      rw [List.length_cons] at hsize
      have hstep : step name (slots seen) (slotLine seen.length key)
          = .ok (slots (seen ++ [key])) := by
        rw [step_slotLine, if_pos (by omega)]
      rw [List.mapIdx_cons, List.cons_append, Nat.add_zero, run_cons rfl hstep]
      have htail := ih (seen ++ [key]) (n + 1)
        (by rw [List.length_append, List.length_singleton]; omega)
      simp only [List.length_append, List.length_singleton, List.append_assoc,
        List.singleton_append] at htail
      simp only [List.length_cons, Nat.add_assoc, Nat.add_comm 1] at htail ⊢
      exact htail

/-- With more slots than words, the reader stops at a slot line. -/
theorem run_slotLines_overflow (name : String) (keys seen : List String) (n : Nat)
    (rest : List (List Char)) (hseen : seen.length ≤ UInt64.size)
    (hsize : UInt64.size < seen.length + keys.length) :
    ∃ e, run name n (slots seen) (keys.mapIdx (fun i => slotLine (seen.length + i)) ++ rest)
      = .error e := by
  induction keys generalizing seen n with
  | nil =>
      rw [List.length_nil] at hsize
      omega
  | cons key keys ih =>
      rw [List.length_cons] at hsize
      rw [List.mapIdx_cons, List.cons_append, Nat.add_zero]
      by_cases h : seen.length < UInt64.size
      · have hstep : step name (slots seen) (slotLine seen.length key)
            = .ok (slots (seen ++ [key])) := by
          rw [step_slotLine, if_pos h]
        rw [run_cons rfl hstep]
        obtain ⟨e, he⟩ := ih (seen ++ [key]) (n + 1)
          (by rw [List.length_append, List.length_singleton]; omega)
          (by rw [List.length_append, List.length_singleton]; omega)
        refine ⟨e, ?_⟩
        simp only [List.length_append, List.length_singleton] at he
        simpa only [Nat.add_assoc, Nat.add_comm 1] using he
      · refine ⟨⟨n, .slotName (String.ofList (slotName seen.length))⟩, ?_⟩
        have hblank : (slotLine seen.length key).all isBlank = false := rfl
        simp only [run, hblank, Bool.false_eq_true, if_false, step_slotLine, if_neg h]

/-- The lines of instructions add the normal forms of those instructions. -/
theorem run_instructionLines (name : String) (is : List Instruction) (p : Program) (n : Nat)
    (rest : List (List Char)) (h : ∀ i ∈ is, i.InRange p.slots.length)
    (hsize : p.slots.length ≤ UInt64.size) :
    ∃ m, run name n (body p) (is.filterMap Instruction.line? ++ rest)
      = run name m
          (body { p with instructions := p.instructions ++ is.filterMap Instruction.normal? })
          rest := by
  induction is generalizing p n with
  | nil => exact ⟨n, by simp⟩
  | cons i is ih =>
      have hi : i.InRange p.slots.length := h i List.mem_cons_self
      have his : ∀ j ∈ is, j.InRange p.slots.length := fun j hj =>
        h j (List.mem_cons_of_mem i hj)
      cases hline : i.line? with
      | none =>
          obtain ⟨m, hm⟩ := ih p n his hsize
          refine ⟨m, ?_⟩
          rw [List.filterMap_cons_none hline, List.filterMap_cons_none (normal?_eq_none hline)]
          exact hm
      | some line =>
          obtain ⟨j, hj, hstep⟩ := step_instructionLine name hline hi hsize
          have hblank : line.all isBlank = false := by
            obtain ⟨operand, _, rfl, -, -⟩ := line?_eq_some hline hi hsize
            rfl
          obtain ⟨m, hm⟩ := ih { p with instructions := p.instructions ++ [j] } (n + 1) his hsize
          refine ⟨m, ?_⟩
          rw [List.filterMap_cons_some hline, List.filterMap_cons_some hj, List.cons_append,
            run_cons hblank hstep, hm]
          simp only [List.append_assoc, List.singleton_append]

end Stage

/-! ## Lines hold no control character -/

theorem noControl_decimal (n : Nat) : NoControl (decimal n) := fun _ hc =>
  isControl_of_mem_decimal hc

theorem noControl_slotName (index : Nat) : NoControl (slotName index) :=
  noControl_cons.mpr ⟨by decide, noControl_decimal index⟩

theorem noControl_limitText (side : Option UInt64) : NoControl (limitText side) := by
  cases side with
  | none => exact noControl_cons.mpr ⟨by decide, noControl_nil⟩
  | some n => exact noControl_decimal n.toNat

theorem noControl_charOperand (c : Char) : NoControl (charOperand c) := by
  unfold charOperand
  split
  · exact noControl_cons.mpr ⟨by decide, noControl_decimal c.toNat⟩
  · refine noControl_append.mpr ⟨?_, by decide⟩
    exact noControl_cons.mpr ⟨by decide, noControl_escapeChar c⟩

/-- A string literal in its quotes holds no control character. -/
theorem noControl_literal (text : List Char) :
    NoControl ('"' :: escapeString text ++ ['"']) := by
  refine noControl_append.mpr ⟨?_, by decide⟩
  exact noControl_cons.mpr ⟨by decide, noControl_escapeString text⟩

theorem noControl_headerLine {name : List Char} (h : NoControl name) :
    NoControl (headerLine name) :=
  noControl_append.mpr ⟨by decide, h⟩

theorem noControl_slotLine (index : Nat) (key : String) : NoControl (slotLine index key) := by
  unfold slotLine
  simp only [noControl_append]
  exact ⟨⟨⟨⟨by decide, noControl_slotName index⟩, by decide⟩, noControl_escapeString key.toList⟩,
    by decide⟩

theorem noControl_boundLine (b : LengthBound) : NoControl (boundLine b) := by
  unfold boundLine
  simp only [noControl_append, noControl_cons]
  exact ⟨⟨by decide, noControl_limitText b.min⟩, by decide, noControl_limitText b.max⟩

theorem noControl_openingLine (o : Opening) : NoControl o.line := by
  cases o with
  | capacity bytes => exact noControl_append.mpr ⟨by decide, noControl_decimal bytes.toNat⟩
  | slot index => exact noControl_append.mpr ⟨by decide, noControl_slotName index⟩

theorem noControl_instructionLine {i : Instruction} {line : List Char}
    (hline : i.line? = some line) : NoControl line := by
  cases i with
  | text t =>
      simp only [Instruction.line?] at hline
      split at hline
      · exact absurd hline (by simp)
      · next c _ =>
          rw [← Option.some.inj hline]
          exact noControl_append.mpr ⟨by decide, noControl_charOperand c⟩
      · rw [← Option.some.inj hline, List.append_assoc]
        exact noControl_append.mpr ⟨by decide, noControl_literal t.toList⟩
  | char c =>
      rw [← Option.some.inj hline]
      exact noControl_append.mpr ⟨by decide, noControl_charOperand c⟩
  | slot index =>
      rw [← Option.some.inj hline]
      exact noControl_append.mpr ⟨by decide, noControl_slotName index⟩

namespace Program

theorem noControl_of_mem_lines {p : Program} (hname : NoControl p.name.toList)
    {line : List Char} (hline : line ∈ p.lines) : NoControl line := by
  unfold Program.lines at hline
  simp only [List.mem_append, List.mem_cons, List.not_mem_nil, or_false]
    at hline
  rcases hline with ((rfl | hslot) | rfl | rfl | hinstruction) | rfl
  · exact noControl_headerLine hname
  · obtain ⟨index, hindex, rfl⟩ := List.mem_mapIdx.mp hslot
    exact noControl_slotLine index p.slots[index]
  · exact noControl_boundLine p.bound
  · exact noControl_openingLine p.opening
  · obtain ⟨i, -, hi⟩ := List.mem_filterMap.mp hinstruction
    exact noControl_instructionLine hi
  · decide

/-- The lines of the written form are the lines that were written. -/
theorem lines_source {p : Program} (hname : NoControl p.name.toList) :
    Text.lines p.source.body.toList = p.lines := by
  simp only [source, String.toList_ofList]
  exact lines_flatMap_newline fun _ hline => noControl_of_mem_lines hname hline

/-! ## Whole programs -/

/-- **Programs are read back** in normal form. -/
theorem read_source {p : Program} (h : p.WellFormed) (hsize : p.slots.length ≤ UInt64.size) :
    p.source.read = .ok p.normal := by
  -- every part of the text is read from the stage that the part before it leads to
  have hblank : (headerLine p.name.toList).all isBlank = false := rfl
  have hheader := Stage.run_cons (n := 1) hblank (Stage.step_headerLine p.name)
  have hslots := Stage.run_slotLines p.name p.slots [] 2
  simp only [List.length_nil, Nat.zero_add, List.nil_append] at hslots
  have hblank : (boundLine p.bound).all isBlank = false := rfl
  have hbound := Stage.run_cons (n := 2 + p.slots.length) hblank
    (Stage.step_boundLine p.name h.slots_ne_nil p.bound)
  have hblank : p.opening.line.all isBlank = false := by
    cases p.opening <;> rfl
  have hopening := Stage.run_cons (n := 2 + p.slots.length + 1) hblank
    (Stage.step_openingLine p.name p.bound h.opening hsize)
  obtain ⟨m, hinstructions⟩ := Stage.run_instructionLines p.name p.instructions
    ⟨p.name, p.slots, p.bound, p.opening, []⟩ (2 + p.slots.length + 1 + 1) [endLine]
    h.instructions hsize
  have hend := Stage.run_cons (n := m) rfl (Stage.step_endLine p.name p.normal) []
  have hrun : Stage.run p.name 1 .header p.lines = .ok (.closed p.normal) := by
    unfold Program.lines
    rw [List.cons_append, List.cons_append, hheader, List.append_assoc, hslots _ hsize,
      List.cons_append, hbound, List.cons_append, hopening, hinstructions, List.nil_append]
    exact hend
  simp only [Source.read, lines_source h.name]
  rw [show p.source.name = p.name from rfl, hrun]
  rfl

/-- **A written program is read exactly if its slots can be counted by words**, and then it is
read as its normal form. -/
theorem read_source_eq_ok_iff {p q : Program} (h : p.WellFormed) :
    p.source.read = .ok q ↔ p.slots.length ≤ UInt64.size ∧ q = p.normal := by
  by_cases hsize : p.slots.length ≤ UInt64.size
  · rw [read_source h hsize]
    constructor
    · intro hq
      exact ⟨hsize, (Except.ok.inj hq).symm⟩
    · rintro ⟨-, rfl⟩
      rfl
  · -- the number of the first slot that is no word is refused
    refine ⟨fun hq => ?_, fun hq => absurd hq.1 hsize⟩
    obtain ⟨e, he⟩ := Stage.run_slotLines_overflow p.name p.slots [] 2
      (boundLine p.bound :: p.opening.line :: p.instructions.filterMap Instruction.line?
        ++ [endLine]) (Nat.zero_le _) (by rw [List.length_nil]; omega)
    simp only [List.length_nil, Nat.zero_add] at he
    have hblank : (headerLine p.name.toList).all isBlank = false := rfl
    have hheader := Stage.run_cons (n := 1) hblank (Stage.step_headerLine p.name)
    have hrun : Stage.run p.name 1 .header p.lines = .error e := by
      unfold Program.lines
      rw [List.cons_append, List.cons_append, hheader, List.append_assoc]
      exact he
    simp only [Source.read, lines_source h.name] at hq
    rw [show p.source.name = p.name from rfl, hrun] at hq
    cases hq

end Program

end Templating
