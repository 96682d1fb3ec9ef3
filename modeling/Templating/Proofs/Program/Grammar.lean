import Mathlib.Data.List.Forall2
import Templating.Program.Reader
import Templating.Proofs.Text.Grammar

set_option autoImplicit false

/-! # The grammar of programs

Which texts are programs, said line by line and without the reader (`SpellsProgram`): a header,
slot lines numbered from zero, the bound, the opening, instructions, and an end. Lines of white
space do not count (`Source.content`). A program has many spellings, of which the printer writes
one; the reader accepts all of them and nothing else:

    source.read = .ok p  ↔  p.name = source.name ∧ SpellsProgram source.content p

For each stage of the reader there is one lemma about the lines that it takes (`step_header_iff`,
`step_slots_iff`, ...) and one about the whole rest of a program from there on (`leads_body_iff`,
...), the latter by induction on the lines where the stage may take several.
-/

namespace Templating

open Text

/-! ## The grammar -/

/-- The name of the slot `index`. -/
def SpellsSlotName (text : List Char) (index : Nat) : Prop :=
  ∃ number, SpellsNumber UInt64.size number index ∧ text = 'D' :: number

/-- The line that declares the slot `index` under `key`. -/
def SpellsSlot (index : Nat) (line : List Char) (key : String) : Prop :=
  ∃ name literal, SpellsSlotName name index ∧ SpellsLiteral '"' literal key.toList ∧
    line = "slot ".toList ++ name ++ " <- ".toList ++ literal

/-- The lines that declare slots in order, the first of which has the number `first`. -/
inductive SpellsSlots : (first : Nat) → List (List Char) → List String → Prop where
  | nil {first : Nat} : SpellsSlots first [] []
  | cons {first : Nat} {line : List Char} {key : String} {lines : List (List Char)}
      {keys : List String} (hline : SpellsSlot first line key)
      (hlines : SpellsSlots (first + 1) lines keys) :
      SpellsSlots first (line :: lines) (key :: keys)

/-- One side of a bound. -/
inductive SpellsLimit : List Char → Option UInt64 → Prop where
  | unknown : SpellsLimit ['?'] none
  | known {number : List Char} {n : UInt64} (h : SpellsNumber UInt64.size number n.toNat) :
      SpellsLimit number (some n)

/-- The line that declares the bound. -/
def SpellsBound (line : List Char) (bound : LengthBound) : Prop :=
  ∃ least greatest, SpellsLimit least bound.min ∧ SpellsLimit greatest bound.max ∧
    line = "bound ".toList ++ least ++ ' ' :: greatest

/-- The line that says how the output of a program with `declared` slots begins. -/
inductive SpellsOpening (declared : Nat) : List Char → Opening → Prop where
  | capacity {number : List Char} {bytes : UInt64}
      (h : SpellsNumber UInt64.size number bytes.toNat) :
      SpellsOpening declared ("begin capacity ".toList ++ number) (.capacity bytes)
  | slot {name : List Char} {index : Nat} (h : SpellsSlotName name index)
      (hindex : index < declared) :
      SpellsOpening declared ("begin from ".toList ++ name) (.slot index)

/-- What an instruction of a program with `declared` slots appends. -/
inductive SpellsOperand (declared : Nat) : List Char → Instruction → Prop where
  | text {literal : List Char} {text : String} (h : SpellsLiteral '"' literal text.toList) :
      SpellsOperand declared literal (.text text)
  | char {literal : List Char} {c : Char} (h : SpellsLiteral '\'' literal [c]) :
      SpellsOperand declared literal (.char c)
  -- a character below the space, by its code
  | code {number : List Char} {c : Char} (h : SpellsNumber UInt32.size number c.toNat)
      (hc : c < ' ') : SpellsOperand declared ('#' :: number) (.char c)
  | slot {name : List Char} {index : Nat} (h : SpellsSlotName name index)
      (hindex : index < declared) : SpellsOperand declared name (.slot index)

/-- The line of an instruction. -/
def SpellsInstruction (declared : Nat) (line : List Char) (i : Instruction) : Prop :=
  ∃ operand, SpellsOperand declared operand i ∧ line = "push ".toList ++ operand

/-- **The lines of a program.** -/
inductive SpellsProgram : List (List Char) → Program → Prop where
  | intro {name : String} {keys : List String} {bound : LengthBound} {opening : Opening}
      {instructions : List Instruction} {slotLines instructionLines : List (List Char)}
      {boundLine openingLine : List Char} (hkeys : keys ≠ [])
      (hslots : SpellsSlots 0 slotLines keys) (hbound : SpellsBound boundLine bound)
      (hopening : SpellsOpening keys.length openingLine opening)
      (hinstructions :
        List.Forall₂ (SpellsInstruction keys.length) instructionLines instructions) :
      SpellsProgram
        (("unit ".toList ++ name.toList) :: slotLines
          ++ boundLine :: openingLine :: instructionLines ++ ["end".toList])
        ⟨name, keys, bound, opening, instructions⟩

/-- The lines of a source that do not only hold white space. -/
def Source.content (source : Source) : List (List Char) :=
  (lines source.body.toList).filter fun line => !line.all isBlank

/-! ## Parts of lines -/

theorem readSlotName_eq_ok_iff {text : List Char} {index : Nat} :
    readSlotName text = .ok index ↔ SpellsSlotName text index := by
  constructor
  · intro h
    unfold readSlotName at h
    split at h
    · next hread =>
        obtain rfl := Except.ok.inj h
        obtain ⟨number, hafter, hnumber⟩ := Option.bind_eq_some_iff.mp hread
        exact ⟨number, readDecimal?_eq_some_iff.mp hnumber, after?_eq_some_iff.mp hafter⟩
    · cases h
  · rintro ⟨number, hnumber, rfl⟩
    have hafter : after? ['D'] ('D' :: number) = some number := after?_append ['D'] number
    simp only [readSlotName, hafter, Option.bind_some, readDecimal?_eq_some_iff.mpr hnumber]

theorem readSlotRef_eq_ok_iff {declared index : Nat} {text : List Char} :
    readSlotRef declared text = .ok index ↔ SpellsSlotName text index ∧ index < declared := by
  constructor
  · intro h
    unfold readSlotRef at h
    split at h
    · cases h
    next hname =>
    split at h
    · next hlt =>
        obtain rfl := Except.ok.inj h
        exact ⟨readSlotName_eq_ok_iff.mp hname, hlt⟩
    · cases h
  · rintro ⟨hname, hlt⟩
    simp only [readSlotRef, readSlotName_eq_ok_iff.mpr hname, if_pos hlt]

/-- A slot name ends before the first space. -/
theorem SpellsSlotName.space_not_mem {text : List Char} {index : Nat}
    (h : SpellsSlotName text index) : ' ' ∉ text := by
  obtain ⟨number, hnumber, rfl⟩ := h
  rw [List.mem_cons, not_or]
  exact ⟨by decide, hnumber.not_mem (by decide) (by decide)⟩

/-- What follows the first word of a slot line. -/
theorem readSlot_eq_ok_iff {declared : Nat} {text : List Char} {key : String} :
    readSlot declared text = .ok key ↔
      ∃ name literal, SpellsSlotName name declared ∧ SpellsLiteral '"' literal key.toList ∧
        text = name ++ " <- ".toList ++ literal := by
  constructor
  · intro h
    unfold readSlot at h
    split at h
    · cases h
    next name rest hcut =>
    split at h
    · cases h
    next index hname =>
    split at h
    · cases h
    next hindex =>
    split at h
    · cases h
    next decoded tail hread =>
    split at h
    · next htail =>
        obtain rfl : index = declared := by simpa using hindex
        obtain rfl := Except.ok.inj h
        subst htail
        rw [readLiteral_eq_ok_nil_iff (by decide)] at hread
        rw [← String.toList_ofList (l := decoded)] at hread
        exact ⟨name, rest, readSlotName_eq_ok_iff.mp hname, hread, eq_of_cut?_eq_some hcut⟩
    · cases h
  · rintro ⟨name, literal, hname, hliteral, rfl⟩
    have hcut : cut? " <- ".toList (name ++ " <- ".toList ++ literal) = some (name, literal) :=
      cut?_append hname.space_not_mem ['<', '-', ' '] literal
    have hread := (readLiteral_eq_ok_nil_iff (by decide)).mpr hliteral
    simp only [readSlot, hcut, readSlotName_eq_ok_iff.mpr hname, ne_eq, not_true_eq_false,
      if_false, hread, if_true, String.ofList_toList]

theorem readLimit?_eq_some_iff {text : List Char} {side : Option UInt64} :
    readLimit? text = some side ↔ SpellsLimit text side := by
  constructor
  · intro h
    unfold readLimit? at h
    split at h
    · next htext =>
        rw [htext, ← Option.some.inj h]
        exact .unknown
    · obtain ⟨n, hread, rfl⟩ := Option.map_eq_some_iff.mp h
      have hnumber := readDecimal?_eq_some_iff.mp hread
      refine .known ?_
      rwa [UInt64.toNat_ofNat_of_lt' hnumber.lt]
  · intro h
    cases h with
    | unknown => rfl
    | @known _ n hnumber =>
        have hne : text ≠ ['?'] := by
          rintro rfl
          exact hnumber.not_mem (c := '?') (by decide) (by decide) (List.mem_singleton_self _)
        rw [readLimit?, if_neg hne, readDecimal?_eq_some_iff.mpr hnumber, Option.map_some,
          UInt64.ofNat_toNat]

theorem SpellsLimit.space_not_mem {text : List Char} {side : Option UInt64}
    (h : SpellsLimit text side) : ' ' ∉ text := by
  cases h with
  | unknown => decide
  | known hnumber => exact hnumber.not_mem (by decide) (by decide)

theorem readBound?_eq_some_iff {line : List Char} {bound : LengthBound} :
    readBound? line = some bound ↔ SpellsBound line bound := by
  constructor
  · intro h
    obtain ⟨limits, hafter, h⟩ := Option.bind_eq_some_iff.mp h
    obtain ⟨⟨least, greatest⟩, hcut, h⟩ := Option.bind_eq_some_iff.mp h
    obtain ⟨min, hmin, h⟩ := Option.bind_eq_some_iff.mp h
    obtain ⟨max, hmax, h⟩ := Option.bind_eq_some_iff.mp h
    obtain rfl := Option.some.inj h
    refine ⟨least, greatest, readLimit?_eq_some_iff.mp hmin, readLimit?_eq_some_iff.mp hmax, ?_⟩
    rw [after?_eq_some_iff.mp hafter, eq_of_cut?_eq_some hcut]
    simp only [List.append_assoc, List.singleton_append]
  · rintro ⟨least, greatest, hleast, hgreatest, rfl⟩
    have hafter : after? "bound ".toList ("bound ".toList ++ least ++ ' ' :: greatest)
        = some (least ++ ' ' :: greatest) := by
      rw [List.append_assoc]
      exact after?_append _ _
    have hcut : cut? [' '] (least ++ ' ' :: greatest) = some (least, greatest) := by
      have h := cut?_append hleast.space_not_mem [] greatest
      simpa using h
    simp only [readBound?, hafter, hcut, readLimit?_eq_some_iff.mpr hleast,
      readLimit?_eq_some_iff.mpr hgreatest, Option.bind_eq_bind, Option.bind_some]
    rfl

theorem readOpening_eq_ok_iff {declared : Nat} {line : List Char} {opening : Opening} :
    readOpening declared line = .ok opening ↔ SpellsOpening declared line opening := by
  constructor
  · intro h
    unfold readOpening at h
    split at h
    · next number hafter =>
        split at h
        · next n hread =>
            obtain rfl := Except.ok.inj h
            have hnumber := readDecimal?_eq_some_iff.mp hread
            rw [after?_eq_some_iff.mp hafter]
            refine .capacity ?_
            rwa [UInt64.toNat_ofNat_of_lt' hnumber.lt]
        · cases h
    · split at h
      · next name hafter =>
          obtain ⟨index, hread, rfl⟩ := map_eq_ok_iff.mp h
          obtain ⟨hname, hindex⟩ := readSlotRef_eq_ok_iff.mp hread
          rw [after?_eq_some_iff.mp hafter]
          exact .slot hname hindex
      · cases h
  · intro h
    cases h with
    | capacity hnumber =>
        simp only [readOpening, after?_append, readDecimal?_eq_some_iff.mpr hnumber,
          UInt64.ofNat_toNat]
    | @slot name index hname hindex =>
        have hnone : after? "begin capacity ".toList ("begin from ".toList ++ name) = none := rfl
        simp only [readOpening, hnone, after?_append, readSlotRef_eq_ok_iff.mpr ⟨hname, hindex⟩]
        rfl

theorem readControlCode?_eq_some_iff {number : List Char} {c : Char} :
    readControlCode? number = some c ↔ SpellsNumber UInt32.size number c.toNat ∧ c < ' ' := by
  constructor
  · intro h
    unfold readControlCode? at h
    split at h
    · next code hread =>
        split at h
        · next hlt =>
            obtain rfl := Option.some.inj h
            have hcode : (Char.ofNat code).toNat = code := by
              have hvalid : code.isValidChar := Or.inl (by omega)
              have hscalar : scalar? code = some (Char.ofNat code) := by
                rw [scalar?, if_pos hvalid]
              exact (scalar?_eq_some_iff.mp hscalar).symm
            refine ⟨by rw [hcode]; exact readDecimal?_eq_some_iff.mp hread, ?_⟩
            show (Char.ofNat code).toNat < 0x20
            rw [hcode]
            exact hlt
        · cases h
    · cases h
  · rintro ⟨hnumber, hc⟩
    have hcode : c.toNat < 0x20 := hc
    simp only [readControlCode?, readDecimal?_eq_some_iff.mpr hnumber, if_pos hcode,
      Char.ofNat_toNat]

/-- **Operands are read from exactly their spellings.** The first character tells them apart. -/
theorem readOperand_eq_ok_iff {declared : Nat} {operand : List Char} {i : Instruction} :
    readOperand declared operand = .ok i ↔ SpellsOperand declared operand i := by
  constructor
  · intro h
    unfold readOperand at h
    split at h
    · next rest =>
        split at h
        · cases h
        next text tail hread =>
        split at h
        · next htail =>
            obtain rfl := Except.ok.inj h
            subst htail
            rw [readLiteral_eq_ok_nil_iff (by decide)] at hread
            exact .text (by rwa [String.toList_ofList])
        · cases h
    · split at h
      · cases h
      · next c hread =>
          obtain rfl := Except.ok.inj h
          exact .char ((readLiteral_eq_ok_nil_iff (by decide)).mp hread)
      · cases h
    · split at h
      · next c hread =>
          obtain rfl := Except.ok.inj h
          obtain ⟨hnumber, hc⟩ := readControlCode?_eq_some_iff.mp hread
          exact .code hnumber hc
      · cases h
    · obtain ⟨index, hread, rfl⟩ := map_eq_ok_iff.mp h
      obtain ⟨hname, hindex⟩ := readSlotRef_eq_ok_iff.mp hread
      exact .slot hname hindex
  · intro h
    cases h with
    | @text _ text hliteral =>
        have hread := (readLiteral_eq_ok_nil_iff (by decide)).mpr hliteral
        obtain ⟨inner, -, rfl⟩ := hliteral
        rw [List.cons_append] at hread ⊢
        simp only [readOperand, hread, if_true, String.ofList_toList]
    | @char _ c hliteral =>
        have hread := (readLiteral_eq_ok_nil_iff (by decide)).mpr hliteral
        obtain ⟨inner, -, rfl⟩ := hliteral
        rw [List.cons_append] at hread ⊢
        simp only [readOperand, hread]
    | code hnumber hc =>
        simp only [readOperand, readControlCode?_eq_some_iff.mpr ⟨hnumber, hc⟩]
    | slot hname hindex =>
        have hread := readSlotRef_eq_ok_iff.mpr ⟨hname, hindex⟩
        obtain ⟨number, -, rfl⟩ := hname
        simp only [readOperand, hread]
        rfl

/-! ## One line -/

namespace Stage

variable {name : String} {line : List Char} {next : Stage}

theorem step_header_iff :
    step name header line = .ok next ↔ line = "unit ".toList ++ name.toList ∧ next = slots [] := by
  constructor
  · intro h
    simp only [step] at h
    split at h
    · next found hafter =>
        split at h
        · next hfound =>
            rw [after?_eq_some_iff.mp hafter, hfound]
            exact ⟨rfl, (Except.ok.inj h).symm⟩
        · cases h
    · cases h
  · rintro ⟨rfl, rfl⟩
    simp only [step, after?_append, if_true]

/-- Among slot lines a line either declares the next slot or, after the last slot, the bound. -/
theorem step_slots_iff {keys : List String} :
    step name (slots keys) line = .ok next ↔
      (∃ key, SpellsSlot keys.length line key ∧ next = slots (keys ++ [key])) ∨
        (keys ≠ [] ∧ ∃ bound, SpellsBound line bound ∧ next = opening keys bound) := by
  constructor
  · intro h
    simp only [step] at h
    split at h
    · next rest hafter =>
        obtain ⟨key, hread, rfl⟩ := map_eq_ok_iff.mp h
        obtain ⟨name, literal, hname, hliteral, hrest⟩ := readSlot_eq_ok_iff.mp hread
        refine Or.inl ⟨key, ⟨name, literal, hname, hliteral, ?_⟩, rfl⟩
        rw [after?_eq_some_iff.mp hafter, hrest]
        simp only [List.append_assoc]
    · split at h
      · cases h
      next hkeys =>
      split at h
      · next bound hread =>
          exact Or.inr ⟨hkeys, bound, readBound?_eq_some_iff.mp hread, (Except.ok.inj h).symm⟩
      · cases h
  · rintro (⟨key, ⟨name, literal, hname, hliteral, rfl⟩, rfl⟩ | ⟨hkeys, bound, hbound, rfl⟩)
    · have hafter : after? "slot ".toList ("slot ".toList ++ name ++ " <- ".toList ++ literal)
          = some (name ++ " <- ".toList ++ literal) := by
        simp only [List.append_assoc]
        exact after?_append _ _
      have hread := readSlot_eq_ok_iff.mpr ⟨name, literal, hname, hliteral, rfl⟩
      simp only [step, hafter, hread]
      rfl
    · have hnone : after? "slot ".toList line = none := by
        obtain ⟨least, greatest, -, -, rfl⟩ := hbound
        rfl
      simp only [step, hnone, if_neg hkeys, readBound?_eq_some_iff.mpr hbound]

theorem step_opening_iff {keys : List String} {bound : LengthBound} :
    step name (opening keys bound) line = .ok next ↔
      ∃ first, SpellsOpening keys.length line first ∧
        next = body ⟨name, keys, bound, first, []⟩ := by
  constructor
  · intro h
    simp only [step] at h
    obtain ⟨first, hread, rfl⟩ := map_eq_ok_iff.mp h
    exact ⟨first, readOpening_eq_ok_iff.mp hread, rfl⟩
  · rintro ⟨first, hfirst, rfl⟩
    simp only [step, readOpening_eq_ok_iff.mpr hfirst]
    rfl

/-- Among instructions a line is one or ends the program. -/
theorem step_body_iff {p : Program} :
    step name (body p) line = .ok next ↔
      (line = "end".toList ∧ next = closed p) ∨
        ∃ i, SpellsInstruction p.slots.length line i ∧
          next = body { p with instructions := p.instructions ++ [i] } := by
  constructor
  · intro h
    simp only [step] at h
    split at h
    · next hline => exact Or.inl ⟨hline, (Except.ok.inj h).symm⟩
    · split at h
      · next operand hafter =>
          obtain ⟨i, hread, rfl⟩ := map_eq_ok_iff.mp h
          exact Or.inr ⟨i, ⟨operand, readOperand_eq_ok_iff.mp hread,
            after?_eq_some_iff.mp hafter⟩, rfl⟩
      · cases h
  · rintro (⟨rfl, rfl⟩ | ⟨i, ⟨operand, hoperand, rfl⟩, rfl⟩)
    · simp only [step, if_true]
    · have hend : "push ".toList ++ operand ≠ "end".toList := by simp
      simp only [step, if_neg hend, after?_append, readOperand_eq_ok_iff.mpr hoperand]
      rfl

/-! ## The rest of a program -/

/-- Reading these lines, none of which is blank, leads from one stage to another. -/
def Leads (name : String) (stage : Stage) (ls : List (List Char)) (final : Stage) : Prop :=
  ls.foldlM (step name) stage = .ok final

variable {stage final : Stage} {rest : List (List Char)} {p q : Program}

theorem leads_nil : Leads name stage [] final ↔ stage = final :=
  ⟨Except.ok.inj, congrArg Except.ok⟩

theorem leads_cons : Leads name stage (line :: rest) final ↔
    ∃ next, step name stage line = .ok next ∧ Leads name next rest final := by
  unfold Leads
  rw [List.foldlM_cons]
  cases step name stage line with
  | error e =>
      constructor
      · intro h
        cases h
      · rintro ⟨next, h, -⟩
        cases h
  | ok next =>
      constructor
      · intro h
        exact ⟨next, rfl, h⟩
      · rintro ⟨_, hnext, h⟩
        rwa [Except.ok.inj hnext]

/-- Blank lines do not count. -/
theorem run_eq_ok_iff {n : Nat} {ls : List (List Char)} :
    run name n stage ls = .ok final ↔
      Leads name stage (ls.filter fun line => !line.all isBlank) final := by
  induction ls generalizing n stage with
  | nil =>
      constructor
      · intro h
        exact leads_nil.mpr (Except.ok.inj h)
      · intro h
        exact congrArg Except.ok (leads_nil.mp h)
  | cons line ls ih =>
      by_cases hblank : line.all isBlank = true
      · rw [List.filter_cons_of_neg (by simp [hblank]), run, if_pos hblank]
        exact ih
      · rw [List.filter_cons_of_pos (by simp [hblank]), leads_cons, run, if_neg hblank]
        cases step name stage line with
        | error e =>
            constructor
            · intro h
              cases h
            · rintro ⟨next, h, -⟩
              cases h
        | ok next =>
            constructor
            · intro h
              exact ⟨next, rfl, ih.mp h⟩
            · rintro ⟨_, hnext, h⟩
              rw [← Except.ok.inj hnext] at h
              exact ih.mpr h

theorem leads_closed_iff {ls : List (List Char)} :
    Leads name (closed q) ls (closed p) ↔ ls = [] ∧ q = p := by
  cases ls with
  | nil => rw [leads_nil, closed.injEq, eq_self_iff_true, true_and]
  | cons line ls =>
      rw [leads_cons]
      constructor
      · rintro ⟨next, h, -⟩
        cases h
      · rintro ⟨h, -⟩
        cases h

/-- What follows the opening. -/
theorem leads_body_iff {ls : List (List Char)} :
    Leads name (body q) ls (closed p) ↔
      ∃ instructionLines instructions,
        List.Forall₂ (SpellsInstruction q.slots.length) instructionLines instructions ∧
        ls = instructionLines ++ ["end".toList] ∧
        p = { q with instructions := q.instructions ++ instructions } := by
  induction ls generalizing q with
  | nil =>
      rw [leads_nil]
      constructor
      · intro h
        cases h
      · rintro ⟨instructionLines, instructions, -, h, -⟩
        simp at h
  | cons line ls ih =>
      rw [leads_cons]
      constructor
      · rintro ⟨next, hstep, hrest⟩
        rcases step_body_iff.mp hstep with ⟨rfl, rfl⟩ | ⟨i, hi, rfl⟩
        · obtain ⟨rfl, rfl⟩ := leads_closed_iff.mp hrest
          exact ⟨[], [], .nil, rfl, by rw [List.append_nil]⟩
        · obtain ⟨more, is, his, rfl, rfl⟩ := ih.mp hrest
          exact ⟨line :: more, i :: is, .cons hi his, rfl, by simp⟩
      · rintro ⟨instructionLines, instructions, hspells, hls, rfl⟩
        cases hspells with
        | nil =>
            obtain ⟨rfl, rfl⟩ := List.cons.inj hls
            refine ⟨closed q, step_body_iff.mpr (Or.inl ⟨rfl, rfl⟩), ?_⟩
            exact leads_closed_iff.mpr ⟨rfl, by rw [List.append_nil]⟩
        | @cons _ i more is hi his =>
            obtain ⟨rfl, rfl⟩ := List.cons.inj hls
            refine ⟨_, step_body_iff.mpr (Or.inr ⟨i, hi, rfl⟩), ih.mpr ?_⟩
            exact ⟨more, is, his, rfl, by simp⟩

/-- What follows the bound. -/
theorem leads_opening_iff {ls : List (List Char)} {keys : List String} {bound : LengthBound} :
    Leads name (opening keys bound) ls (closed p) ↔
      ∃ openingLine first instructionLines instructions,
        SpellsOpening keys.length openingLine first ∧
        List.Forall₂ (SpellsInstruction keys.length) instructionLines instructions ∧
        ls = openingLine :: instructionLines ++ ["end".toList] ∧
        p = ⟨name, keys, bound, first, instructions⟩ := by
  cases ls with
  | nil =>
      rw [leads_nil]
      constructor
      · intro h
        cases h
      · rintro ⟨_, _, _, _, -, -, h, -⟩
        cases h
  | cons line ls =>
      rw [leads_cons]
      constructor
      · rintro ⟨next, hstep, hrest⟩
        obtain ⟨first, hfirst, rfl⟩ := step_opening_iff.mp hstep
        obtain ⟨more, is, his, rfl, rfl⟩ := leads_body_iff.mp hrest
        exact ⟨line, first, more, is, hfirst, his, rfl, rfl⟩
      · rintro ⟨openingLine, first, more, is, hfirst, his, hls, rfl⟩
        obtain ⟨rfl, rfl⟩ := List.cons.inj hls
        refine ⟨_, step_opening_iff.mpr ⟨first, hfirst, rfl⟩, ?_⟩
        exact leads_body_iff.mpr ⟨more, is, his, rfl, rfl⟩

/-- What follows the slots that are read already. -/
theorem leads_slots_iff {ls : List (List Char)} {keys : List String} :
    Leads name (slots keys) ls (closed p) ↔
      ∃ slotLines more boundLine bound rest,
        SpellsSlots keys.length slotLines more ∧ keys ++ more ≠ [] ∧
        SpellsBound boundLine bound ∧
        Leads name (opening (keys ++ more) bound) rest (closed p) ∧
        ls = slotLines ++ boundLine :: rest := by
  induction ls generalizing keys with
  | nil =>
      rw [leads_nil]
      constructor
      · intro h
        cases h
      · rintro ⟨slotLines, _, _, _, _, -, -, -, -, h⟩
        simp at h
  | cons line ls ih =>
      rw [leads_cons]
      constructor
      · rintro ⟨next, hstep, hrest⟩
        rcases step_slots_iff.mp hstep with ⟨key, hkey, rfl⟩ | ⟨hkeys, bound, hbound, rfl⟩
        · obtain ⟨slotLines, more, boundLine, bound, rest, hslots, hne, hbound, hopening, rfl⟩ :=
            ih.mp hrest
          rw [List.length_append, List.length_singleton] at hslots
          rw [List.append_assoc, List.singleton_append] at hne hopening
          exact ⟨line :: slotLines, key :: more, boundLine, bound, rest, .cons hkey hslots, hne,
            hbound, hopening, rfl⟩
        · refine ⟨[], [], line, bound, ls, .nil, ?_, hbound, ?_, rfl⟩
          · rwa [List.append_nil]
          · rwa [List.append_nil]
      · rintro ⟨slotLines, more, boundLine, bound, rest, hslots, hne, hbound, hrest, hls⟩
        cases hslots with
        | nil =>
            obtain ⟨rfl, rfl⟩ := List.cons.inj hls
            rw [List.append_nil] at hne hrest
            exact ⟨_, step_slots_iff.mpr (Or.inr ⟨hne, bound, hbound, rfl⟩), hrest⟩
        | @cons _ _ key slotLines more hkey hslots =>
            obtain ⟨rfl, rfl⟩ := List.cons.inj hls
            refine ⟨_, step_slots_iff.mpr (Or.inl ⟨key, hkey, rfl⟩), ih.mpr ?_⟩
            refine ⟨slotLines, more, boundLine, bound, rest, ?_, ?_, hbound, ?_, rfl⟩
            · rwa [List.length_append, List.length_singleton]
            · rwa [List.append_assoc, List.singleton_append]
            · rwa [List.append_assoc, List.singleton_append]

/-- **From the header to the end, the reader takes the lines of programs and no others.** -/
theorem leads_header_iff {ls : List (List Char)} :
    Leads name header ls (closed p) ↔ p.name = name ∧ SpellsProgram ls p := by
  constructor
  · intro h
    cases ls with
    | nil => cases leads_nil.mp h
    | cons line ls =>
        obtain ⟨next, hstep, hrest⟩ := leads_cons.mp h
        obtain ⟨rfl, rfl⟩ := step_header_iff.mp hstep
        obtain ⟨slotLines, keys, boundLine, bound, _, hslots, hkeys, hbound, hopening, rfl⟩ :=
          leads_slots_iff.mp hrest
        obtain ⟨openingLine, first, instructionLines, is, hfirst, his, rfl, rfl⟩ :=
          leads_opening_iff.mp hopening
        have hprogram : SpellsProgram _ ⟨name, keys, bound, first, is⟩ :=
          .intro hkeys hslots hbound hfirst his
        refine ⟨rfl, ?_⟩
        simpa only [List.nil_append, List.cons_append, List.append_assoc] using hprogram
  · rintro ⟨rfl, h⟩
    cases h with
    | @intro name keys bound first is slotLines instructionLines boundLine openingLine hkeys hslots
        hbound hfirst his =>
        have hopening : Leads name (opening keys bound)
            (openingLine :: instructionLines ++ ["end".toList])
            (closed ⟨name, keys, bound, first, is⟩) :=
          leads_opening_iff.mpr ⟨openingLine, first, instructionLines, is, hfirst, his, rfl, rfl⟩
        refine leads_cons.mpr ⟨_, step_header_iff.mpr ⟨rfl, rfl⟩, leads_slots_iff.mpr ?_⟩
        exact ⟨slotLines, keys, boundLine, bound, _, hslots, hkeys, hbound, hopening, by simp⟩

theorem finish_eq_ok_iff {last : Nat} : stage.finish last = .ok p ↔ stage = closed p := by
  constructor
  · intro h
    unfold finish at h
    split at h <;> cases h
    rfl
  · rintro rfl
    rfl

end Stage

/-! ## Whole programs -/

/-- A program that is read has the name of its source. -/
theorem Source.name_of_read {source : Source} {p : Program} (h : source.read = .ok p) :
    p.name = source.name := by
  simp only [Source.read] at h
  split at h
  · cases h
  · next stage hrun =>
      obtain rfl := Stage.finish_eq_ok_iff.mp h
      exact (Stage.leads_header_iff.mp (Stage.run_eq_ok_iff.mp hrun)).1

/-- **A source is read exactly if its lines are those of a program** with its name, and then it is
read as that program. -/
theorem Source.read_eq_ok_iff (source : Source) (p : Program) :
    source.read = .ok p ↔ p.name = source.name ∧ SpellsProgram source.content p := by
  rw [← Stage.leads_header_iff, Source.content, ← Stage.run_eq_ok_iff (n := 1)]
  simp only [Source.read]
  cases Stage.run source.name 1 .header (lines source.body.toList) with
  | error e =>
      constructor
      · intro h
        cases h
      · intro h
        cases h
  | ok stage =>
      rw [Except.ok.injEq]
      exact Stage.finish_eq_ok_iff

end Templating
