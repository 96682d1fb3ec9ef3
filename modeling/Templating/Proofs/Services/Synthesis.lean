import Templating.Proofs.Services.Handover
import Templating.Proofs.Services.UnitNames
import Templating.Proofs.Template.Compilation

set_option autoImplicit false

/-! # From templates to programs

What services write for a template, and that it is read back. `Services.unitProgram` is the
program that is written; it is read as one instruction for every piece, over slots under whose
keys the models of the template wait (`read_synthesize`). Of the services nothing is assumed but
that their settings were accepted: any number of names and keys may have been issued, anything
may be waiting, any units may be defined.
-/

namespace Templating

variable {τ : Type}

/-- A template that greets the target in a line of its own. -/
def greeting : Template String :=
  .ofPieces [.text "Hello ", .model (.ofFunction 0 .ok .unknown), .text "\n"]

/-! ## Accepted settings -/

theorem Settings.validate_eq_ok_iff (settings : Settings) :
    settings.validate = .ok settings ↔
      settings.namePrefix ≠ "" ∧ Text.NoControl settings.namePrefix.toList ∧
        settings.pageSize ≠ 0 ∧ settings.purgeThreshold ≠ 0 := by
  have hany : settings.namePrefix.toList.any Text.isControl = true ↔
      ¬ Text.NoControl settings.namePrefix.toList := by
    simp [Text.NoControl]
  unfold Settings.validate
  split_ifs <;> simp_all

namespace Services

/-- The services were made with accepted settings. -/
structure Configured (s : Services τ) : Prop where
  accepted : s.settings.validate = .ok s.settings
  -- names have the prefix of the settings
  namePrefix : s.names.namePrefix = s.settings.namePrefix
  -- pages have the size of the settings
  pageSize : s.names.pageSize = s.settings.pageSize

theorem configured_new {settings : Settings} (h : settings.validate = .ok settings) (id : Nat) :
    (new id settings : Services τ).Configured := by
  refine ⟨h, rfl, ?_⟩
  have hpage : settings.pageSize ≠ 0 := (settings.validate_eq_ok_iff.mp h).2.2.1
  show (if settings.pageSize ≤ 1 then 1 else settings.pageSize) = settings.pageSize
  by_cases hle : settings.pageSize ≤ 1
  · have hzero : settings.pageSize.toNat ≠ 0 := fun hzero => hpage (UInt64.toNat_inj.mp hzero)
    have hone : settings.pageSize.toNat ≤ 1 := UInt64.le_iff_toNat_le.mp hle
    rw [if_pos hle]
    refine UInt64.toNat_inj.mp ?_
    show 1 = settings.pageSize.toNat
    omega
  · rw [if_neg hle]

/-- The names that configured services issue fit a line. -/
theorem Configured.noControl_current {s : Services τ} (h : s.Configured) :
    Text.NoControl s.names.current.toList := by
  have haccepted := s.settings.validate_eq_ok_iff.mp h.accepted
  refine UnitNames.noControl_current ?_
  rw [h.namePrefix]
  exact haccepted.2.1

/-! ## What is written -/

/-- The program that the services write for a template: its name is the one they issue next, and
its slots have the keys they issue next. -/
def unitProgram (t : Template τ) (s : Services τ) : Program :=
  t.program s.names.current (s.handover.nextKeys t.models.length) s.settings.capacity

/-- The services once they have written a program for a template. -/
def synthesized (t : Template τ) (s : Services τ) : Services τ :=
  { s with
    names := { s.names with issued := s.names.issued + 1 }
    handover := (s.handover.depositAll (t.models.map .model)).2 }

theorem synthesize_eq (t : Template τ) (s : Services τ) :
    s.synthesize t
      = (((s.unitProgram t).source, s.handover.nextKeys t.models.length), s.synthesized t) := by
  have hkeys : (s.handover.depositAll (t.models.map .model)).1
      = s.handover.nextKeys t.models.length := by
    rw [Handover.depositAll_fst, List.length_map]
  unfold synthesize unitProgram
  rw [← hkeys]
  rfl

theorem length_slots_unitProgram (t : Template τ) (s : Services τ) :
    (s.unitProgram t).slots.length = t.models.length := by
  rw [unitProgram, Template.slots_program, Handover.length_nextKeys]

variable {t : Template τ} {s : Services τ}

theorem wellFormed_unitProgram (hs : s.Configured) (ht : t.Normal)
    (hlen : 2 ≤ t.pieces.length) : (s.unitProgram t).WellFormed :=
  Template.wellFormed_program ht hlen hs.noControl_current (Handover.length_nextKeys _ _)

/-- The models of the template wait under the keys of the slots. -/
theorem forall₂_synthesized (hsize : t.models.length ≤ UInt64.size) :
    List.Forall₂ (fun key m => (s.synthesized t).handover.pending[key]? = some (.model m))
      (s.handover.nextKeys t.models.length) t.models := by
  have hlength : (t.models.map Value.model).length = t.models.length := List.length_map _
  have hpending := Handover.forall₂_depositAll (t.models.map .model) s.handover
    (by rw [hlength]; exact hsize)
  rw [hlength, List.forall₂_map_right_iff] at hpending
  exact hpending

/-- Writing a program leaves alone what waits under other keys. -/
theorem getElem?_synthesized_of_not_mem {key : String}
    (hkey : key ∉ s.handover.nextKeys t.models.length) :
    (s.synthesized t).handover.pending[key]? = s.handover.pending[key]? := by
  refine Handover.getElem?_depositAll_of_not_mem ?_
  rwa [List.length_map]

/-! ## Assembling with any loader -/

/-- A template that needs a unit is written and loaded. If that fails, its models are taken back. -/
theorem assemble_of_unit {self : Instance} (hunit : t.shortcut? self = none) (loader : Loader)
    (alive : Instance → Bool) (s : Services τ) :
    s.assemble loader alive self t =
      match (s.synthesized t).loadWith loader alive self (s.unitProgram t).source with
      | (.ok m, loaded) => (⟨.ok m, some (s.unitProgram t).source⟩, loaded)
      | (.error fault, loaded) => (⟨.error fault, some (s.unitProgram t).source⟩,
          { loaded with
            handover := loaded.handover.discardAll (s.handover.nextKeys t.models.length) }) := by
  cases hload : (s.synthesized t).loadWith loader alive self (s.unitProgram t).source with
  | mk result loaded =>
      cases result with
      | error fault => simp only [assemble, hunit, synthesize_eq, hload]
      | ok m => simp only [assemble, hunit, synthesize_eq, hload]

/-- Whatever loading gives is given on. -/
theorem result_assemble_of_unit {self : Instance} (hunit : t.shortcut? self = none)
    (loader : Loader) (alive : Instance → Bool) (s : Services τ) :
    (s.assemble loader alive self t).1.result
      = ((s.synthesized t).loadWith loader alive self (s.unitProgram t).source).1 := by
  rw [assemble_of_unit hunit]
  cases (s.synthesized t).loadWith loader alive self (s.unitProgram t).source with
  | mk result loaded =>
      cases result with
      | error fault => rfl
      | ok m => rfl

/-! ## What is read -/

/-- A program that appends the models of its slots in order is in normal form. -/
theorem normal_unitProgram_of_models (ht : t.Normal) (hmodels : ∀ p ∈ t.pieces, p.text? = none) :
    (s.unitProgram t).normal = {
      name := s.names.current
      slots := s.handover.nextKeys t.models.length
      bound := t.bound
      opening := .slot 0
      instructions := (List.range' 1 (t.models.length - 1)).map .slot } := by
  have hzero := ht.textLength_eq_zero_iff.mpr hmodels
  have hnormal : ∀ indices : List Nat,
      (indices.map Instruction.slot).filterMap Instruction.normal? = indices.map .slot := by
    intro indices
    rw [List.filterMap_map]
    exact List.filterMap_eq_map_iff_forall_eq_some.mpr fun _ _ => rfl
  rw [unitProgram, Template.program, if_pos hzero]
  simp only [Program.normal, hnormal, Handover.length_nextKeys]

/-- With a text among the pieces, the normal form has one instruction for every piece. -/
theorem normal_unitProgram_of_text (ht : t.Normal) (htext : ¬ ∀ p ∈ t.pieces, p.text? = none) :
    (s.unitProgram t).normal = {
      name := s.names.current
      slots := s.handover.nextKeys t.models.length
      bound := t.bound
      opening := .capacity (t.bound.min.getD (max s.settings.capacity (nearestWord t.textLength)))
      instructions := t.pieces.mapIdx fun i p =>
        p.instruction ((t.pieces.take i).filterMap Piece.model?).length } := by
  have hlength : t.textLength ≠ 0 := fun hzero => htext (ht.textLength_eq_zero_iff.mp hzero)
  have hnormal := Template.filterMap_normal?_instructions 0 t.pieces
    fun s hs => ht.pieces.text_ne s hs
  simp only [Nat.zero_add] at hnormal
  rw [unitProgram, Template.program, if_neg hlength]
  simp only [Program.normal, hnormal]

/-- What services write for a template is read back as this program: it has the name that is
issued, a slot for every model, the bound of the template, and the instructions for its pieces. -/
structure ReadBack (t : Template τ) (s : Services τ) (p : Program) : Prop where
  read : (s.synthesize t).1.1.read = .ok p
  name : p.name = s.names.next.1
  -- the keys are those that were issued, and the models wait under them, in order
  keys : p.slots = (s.synthesize t).1.2
  slots : List.Forall₂
    (fun key m => (s.synthesize t).2.handover.pending[key]? = some (.model m)) p.slots t.models
  bound : p.bound = t.bound
  -- without a text, the output begins with the first model and the others follow
  of_models : (∀ piece ∈ t.pieces, piece.text? = none) →
    p.opening = .slot 0 ∧ p.instructions = (List.range' 1 (t.models.length - 1)).map .slot
  -- otherwise room is made for the least length or, if that is unknown, for the texts and at
  -- least as much as the settings say, and there is one instruction for every piece
  of_text : (¬ ∀ piece ∈ t.pieces, piece.text? = none) →
    p.opening = .capacity
      (t.bound.min.getD (max s.settings.capacity (nearestWord t.textLength))) ∧
    p.instructions = t.pieces.mapIdx fun i piece =>
      piece.instruction ((t.pieces.take i).filterMap Piece.model?).length

/-- **What configured services write for a template is read back.** -/
theorem read_synthesize (hs : s.Configured) (pushed : List (Piece τ))
    (ht : t = Template.ofPieces pushed) (self : Instance) (hunit : t.shortcut? self = none)
    (hcount : t.modelCount < UInt64.size) : ∃ p, ReadBack t s p := by
  have hnormal : t.Normal := ht ▸ Template.normal_ofPieces pushed
  have hlen : 2 ≤ t.pieces.length := Template.shortcut?_eq_none_iff.mp hunit
  have hsize : t.models.length ≤ UInt64.size := by
    rw [hnormal.modelCount_eq] at hcount
    omega
  have hread := Program.read_source (wellFormed_unitProgram hs hnormal hlen)
    (by rw [length_slots_unitProgram]; exact hsize)
  have hslots : (s.unitProgram t).normal.slots = s.handover.nextKeys t.models.length :=
    Template.slots_program
  refine ⟨(s.unitProgram t).normal, ?_, Template.name_program, ?_, ?_, Template.bound_program,
    fun hmodels => ?_, fun htext => ?_⟩
  · rw [synthesize_eq]
    exact hread
  · rw [synthesize_eq, hslots]
  · rw [synthesize_eq, hslots]
    exact forall₂_synthesized hsize
  · rw [normal_unitProgram_of_models hnormal hmodels]
    exact ⟨rfl, rfl⟩
  · rw [normal_unitProgram_of_text hnormal htext]
    exact ⟨rfl, rfl⟩

/-- The prefix of the names looks like a part of a program. -/
theorem read_synthesize_greeting :
    ∃ p, ReadBack greeting (new 7 { Settings.default with namePrefix := "unit \" $1" }) p :=
  read_synthesize (configured_new rfl 7) _ rfl 0 rfl (by decide)

end Services

end Templating
