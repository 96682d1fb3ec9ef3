import Templating.Proofs.Program.Linking
import Templating.Services.Compilation

set_option autoImplicit false

/-! # The program of a template

What `Template.program` makes of a template in normal form with at least two pieces. It is
well formed, so it is read back; in normal form it has one instruction for every piece, a slot
for each model in order; and with the template's models in its slots it gives the template's
output, once it has made the room that it opens with.
-/

namespace Templating

variable {τ : Type}

/-! ## One instruction for every piece -/

/-- The instruction that stands for a piece, if it is a model in the slot `slot`. A text of one
character is appended as that character. -/
def Piece.instruction (slot : Nat) : Piece τ → Instruction
  | .text s =>
    match s.toList with
    | [c] => .char c
    | _ => .text s
  | .model _ => .slot slot

/-- The room that a program makes before it begins. -/
def Opening.room : Opening → Nat
  | .capacity bytes => bytes.toNat
  | .slot _ => 0

namespace Template

/-- The instructions for the pieces, in normal form: each model has the slot whose number is
that of the models before it. -/
theorem filterMap_normal?_instructions (first : Nat) (ps : List (Piece τ))
    (htext : ∀ s, Piece.text s ∈ ps → s ≠ "") :
    (instructions first ps).filterMap Instruction.normal?
      = ps.mapIdx fun i p =>
        p.instruction (first + ((ps.take i).filterMap Piece.model?).length) := by
  induction ps generalizing first with
  | nil => rfl
  | cons p ps ih =>
      have htail : ∀ s, Piece.text s ∈ ps → s ≠ "" := fun s hs =>
        htext s (List.mem_cons_of_mem p hs)
      cases p with
      | model m =>
          have hnormal : (Instruction.slot first).normal? = some (.slot first) := rfl
          rw [instructions, List.filterMap_cons_some hnormal, ih (first + 1) htail,
            List.mapIdx_cons]
          simp [Piece.instruction, Nat.add_assoc, Nat.add_comm 1]
      | text s =>
          have hs : s.toList ≠ [] := fun hnil =>
            htext s List.mem_cons_self (String.toList_eq_nil_iff.mp hnil)
          have hnormal : (Instruction.text s).normal?
              = some ((Piece.text s : Piece τ).instruction first) := by
            rcases hcs : s.toList with _ | ⟨c, _ | ⟨d, cs⟩⟩
            · exact absurd hcs hs
            · simp only [Instruction.normal?, Piece.instruction, hcs]
            · simp only [Instruction.normal?, Piece.instruction, hcs]
          rw [instructions, List.filterMap_cons_some hnormal, ih first htail, List.mapIdx_cons]
          simp [Piece.instruction]

theorem instructions_inRange (first : Nat) (ps : List (Piece τ)) :
    ∀ i ∈ instructions first ps,
      i.InRange (first + (ps.filterMap Piece.model?).length) := by
  induction ps generalizing first with
  | nil => simp [instructions]
  | cons p ps ih =>
      intro i hi
      cases p with
      | text s =>
          rcases List.mem_cons.mp hi with rfl | hi
          · trivial
          · exact ih first i hi
      | model m =>
          rw [filterMap_model?_model, List.length_cons]
          rcases List.mem_cons.mp hi with rfl | hi
          · show first < first + (_ + 1)
            omega
          · have h := ih (first + 1) i hi
            rwa [Nat.add_right_comm, Nat.add_assoc] at h

/-- The instructions append what the pieces evaluate to, if the slots from `first` on hold the
models among them. -/
theorem map_eval_instructions (models : List (Model τ)) (target : τ) (first : Nat)
    (ps : List (Piece τ)) (h : models.drop first = ps.filterMap Piece.model?) :
    (instructions first ps).map (·.eval models target) = ps.map (·.eval target) := by
  induction ps generalizing first with
  | nil => rfl
  | cons p ps ih =>
      cases p with
      | text s =>
          rw [instructions, List.map_cons, List.map_cons, ih first h]
          rfl
      | model m =>
          rw [filterMap_model?_model] at h
          have hfirst : models[first]? = some m := by
            rw [← List.head?_drop, h, List.head?_cons]
          have hrest : models.drop (first + 1) = ps.filterMap Piece.model? := by
            rw [← List.tail_drop, h, List.tail_cons]
          rw [instructions, List.map_cons, List.map_cons, ih (first + 1) hrest]
          show (slotModel models first).text target :: _ = m.text target :: _
          rw [slotModel, hfirst, Option.getD_some]

/-- Pieces that are all models have all slots in order. -/
theorem instructions_models (first : Nat) (ps : List (Piece τ))
    (h : ∀ p ∈ ps, p.text? = none) :
    instructions first ps = (List.range' first (ps.filterMap Piece.model?).length).map .slot := by
  induction ps generalizing first with
  | nil => rfl
  | cons p ps ih =>
      cases p with
      | text s => exact absurd (h (.text s) List.mem_cons_self) (by simp)
      | model m =>
          rw [instructions, ih (first + 1) fun q hq => h q (List.mem_cons_of_mem _ hq),
            filterMap_model?_model, List.length_cons, List.range'_succ,
            List.map_cons]

/-! ## The program -/

variable {t : Template τ} {name : String} {keys : List String} {capacity : UInt64}

theorem slots_program : (t.program name keys capacity).slots = keys := by
  unfold program
  split <;> rfl

theorem name_program : (t.program name keys capacity).name = name := by
  unfold program
  split <;> rfl

theorem bound_program : (t.program name keys capacity).bound = t.bound := by
  unfold program
  split <;> rfl

/-- The program of a template in normal form is well formed. -/
theorem wellFormed_program (h : t.Normal) (hlen : 2 ≤ t.pieces.length)
    (hname : Text.NoControl name.toList) (hkeys : keys.length = t.models.length) :
    (t.program name keys capacity).WellFormed where
  name := by rwa [name_program]
  slots_ne_nil := by
    rw [slots_program, ← List.length_pos_iff, hkeys, List.length_pos_iff]
    exact h.models_ne_nil hlen
  opening := by
    have hpos : 0 < keys.length := by
      rw [hkeys, List.length_pos_iff]
      exact h.models_ne_nil hlen
    rw [slots_program]
    unfold program
    split
    · exact hpos
    · trivial
  instructions := by
    rw [slots_program]
    unfold program
    split
    · intro i hi
      obtain ⟨index, hindex, rfl⟩ := List.mem_map.mp hi
      rw [List.mem_range'_1] at hindex
      show index < keys.length
      omega
    · have hrange := instructions_inRange 0 t.pieces
      rw [Nat.zero_add] at hrange
      rw [hkeys]
      exact hrange

/-- **The program gives the output of the template**, if its slots hold the template's models
and there is the room that it opens with. -/
theorem eval_link_program (h : t.Normal) (hlen : 2 ≤ t.pieces.length)
    (hkeys : keys.length = t.models.length) (target : τ) :
    ((t.program name keys capacity).link t.models).eval target
      = Outcome.within (t.program name keys capacity).opening.room (t.output target) := by
  have hmap := map_eval_instructions t.models target 0 t.pieces rfl
  rw [Linked.eval_eq]
  simp only [Program.link, List.map_map]
  unfold program
  split
  · next hzero =>
      -- the first slot is what the output begins with
      have hpieces := h.textLength_eq_zero_iff.mp hzero
      rw [instructions_models 0 t.pieces hpieces] at hmap
      have hpos : 0 < keys.length := by
        rw [hkeys, List.length_pos_iff]
        exact h.models_ne_nil hlen
      obtain ⟨n, hn⟩ : ∃ n, keys.length = n + 1 := ⟨keys.length - 1, by omega⟩
      rw [show (t.pieces.filterMap Piece.model?).length = n + 1 from hkeys ▸ hn,
        List.range'_succ, List.map_cons, List.map_cons] at hmap
      show Outcome.append _ _ = Outcome.within 0 _
      rw [Outcome.within_of_le (Nat.zero_le _), output, ← hmap, Outcome.join_cons, hn,
        Nat.add_sub_cancel]
      simp only [List.map_map]
      rfl
  · show Outcome.append _ _ = _
    rw [output, ← hmap]
    exact Start.eval_capacity_append _ target _

end Template

end Templating
