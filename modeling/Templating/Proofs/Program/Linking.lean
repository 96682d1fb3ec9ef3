import Templating.Program.Linked
import Templating.Proofs.Program.RoundTrip
import Templating.Proofs.Template.Evaluation

set_option autoImplicit false

/-! # What a linked program gives

A linked program gives the output that it begins with and then what its steps append, one
after another, up to the first abort (`Linked.eval_eq`). Its opening only decides how much room
is made beforehand. Reading a program back does not change what it gives: a program and its
normal form have the same output over the same models (`eval_link_normal`).
-/

namespace Templating

variable {τ : Type}

/-- The output of a linked program, as one evaluation after another. -/
theorem Linked.eval_eq (l : Linked τ) (target : τ) :
    l.eval target = Outcome.append (l.start.eval target)
      (Outcome.join (l.steps.map (·.eval target))) := by
  unfold Linked.eval
  cases hstart : l.start.eval target with
  | error a => rfl
  | ok first => exact Outcome.foldlM_written (·.eval target) l.steps first

/-- Beginning with room and nothing in it. -/
theorem Start.eval_capacity_append (bytes : UInt64) (target : τ) (o : Outcome) :
    Outcome.append ((Start.capacity bytes).eval target) o = Outcome.within bytes.toNat o := by
  by_cases h : bytes.toNat ≤ maxCapacity
  · rw [Outcome.within_of_le h]
    simp only [Start.eval, reserve, if_pos h]
    exact Outcome.empty_append o
  · rw [Outcome.within_of_lt (by omega)]
    simp only [Start.eval, reserve, if_neg h]
    rfl

/-! ## Instructions over models -/

/-- What an instruction appends if its slots hold these models. -/
def Instruction.eval (models : List (Model τ)) (target : τ) (i : Instruction) : Outcome :=
  (i.link models).eval target

/-- An instruction appends what its normal form appends. One without a normal form appends
nothing. -/
theorem Instruction.eval_normal? (models : List (Model τ)) (target : τ) (i : Instruction) :
    i.eval models target = match i.normal? with
      | some j => j.eval models target
      | none => .ok "" := by
  cases i with
  | char c => rfl
  | slot index => rfl
  | text t =>
      rcases ht : t.toList with _ | ⟨c, _ | ⟨d, cs⟩⟩
      · have hempty : t = "" := String.toList_eq_nil_iff.mp ht
        subst hempty
        rfl
      · have hsingle : t = String.singleton c := by
          rw [← String.toList_inj, ht, String.toList_singleton]
        have hnormal : (Instruction.text t).normal? = some (.char c) := by
          simp only [Instruction.normal?, ht]
        rw [hnormal, hsingle]
        rfl
      · have hnormal : (Instruction.text t).normal? = some (.text t) := by
          simp only [Instruction.normal?, ht]
        rw [hnormal]

theorem join_eval_normal (models : List (Model τ)) (target : τ) (is : List Instruction) :
    Outcome.join ((is.filterMap Instruction.normal?).map (·.eval models target))
      = Outcome.join (is.map (·.eval models target)) := by
  induction is with
  | nil => rfl
  | cons i is ih =>
      have hi := Instruction.eval_normal? models target i
      rw [List.map_cons, Outcome.join_cons, hi, ← ih]
      cases hj : i.normal? with
      | none => rw [List.filterMap_cons_none hj, Outcome.empty_append]
      | some j => rw [List.filterMap_cons_some hj, List.map_cons, Outcome.join_cons]

/-- **Reading a program back does not change its output**, whatever models fill its slots. -/
theorem Program.eval_link_normal (p : Program) (models : List (Model τ)) (target : τ) :
    (p.normal.link models).eval target = (p.link models).eval target := by
  have hsteps : ∀ is : List Instruction,
      (is.map (Instruction.link models)).map (·.eval target)
        = is.map (·.eval models target) := by
    intro is
    rw [List.map_map]
    rfl
  rw [Linked.eval_eq, Linked.eval_eq]
  simp only [Program.link, Program.normal, hsteps, join_eval_normal]

/-! ## What a unit keeps alive -/

theorem mem_keeps_slotModel {models : List (Model τ)} {index : Nat} {unit : Instance}
    (h : unit ∈ (slotModel models index).keeps) : ∃ m ∈ models, unit ∈ m.keeps := by
  unfold slotModel at h
  cases hslot : models[index]? with
  | none =>
      rw [hslot] at h
      cases h
  | some m =>
      rw [hslot] at h
      exact ⟨m, List.mem_of_getElem? hslot, h⟩

/-- A unit keeps itself alive and at most what the models in its slots keep. -/
theorem mem_keeps_toModel {p : Program} {models : List (Model τ)} {self unit : Instance}
    (h : unit ∈ ((p.link models).toModel self).keeps) :
    unit = self ∨ ∃ m ∈ models, unit ∈ m.keeps := by
  have hkeeps : unit ∈ self :: (p.link models).models.flatMap Model.keeps :=
    List.mem_eraseDups.mp h
  rcases List.mem_cons.mp hkeeps with hself | hmem
  · exact Or.inl hself
  · right
    obtain ⟨m, hm, hunit⟩ := List.mem_flatMap.mp hmem
    rcases List.mem_append.mp hm with hstart | hsteps
    · -- the model that the output begins with
      rw [Option.mem_toList] at hstart
      unfold Program.link at hstart
      cases hopening : p.opening with
      | capacity bytes =>
          rw [hopening] at hstart
          cases hstart
      | slot index =>
          rw [hopening] at hstart
          obtain rfl : slotModel models index = m := Option.some.inj hstart
          exact mem_keeps_slotModel hunit
    · -- the model of a step
      obtain ⟨step, hstep, hsome⟩ := List.mem_filterMap.mp hsteps
      obtain ⟨i, -, rfl⟩ := List.mem_map.mp hstep
      cases i with
      | text t => cases hsome
      | char c => cases hsome
      | slot index =>
          obtain rfl : slotModel models index = m := Option.some.inj hsome
          exact mem_keeps_slotModel hunit

end Templating
