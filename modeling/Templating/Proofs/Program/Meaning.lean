import Templating.Proofs.Program.Linking

set_option autoImplicit false

/-! # What a program means

The meaning of a program over models is said without linking it (`Program.Means`): the output begins
with the text of a slot or with nothing, every instruction appends a literal or the text of a slot,
and the first model that aborts ends it all. The relation keeps account of the models that are
evaluated on the way, so it also says what is not evaluated.

To compare this with a run, the run has to be watched. `Linked.evalWith` is the evaluation of a
linked program in any monad; in that of outcomes it is `Linked.eval` (`Linked.evalWith_eq_eval`), and
in one that notes each model that is asked it is `Linked.observe`, which gives the same outcome
(`Linked.observe_fst`). What is observed is what the program means (`Program.means_iff_observe`).
-/

namespace Templating

variable {τ : Type}

/-! ## Watching a run -/

section

variable {m : Type → Type} [Monad m] (room : Nat → m Unit) (ask : Model τ → m String)

/-- The output that a program begins with, if room is made and models are asked as given. -/
def Start.evalWith : Start τ → m String
  | capacity bytes => do
    room bytes.toNat
    return ""
  | model n => ask n

/-- What a step appends, if models are asked as given. -/
def Step.evalWith : Step τ → m String
  | text t => return t
  | char c => return String.singleton c
  | model n => ask n

/-- What a step makes of the output that is written already. -/
def Step.appendWith (written : String) (step : Step τ) : m String := do
  let text ← step.evalWith ask
  return written ++ text

/-- Runs a linked program, if room is made and models are asked as given. -/
def Linked.evalWith (l : Linked τ) : m String := do
  let first ← l.start.evalWith room ask
  l.steps.foldlM (Step.appendWith ask) first

end

/-- In outcomes a step appends what it gives. -/
theorem Step.appendWith_text (target : τ) (written : String) (step : Step τ) :
    step.appendWith (·.text target) written = (step.eval target).map (written ++ ·) := by
  cases step with
  | text t => rfl
  | char c => rfl
  | model n =>
      simp only [Step.appendWith, Step.evalWith, Step.eval]
      cases n.text target <;> rfl

/-- Evaluation is such a run. -/
theorem Linked.evalWith_eq_eval (l : Linked τ) (target : τ) :
    l.evalWith reserve (·.text target) = l.eval target := by
  have hstart : l.start.evalWith reserve (·.text target) = l.start.eval target := by
    cases l.start with
    | capacity bytes =>
        simp only [Start.evalWith, Start.eval]
        cases reserve bytes.toNat <;> rfl
    | model n => rfl
  have hstep : Step.appendWith (·.text target) =
      fun written (step : Step τ) => (step.eval target).map (written ++ ·) := by
    funext written step
    exact step.appendWith_text target written
  simp only [Linked.evalWith, Linked.eval, hstart, hstep]

/-- Evaluation that notes the models that are asked, whether they abort or not. -/
abbrev Watched (τ : Type) := ExceptT Abort (StateM (List (Model τ)))

/-- Makes room. Nobody is asked. -/
def Watched.room (bytes : Nat) : Watched τ Unit := ExceptT.mk (return reserve bytes)

/-- Asks a model for its text. -/
def Watched.ask (target : τ) (n : Model τ) : Watched τ String := ExceptT.mk do
  modify (· ++ [n])
  return n.text target

/-- The outcome of a run and the models that it asks, in order. -/
def Linked.observe (l : Linked τ) (target : τ) : Outcome × List (Model τ) :=
  (l.evalWith Watched.room (Watched.ask target)).run.run []

/-! ### Watching changes nothing -/

namespace Watched

variable {α β : Type} {x : Watched τ α} {log log' : List (Model τ)}

/-- What gives a value is followed by the rest. -/
theorem run_bind_ok {a : α} (h : x.run.run log = (.ok a, log')) (f : α → Watched τ β) :
    (x >>= f).run.run log = (f a).run.run log' := by
  rw [ExceptT.run_bind, StateT.run_bind, h]
  rfl

/-- What aborts is followed by nothing. -/
theorem run_bind_error {a : Abort} (h : x.run.run log = (.error a, log')) (f : α → Watched τ β) :
    (x >>= f).run.run log = (.error a, log') := by
  rw [ExceptT.run_bind, StateT.run_bind, h]
  rfl

theorem run_room (bytes : Nat) (log : List (Model τ)) :
    (room bytes : Watched τ Unit).run.run log = (reserve bytes, log) := rfl

theorem run_ask (target : τ) (n : Model τ) (log : List (Model τ)) :
    (ask target n).run.run log = (n.text target, log ++ [n]) := rfl

/-- A step appends what it gives, and asks its model. -/
theorem run_appendWith (target : τ) (written : String) (step : Step τ) (log : List (Model τ)) :
    (Step.appendWith (ask target) written step).run.run log
      = (Outcome.append (.ok written) (step.eval target), log ++ step.model?.toList) := by
  cases step with
  | text t => simp only [Step.model?, Option.toList_none, List.append_nil]; rfl
  | char c => simp only [Step.model?, Option.toList_none, List.append_nil]; rfl
  | model n =>
      simp only [Step.appendWith, Step.evalWith, Step.eval, Step.model?, Option.toList_some]
      cases htext : n.text target with
      | ok s => rw [run_bind_ok (by rw [run_ask, htext])]; rfl
      | error a => rw [run_bind_error (by rw [run_ask, htext])]; rfl

section

variable {target : τ} {step : Step τ} (steps : List (Step τ)) (written : String)
  (log : List (Model τ))

theorem run_foldlM_cons_ok {s : String} (h : step.eval target = .ok s) :
    ((step :: steps).foldlM (Step.appendWith (ask target)) written).run.run log
      = (steps.foldlM (Step.appendWith (ask target)) (written ++ s)).run.run
        (log ++ step.model?.toList) := by
  rw [List.foldlM_cons, run_bind_ok (by rw [run_appendWith, h, Outcome.append_ok])]

theorem run_foldlM_cons_error {a : Abort} (h : step.eval target = .error a) :
    ((step :: steps).foldlM (Step.appendWith (ask target)) written).run.run log
      = (.error a, log ++ step.model?.toList) := by
  rw [List.foldlM_cons, run_bind_error (by rw [run_appendWith, h, Outcome.append_ok_error])]

end

/-- The steps give what they give when nobody watches. -/
theorem fst_run_foldlM (target : τ) (steps : List (Step τ)) (written : String)
    (log : List (Model τ)) :
    ((steps.foldlM (Step.appendWith (ask target)) written).run.run log).1
      = steps.foldlM (Step.appendWith (·.text target)) written := by
  induction steps generalizing written log with
  | nil => rfl
  | cons step steps ih =>
      have hplain : (step :: steps).foldlM (Step.appendWith (·.text target)) written
          = (step.eval target).map (written ++ ·)
            >>= steps.foldlM (Step.appendWith (·.text target)) := by
        rw [List.foldlM_cons, Step.appendWith_text]
      rw [hplain]
      cases hstep : step.eval target with
      | ok s =>
          rw [run_foldlM_cons_ok steps written log hstep, ih]
          rfl
      | error a =>
          rw [run_foldlM_cons_error steps written log hstep]
          rfl

end Watched

/-- **Watching a run does not change its outcome.** -/
theorem Linked.observe_fst (l : Linked τ) (target : τ) :
    (l.observe target).1 = l.eval target := by
  rw [← Linked.evalWith_eq_eval]
  unfold Linked.observe Linked.evalWith
  cases l.start with
  | capacity bytes =>
      simp only [Start.evalWith]
      rw [bind_assoc, bind_assoc]
      cases hroom : reserve bytes.toNat with
      | ok _ =>
          rw [Watched.run_bind_ok (by rw [Watched.run_room, hroom]), pure_bind,
            Watched.fst_run_foldlM]
          rfl
      | error a =>
          rw [Watched.run_bind_error (by rw [Watched.run_room, hroom])]
          rfl
  | model n =>
      simp only [Start.evalWith]
      cases htext : n.text target with
      | ok s =>
          rw [Watched.run_bind_ok (by rw [Watched.run_ask, htext]), Watched.fst_run_foldlM]
          rfl
      | error a =>
          rw [Watched.run_bind_error (by rw [Watched.run_ask, htext])]
          rfl

/-! ## The meaning of programs -/

/-- What instructions append to the output, one after another, over the models in the slots. Given
are the models that are evaluated for it, in order, and the outcome. -/
inductive Appends (models : List (Model τ)) (target : τ) :
    List Instruction → List (Model τ) → Outcome → Prop where
  | nil : Appends models target [] [] (.ok "")
  | text {t : String} {is : List Instruction} {asked : List (Model τ)} {o : Outcome}
      (h : Appends models target is asked o) :
      Appends models target (.text t :: is) asked (Outcome.append (.ok t) o)
  | char {c : Char} {is : List Instruction} {asked : List (Model τ)} {o : Outcome}
      (h : Appends models target is asked o) :
      Appends models target (.char c :: is) asked (Outcome.append (.ok (String.singleton c)) o)
  | slot {index : Nat} {m : Model τ} {s : String} {is : List Instruction}
      {asked : List (Model τ)} {o : Outcome} (hm : models[index]? = some m)
      (htext : m.text target = .ok s) (h : Appends models target is asked o) :
      Appends models target (.slot index :: is) (m :: asked) (Outcome.append (.ok s) o)
  -- no instruction after this one is looked at
  | abort {index : Nat} {m : Model τ} {a : Abort} {is : List Instruction}
      (hm : models[index]? = some m) (htext : m.text target = .error a) :
      Appends models target (.slot index :: is) [m] (.error a)

/-- **What a program means over the models in its slots**: the models that are evaluated for a
target, in order, and the outcome. -/
inductive Program.Means (p : Program) (models : List (Model τ)) (target : τ) :
    List (Model τ) → Outcome → Prop where
  -- there is no room for the output, which shows before any model is evaluated
  | overflow {bytes : UInt64} (hopening : p.opening = .capacity bytes)
      (hbytes : maxCapacity < bytes.toNat) :
      Means p models target [] (.error ⟨"capacity overflow"⟩)
  | capacity {bytes : UInt64} {asked : List (Model τ)} {o : Outcome}
      (hopening : p.opening = .capacity bytes) (hbytes : bytes.toNat ≤ maxCapacity)
      (h : Appends models target p.instructions asked o) : Means p models target asked o
  -- the output begins as if the slot were the first instruction
  | slot {index : Nat} {asked : List (Model τ)} {o : Outcome} (hopening : p.opening = .slot index)
      (h : Appends models target (.slot index :: p.instructions) asked o) :
      Means p models target asked o

section

variable {models : List (Model τ)} {target : τ} {is : List Instruction} {asked : List (Model τ)}
  {o : Outcome} {p : Program}

theorem slotModel_eq {index : Nat} {m : Model τ} (hm : models[index]? = some m) :
    slotModel models index = m := by
  rw [slotModel, hm, Option.getD_some]

/-- Instructions that refer to models append something. -/
theorem exists_appends (target : τ) (h : ∀ i ∈ is, i.InRange models.length) :
    ∃ asked o, Appends models target is asked o := by
  induction is with
  | nil => exact ⟨[], _, .nil⟩
  | cons i is ih =>
      obtain ⟨asked, o, his⟩ := ih fun j hj => h j (List.mem_cons_of_mem i hj)
      cases i with
      | text t => exact ⟨asked, _, .text his⟩
      | char c => exact ⟨asked, _, .char his⟩
      | slot index =>
          have hindex : index < models.length := h _ List.mem_cons_self
          have hm : models[index]? = some models[index] := List.getElem?_eq_getElem hindex
          cases htext : models[index].text target with
          | ok s => exact ⟨_, _, .slot hm htext his⟩
          | error a => exact ⟨_, _, .abort hm htext⟩

/-- What instructions append is what is observed when their steps run. -/
theorem Appends.run_foldlM (h : Appends models target is asked o) (written : String)
    (log : List (Model τ)) :
    ((is.map (Instruction.link models)).foldlM (Step.appendWith (Watched.ask target))
      written).run.run log = (Outcome.append (.ok written) o, log ++ asked) := by
  induction h generalizing written log with
  | nil =>
      rw [Outcome.append_empty, List.append_nil]
      rfl
  | text _ ih =>
      rw [List.map_cons, Watched.run_foldlM_cons_ok _ _ _ rfl, ih, ← Outcome.append_assoc]
      simp only [Instruction.link, Step.model?, Option.toList_none, List.append_nil,
        Outcome.append_ok]
  | char _ ih =>
      rw [List.map_cons, Watched.run_foldlM_cons_ok _ _ _ rfl, ih, ← Outcome.append_assoc]
      simp only [Instruction.link, Step.model?, Option.toList_none, List.append_nil,
        Outcome.append_ok]
  | @slot index m s _ _ _ hm htext _ ih =>
      have hlink : Instruction.link models (.slot index) = .model m := by
        rw [Instruction.link, slotModel_eq hm]
      have hstep : (Step.model m).eval target = .ok s := htext
      rw [List.map_cons, hlink, Watched.run_foldlM_cons_ok _ _ _ hstep, ih, ← Outcome.append_assoc]
      simp only [Step.model?, Option.toList_some, List.append_assoc, List.singleton_append,
        Outcome.append_ok]
  | @abort index m a _ hm htext =>
      have hlink : Instruction.link models (.slot index) = .model m := by
        rw [Instruction.link, slotModel_eq hm]
      have hstep : (Step.model m).eval target = .error a := htext
      rw [List.map_cons, hlink, Watched.run_foldlM_cons_error _ _ _ hstep]
      rfl

namespace Program

theorem exists_means (target : τ) (hopening : p.opening.InRange models.length)
    (hinstructions : ∀ i ∈ p.instructions, i.InRange models.length) :
    ∃ asked o, p.Means models target asked o := by
  cases ho : p.opening with
  | capacity bytes =>
      by_cases hbytes : bytes.toNat ≤ maxCapacity
      · obtain ⟨asked, o, h⟩ := exists_appends target hinstructions
        exact ⟨asked, o, .capacity ho hbytes h⟩
      · exact ⟨[], _, .overflow ho (Nat.not_le.mp hbytes)⟩
  | slot index =>
      rw [ho] at hopening
      have hall : ∀ i ∈ Instruction.slot index :: p.instructions, i.InRange models.length := by
        intro i hi
        rcases List.mem_cons.mp hi with rfl | hi
        · exact hopening
        · exact hinstructions i hi
      obtain ⟨asked, o, h⟩ := exists_appends target hall
      exact ⟨asked, o, .slot ho h⟩

/-- Whatever a program means is what is observed when it runs. -/
theorem Means.observe_eq (h : p.Means models target asked o) :
    (p.link models).observe target = (o, asked) := by
  unfold Linked.observe Linked.evalWith
  cases h with
  | @overflow bytes hopening hbytes =>
      have hroom : reserve bytes.toNat = .error ⟨"capacity overflow"⟩ := by
        rw [reserve, if_neg (Nat.not_le.mpr hbytes)]
      simp only [Program.link, hopening, Opening.link, Start.evalWith]
      rw [bind_assoc, Watched.run_bind_error (by rw [Watched.run_room, hroom])]
  | @capacity bytes _ _ hopening hbytes h =>
      have hroom : reserve bytes.toNat = .ok () := by rw [reserve, if_pos hbytes]
      simp only [Program.link, hopening, Opening.link, Start.evalWith]
      rw [bind_assoc, Watched.run_bind_ok (by rw [Watched.run_room, hroom]), pure_bind,
        h.run_foldlM, Outcome.empty_append, List.nil_append]
  | @slot index _ _ hopening h =>
      simp only [Program.link, hopening, Opening.link, Start.evalWith]
      cases h with
      | @slot _ m s _ asked o hm htext h =>
          rw [slotModel_eq hm, Watched.run_bind_ok (by rw [Watched.run_ask, htext]), h.run_foldlM]
          rfl
      | @abort _ m a _ hm htext =>
          rw [slotModel_eq hm, Watched.run_bind_error (by rw [Watched.run_ask, htext])]
          rfl

/-- **What is observed of a run is what the program means.** -/
theorem means_iff_observe (hopening : p.opening.InRange models.length)
    (hinstructions : ∀ i ∈ p.instructions, i.InRange models.length) :
    p.Means models target asked o ↔ (p.link models).observe target = (o, asked) := by
  constructor
  · exact Means.observe_eq
  · intro h
    obtain ⟨asked', o', hmeans⟩ := exists_means target hopening hinstructions
    rw [hmeans.observe_eq] at h
    obtain ⟨rfl, rfl⟩ := Prod.mk.inj h
    exact hmeans

end Program

end

end Templating
