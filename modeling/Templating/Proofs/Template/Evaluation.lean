import Templating.Proofs.Template.NormalForm
import Templating.Template.Evaluation

set_option autoImplicit false

/-! # What a template evaluates to

The output of a template for a target (`Template.output`) is the texts of its pieces one after
another, or the first abort among them. It does not depend on how the template was put
together: pushing a piece appends that piece's text (`output_push`), whatever is merged or
taken in on the way. The model that a template is made into directly gives this output, once
it has made room for it (`text_assemble`).
-/

namespace Templating

/-! ## Outcomes one after another -/

namespace Outcome

/-- Two evaluations, one after the other. If the first aborts there is no second. -/
def append (first second : Outcome) : Outcome := first.bind fun a => second.map (a ++ ·)

/-- Several evaluations, one after the other, up to the first that aborts. -/
def join : List Outcome → Outcome
  | [] => .ok ""
  | first :: rest => append first (join rest)

/-- An evaluation that takes place if room can be made for its output. -/
def within (bytes : Nat) (o : Outcome) : Outcome := (reserve bytes).bind fun _ => o

@[simp] theorem append_ok (a b : String) : append (.ok a) (.ok b) = .ok (a ++ b) := rfl

@[simp] theorem append_error (a : Abort) (o : Outcome) : append (.error a) o = .error a := rfl

@[simp] theorem append_ok_error (a : String) (b : Abort) : append (.ok a) (.error b) = .error b :=
  rfl

@[simp] theorem empty_append (o : Outcome) : append (.ok "") o = o := by
  cases o <;> simp

@[simp] theorem append_empty (o : Outcome) : append o (.ok "") = o := by
  cases o <;> simp

theorem append_assoc (a b c : Outcome) : append (append a b) c = append a (append b c) := by
  cases a with
  | error e => rfl
  | ok a =>
      cases b with
      | error e => rfl
      | ok b => cases c <;> simp [String.append_assoc]

/-- Two evaluations give a text if both do, and it is the two texts in order. -/
theorem append_eq_ok_iff {o p : Outcome} {s : String} :
    append o p = .ok s ↔ ∃ a b, o = .ok a ∧ p = .ok b ∧ s = a ++ b := by
  constructor
  · intro h
    cases o with
    | error a => cases h
    | ok a =>
        cases p with
        | error b => cases h
        | ok b => exact ⟨a, b, rfl, rfl, (Except.ok.inj h).symm⟩
  · rintro ⟨a, b, rfl, rfl, rfl⟩
    rfl

@[simp] theorem join_nil : join [] = .ok "" := rfl

@[simp] theorem join_cons (o : Outcome) (os : List Outcome) : join (o :: os) = append o (join os) :=
  rfl

theorem join_append (os ps : List Outcome) : join (os ++ ps) = append (join os) (join ps) := by
  induction os with
  | nil => simp
  | cons o os ih => rw [List.cons_append, join_cons, join_cons, ih, append_assoc]

theorem within_of_le {bytes : Nat} (h : bytes ≤ maxCapacity) (o : Outcome) :
    within bytes o = o := by
  simp only [within, reserve, if_pos h]
  rfl

theorem within_of_lt {bytes : Nat} (h : maxCapacity < bytes) (o : Outcome) :
    within bytes o = .error ⟨"capacity overflow"⟩ := by
  simp only [within, reserve, if_neg (Nat.not_le.mpr h)]
  rfl

/-- An evaluation that gives a text in the room it makes gives it in any room. -/
theorem eq_ok_of_within {bytes : Nat} {o : Outcome} {s : String} (h : within bytes o = .ok s) :
    o = .ok s := by
  by_cases hbytes : bytes ≤ maxCapacity
  · rwa [within_of_le hbytes] at h
  · rw [within_of_lt (Nat.not_le.mp hbytes)] at h
    cases h

/-- Writing the texts of evaluations after what is written already. -/
theorem foldlM_written {α : Type} (f : α → Outcome) (xs : List α) (written : String) :
    (xs.foldlM (fun written x => (f x).map (written ++ ·)) written : Outcome)
      = append (.ok written) (join (xs.map f)) := by
  induction xs generalizing written with
  | nil =>
      rw [List.map_nil, join_nil, append_empty]
      rfl
  | cons x xs ih =>
      rw [List.foldlM_cons, List.map_cons, join_cons]
      cases hx : f x with
      | error a => rfl
      | ok s =>
          show xs.foldlM _ (written ++ s) = _
          rw [ih, ← append_assoc, append_ok]

end Outcome

namespace Template

variable {τ : Type}

/-! ## The output of a template -/

/-- The texts of the pieces, one after another, or the first abort among them. -/
def output (target : τ) (t : Template τ) : Outcome := Outcome.join (t.pieces.map (·.eval target))

theorem evalPieces_eq_join (target : τ) (ps : List (Piece τ)) :
    evalPieces target ps = Outcome.join (ps.map (·.eval target)) := by
  rw [evalPieces, Outcome.foldlM_written, Outcome.empty_append]

/-- A model with a fixed text gives it for every target. -/
theorem text_of_fixedText?_eq_some {m : Model τ} {s : String} (h : m.fixedText? = some s)
    (target : τ) : m.text target = .ok s := by
  cases m with
  | empty => rw [← Option.some.inj h]; rfl
  | fixed self text => rw [← Option.some.inj h]; rfl
  | dynamic self bound eval keeps => cases h

theorem join_extend (target : τ) (s : String) (ps : List (Piece τ)) :
    Outcome.join ((extend s ps).map (·.eval target))
      = Outcome.append (Outcome.join (ps.map (·.eval target))) (.ok s) := by
  rcases extend_cases s ps with ⟨init, last, rfl, hext⟩ | ⟨-, hext⟩
  · rw [hext, List.map_append, List.map_append, Outcome.join_append, Outcome.join_append,
      Outcome.append_assoc]
    simp [Piece.eval]
  · rw [hext, List.map_append, Outcome.join_append]
    simp [Piece.eval]

theorem output_pushText (target : τ) (t : Template τ) (s : String) :
    (t.pushText s).output target = Outcome.append (t.output target) (.ok s) := by
  unfold pushText
  split
  · next hs => rw [hs, Outcome.append_empty]
  · exact join_extend target s t.pieces

/-- **Pushing a piece appends its text**, be it merged, taken in or kept as it is. -/
theorem output_push (target : τ) (t : Template τ) (p : Piece τ) :
    (t.push p).output target = Outcome.append (t.output target) (p.eval target) := by
  cases p with
  | text s => exact output_pushText target t s
  | model m =>
      show (t.pushModel m).output target = _
      unfold pushModel
      split
      · next s hm =>
          rw [output_pushText]
          show _ = Outcome.append _ (m.text target)
          rw [text_of_fixedText?_eq_some hm]
      · simp only [output, List.map_append, Outcome.join_append, List.map_cons, List.map_nil,
          Outcome.join_cons, Outcome.join_nil, Outcome.append_empty]

/-- The output of a template is that of the pieces that were pushed. -/
theorem output_ofPieces (target : τ) (pushed : List (Piece τ)) :
    (ofPieces pushed).output target = Outcome.join (pushed.map (·.eval target)) := by
  induction pushed using List.reverseRecOn with
  | nil => rfl
  | append_singleton pushed p ih =>
      rw [ofPieces_concat, output_push, ih, List.map_append, Outcome.join_append]
      simp

/-! ## Models made directly -/

/-- What the shortcut covers: templates of at most one piece. -/
theorem shortcut?_eq_none_iff {self : Instance} {t : Template τ} :
    t.shortcut? self = none ↔ 2 ≤ t.pieces.length := by
  rcases hps : t.pieces with _ | ⟨p, _ | ⟨q, rest⟩⟩
  · simp [shortcut?, hps]
  · cases p <;> simp [shortcut?, hps]
  · simp [shortcut?, hps]

/-- The templates that the shortcut covers, with their models. -/
theorem shortcut?_cases {self : Instance} {t : Template τ} {m : Model τ}
    (h : t.shortcut? self = some m) :
    (t.pieces = [] ∧ m = .empty) ∨ (∃ s, t.pieces = [.text s] ∧ m = .fixed self s)
      ∨ t.pieces = [.model m] := by
  rcases hps : t.pieces with _ | ⟨p, _ | ⟨q, rest⟩⟩
  · simp only [shortcut?, hps, Option.some.injEq] at h
    exact Or.inl ⟨rfl, h.symm⟩
  · cases p with
    | text s =>
        simp only [shortcut?, hps, Option.some.injEq] at h
        exact Or.inr (Or.inl ⟨s, rfl, h.symm⟩)
    | model n =>
        simp only [shortcut?, hps, Option.some.injEq] at h
        exact Or.inr (Or.inr (by rw [h]))
  · simp only [shortcut?, hps] at h
    cases h

theorem length_le_of_shortcut {self : Instance} {t : Template τ} {m : Model τ}
    (h : t.shortcut? self = some m) : t.pieces.length ≤ 1 := by
  rcases shortcut?_cases h with ⟨hps, -⟩ | ⟨s, hps, -⟩ | hps
  · simp [hps]
  · simp [hps]
  · simp [hps]

/-- The shortcut needs no room: its model gives the output. -/
theorem text_shortcut {self : Instance} {t : Template τ} {m : Model τ}
    (h : t.shortcut? self = some m) (target : τ) : m.text target = t.output target := by
  rcases shortcut?_cases h with ⟨hps, rfl⟩ | ⟨s, hps, rfl⟩ | hps
  · rw [output, hps]
    rfl
  · rw [output, hps, List.map_singleton, Outcome.join_cons, Outcome.join_nil,
      Outcome.append_empty]
    rfl
  · rw [output, hps, List.map_singleton, Outcome.join_cons, Outcome.join_nil,
      Outcome.append_empty]
    rfl

/-- A template with a model in it is evaluated once there is room for its output. -/
theorem text_interpret {t : Template τ} (hdyn : t.isDynamic = true) (self : Instance)
    (target : τ) :
    (t.interpret self).text target = Outcome.within t.capacity (t.output target) := by
  simp only [interpret, hdyn, if_true, Model.text, evalPieces_eq_join]
  rfl

/-- The room that is made by the model a template is made into directly: none if that is a
shortcut. -/
def room (t : Template τ) : Nat := if t.pieces.length ≤ 1 then 0 else t.capacity

/-- **Models made directly give the output**, if there is room for it. -/
theorem text_assemble {t : Template τ} (h : t.Normal) (self : Instance) (target : τ) :
    (t.assemble self).text target = Outcome.within t.room (t.output target) := by
  unfold assemble room
  cases hm : t.shortcut? self with
  | some m =>
      rw [if_pos (length_le_of_shortcut hm), Outcome.within_of_le (Nat.zero_le _), Option.getD_some,
        text_shortcut hm]
  | none =>
      have hlen := shortcut?_eq_none_iff.mp hm
      rw [if_neg (by omega), Option.getD_none,
        text_interpret (h.isDynamic_iff.mpr (h.models_ne_nil hlen))]

end Template

end Templating
