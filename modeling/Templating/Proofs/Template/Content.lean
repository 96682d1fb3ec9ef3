import Mathlib.Data.Option.NAry
import Templating.Proofs.LengthBound
import Templating.Proofs.Template.Evaluation

set_option autoImplicit false

/-! # What a template is, piece by piece

Three things can be told from a template: its bound, its text if that is fixed, and its output.
Each is put together from the pieces that were pushed, in order and one at a time, whatever pushing
merged or took in. For the output this is `output_ofPieces`; here it is shown for the bound
(`bound_ofPieces`) and the fixed text (`fixed_ofPieces`). Models that need no evaluation and models
that evaluate piece by piece show both of them as they are.
-/

namespace Templating

variable {τ : Type}

/-- The text of the piece, if it is fixed. -/
def Piece.fixedText? : Piece τ → Option String
  | .text s => some s
  | .model m => m.fixedText?

/-- A model with a fixed text has the bound of that text. -/
theorem Model.bound_of_fixedText? {m : Model τ} {s : String} (h : m.fixedText? = some s) :
    m.bound = .exact s.utf8ByteSize := by
  cases m with
  | empty =>
      rw [← Option.some.inj h]
      rfl
  | fixed self text =>
      rw [← Option.some.inj h]
      rfl
  | dynamic self bound eval keeps => cases h

/-- A piece with a fixed text has the bound of that text. -/
theorem Piece.bound_of_fixedText? {p : Piece τ} {s : String} (h : p.fixedText? = some s) :
    p.bound = .exact s.utf8ByteSize := by
  cases p with
  | text t =>
      rw [← Option.some.inj h]
      rfl
  | model m => exact Model.bound_of_fixedText? h

namespace Template

/-! ## Bounds -/

theorem bound_pushText (t : Template τ) (s : String) :
    (t.pushText s).bound = t.bound + .exact s.utf8ByteSize := by
  unfold pushText
  split
  · next hs =>
      rw [hs]
      exact (add_zero t.bound).symm
  · show LengthBound.exact (t.textLength + s.utf8ByteSize) + t.modelBound = _
    rw [LengthBound.exact_add]
    exact add_right_comm _ _ _

/-- **Pushing a piece adds its bound.** -/
theorem bound_push (t : Template τ) (p : Piece τ) : (t.push p).bound = t.bound + p.bound := by
  cases p with
  | text s => exact bound_pushText t s
  | model m =>
      show (t.pushModel m).bound = t.bound + m.bound
      unfold pushModel
      split
      · next s hs => rw [bound_pushText, Model.bound_of_fixedText? hs]
      · exact (add_assoc _ _ _).symm

theorem bound_ofPieces (pushed : List (Piece τ)) :
    (ofPieces pushed).bound = (pushed.map Piece.bound).sum := by
  induction pushed using List.reverseRecOn with
  | nil => exact zero_add (0 : LengthBound)
  | append_singleton pushed p ih =>
      rw [ofPieces_concat, bound_push, ih, List.map_append, List.sum_append, List.map_singleton,
        List.sum_singleton]

/-! ## Fixed texts -/

/-- The text of the pieces one after another, if each of them has a fixed text. -/
def fixed : List (Piece τ) → Option String
  | [] => some ""
  | p :: ps => Option.map₂ (· ++ ·) p.fixedText? (fixed ps)

theorem map₂_empty (a : Option String) : Option.map₂ (· ++ ·) a (some "") = a := by
  cases a with
  | none => rfl
  | some s => simp

theorem map₂_append_assoc (a b c : Option String) :
    Option.map₂ (· ++ ·) (Option.map₂ (· ++ ·) a b) c
      = Option.map₂ (· ++ ·) a (Option.map₂ (· ++ ·) b c) :=
  Option.map₂_assoc fun _ _ _ => String.append_assoc

theorem fixed_singleton (p : Piece τ) : fixed [p] = p.fixedText? := map₂_empty _

theorem fixed_append (ps qs : List (Piece τ)) :
    fixed (ps ++ qs) = Option.map₂ (· ++ ·) (fixed ps) (fixed qs) := by
  induction ps with
  | nil =>
      rw [List.nil_append, fixed]
      cases fixed qs with
      | none => rfl
      | some s => simp
  | cons p ps ih =>
      rw [List.cons_append, fixed, ih, fixed]
      exact (map₂_append_assoc _ _ _).symm

/-- The whole depends on the target exactly if one of the pieces does. -/
theorem fixed_eq_none_iff {ps : List (Piece τ)} :
    fixed ps = none ↔ ∃ p ∈ ps, p.fixedText? = none := by
  induction ps with
  | nil => simp [fixed]
  | cons p ps ih => simp only [fixed, Option.map₂_eq_none_iff, ih, List.mem_cons, exists_eq_or_imp]

/-- Pieces with a fixed text have the bound of that text. -/
theorem bound_of_fixed {ps : List (Piece τ)} {s : String} (h : fixed ps = some s) :
    (ps.map Piece.bound).sum = .exact s.utf8ByteSize := by
  induction ps generalizing s with
  | nil =>
      rw [← Option.some.inj h]
      rfl
  | cons p ps ih =>
      obtain ⟨a, b, ha, hb, rfl⟩ := Option.map₂_eq_some_iff.mp h
      rw [List.map_cons, List.sum_cons, Piece.bound_of_fixedText? ha, ih hb,
        String.utf8ByteSize_append, LengthBound.exact_add]

theorem fixed_extend (s : String) (ps : List (Piece τ)) :
    fixed (extend s ps) = Option.map₂ (· ++ ·) (fixed ps) (some s) := by
  rcases extend_cases s ps with ⟨init, last, rfl, hext⟩ | ⟨-, hext⟩
  · rw [hext, fixed_append, fixed_append, fixed_singleton, fixed_singleton,
      map₂_append_assoc]
    rfl
  · rw [hext, fixed_append, fixed_singleton]
    rfl

theorem fixed_pushText (t : Template τ) (s : String) :
    fixed (t.pushText s).pieces = Option.map₂ (· ++ ·) (fixed t.pieces) (some s) := by
  unfold pushText
  split
  · next hs => rw [hs, map₂_empty]
  · exact fixed_extend s t.pieces

/-- **Pushing a piece appends its fixed text**, if it has one. -/
theorem fixed_push (t : Template τ) (p : Piece τ) :
    fixed (t.push p).pieces = Option.map₂ (· ++ ·) (fixed t.pieces) p.fixedText? := by
  cases p with
  | text s => exact fixed_pushText t s
  | model m =>
      show fixed (t.pushModel m).pieces = Option.map₂ (· ++ ·) (fixed t.pieces) m.fixedText?
      unfold pushModel
      split
      · next s hs => rw [hs, fixed_pushText]
      · next hs =>
          rw [hs, fixed_append, fixed_singleton]
          exact congrArg _ hs

theorem fixed_ofPieces (pushed : List (Piece τ)) :
    fixed (ofPieces pushed).pieces = fixed pushed := by
  induction pushed using List.reverseRecOn with
  | nil => rfl
  | append_singleton pushed p ih =>
      rw [ofPieces_concat, fixed_push, ih, fixed_append, fixed_singleton]

/-- A template in normal form that holds a model has no fixed text. -/
theorem Normal.fixed_eq_none {t : Template τ} (h : t.Normal) (hmodels : t.models ≠ []) :
    fixed t.pieces = none := by
  obtain ⟨m, hm⟩ := List.exists_mem_of_ne_nil _ hmodels
  obtain ⟨p, hp, hpm⟩ := List.mem_filterMap.mp hm
  cases p with
  | text s => cases hpm
  | model n => exact fixed_eq_none_iff.mpr ⟨_, hp, h.pieces.fixedText?_eq_none n hp⟩

/-! ## Models that need no evaluation -/

variable {t : Template τ} {self : Instance} {m : Model τ}

/-- The model of a template of at most one piece has the fixed text of that piece. -/
theorem fixedText?_shortcut (h : t.shortcut? self = some m) : m.fixedText? = fixed t.pieces := by
  rcases shortcut?_cases h with ⟨hps, rfl⟩ | ⟨s, hps, rfl⟩ | hps
  · rw [hps]
    rfl
  · rw [hps, fixed_singleton]
    rfl
  · rw [hps, fixed_singleton]
    rfl

/-- The model of a template of at most one piece has the bound of the template. -/
theorem Normal.bound_shortcut (ht : t.Normal) (h : t.shortcut? self = some m) :
    m.bound = t.bound := by
  have hbound : t.bound = .exact (textBytes t.pieces)
      + (t.pieces.filterMap Piece.model?).foldl (fun b m => b + m.bound) 0 := by
    rw [bound, ht.textLength_eq, ht.modelBound_eq]
    rfl
  rcases shortcut?_cases h with ⟨hps, rfl⟩ | ⟨s, hps, rfl⟩ | hps
  · rw [hbound, hps]
    exact (add_zero (0 : LengthBound)).symm
  · rw [hbound, hps]
    exact (add_zero (LengthBound.exact s.utf8ByteSize)).symm
  · rw [hbound, hps]
    show m.bound = 0 + (0 + m.bound)
    rw [zero_add, zero_add]

/-! ## Models that evaluate piece by piece -/

/-- A template without models has a shortcut. Evaluated piece by piece all the same, it has the
fixed text that the shortcut has. -/
theorem Normal.shortcut_of_not_isDynamic (ht : t.Normal) (hdyn : t.isDynamic = false)
    (self : Instance) :
    ∃ m s, t.shortcut? self = some m ∧ m.fixedText? = some s ∧
      (t.interpret self).fixedText? = some s := by
  have hmodels : ¬ t.models ≠ [] := fun h => by
    rw [ht.isDynamic_iff.mpr h] at hdyn
    cases hdyn
  cases hshort : t.shortcut? self with
  | none => exact absurd (ht.models_ne_nil (shortcut?_eq_none_iff.mp hshort)) hmodels
  | some m =>
      have hinterpret : (t.interpret self).fixedText?
          = some (String.join (t.pieces.filterMap Piece.text?)) := by
        simp only [interpret, hdyn, Bool.false_eq_true, if_false]
        rfl
      rw [hinterpret]
      rcases shortcut?_cases hshort with ⟨hps, rfl⟩ | ⟨s, hps, rfl⟩ | hps
      · exact ⟨.empty, "", rfl, rfl, by rw [hps]; rfl⟩
      · refine ⟨.fixed self s, s, rfl, rfl, ?_⟩
        rw [hps, List.filterMap_cons_some (text?_text s), List.filterMap_nil, String.join_cons,
          String.join_nil, String.append_empty]
      · exact absurd (by rw [models, hps]; exact List.cons_ne_nil m []) hmodels

theorem Normal.fixedText?_interpret (ht : t.Normal) (self : Instance) :
    (t.interpret self).fixedText? = fixed t.pieces := by
  cases hdyn : t.isDynamic with
  | true =>
      rw [ht.fixed_eq_none (ht.isDynamic_iff.mp hdyn), interpret, if_pos hdyn]
      rfl
  | false =>
      obtain ⟨m, s, hshort, hm, hs⟩ := ht.shortcut_of_not_isDynamic hdyn self
      rw [hs, ← hm, fixedText?_shortcut hshort]

theorem Normal.bound_interpret (ht : t.Normal) (self : Instance) :
    (t.interpret self).bound = t.bound := by
  cases hdyn : t.isDynamic with
  | true =>
      rw [interpret, if_pos hdyn]
      rfl
  | false =>
      obtain ⟨m, s, hshort, hm, hs⟩ := ht.shortcut_of_not_isDynamic hdyn self
      rw [Model.bound_of_fixedText? hs, ← Model.bound_of_fixedText? hm, ht.bound_shortcut hshort]

/-- What a template gives when it is evaluated piece by piece is its output. -/
theorem Normal.output_of_interpret (ht : t.Normal) {target : τ} {s : String}
    (h : (t.interpret self).text target = .ok s) : t.output target = .ok s := by
  cases hdyn : t.isDynamic with
  | true =>
      rw [text_interpret hdyn] at h
      exact Outcome.eq_ok_of_within h
  | false =>
      obtain ⟨m, s', hshort, hm, hs⟩ := ht.shortcut_of_not_isDynamic hdyn self
      rwa [text_of_fixedText?_eq_some hs, ← text_of_fixedText?_eq_some hm target,
        text_shortcut hshort] at h

end Template

end Templating
