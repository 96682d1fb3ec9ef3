import Templating.Proofs.Services.Honesty
import Templating.Proofs.Template.Canonical

set_option autoImplicit false

/-! # Bounds are exact sums

A template adds up bounds as pieces are pushed, those of its models apart from the lengths of its
texts. A side may become unknown on the way, because a model does not declare it or because a sum
becomes too large. Still a side is known in the end exactly if it is known for every piece and the
sum of them all, as numbers, fits a word; then it is this sum (`known_sum`). So the order of the
pieces does not matter, and every model that is made of the template reports the same bound, also
one that was written out as a program and read back (`exactBound_of_edits`).
-/

namespace Templating

variable {τ : Type}

open LengthBound (Side)

/-! ## Sums -/

/-- What is known of the length of a piece's text on a side: a fixed text has its length, and any
other model what it declares. -/
def Piece.known (side : Side) (p : Piece τ) : Option Nat :=
  match p.fixedText? with
  | some s => some s.utf8ByteSize
  | none => p.bound.known side

/-- The bound of a piece knows what is known, if it fits a word. -/
theorem Piece.known_bound {side : Side} {p : Piece τ} {n : Nat} :
    p.bound.known side = some n ↔ p.known side = some n ∧ n < UInt64.size := by
  unfold Piece.known
  cases hp : p.fixedText? with
  | some s => simp only [Piece.bound_of_fixedText? hp, LengthBound.known_exact, Option.some_inj]
  | none =>
      constructor
      · intro h
        exact ⟨h, LengthBound.known_lt h⟩
      · exact And.left

/-- **The bounds of pieces add up to the sum of what is known of them**, if all is known and the sum
fits a word, and to nothing otherwise. -/
theorem known_sum {side : Side} {ps : List (Piece τ)} {n : Nat} :
    ((ps.map Piece.bound).sum).known side = some n ↔ ∃ lengths : List Nat,
      ps.map (Piece.known side) = lengths.map some ∧ lengths.sum = n ∧ n < UInt64.size := by
  induction ps generalizing n with
  | nil =>
      have hzero : (0 : LengthBound).known side = some n ↔ 0 = n ∧ n < UInt64.size :=
        LengthBound.known_exact
      rw [List.map_nil, List.sum_nil, hzero]
      constructor
      · rintro ⟨rfl, hn⟩
        exact ⟨[], rfl, rfl, hn⟩
      · rintro ⟨lengths, hlengths, rfl, hn⟩
        rw [List.map_nil, eq_comm, List.map_eq_nil_iff] at hlengths
        rw [hlengths, List.sum_nil]
        exact ⟨rfl, by decide⟩
  | cons p ps ih =>
      rw [List.map_cons, List.sum_cons, LengthBound.known_add]
      constructor
      · rintro ⟨x, y, hp, hps, rfl, hn⟩
        obtain ⟨lengths, hlengths, rfl, -⟩ := ih.mp hps
        have hx : p.known side = some x := (Piece.known_bound.mp hp).1
        exact ⟨x :: lengths, by rw [List.map_cons, List.map_cons, hx, hlengths],
          List.sum_cons, hn⟩
      · rintro ⟨lengths, hlengths, rfl, hn⟩
        cases lengths with
        | nil => cases hlengths
        | cons x lengths =>
            obtain ⟨hx, hrest⟩ := List.cons.inj hlengths
            rw [List.sum_cons] at hn
            -- no partial sum is larger than the whole
            have hp : p.bound.known side = some x := Piece.known_bound.mpr ⟨hx, by omega⟩
            have hps := ih.mpr ⟨lengths, hrest, rfl, by omega⟩
            exact ⟨x, lengths.sum, hp, hps, List.sum_cons.symm, by rw [List.sum_cons]; exact hn⟩

namespace Template

/-- Pieces in another order have the same bound. -/
theorem bound_ofPieces_of_perm {ps qs : List (Piece τ)} (h : ps.Perm qs) :
    (ofPieces ps).bound = (ofPieces qs).bound := by
  rw [bound_ofPieces, bound_ofPieces]
  exact (h.map Piece.bound).sum_eq

/-- No piece makes a known side smaller or an unknown side known. -/
theorem known_of_push {side : Side} {t : Template τ} {p : Piece τ} {n : Nat}
    (h : (t.push p).bound.known side = some n) : ∃ k ≤ n, t.bound.known side = some k := by
  rw [bound_push] at h
  obtain ⟨k, _, hk, _, hsum, _⟩ := LengthBound.known_add.mp h
  exact ⟨k, by omega, hk⟩

/-! ## Templates and their models -/

/-- **The bound is the exact sum of what is known of the pieces.** -/
structure ExactBound (pushed : List (Piece τ)) (t : Template τ) : Prop where
  -- a side is known if it is for all pieces and the sum fits a word, and only then
  known_iff : ∀ side n, t.bound.known side = some n ↔ ∃ lengths : List Nat,
    pushed.map (Piece.known side) = lengths.map some ∧ lengths.sum = n ∧ n < UInt64.size
  -- the order of the pieces does not matter
  order : ∀ pushed', pushed.Perm pushed' → (ofPieces pushed').bound = t.bound
  -- every model that is made of the template reports it, evaluated piece by piece or compiled
  reported : ∀ m, Composed Loader.Faithful t m → m.bound = t.bound
  -- one more piece may make a side unknown or greater, but neither known nor smaller
  grows : ∀ side p n, (t.push p).bound.known side = some n →
    ∃ k ≤ n, t.bound.known side = some k

/-- **Whatever is pushed, the bound is exact**, and all models report it. -/
theorem exactBound_of_edits (edits : List (Edit τ)) :
    ExactBound (collected edits) (edited edits) := by
  have hpushed : edited edits = ofPieces (collected edits) := edited_eq_ofPieces edits
  have hnormal : (edited edits).Normal := (holds_edited edits).normal
  constructor
  · intro side n
    rw [hpushed, bound_ofPieces, known_sum]
  · intro pushed' hperm
    rw [hpushed, bound_ofPieces_of_perm hperm]
  · intro m hm
    exact hm.bound_eq hnormal
  · intro side p n hknown
    exact known_of_push hknown

/-- The least length fits a word, the greatest does not. -/
example : (ofPieces [.text "ab", .model (.ofFunction 0 .ok ⟨some 3, some 9223372036854775808⟩),
    .model (.ofFunction 1 .ok ⟨some 4, some 9223372036854775808⟩)] : Template String).bound
      = ⟨some 9, none⟩ := by
  decide

end Template

end Templating
