import Mathlib.Algebra.BigOperators.Group.List.Basic
import Templating.LengthBound

set_option autoImplicit false

/-! # Bounds add up

A side of a sum is unknown as soon as a side of a summand is or a partial sum does not fit a word.
Since a sum that is too large stays so whatever is added, neither the order of the summands nor
the place of the parentheses matters: bounds are a commutative monoid, and the bound of an exact
length is a homomorphism into it (`exact_add`). As numbers, sums are known exactly where all
summands are and their sum fits a word (`known_add`). What is known of a text is kept by sums:
lengths within their bounds have a sum within the sum (`Admits.add`).
-/

namespace Templating

theorem word?_toNat (a : UInt64) : word? a.toNat = some a := by
  rw [word?, if_pos a.toNat_lt_size, UInt64.ofNat_toNat]

theorem word?_of_le {n : Nat} (h : UInt64.size ≤ n) : word? n = none := by
  rw [word?, if_neg (Nat.not_lt.mpr h)]

theorem word?_of_lt {n : Nat} (h : n < UInt64.size) : word? n = some (UInt64.ofNat n) := by
  rw [word?, if_pos h]

/-- A count that fits a word is the number that the word stands for. -/
theorem toNat_of_word? {n : Nat} {a : UInt64} (h : word? n = some a) : a.toNat = n := by
  by_cases hn : n < UInt64.size
  · rw [word?_of_lt hn] at h
    rw [← Option.some.inj h, UInt64.toNat_ofNat_of_lt' hn]
  · rw [word?_of_le (Nat.not_lt.mp hn)] at h
    cases h

namespace LengthBound

/-! ## One side -/

@[simp] theorem addSide_none (a : Option UInt64) : addSide a none = none := by
  cases a <;> rfl

@[simp] theorem none_addSide (a : Option UInt64) : addSide none a = none := by
  cases a <;> rfl

/-- Counts are added as numbers. -/
theorem addSide_word? (m n : Nat) : addSide (word? m) (word? n) = word? (m + n) := by
  by_cases hm : m < UInt64.size
  · by_cases hn : n < UInt64.size
    · rw [word?_of_lt hm, word?_of_lt hn]
      show word? ((UInt64.ofNat m).toNat + (UInt64.ofNat n).toNat) = _
      rw [UInt64.toNat_ofNat_of_lt' hm, UInt64.toNat_ofNat_of_lt' hn]
    · rw [word?_of_le (n := n) (by omega), word?_of_le (n := m + n) (by omega), addSide_none]
  · rw [word?_of_le (n := m) (by omega), word?_of_le (n := m + n) (by omega), none_addSide]

theorem addSide_comm (a b : Option UInt64) : addSide a b = addSide b a := by
  cases a with
  | none => rw [none_addSide, addSide_none]
  | some a =>
      cases b with
      | none => rw [none_addSide, addSide_none]
      | some b => rw [← word?_toNat a, ← word?_toNat b, addSide_word?, addSide_word?, Nat.add_comm]

theorem addSide_assoc (a b c : Option UInt64) :
    addSide (addSide a b) c = addSide a (addSide b c) := by
  cases a with
  | none => simp only [none_addSide]
  | some a =>
      cases b with
      | none => simp only [none_addSide, addSide_none]
      | some b =>
          cases c with
          | none => simp only [addSide_none]
          | some c =>
              rw [← word?_toNat a, ← word?_toNat b, ← word?_toNat c]
              simp only [addSide_word?, Nat.add_assoc]

theorem zero_addSide (a : Option UInt64) : addSide (word? 0) a = a := by
  cases a with
  | none => rw [addSide_none]
  | some a => rw [← word?_toNat a, addSide_word?, Nat.zero_add]

/-- A sum is known only if both summands are, and it is their sum as numbers. -/
theorem addSide_eq_some {a b : Option UInt64} {c : UInt64} (h : addSide a b = some c) :
    ∃ x y, a = some x ∧ b = some y ∧ c.toNat = x.toNat + y.toNat := by
  cases a with
  | none =>
      rw [none_addSide] at h
      cases h
  | some x =>
      cases b with
      | none =>
          rw [addSide_none] at h
          cases h
      | some y => exact ⟨x, y, rfl, rfl, toNat_of_word? h⟩

/-! ## Both sides -/

theorem ext_sides {a b : LengthBound} (hmin : a.min = b.min) (hmax : a.max = b.max) : a = b := by
  cases a
  cases b
  simp only [LengthBound.mk.injEq]
  exact ⟨hmin, hmax⟩

instance : Zero LengthBound := ⟨.exact 0⟩

/-- **Bounds are added up in any order.** -/
instance : AddCommMonoid LengthBound where
  add_assoc a b c := ext_sides (addSide_assoc _ _ _) (addSide_assoc _ _ _)
  add_comm a b := ext_sides (addSide_comm _ _) (addSide_comm _ _)
  zero_add a := ext_sides (zero_addSide _) (zero_addSide _)
  add_zero a := by
    refine ext_sides ?_ ?_
    · exact (addSide_comm _ _).trans (zero_addSide _)
    · exact (addSide_comm _ _).trans (zero_addSide _)
  nsmul := nsmulRec

/-- The bound of two texts of known lengths is that of their length together. -/
theorem exact_add (m n : Nat) : exact (m + n) = exact m + exact n :=
  ext_sides (addSide_word? m n).symm (addSide_word? m n).symm

/-! ## Known lengths -/

/-- A side of a bound. -/
inductive Side where
  | least
  | greatest
deriving DecidableEq, Repr

/-- The number that is known on a side, if one is. -/
def known (b : LengthBound) : Side → Option Nat
  | .least => b.min.map UInt64.toNat
  | .greatest => b.max.map UInt64.toNat

/-- What is known fits a word. -/
theorem known_lt {b : LengthBound} {side : Side} {n : Nat} (h : b.known side = some n) :
    n < UInt64.size := by
  have hword : ∃ word : UInt64, word.toNat = n := by
    cases side with
    | least => exact (Option.map_eq_some_iff.mp h).imp fun _ => And.right
    | greatest => exact (Option.map_eq_some_iff.mp h).imp fun _ => And.right
  obtain ⟨word, rfl⟩ := hword
  exact word.toNat_lt

theorem map_toNat_word? {k n : Nat} :
    (word? k).map UInt64.toNat = some n ↔ k = n ∧ n < UInt64.size := by
  by_cases hk : k < UInt64.size
  · rw [word?_of_lt hk, Option.map_some, UInt64.toNat_ofNat_of_lt' hk, Option.some_inj]
    constructor
    · intro h
      exact ⟨h, by omega⟩
    · exact And.left
  · rw [word?_of_le (Nat.not_lt.mp hk), Option.map_none]
    constructor
    · intro h
      cases h
    · intro h
      omega

theorem known_exact {k n : Nat} {side : Side} :
    (exact k).known side = some n ↔ k = n ∧ n < UInt64.size := by
  cases side with
  | least => exact map_toNat_word?
  | greatest => exact map_toNat_word?

theorem map_toNat_addSide {a b : Option UInt64} {n : Nat} :
    (addSide a b).map UInt64.toNat = some n ↔ ∃ x y, a.map UInt64.toNat = some x ∧
      b.map UInt64.toNat = some y ∧ x + y = n ∧ n < UInt64.size := by
  cases a with
  | none => simp
  | some a =>
      cases b with
      | none => simp
      | some b =>
          have hsum : (addSide (some a) (some b)).map UInt64.toNat = some n
              ↔ a.toNat + b.toNat = n ∧ n < UInt64.size := map_toNat_word?
          simp [hsum]

/-- **A sum is known where both summands are**, if it fits a word. -/
theorem known_add {a b : LengthBound} {n : Nat} {side : Side} :
    (a + b).known side = some n ↔ ∃ x y, a.known side = some x ∧ b.known side = some y ∧
      x + y = n ∧ n < UInt64.size := by
  cases side with
  | least => exact map_toNat_addSide
  | greatest => exact map_toNat_addSide

/-! ## Lengths within a bound -/

/-- A text of `n` bytes is neither shorter nor longer than is known. -/
structure Admits (b : LengthBound) (n : Nat) : Prop where
  min_le : ∀ least, b.min = some least → least.toNat ≤ n
  le_max : ∀ greatest, b.max = some greatest → n ≤ greatest.toNat

theorem admits_unknown (n : Nat) : unknown.Admits n where
  min_le least h := by cases h
  le_max greatest h := by cases h

/-- An exact length is within its bound, also if it does not fit a word. -/
theorem admits_exact (n : Nat) : (exact n).Admits n where
  min_le _ h := Nat.le_of_eq (toNat_of_word? h)
  le_max _ h := Nat.le_of_eq (toNat_of_word? h).symm

/-- **Lengths within bounds add up to a length within the sum.** -/
theorem Admits.add {a b : LengthBound} {m n : Nat} (ha : a.Admits m) (hb : b.Admits n) :
    (a + b).Admits (m + n) where
  min_le least h := by
    obtain ⟨x, y, hx, hy, hsum⟩ := addSide_eq_some h
    rw [hsum]
    exact Nat.add_le_add (ha.min_le x hx) (hb.min_le y hy)
  le_max greatest h := by
    obtain ⟨x, y, hx, hy, hsum⟩ := addSide_eq_some h
    rw [hsum]
    exact Nat.add_le_add (ha.le_max x hx) (hb.le_max y hy)

end LengthBound

end Templating
