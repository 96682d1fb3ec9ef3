set_option autoImplicit false

/-! # Length bounds

What is known about the length of a text before it is evaluated: a least and a greatest
number of UTF-8 bytes, each a 64-bit word or unknown. The two sides are independent. Bounds
of texts that are written one after another add up side by side, and a side whose sum does
not fit a word becomes unknown.
-/

namespace Templating

/-- The count `n` as a 64-bit word, if it fits one. -/
def word? (n : Nat) : Option UInt64 :=
  if n < UInt64.size then some (UInt64.ofNat n) else none

/-- The word nearest to `n`: `n` itself if it fits, the greatest word otherwise. -/
def nearestWord (n : Nat) : UInt64 :=
  UInt64.ofNat (min n (UInt64.size - 1))

/-- The least and the greatest length of a text in bytes, each side known or not. -/
structure LengthBound where
  -- no evaluation is shorter, if known
  min : Option UInt64
  -- no evaluation is longer, if known
  max : Option UInt64
deriving DecidableEq, Repr

namespace LengthBound

/-- Nothing is known. -/
def unknown : LengthBound := ⟨none, none⟩

/-- The bound of a text of exactly `n` bytes. -/
def exact (n : Nat) : LengthBound := ⟨word? n, word? n⟩

/-- The sum of one side of two bounds, known when both are known and the sum fits a word. -/
def addSide : Option UInt64 → Option UInt64 → Option UInt64
  | some a, some b => word? (a.toNat + b.toNat)
  | _, _ => none

/-- The bound of two texts written one after the other. -/
instance : Add LengthBound where
  add a b := ⟨addSide a.min b.min, addSide a.max b.max⟩

end LengthBound

end Templating
