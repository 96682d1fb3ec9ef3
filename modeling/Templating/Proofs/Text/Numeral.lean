import Templating.Text.Classes
import Templating.Text.Numeral

set_option autoImplicit false

/-! # Numerals are read back

The numerals that `decimal` and `hexadecimal` write are what the readers of `Text/Numeral`
take: a decimal numeral reads as its number exactly below the limit, and the digits of base
sixteen stand for theirs. Names rely on the one and keys on the other, which differ if their
numbers do.
-/

namespace Templating.Text

/-! ## Decimal numerals -/

theorem decimal_ne_nil (n : Nat) : decimal n ≠ [] := Nat.toDigits_ne_nil

theorem isDigit_of_mem_decimal {n : Nat} {c : Char} (hc : c ∈ decimal n) : c.isDigit = true :=
  Nat.isDigit_of_mem_toDigits (by decide) (by decide) hc

theorem ofDigitChars_decimal (n : Nat) : Nat.ofDigitChars 10 (decimal n) 0 = n :=
  Nat.ofDigitChars_ten_toDigits

/-- A character that is no digit is in no decimal numeral. -/
theorem not_mem_decimal {c : Char} (hc : c.isDigit = false) (n : Nat) : c ∉ decimal n := by
  intro hmem
  rw [isDigit_of_mem_decimal hmem] at hc
  exact Bool.noConfusion hc

/-- No decimal numeral that is written begins with a plus sign, although one may be read. -/
theorem after_plus_decimal (n : Nat) : after? ['+'] (decimal n) = none := by
  cases h : decimal n with
  | nil => rfl
  | cons c cs =>
      have hc : c ≠ '+' := by
        rintro rfl
        exact not_mem_decimal (by decide) n (h ▸ List.mem_cons_self)
      simp [after?, hc.symm]

/-- **Decimal numerals are read back** exactly below the limit of the reader. -/
theorem readDecimal?_decimal (limit n : Nat) :
    readDecimal? limit (decimal n) = if n < limit then some n else none := by
  have hdigits : (decimal n).all Char.isDigit = true :=
    List.all_eq_true.mpr fun c hc => isDigit_of_mem_decimal hc
  simp [readDecimal?, after_plus_decimal, decimal_ne_nil, hdigits, ofDigitChars_decimal]

theorem readDecimal?_decimal_of_lt {limit n : Nat} (h : n < limit) :
    readDecimal? limit (decimal n) = some n := by
  rw [readDecimal?_decimal, if_pos h]

/-! ## Base sixteen -/

theorem hexDigit?_digitChar {d : Nat} (h : d < 16) : hexDigit? d.digitChar = some d := by
  have key : ∀ d : Fin 16, hexDigit? d.val.digitChar = some d.val := by decide
  exact key ⟨d, h⟩

theorem valueInBase_append (base : Nat) (ds : List Char) (c : Char) :
    valueInBase base (ds ++ [c]) = base * valueInBase base ds + (hexDigit? c).getD 0 := by
  simp [valueInBase]

/-- The digits of base sixteen stand for the number they were written for. -/
theorem valueInBase_hexadecimal (n : Nat) : valueInBase 16 (hexadecimal n) = n := by
  unfold hexadecimal
  induction n using Nat.strongRecOn with
  | ind n ih =>
      by_cases h : n < 16
      · rw [Nat.toDigits_of_lt_base h]
        simp [valueInBase, hexDigit?_digitChar h]
      · rw [Nat.toDigits_of_base_le (by decide) (by omega), valueInBase_append,
          ih (n / 16) (by omega), hexDigit?_digitChar (Nat.mod_lt n (by decide))]
        simp only [Option.getD_some]
        omega

theorem hexadecimal_injective {m n : Nat} (h : hexadecimal m = hexadecimal n) : m = n := by
  rw [← valueInBase_hexadecimal m, h, valueInBase_hexadecimal]

theorem hexadecimal_ne_nil (n : Nat) : hexadecimal n ≠ [] := Nat.toDigits_ne_nil

/-- Every digit that is written in base sixteen is a digit to the reader. -/
theorem isSome_hexDigit?_of_mem {n : Nat} {c : Char} (hc : c ∈ hexadecimal n) :
    (hexDigit? c).isSome = true := by
  unfold hexadecimal at hc
  induction n using Nat.strongRecOn with
  | ind n ih =>
      by_cases h : n < 16
      · rw [Nat.toDigits_of_lt_base h, List.mem_singleton] at hc
        rw [hc, hexDigit?_digitChar h]
        rfl
      · rw [Nat.toDigits_of_base_le (by decide) (by omega), List.mem_append,
          List.mem_singleton] at hc
        rcases hc with hc | hc
        · exact ih (n / 16) (by omega) hc
        · rw [hc, hexDigit?_digitChar (Nat.mod_lt n (by decide))]
          rfl

/-- A character that is no digit to the reader is in no numeral of base sixteen. -/
theorem not_mem_hexadecimal {c : Char} (hc : hexDigit? c = none) (n : Nat) :
    c ∉ hexadecimal n := by
  intro hmem
  have hdigit := isSome_hexDigit?_of_mem hmem
  rw [hc] at hdigit
  exact Bool.noConfusion hdigit

/-- A code point has at most six digits. -/
theorem length_hexadecimal_le (c : Char) : (hexadecimal c.toNat).length ≤ 6 := by
  refine (Nat.length_toDigits_le_iff (by decide) (by decide)).mpr ?_
  have hvalid : c.toNat.isValidChar := c.valid
  rcases hvalid with h | h <;> omega

/-- The code of a character names that character. -/
theorem scalar?_toNat (c : Char) : scalar? c.toNat = some c := by
  have hvalid : c.toNat.isValidChar := c.valid
  rw [scalar?, if_pos hvalid, Char.ofNat_toNat]

/-! ## Numerals hold no control character -/

theorem isControl_of_isDigit {c : Char} (hc : c.isDigit = true) : isControl c = false := by
  rw [Char.isDigit_iff_toNat] at hc
  have h0 : '0'.toNat = 48 := rfl
  have h9 : '9'.toNat = 57 := rfl
  simp only [isControl, Bool.or_eq_false_iff, Bool.and_eq_false_iff, decide_eq_false_iff_not]
  omega

theorem isControl_of_mem_decimal {n : Nat} {c : Char} (hc : c ∈ decimal n) :
    isControl c = false :=
  isControl_of_isDigit (isDigit_of_mem_decimal hc)

theorem isControl_of_isSome_hexDigit? {c : Char} (hc : (hexDigit? c).isSome = true) :
    isControl c = false := by
  have hrange : 48 ≤ c.toNat ∧ c.toNat ≤ 102 := by
    have key : ∀ {lo hi : Char}, lo ≤ c ∧ c ≤ hi → lo.toNat ≤ c.toNat ∧ c.toNat ≤ hi.toNat :=
      fun h => ⟨h.1, h.2⟩
    have h0 : '0'.toNat = 48 := rfl
    have h9 : '9'.toNat = 57 := rfl
    have ha : 'a'.toNat = 97 := rfl
    have hf : 'f'.toNat = 102 := rfl
    have hA : 'A'.toNat = 65 := rfl
    have hF : 'F'.toNat = 70 := rfl
    unfold hexDigit? at hc
    split at hc
    · next h => have := key h; omega
    · split at hc
      · next h => have := key h; omega
      · split at hc
        · next h => have := key h; omega
        · exact absurd hc (by simp)
  simp only [isControl, Bool.or_eq_false_iff, Bool.and_eq_false_iff, decide_eq_false_iff_not]
  omega

theorem isControl_of_mem_hexadecimal {n : Nat} {c : Char} (hc : c ∈ hexadecimal n) :
    isControl c = false :=
  isControl_of_isSome_hexDigit? (isSome_hexDigit?_of_mem hc)

end Templating.Text
