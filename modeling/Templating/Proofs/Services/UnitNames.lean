import Mathlib.Data.List.Basic
import Templating.Proofs.Text.Lines
import Templating.Proofs.Text.Numeral
import Templating.Services.UnitNames

set_option autoImplicit false

/-! # Unit names differ

A source of unit names issues the same name at the same count only, because the count can be read
off the name (`readName?_current`): all names of a source begin with its prefix, and the page number
that follows ends at the first separator. The prefix may hold anything, digits and separators
included. The count itself is a word, so the names of a source differ until it has issued as many as
there are words (`distinct_nth`).
-/

namespace Templating.UnitNames

/-! ## One name -/

/-- The characters of the name that is issued next. -/
theorem toList_current (n : UnitNames) :
    n.current.toList = n.namePrefix.toList
      ++ (Text.decimal (n.issued / n.pageSize).toNat
        ++ '$' :: Text.decimal (n.issued % n.pageSize).toNat) := by
  have hdecimal : ∀ k : Nat, (toString k).toList = Text.decimal k := by
    intro k
    rw [Nat.toString_eq_ofList_toDigits, String.toList_ofList]
    rfl
  have hdollar : "$".toList = ['$'] := rfl
  simp only [current, String.toList_append, hdecimal, hdollar, List.append_assoc,
    List.singleton_append]

/-- The page and the place on it that a name tells after the prefix. -/
def readName? (namePrefix name : String) : Option (Nat × Nat) := do
  let numbers ← Text.after? namePrefix.toList name.toList
  let (page, place) ← Text.cut? ['$'] numbers
  return (← Text.readDecimal? UInt64.size page, ← Text.readDecimal? UInt64.size place)

/-- **A name tells its page and its place on the page**, whatever the prefix holds. -/
theorem readName?_current (n : UnitNames) :
    readName? n.namePrefix n.current
      = some (n.issued.toNat / n.pageSize.toNat, n.issued.toNat % n.pageSize.toNat) := by
  have hnot : '$' ∉ Text.decimal (n.issued / n.pageSize).toNat := Text.not_mem_decimal (by decide) _
  have hcut := Text.cut?_append hnot [] (Text.decimal (n.issued % n.pageSize).toNat)
  rw [List.append_assoc, List.singleton_append] at hcut
  have hread : ∀ word : UInt64,
      Text.readDecimal? UInt64.size (Text.decimal word.toNat) = some word.toNat := fun word =>
    Text.readDecimal?_decimal_of_lt word.toNat_lt_size
  rw [← UInt64.toNat_div, ← UInt64.toNat_mod]
  simp only [readName?, toList_current, Text.after?_append, hcut, hread, Option.bind_eq_bind,
    Option.bind_some]
  rfl

/-- The name that is issued at the given count. -/
def nameAt (n : UnitNames) (count : UInt64) : String := { n with issued := count }.current

/-- **A source issues equal names at equal counts only.** -/
theorem nameAt_injective {n : UnitNames} {a b : UInt64} (h : n.nameAt a = n.nameAt b) :
    a = b := by
  have hread : ∀ count : UInt64, readName? n.namePrefix (n.nameAt count)
      = some (count.toNat / n.pageSize.toNat, count.toNat % n.pageSize.toNat) := fun count =>
    readName?_current { n with issued := count }
  have hsame := (hread a).symm.trans (h ▸ hread b)
  obtain ⟨hdiv, hmod⟩ := Prod.mk.inj (Option.some.inj hsame)
  have hcount : a.toNat = b.toNat := calc
    a.toNat = n.pageSize.toNat * (a.toNat / n.pageSize.toNat) + a.toNat % n.pageSize.toNat :=
      (Nat.div_add_mod _ _).symm
    _ = n.pageSize.toNat * (b.toNat / n.pageSize.toNat) + b.toNat % n.pageSize.toNat := by
      rw [hdiv, hmod]
    _ = b.toNat := Nat.div_add_mod _ _
  exact UInt64.toNat_inj.mp hcount

/-- A name holds a control character only where the prefix does. -/
theorem noControl_current {n : UnitNames} (h : Text.NoControl n.namePrefix.toList) :
    Text.NoControl n.current.toList := by
  have hdecimal : ∀ k : Nat, Text.NoControl (Text.decimal k) := fun k c hc =>
    Text.isControl_of_mem_decimal hc
  rw [toList_current, Text.noControl_append, Text.noControl_append, Text.noControl_cons]
  exact ⟨h, hdecimal _, by decide, hdecimal _⟩

/-! ## One name after another -/

/-- The source after it has issued `count` names. -/
def after (n : UnitNames) : (count : Nat) → UnitNames
  | 0 => n
  | count + 1 => (n.after count).next.2

/-- The name that is issued after `count` others. -/
def nth (n : UnitNames) (count : Nat) : String := (n.after count).next.1

/-- Issuing names only counts them. -/
theorem after_eq (n : UnitNames) (count : Nat) :
    n.after count = { n with issued := n.issued + UInt64.ofNat count } := by
  induction count with
  | zero => simp [after]
  | succ count ih =>
      rw [after, ih]
      simp [next, UInt64.ofNat_add, UInt64.add_assoc]

/-- A new source issues its names at the counts from zero on. -/
theorem nth_new (namePrefix : String) (pageSize : UInt64) (count : Nat) :
    (new namePrefix pageSize).nth count
      = (new namePrefix pageSize).nameAt (UInt64.ofNat count) := by
  have hzero : (new namePrefix pageSize).issued + UInt64.ofNat count = UInt64.ofNat count :=
    UInt64.zero_add _
  rw [nth, after_eq, hzero]
  rfl

/-- A name tells how many were issued before it, as far as a word can count. -/
theorem readName?_nth {namePrefix : String} {pageSize : UInt64} {count : Nat}
    (hcount : count < UInt64.size) :
    readName? namePrefix ((new namePrefix pageSize).nth count)
      = some (count / max pageSize.toNat 1, count % max pageSize.toNat 1) := by
  have hread := readName?_current { new namePrefix pageSize with issued := UInt64.ofNat count }
  have hsize : (new namePrefix pageSize).pageSize.toNat = max pageSize.toNat 1 :=
    UInt64.toNat_max pageSize 1
  rw [UInt64.toNat_ofNat_of_lt' hcount, hsize] at hread
  rw [nth_new]
  exact hread

/-- **No name is issued twice** as long as the names can be counted, whatever the prefix and the
size of the pages. Each name tells its page and its place there, and with them how many names were
issued before it. The numbers add no control character to the prefix. -/
theorem distinct_nth (namePrefix : String) (pageSize : UInt64) :
    let names := (new namePrefix pageSize).nth
    let size := max pageSize.toNat 1
    (∀ i, i < UInt64.size → ∃ page place, readName? namePrefix (names i) = some (page, place) ∧
      place < size ∧ i = page * size + place) ∧
    (∀ i j, i < j → j < UInt64.size → names i ≠ names j) ∧
    (Text.NoControl namePrefix.toList → ∀ i, Text.NoControl (names i).toList) := by
  intro names size
  refine ⟨?_, ?_, ?_⟩
  · intro i hi
    have hpos : 0 < size := Nat.lt_of_lt_of_le Nat.zero_lt_one (Nat.le_max_right _ _)
    have hcount : i = i / size * size + i % size := by
      rw [Nat.mul_comm]
      exact (Nat.div_add_mod i size).symm
    exact ⟨i / size, i % size, readName?_nth hi, Nat.mod_lt i hpos, hcount⟩
  · intro i j hij hj hname
    have hi : i < UInt64.size := Nat.lt_trans hij hj
    have hwords : UInt64.ofNat i = UInt64.ofNat j := by
      apply nameAt_injective (n := new namePrefix pageSize)
      rw [← nth_new, ← nth_new]
      exact hname
    have hcount : i = j := calc
      i = (UInt64.ofNat i).toNat := (UInt64.toNat_ofNat_of_lt' hi).symm
      _ = (UInt64.ofNat j).toNat := by rw [hwords]
      _ = j := UInt64.toNat_ofNat_of_lt' hj
    omega
  · intro hprefix i
    show Text.NoControl (nth _ i).toList
    rw [nth_new]
    exact noControl_current hprefix

/-- Pages of three names, after a prefix that looks like a name itself. -/
example : (List.range 4).map (new "p1$" 3).nth
    = ["p1$0$0", "p1$0$1", "p1$0$2", "p1$1$0"] := by
  decide

end Templating.UnitNames
