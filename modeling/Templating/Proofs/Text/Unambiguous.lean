import Mathlib.Data.List.Basic
import Templating.Proofs.Text.Grammar

set_option autoImplicit false

/-! # Literals are taken apart in one way only

`readLiteral` takes a literal from the front of its input if there is one (`Text/Grammar`). The
input leaves no choice in this: no item of a literal is the beginning of another one
(`Item.eq_of_append_eq`), and none begins with the quote, so the items and the quote that closes
them are determined (`TakenApart.unique`). What follows the closing quote has no say in it.
-/

namespace Templating.Text

/-- A literal at the front of the input, taken apart into its items, each with the character that it
stands for, and what follows the closing quote. -/
structure TakenApart (quote : Char) (input : List Char) (items : List (List Char × Char))
    (rest : List Char) : Prop where
  item : ∀ i ∈ items, Item quote i.1 i.2
  input_eq : input = quote :: items.flatMap Prod.fst ++ quote :: rest

variable {quote : Char} {input rest : List Char}

/-! ## Items -/

/-- Items one after another are some list of items. -/
theorem items_iff {inner text : List Char} :
    Items quote inner text ↔ ∃ items : List (List Char × Char),
      (∀ i ∈ items, Item quote i.1 i.2) ∧ inner = items.flatMap Prod.fst ∧
        text = items.map Prod.snd := by
  constructor
  · intro h
    induction h with
    | nil => exact ⟨[], by simp, rfl, rfl⟩
    | @cons item inner text c hitem _ ih =>
        obtain ⟨items, hitems, rfl, rfl⟩ := ih
        refine ⟨(item, c) :: items, ?_, rfl, rfl⟩
        exact List.forall_mem_cons.mpr ⟨hitem, hitems⟩
  · rintro ⟨items, hitems, rfl, rfl⟩
    induction items with
    | nil => exact .nil
    | cons i items ih =>
        obtain ⟨hi, hrest⟩ := List.forall_mem_cons.mp hitems
        exact .cons hi (ih hrest)

/-- No item begins with the quote. -/
theorem Item.append_ne {item more : List Char} {c : Char} (h : Item quote item c)
    (hq : quote ≠ '\\') : item ++ more ≠ quote :: rest := by
  intro heq
  cases h with
  | plain hquote hslash hcontrol => exact hquote (List.cons.inj heq).1
  | letter hletter => exact hq (List.cons.inj heq).1.symm
  | code hne hlength hdigits hcode => exact hq (List.cons.inj heq).1.symm

/-- The digits of a numeric escape end at the first brace after them. -/
theorem eq_of_digits_append_eq {digits digits' more more' : List Char}
    (hdigits : ∀ c ∈ digits, (hexDigit? c).isSome = true)
    (hdigits' : ∀ c ∈ digits', (hexDigit? c).isSome = true)
    (h : digits ++ '\x7d' :: more = digits' ++ '\x7d' :: more') :
    digits = digits' ∧ more = more' := by
  have hbrace : hexDigit? '\x7d' = none := by decide
  have hcut : ∀ {ds : List Char} (ms : List Char), (∀ c ∈ ds, (hexDigit? c).isSome = true) →
      cut? ['\x7d'] (ds ++ '\x7d' :: ms) = some (ds, ms) := by
    intro ds ms hds
    have hnot : '\x7d' ∉ ds := fun hmem => absurd (hds _ hmem) (by simp [hbrace])
    simpa using cut?_append hnot [] ms
  have hsame : some (digits, more) = some (digits', more') := calc
    some (digits, more) = cut? ['\x7d'] (digits ++ '\x7d' :: more) := (hcut more hdigits).symm
    _ = cut? ['\x7d'] (digits' ++ '\x7d' :: more') := by rw [h]
    _ = some (digits', more') := hcut more' hdigits'
  exact Prod.mk.inj (Option.some.inj hsame)

/-- No letter escape is the beginning of a numeric one. -/
theorem not_mem_letterEscapes_u (d : Char) : ('u', d) ∉ letterEscapes := by
  intro hd
  have hread := namedEscape?_eq_some_iff.mpr hd
  cases hread

/-- **No item is the beginning of another one**, and an item stands for one character only. -/
theorem Item.eq_of_append_eq {a b more more' : List Char} {c d : Char} (ha : Item quote a c)
    (hb : Item quote b d) (h : a ++ more = b ++ more') : a = b ∧ c = d ∧ more = more' := by
  cases ha with
  | plain _ hslash _ =>
      cases hb with
      | plain _ _ _ =>
          obtain ⟨rfl, hmore⟩ := List.cons.inj h
          exact ⟨rfl, rfl, hmore⟩
      | letter _ => exact absurd (List.cons.inj h).1 hslash
      | code _ _ _ _ => exact absurd (List.cons.inj h).1 hslash
  | @letter l _ hl =>
      cases hb with
      | plain _ hslash _ => exact absurd (List.cons.inj h).1.symm hslash
      | @letter l' _ hl' =>
          obtain ⟨rfl, hmore⟩ := List.cons.inj (List.cons.inj h).2
          have hcd : some c = some d := by
            rw [← namedEscape?_eq_some_iff.mpr hl, namedEscape?_eq_some_iff.mpr hl']
          exact ⟨rfl, Option.some.inj hcd, hmore⟩
      | code _ _ _ _ =>
          obtain ⟨rfl, -⟩ := List.cons.inj (List.cons.inj h).2
          exact absurd hl (not_mem_letterEscapes_u c)
  | @code digits _ _ _ hdigits hcode =>
      cases hb with
      | plain _ hslash _ => exact absurd (List.cons.inj h).1.symm hslash
      | letter hl' =>
          obtain ⟨rfl, -⟩ := List.cons.inj (List.cons.inj h).2
          exact absurd hl' (not_mem_letterEscapes_u d)
      | @code digits' _ _ _ hdigits' hcode' =>
          have hafter : digits ++ '\x7d' :: more = digits' ++ '\x7d' :: more' := by
            simpa using h
          obtain ⟨rfl, hmore⟩ := eq_of_digits_append_eq hdigits hdigits' hafter
          exact ⟨rfl, Char.toNat_inj.mp (hcode.symm.trans hcode'), hmore⟩

/-! ## Literals -/

/-- The items between the quotes and what follows them are determined. -/
theorem eq_of_flatMap_append_eq {items items' : List (List Char × Char)} {rest' : List Char}
    (hq : quote ≠ '\\') (hitems : ∀ i ∈ items, Item quote i.1 i.2)
    (hitems' : ∀ i ∈ items', Item quote i.1 i.2)
    (h : items.flatMap Prod.fst ++ quote :: rest = items'.flatMap Prod.fst ++ quote :: rest') :
    items = items' ∧ rest = rest' := by
  induction items generalizing items' with
  | nil =>
      cases items' with
      | nil => exact ⟨rfl, (List.cons.inj h).2⟩
      | cons i' items' =>
          rw [List.flatMap_cons, List.append_assoc] at h
          exact absurd h.symm ((hitems' i' List.mem_cons_self).append_ne hq)
  | cons i items ih =>
      obtain ⟨hi, hrest⟩ := List.forall_mem_cons.mp hitems
      cases items' with
      | nil =>
          rw [List.flatMap_cons, List.append_assoc] at h
          exact absurd h (hi.append_ne hq)
      | cons i' items' =>
          obtain ⟨hi', hrest'⟩ := List.forall_mem_cons.mp hitems'
          simp only [List.flatMap_cons, List.append_assoc] at h
          obtain ⟨hitem, hchar, hmore⟩ := hi.eq_of_append_eq hi' h
          obtain ⟨rfl, rfl⟩ := ih hrest hrest' hmore
          exact ⟨congrArg (· :: items) (Prod.ext hitem hchar), rfl⟩

/-- **A literal at the front of the input is taken apart in one way only.** -/
theorem TakenApart.unique {items items' : List (List Char × Char)} {rest' : List Char}
    (hq : quote ≠ '\\') (h : TakenApart quote input items rest)
    (h' : TakenApart quote input items' rest') : items = items' ∧ rest = rest' := by
  have heq := (List.cons.inj (h.input_eq.symm.trans h'.input_eq)).2
  exact eq_of_flatMap_append_eq hq h.item h'.item heq

/-- A literal is read as the characters that its items stand for. -/
theorem readLiteral_eq_ok_iff_takenApart {text : List Char} (hq : quote ≠ '\\') :
    readLiteral quote input = .ok (text, rest) ↔
      ∃ items, TakenApart quote input items rest ∧ text = items.map Prod.snd := by
  rw [readLiteral_eq_ok_iff hq]
  constructor
  · rintro ⟨_, ⟨inner, hinner, rfl⟩, rfl⟩
    obtain ⟨items, hitems, rfl, rfl⟩ := items_iff.mp hinner
    exact ⟨items, ⟨hitems, by simp⟩, rfl⟩
  · rintro ⟨items, ⟨hitems, rfl⟩, rfl⟩
    have hinner := items_iff.mpr ⟨items, hitems, rfl, rfl⟩
    exact ⟨_, ⟨_, hinner, rfl⟩, by simp⟩

/-- What a reader of literals goes by. -/
structure Unambiguous (quote : Char) (input : List Char) : Prop where
  -- it takes exactly the literals, which stand for what their items stand for
  accepts : ∀ text rest, readLiteral quote input = .ok (text, rest) ↔
    ∃ items, TakenApart quote input items rest ∧ text = items.map Prod.snd
  -- there is one way to take the input apart
  unique : ∀ items rest items' rest', TakenApart quote input items rest →
    TakenApart quote input items' rest' → items = items' ∧ rest = rest'
  -- the closing quote ends the literal, whatever follows it
  closed : ∀ text rest, readLiteral quote input = .ok (text, rest) →
    ∃ inner, input = quote :: inner ++ quote :: rest ∧
      ∀ rest', readLiteral quote (quote :: inner ++ quote :: rest') = .ok (text, rest')

/-- **Reading literals accepts the grammar of literals**, which is unambiguous. -/
theorem unambiguous_readLiteral {quote : Char} (hq : quote ≠ '\\') (input : List Char) :
    Unambiguous quote input where
  accepts _ _ := readLiteral_eq_ok_iff_takenApart hq
  unique _ _ _ _ h h' := h.unique hq h'
  closed text rest h := by
    obtain ⟨items, ⟨hitems, rfl⟩, rfl⟩ := (readLiteral_eq_ok_iff_takenApart hq).mp h
    refine ⟨items.flatMap Prod.fst, rfl, fun rest' => ?_⟩
    exact (readLiteral_eq_ok_iff_takenApart hq).mpr ⟨items, ⟨hitems, rfl⟩, rfl⟩

/-- A literal in double quotes with an escaped quote, and one in single quotes with a code. -/
theorem unambiguous_readLiteral_escapes :
    let double := ['"', 'a', '\\', '"', '\'', '"', ' ', '"']
    let single := ['\'', '\\', 'u', '\x7b', 'E', '9', '\x7d', '\'']
    readLiteral '"' double = .ok (['a', '"', '\''], [' ', '"']) ∧ Unambiguous '"' double ∧
      readLiteral '\'' single = .ok (['\xe9'], []) ∧ Unambiguous '\'' single := by
  intro double single
  exact ⟨by decide, unambiguous_readLiteral (by decide) double, by decide,
    unambiguous_readLiteral (by decide) single⟩

end Templating.Text
