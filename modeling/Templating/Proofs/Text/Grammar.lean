import Templating.Proofs.Text.Literal

set_option autoImplicit false

/-! # The grammar of numerals and literals

What the readers of `Text/Numeral` and `Text/Literal` take, said without them. A number may be
spelled with a plus sign and leading zeros (`SpellsNumber`). A literal is a sequence of items
between two quotes (`SpellsLiteral`), each item a character that stands for itself or an escape
(`Item`). The readers accept exactly these spellings (`readDecimal?_eq_some_iff`,
`readLiteral_eq_ok_iff`), and a reader of literals stops at the first quote that no item takes up.
-/

namespace Templating.Text

/-- A result that is changed is the changed result. -/
theorem map_eq_ok_iff {ε α β : Type} {f : α → β} {result : Except ε α} {b : β} :
    result.map f = .ok b ↔ ∃ a, result = .ok a ∧ f a = b := by
  cases result with
  | error e =>
      constructor
      · intro h
        cases h
      · rintro ⟨a, h, -⟩
        cases h
  | ok a =>
      constructor
      · intro h
        exact ⟨a, rfl, Except.ok.inj h⟩
      · rintro ⟨_, ha, rfl⟩
        rw [Except.ok.inj ha]
        rfl

/-- An error is not changed. -/
theorem map_eq_error_iff {ε α β : Type} {f : α → β} {result : Except ε α} {e : ε} :
    result.map f = .error e ↔ result = .error e := by
  cases result with
  | error _ => simp only [Except.map, Except.error.injEq]
  | ok _ => simp only [Except.map, reduceCtorEq]

/-! ## Beginnings and separators -/

theorem after?_eq_some_iff {lead text rest : List Char} :
    after? lead text = some rest ↔ text = lead ++ rest := by
  constructor
  · intro h
    induction lead generalizing text with
    | nil => exact Option.some.inj h
    | cons l lead ih =>
        cases text with
        | nil => cases h
        | cons c text =>
            by_cases hc : l = c
            · rw [after?, if_pos hc] at h
              rw [ih h, hc, List.cons_append]
            · rw [after?_cons_ne hc] at h
              cases h
  · rintro rfl
    exact after?_append lead rest

/-- What a text is cut into is the text without its first separator. -/
theorem eq_of_cut?_eq_some {separator text before rest : List Char}
    (h : cut? separator text = some (before, rest)) : text = before ++ separator ++ rest := by
  induction text generalizing before with
  | nil =>
      rw [cut?] at h
      split at h
      · next hseparator =>
          obtain ⟨rfl, rfl⟩ := Prod.mk.inj (Option.some.inj h)
          rw [hseparator]
          rfl
      · cases h
  | cons c text ih =>
      rw [cut?] at h
      split at h
      · next hafter =>
          obtain ⟨rfl, rfl⟩ := Prod.mk.inj (Option.some.inj h)
          rw [List.nil_append]
          exact after?_eq_some_iff.mp hafter
      · obtain ⟨⟨front, tail⟩, hcut, hfront⟩ := Option.map_eq_some_iff.mp h
        obtain ⟨rfl, rfl⟩ := Prod.mk.inj hfront
        rw [ih hcut]
        rfl

/-! ## Numbers -/

/-- The text spells the number `n`, which is below `limit`: one or more digits `0` to `9`, with or
without a plus sign before them. -/
structure SpellsNumber (limit : Nat) (text : List Char) (n : Nat) : Prop where
  digits : ∃ digits, (text = digits ∨ text = '+' :: digits) ∧ digits ≠ [] ∧
    (∀ c ∈ digits, c.isDigit = true) ∧ Nat.ofDigitChars 10 digits 0 = n
  lt : n < limit

/-- The digits that are left once a plus sign is taken away. -/
theorem getD_after?_plus {text digits : List Char} (h : text = digits ∨ text = '+' :: digits)
    (hdigits : ∀ c ∈ digits, c.isDigit = true) : (after? ['+'] text).getD text = digits := by
  rcases h with rfl | rfl
  · cases text with
    | nil => rfl
    | cons c cs =>
        have hc : '+' ≠ c := by
          rintro rfl
          exact absurd (hdigits '+' List.mem_cons_self) (by decide)
        rw [after?_cons_ne hc, Option.getD_none]
  · rfl

/-- **Numbers are read from exactly their spellings.** -/
theorem readDecimal?_eq_some_iff {limit n : Nat} {text : List Char} :
    readDecimal? limit text = some n ↔ SpellsNumber limit text n := by
  constructor
  · intro h
    simp only [readDecimal?] at h
    split at h
    · next hread =>
        obtain ⟨hne, hdigits, hlt⟩ := hread
        obtain rfl := Option.some.inj h
        refine ⟨⟨_, ?_, hne, List.all_eq_true.mp hdigits, rfl⟩, hlt⟩
        cases hafter : after? ['+'] text with
        | none => exact Or.inl rfl
        | some digits => exact Or.inr (after?_eq_some_iff.mp hafter)
    · cases h
  · rintro ⟨⟨digits, htext, hne, hdigits, rfl⟩, hlt⟩
    have hall : digits.all Char.isDigit = true := List.all_eq_true.mpr hdigits
    simp only [readDecimal?, getD_after?_plus htext hdigits]
    rw [if_pos ⟨hne, hall, hlt⟩]

theorem SpellsNumber.not_mem {limit n : Nat} {text : List Char} (h : SpellsNumber limit text n)
    {c : Char} (hc : c.isDigit = false) (hplus : c ≠ '+') : c ∉ text := by
  obtain ⟨digits, htext, -, hdigits, -⟩ := h.digits
  have hnot : c ∉ digits := by
    intro hmem
    rw [hdigits c hmem] at hc
    cases hc
  rcases htext with rfl | rfl
  · exact hnot
  · rw [List.mem_cons, not_or]
    exact ⟨hplus, hnot⟩

/-! ## Literals -/

/-- The escapes of one letter, with what they stand for. -/
def letterEscapes : List (Char × Char) :=
  [('\\', '\\'), ('"', '"'), ('\'', '\''), ('n', '\n'), ('r', '\r'), ('t', '\t'), ('0', '\x00')]

/-- An item of a literal in the given quotes, with the character that it stands for. -/
inductive Item (quote : Char) : List Char → Char → Prop where
  -- a character that stands for itself
  | plain {c : Char} (hquote : c ≠ quote) (hslash : c ≠ '\\') (hcontrol : isControl c = false) :
      Item quote [c] c
  | letter {c d : Char} (h : (c, d) ∈ letterEscapes) : Item quote ['\\', c] d
  -- one to six digits of base sixteen, which name a character by its code point
  | code {digits : List Char} {d : Char} (hne : digits ≠ []) (hlength : digits.length ≤ 6)
      (hdigits : ∀ c ∈ digits, (hexDigit? c).isSome = true)
      (hcode : valueInBase 16 digits = d.toNat) :
      Item quote ('\\' :: 'u' :: '\x7b' :: digits ++ ['\x7d']) d

/-- Items one after another, with the text that they stand for. -/
inductive Items (quote : Char) : List Char → List Char → Prop where
  | nil : Items quote [] []
  | cons {item inner text : List Char} {c : Char} (hitem : Item quote item c)
      (hinner : Items quote inner text) : Items quote (item ++ inner) (c :: text)

/-- A literal in the given quotes, with the text that it stands for. -/
def SpellsLiteral (quote : Char) (literal text : List Char) : Prop :=
  ∃ inner, Items quote inner text ∧ literal = quote :: inner ++ [quote]

/-! ### What is read is a literal -/

theorem namedEscape?_eq_some_iff {c d : Char} :
    namedEscape? c = some d ↔ (c, d) ∈ letterEscapes := by
  constructor
  · intro h
    unfold namedEscape? at h
    split at h <;> cases h <;> decide
  · intro h
    simp only [letterEscapes, List.mem_cons, List.not_mem_nil, or_false, Prod.mk.injEq] at h
    rcases h with ⟨rfl, rfl⟩ | ⟨rfl, rfl⟩ | ⟨rfl, rfl⟩ | ⟨rfl, rfl⟩ | ⟨rfl, rfl⟩ | ⟨rfl, rfl⟩ |
      ⟨rfl, rfl⟩ <;> rfl

theorem scalar?_eq_some_iff {code : Nat} {c : Char} : scalar? code = some c ↔ code = c.toNat := by
  constructor
  · intro h
    unfold scalar? at h
    split at h
    · next hvalid =>
        rw [← Option.some.inj h, Char.ofNat, dif_pos hvalid]
        rfl
    · cases h
  · rintro rfl
    exact scalar?_toNat c

theorem prepend_eq_ok_iff {c : Char} {read : Except LiteralError (List Char × List Char)}
    {text tail : List Char} :
    prepend c read = .ok (text, tail) ↔ ∃ more, read = .ok (more, tail) ∧ text = c :: more := by
  constructor
  · intro h
    obtain ⟨⟨more, rest⟩, hread, hmore⟩ := map_eq_ok_iff.mp h
    obtain ⟨rfl, rfl⟩ := Prod.mk.inj hmore
    exact ⟨more, hread, rfl⟩
  · rintro ⟨more, rfl, rfl⟩
    rfl

/-- What was read of the item that a reader is inside of. -/
def LiteralMode.lead : LiteralMode → List Char
  | plain => []
  | escape => ['\\']
  | brace => ['\\', 'u']
  | digits seen => '\\' :: 'u' :: '\x7b' :: seen

/-- What a reader has seen of an item is the beginning of one. -/
def LiteralMode.Valid : LiteralMode → Prop
  | digits seen => seen.length ≤ 6 ∧ ∀ c ∈ seen, (hexDigit? c).isSome = true
  | _ => True

/-- Up to the closing quote a reader reads items, the first of which it may be inside of. -/
theorem items_of_readItems {quote : Char} {mode : LiteralMode} {input text rest : List Char}
    (hmode : mode.Valid) (h : readItems quote mode input = .ok (text, rest)) :
    ∃ inner, Items quote (mode.lead ++ inner) text ∧ input = inner ++ quote :: rest := by
  -- the item that ends here, and what is read after it
  have item {item input text : List Char} {d : Char} (hitem : Item quote item d)
      (hread : prepend d (readItems quote .plain input) = .ok (text, rest))
      (ih : ∀ {text}, readItems quote .plain input = .ok (text, rest) →
        ∃ inner, Items quote inner text ∧ input = inner ++ quote :: rest) :
      ∃ inner, Items quote (item ++ inner) text ∧ input = inner ++ quote :: rest := by
    obtain ⟨more, hmore, rfl⟩ := prepend_eq_ok_iff.mp hread
    obtain ⟨inner, hitems, hinput⟩ := ih hmore
    exact ⟨inner, .cons hitem hitems, hinput⟩
  fun_induction readItems quote mode input generalizing text with
  | case1 => cases h
  | case2 => cases h
  | case3 => cases h
  | case4 => cases h
  | case5 tail =>
      -- the closing quote
      obtain ⟨rfl, rfl⟩ := Prod.mk.inj (Except.ok.inj h)
      exact ⟨[], .nil, rfl⟩
  | case6 tail _ ih =>
      obtain ⟨inner, hitems, rfl⟩ := ih trivial h
      exact ⟨'\\' :: inner, hitems, rfl⟩
  | case7 => cases h
  | case8 c tail hquote hslash hcontrol ih =>
      obtain ⟨inner, hitems, rfl⟩ :=
        item (.plain hquote hslash (by simpa using hcontrol)) h (ih trivial)
      exact ⟨c :: inner, hitems, rfl⟩
  | case9 c tail d hd ih =>
      obtain ⟨inner, hitems, rfl⟩ := item (.letter (namedEscape?_eq_some_iff.mp hd)) h (ih trivial)
      exact ⟨c :: inner, hitems, rfl⟩
  | case10 tail _ ih =>
      obtain ⟨inner, hitems, rfl⟩ := ih trivial h
      exact ⟨'u' :: inner, hitems, rfl⟩
  | case11 => cases h
  | case12 tail ih =>
      obtain ⟨inner, hitems, rfl⟩ := ih ⟨Nat.zero_le _, by simp⟩ h
      exact ⟨'\x7b' :: inner, hitems, rfl⟩
  | case13 => cases h
  | case14 seen tail d hd ih =>
      -- the brace that ends a numeric escape
      split at hd
      · cases hd
      next hne =>
      have hcode := scalar?_eq_some_iff.mp hd
      obtain ⟨inner, hitems, rfl⟩ := item (.code hne hmode.1 hmode.2 hcode) h (ih trivial)
      exact ⟨'\x7d' :: inner, by simpa [LiteralMode.lead] using hitems, rfl⟩
  | case15 => cases h
  | case16 seen c tail _ hc ih =>
      have hvalid : (LiteralMode.digits (seen ++ [c])).Valid := by
        refine ⟨?_, ?_⟩
        · rw [List.length_append, List.length_singleton]
          omega
        · intro d hd
          rcases List.mem_append.mp hd with hd | hd
          · exact hmode.2 d hd
          · rw [List.mem_singleton.mp hd]
            exact hc.1
      obtain ⟨inner, hitems, rfl⟩ := ih hvalid h
      exact ⟨c :: inner, by simpa [LiteralMode.lead] using hitems, rfl⟩
  | case17 => cases h

/-! ### A literal is read -/

/-- Each item is read as the character that it stands for. -/
theorem readItems_item {quote c : Char} {item : List Char} (hq : quote ≠ '\\')
    (h : Item quote item c) (rest : List Char) :
    readItems quote .plain (item ++ rest) = prepend c (readItems quote .plain rest) := by
  cases h with
  | plain hquote hslash hcontrol => exact readItems_self hquote hslash hcontrol rest
  | letter hletter => exact readItems_namedEscape hq (namedEscape?_eq_some_iff.mpr hletter) rest
  | code hne hlength hdigits hcode =>
      simp only [List.cons_append, List.append_assoc, List.nil_append]
      exact readItems_code hq hne hlength hdigits (scalar?_eq_some_iff.mpr hcode) rest

theorem readItems_items {quote : Char} {inner text : List Char} (hq : quote ≠ '\\')
    (h : Items quote inner text) (rest : List Char) :
    readItems quote .plain (inner ++ quote :: rest) = .ok (text, rest) := by
  induction h with
  | nil => exact readItems_quote quote rest
  | cons hitem _ ih => rw [List.append_assoc, readItems_item hq hitem, ih, prepend_ok]

/-- **A literal is read from the front of exactly those texts that begin with it.** -/
theorem readLiteral_eq_ok_iff {quote : Char} {input text rest : List Char} (hq : quote ≠ '\\') :
    readLiteral quote input = .ok (text, rest) ↔
      ∃ literal, SpellsLiteral quote literal text ∧ input = literal ++ rest := by
  constructor
  · intro h
    cases input with
    | nil => cases h
    | cons c input =>
        rw [readLiteral] at h
        split at h
        · next hc =>
            have hplain : LiteralMode.plain.Valid := trivial
            obtain ⟨inner, hitems, rfl⟩ := items_of_readItems hplain h
            exact ⟨_, ⟨inner, hitems, rfl⟩, by simp [hc]⟩
        · cases h
  · rintro ⟨literal, ⟨inner, hitems, rfl⟩, rfl⟩
    rw [List.cons_append, List.cons_append, List.append_assoc, readLiteral, if_pos rfl]
    exact readItems_items hq hitems rest

/-- A text is read to its end as a literal exactly if it is one. -/
theorem readLiteral_eq_ok_nil_iff {quote : Char} {input text : List Char} (hq : quote ≠ '\\') :
    readLiteral quote input = .ok (text, []) ↔ SpellsLiteral quote input text := by
  rw [readLiteral_eq_ok_iff hq]
  simp only [List.append_nil, exists_eq_right']

end Templating.Text
