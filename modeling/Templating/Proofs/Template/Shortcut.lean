import Templating.Proofs.Template.Canonical
import Templating.Proofs.Template.Content

set_option autoImplicit false

/-! # Templates that need no evaluation

When a template has a shortcut, and which model it is, can be told from the pieces that were
pushed (`shortcuts_of_pushes`). The model is the canonical empty one if no piece added any text, and
it is a model that was pushed if that one alone counts; in any case it cannot be told apart from the
model that evaluates the template piece by piece. All of it rests on the normal form: the pieces of
a template are laid out for its content, so few pieces have little content, however many were
pushed.
-/

namespace Templating

variable {τ : Type}

/-- The piece adds no text: an empty text, or a model whose text is fixed and empty. -/
def Piece.Silent (p : Piece τ) : Prop := p.fixedText? = some ""

theorem Model.isEmpty_of_varying {m : Model τ} (h : m.fixedText? = none) : m.isEmpty = false := by
  cases m with
  | empty => cases h
  | fixed self text => cases h
  | dynamic self bound eval keeps => rfl

namespace Template

/-- The model `m` was pushed, its text varies, and no other piece added any text. -/
def Alone (m : Model τ) (pushed : List (Piece τ)) : Prop :=
  ∃ before after, pushed = before ++ .model m :: after ∧ m.isDynamic = true ∧
    ∀ p ∈ before ++ after, p.Silent

/-- The shortcut, with the empty model told from the counts and not from the pieces alone: no piece,
or neither a model nor a byte of text. -/
def countedShortcut? (self : Instance) (t : Template τ) : Option (Model τ) :=
  if t.pieces.isEmpty || (!t.isDynamic && t.textLength == 0) then some .empty
  else match t.pieces with
    | [.text text] => some (.fixed self text)
    | [.model m] => some m
    | _ => none

variable {pushed : List (Piece τ)} {p : Piece τ} {m : Model τ}

theorem alone_concat : Alone m (pushed ++ [p]) ↔
    (Alone m pushed ∧ p.Silent) ∨
      ((∀ q ∈ pushed, q.Silent) ∧ p = .model m ∧ m.isDynamic = true) := by
  constructor
  · rintro ⟨before, after, heq, hm, hsilent⟩
    rcases List.eq_nil_or_concat after with rfl | ⟨after, q, rfl⟩
    · -- the model was pushed last
      obtain ⟨rfl, hp⟩ := List.append_inj' heq rfl
      rw [List.append_nil] at hsilent
      exact Or.inr ⟨hsilent, List.singleton_inj.mp hp, hm⟩
    · rw [List.concat_eq_append, ← List.cons_append, ← List.append_assoc] at heq
      obtain ⟨rfl, hp⟩ := List.append_inj' heq rfl
      obtain rfl : p = q := List.singleton_inj.mp hp
      refine Or.inl ⟨⟨before, after, rfl, hm, fun q hq => hsilent q ?_⟩, hsilent p ?_⟩
      · rcases List.mem_append.mp hq with hq | hq
        · exact List.mem_append_left _ hq
        · exact List.mem_append_right _ (by simp [hq])
      · exact List.mem_append_right _ (by simp)
  · rintro (⟨⟨before, after, rfl, hm, hsilent⟩, hp⟩ | ⟨hsilent, rfl, hm⟩)
    · refine ⟨before, after ++ [p], by simp, hm, fun q hq => ?_⟩
      rw [← List.append_assoc] at hq
      rcases List.mem_append.mp hq with hq | hq
      · exact hsilent q hq
      · rwa [List.mem_singleton.mp hq]
    · exact ⟨pushed, [], rfl, hm, by simpa using hsilent⟩

/-! ## Little content -/

/-- The content that is one model. -/
def Content.only (m : Model τ) : Content τ := ⟨[("", m)], ""⟩

/-- A piece with a fixed text adds that text. -/
theorem Content.add_of_fixed (c : Content τ) {s : String} (h : p.fixedText? = some s) :
    c.add p = { c with rest := c.rest ++ s } := by
  cases p with
  | text t =>
      rw [← Option.some.inj h]
      rfl
  | model m => exact c.add_of_fixedText? h

/-- A piece without a fixed text is a model whose text varies. -/
theorem eq_model_of_fixedText?_eq_none (h : p.fixedText? = none) :
    ∃ m, p = .model m ∧ m.fixedText? = none := by
  cases p with
  | text s => cases h
  | model m => exact ⟨m, rfl, h⟩

theorem Content.add_eq_empty_iff {c : Content τ} : c.add p = .empty ↔ c = .empty ∧ p.Silent := by
  rcases c with ⟨parts, rest⟩
  cases hp : p.fixedText? with
  | some s =>
      rw [Content.add_of_fixed _ hp]
      simp [Content.empty, Piece.Silent, hp, String.append_eq_empty_iff, and_assoc]
  | none =>
      obtain ⟨n, rfl, hn⟩ := eq_model_of_fixedText?_eq_none hp
      rw [Content.add_of_varying _ hn]
      simp [Content.empty, Piece.Silent, hp]

theorem Content.add_eq_only_iff {c : Content τ} :
    c.add p = .only m ↔
      (c = .only m ∧ p.Silent) ∨ (c = .empty ∧ p = .model m ∧ m.isDynamic = true) := by
  rcases c with ⟨parts, rest⟩
  cases hp : p.fixedText? with
  | some s =>
      have hne : ¬ (p = .model m ∧ m.isDynamic = true) := by
        rintro ⟨rfl, hm⟩
        have hfixed : m.fixedText? = some s := hp
        rw [Model.isDynamic, hfixed] at hm
        cases hm
      rw [Content.add_of_fixed _ hp]
      simp [Content.only, Piece.Silent, hp, String.append_eq_empty_iff, and_assoc, hne]
  | none =>
      obtain ⟨n, rfl, hn⟩ := eq_model_of_fixedText?_eq_none hp
      have hdynamic : n.isDynamic = true := by rw [Model.isDynamic, hn, Option.isNone_none]
      have hloud : ¬ (Piece.model n).Silent := by
        intro hsilent
        rw [Piece.Silent, hp] at hsilent
        cases hsilent
      rw [Content.add_of_varying _ hn]
      constructor
      · intro h
        have hparts : parts ++ [(rest, n)] = [] ++ [("", m)] := (Content.mk.inj h).1
        obtain ⟨rfl, hlast⟩ := List.append_inj' hparts rfl
        obtain ⟨rfl, rfl⟩ := Prod.mk.inj (List.singleton_inj.mp hlast)
        exact Or.inr ⟨rfl, rfl, hdynamic⟩
      · rintro (⟨-, hsilent⟩ | ⟨hempty, hmodel, -⟩)
        · exact absurd hsilent hloud
        · obtain ⟨rfl, rfl⟩ := Content.mk.inj hempty
          obtain rfl := Piece.model.inj hmodel
          rfl

/-- Nothing was pushed that adds any text. -/
theorem content_eq_empty_iff : content pushed = .empty ↔ ∀ p ∈ pushed, p.Silent := by
  induction pushed using List.reverseRecOn with
  | nil => simp [content]
  | append_singleton pushed p ih =>
      rw [content_concat, Content.add_eq_empty_iff, ih, List.forall_mem_append,
        List.forall_mem_singleton]

/-- One model was pushed, and else nothing that adds any text. -/
theorem content_eq_only_iff : content pushed = .only m ↔ Alone m pushed := by
  induction pushed using List.reverseRecOn with
  | nil =>
      constructor
      · intro h
        cases h
      · rintro ⟨before, after, heq, -, -⟩
        simp at heq
  | append_singleton pushed p ih =>
      rw [content_concat, Content.add_eq_only_iff, alone_concat, ih, content_eq_empty_iff]

/-! ## Few pieces -/

theorem content_ofPieces (pushed : List (Piece τ)) :
    content (ofPieces pushed).pieces = content pushed := by
  induction pushed using List.reverseRecOn with
  | nil => rfl
  | append_singleton pushed p ih => rw [ofPieces_concat, content_push, content_concat, ih]

/-- **A template has no pieces** exactly if nothing was pushed that adds any text. -/
theorem pieces_ofPieces_eq_nil_iff :
    (ofPieces pushed).pieces = [] ↔ ∀ p ∈ pushed, p.Silent := by
  rw [← content_eq_empty_iff, ← content_ofPieces]
  constructor
  · intro h
    rw [h]
    rfl
  · intro h
    rw [(normal_ofPieces pushed).pieces.eq_layout, h]
    rfl

/-- **A template has one piece that is a model** exactly if that model alone counts. -/
theorem pieces_ofPieces_eq_model_iff :
    (ofPieces pushed).pieces = [.model m] ↔ Alone m pushed := by
  rw [← content_eq_only_iff, ← content_ofPieces]
  have hnormal := (normal_ofPieces pushed).pieces
  constructor
  · intro h
    have hm : m.fixedText? = none := hnormal.fixedText?_eq_none m (by simp [h])
    rw [h]
    exact Content.add_of_varying .empty hm
  · intro h
    rw [hnormal.eq_layout, h]
    simp [Content.layout, Content.layoutText, Content.only]

/-! ## The two ways -/

variable {t : Template τ} {self : Instance}

/-- The counts tell a template without pieces. -/
theorem Normal.pieces_eq_nil_of_counts (ht : t.Normal) (hdyn : t.isDynamic = false)
    (hlength : t.textLength = 0) : t.pieces = [] := by
  have htexts := ht.textLength_eq_zero_iff.mp hlength
  have hmodels : t.models = [] := by
    by_contra hne
    rw [ht.isDynamic_iff.mpr hne] at hdyn
    cases hdyn
  rw [models, List.filterMap_eq_nil_iff] at hmodels
  apply List.eq_nil_iff_forall_not_mem.mpr
  intro p hp
  cases p with
  | text s => exact absurd (htexts _ hp) (by simp)
  | model m => exact absurd (hmodels _ hp) (by simp)

/-- In normal form the counts and the pieces tell the same shortcut. -/
theorem Normal.countedShortcut?_eq (ht : t.Normal) (self : Instance) :
    t.countedShortcut? self = t.shortcut? self := by
  unfold countedShortcut?
  split
  · next hguard =>
      have hpieces : t.pieces = [] := by
        rcases (Bool.or_eq_true _ _).mp hguard with hnil | hcounts
        · exact List.isEmpty_iff.mp hnil
        · obtain ⟨hdyn, hlength⟩ := (Bool.and_eq_true _ _).mp hcounts
          exact ht.pieces_eq_nil_of_counts (by simpa using hdyn) (by simpa using hlength)
      simp only [shortcut?, hpieces]
  · next hguard =>
      rcases hps : t.pieces with _ | ⟨p, _ | ⟨q, rest⟩⟩
      · simp [hps] at hguard
      · cases p <;> simp [shortcut?, hps]
      · simp [shortcut?, hps]

/-- Evaluated piece by piece, a template gives its output if there is room for it. -/
theorem Normal.text_interpret_eq (ht : t.Normal) (hroom : t.capacity ≤ maxCapacity)
    (self : Instance) (target : τ) : (t.interpret self).text target = t.output target := by
  cases hdyn : t.isDynamic with
  | true => rw [text_interpret hdyn, Outcome.within_of_le hroom]
  | false =>
      obtain ⟨m, s, hshort, hm, hs⟩ := ht.shortcut_of_not_isDynamic hdyn self
      calc (t.interpret self).text target
          = .ok s := text_of_fixedText?_eq_some hs target
        _ = m.text target := (text_of_fixedText?_eq_some hm target).symm
        _ = t.output target := text_shortcut hshort target

/-- The shortcut is the empty model exactly if there are no pieces. -/
theorem Normal.shortcut_isEmpty_iff (ht : t.Normal) :
    (∃ m, t.shortcut? self = some m ∧ m.isEmpty = true) ↔ t.pieces = [] := by
  constructor
  · rintro ⟨m, hm, hempty⟩
    rcases shortcut?_cases hm with ⟨hps, -⟩ | ⟨s, -, rfl⟩ | hps
    · exact hps
    · cases hempty
    · rw [Model.isEmpty_of_varying (ht.pieces.fixedText?_eq_none m (by simp [hps]))] at hempty
      cases hempty
  · intro hps
    exact ⟨.empty, by simp only [shortcut?, hps], rfl⟩

/-- The two models cannot be told apart but for their numbers and the room that the second makes. -/
structure Interchangeable (capacity : Nat) (m n : Model τ) : Prop where
  isDynamic : m.isDynamic = n.isDynamic
  fixedText? : m.fixedText? = n.fixedText?
  min : m.bound.min = n.bound.min
  max : m.bound.max = n.bound.max
  text : capacity ≤ maxCapacity → ∀ target, m.text target = n.text target

/-- **A shortcut is as good as evaluating the pieces.** -/
theorem Normal.interchangeable_shortcut (ht : t.Normal) (hm : t.shortcut? self = some m)
    (self' : Instance) : Interchangeable t.capacity m (t.interpret self') := by
  have hfixed : m.fixedText? = (t.interpret self').fixedText? := by
    rw [fixedText?_shortcut hm, ht.fixedText?_interpret]
  have hbound : m.bound = (t.interpret self').bound := by
    rw [ht.bound_shortcut hm, ht.bound_interpret]
  refine ⟨?_, hfixed, by rw [hbound], by rw [hbound], fun hroom target => ?_⟩
  · rw [Model.isDynamic, hfixed]
    rfl
  · rw [text_shortcut hm, ht.text_interpret_eq hroom]

/-! ## The shortcut of what was pushed -/

/-- A model that alone counts is the shortcut. -/
theorem shortcut?_of_alone (h : Alone m pushed) (self : Instance) :
    (ofPieces pushed).shortcut? self = some m := by
  simp only [shortcut?, pieces_ofPieces_eq_model_iff.mpr h]

/-- A shortcut that is a pushed model and no new one is the only model that counts. -/
theorem alone_of_same {n : Model τ} (hm : (ofPieces pushed).shortcut? self = some m)
    (hdyn : n.isDynamic = true) (hnew : n.self? ≠ some self) (hsame : m.same n = true) :
    Alone m pushed := by
  have hnumber : m.self? = n.self? := beq_iff_eq.mp hsame
  rcases shortcut?_cases hm with ⟨-, rfl⟩ | ⟨s, -, rfl⟩ | hps
  · -- the canonical model is none whose text varies
    have hnone : n.fixedText? = none := Option.isNone_iff_eq_none.mp hdyn
    have hempty : n.isEmpty = false := n.isEmpty_of_varying hnone
    rw [Model.isEmpty, ← hnumber] at hempty
    cases hempty
  · exact absurd hnumber.symm hnew
  · exact pieces_ofPieces_eq_model_iff.mp hps

/-- What the shortcut of a template comes to, if a model that is made for it gets the number
`number`. -/
structure Shortcuts (pushed : List (Piece τ)) (number : Instance) : Prop where
  -- there is one for templates of at most one piece, and the counts may be asked first
  isSome_iff : ((ofPieces pushed).shortcut? number).isSome = true ↔
    (ofPieces pushed).pieces.length ≤ 1
  counted : (ofPieces pushed).countedShortcut? number = (ofPieces pushed).shortcut? number
  -- its model is as good as the one that evaluates the pieces
  interchangeable : ∀ m, (ofPieces pushed).shortcut? number = some m → ∀ number',
    Interchangeable (ofPieces pushed).capacity m ((ofPieces pushed).interpret number')
  -- it is the canonical empty model exactly if nothing that was pushed adds any text
  isEmpty_iff : (∃ m, (ofPieces pushed).shortcut? number = some m ∧ m.isEmpty = true) ↔
    ∀ p ∈ pushed, p.Silent
  -- it is a pushed model whose text varies exactly if nothing else that was pushed adds any text
  same_iff : (∃ m n, (ofPieces pushed).shortcut? number = some m ∧ Piece.model n ∈ pushed ∧
      n.isDynamic = true ∧ m.same n = true) ↔ ∃ n, Alone n pushed
  alone : ∀ n, Alone n pushed → (ofPieces pushed).shortcut? number = some n

/-- **The shortcut of a template is told from what was pushed**, and gives what the plain evaluation
gives. A model that is made for it has a number that no pushed model has. -/
theorem shortcuts_of_pushes (pushed : List (Piece τ)) (number : Instance)
    (hnew : ∀ n, Piece.model n ∈ pushed → n.isDynamic = true → n.self? ≠ some number) :
    Shortcuts pushed number := by
  have ht : (ofPieces pushed).Normal := normal_ofPieces pushed
  constructor
  case isSome_iff =>
    rw [← not_iff_not, Bool.not_eq_true, Option.isSome_eq_false_iff, Option.isNone_iff_eq_none,
      shortcut?_eq_none_iff]
    omega
  case counted => exact ht.countedShortcut?_eq number
  case interchangeable => exact fun m hm => ht.interchangeable_shortcut hm
  case isEmpty_iff => rw [ht.shortcut_isEmpty_iff, pieces_ofPieces_eq_nil_iff]
  case same_iff =>
    constructor
    · rintro ⟨m, n, hm, hn, hdyn, hsame⟩
      exact ⟨m, alone_of_same hm hdyn (hnew n hn hdyn) hsame⟩
    · rintro ⟨n, hn⟩
      have hmem : Piece.model n ∈ pushed := by
        obtain ⟨before, after, rfl, -, -⟩ := hn
        exact List.mem_append_right _ List.mem_cons_self
      have hdyn : n.isDynamic = true := by
        obtain ⟨-, -, -, hdyn, -⟩ := hn
        exact hdyn
      exact ⟨n, n, shortcut?_of_alone hn number, hmem, hdyn, beq_self_eq_true _⟩
  case alone => exact fun n hn => shortcut?_of_alone hn number

/-- A name that is pushed between an empty text and a model of the empty text is the shortcut. -/
theorem shortcuts_of_pushes_name :
    let name : Model String := .ofFunction 7 .ok .unknown
    let pushed : List (Piece String) := [.text "", .model name, .model (.fixed 3 "")]
    Shortcuts pushed 8 ∧ (ofPieces pushed).shortcut? 8 = some name := by
  intro name pushed
  have hnew : ∀ n, Piece.model n ∈ pushed → n.isDynamic = true → n.self? ≠ some 8 := by
    intro n hn _
    simp only [pushed, List.mem_cons, List.not_mem_nil, or_false, Piece.model.injEq,
      reduceCtorEq, false_or] at hn
    rcases hn with rfl | rfl <;> decide
  have hshortcuts := shortcuts_of_pushes pushed 8 hnew
  have halone : Alone name pushed :=
    ⟨[.text ""], [.model (.fixed 3 "")], rfl, rfl, by simp [Piece.Silent, Piece.fixedText?,
      Model.fixedText?]⟩
  exact ⟨hshortcuts, hshortcuts.alone name halone⟩

end Template

end Templating
