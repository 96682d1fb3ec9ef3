import Templating.Proofs.Services.Loading
import Templating.Proofs.Services.Nesting

set_option autoImplicit false

/-! # What can be relied on, however a model was made

Models are made of given texts, functions, models from elsewhere and loaded units, and then of
templates in which any of these are pieces, to any depth. Every level may be evaluated piece by
piece, made with the shortcut, or compiled with any loader. Whichever way a model was made, it
keeps its contract, and it is dynamic exactly if a model whose text varies is a leaf of its
construction (`contract_of_constructed`).
-/

namespace Templating

variable {τ : Type}

/-! ## Leaves -/

/-- The models of a text that is given. -/
inductive Model.Given : Model τ → Prop where
  | empty : Given .empty
  | ofText (self : Instance) (text : String) : Given (.ofText self text)
  | fixed (self : Instance) (text : String) : Given (.fixed self text)

/-- The models that are not made of others and have no text of their own. -/
inductive Model.Varying : Model τ → Prop where
  | function (self : Instance) (eval : τ → Outcome) (hint : LengthBound) :
      Varying (.ofFunction self eval hint)
  -- a model from elsewhere, of which nothing is known but what it evaluates to
  | foreign (self : Instance) (eval : τ → Outcome) (keeps : List Instance) :
      Varying (.dynamic self .unknown eval keeps)
  | loaded {s : Services τ} {alive : Instance → Bool} {self : Instance} {source : Source}
      {m : Model τ} (hm : (s.load alive self source).1 = .ok m) : Varying m

theorem Model.Given.fixedText?_ne_none {m : Model τ} (h : m.Given) : m.fixedText? ≠ none := by
  cases h with
  | empty => exact Option.some_ne_none ""
  | fixed self text => exact Option.some_ne_none text
  | ofText self text =>
      unfold Model.ofText
      split
      · exact Option.some_ne_none ""
      · exact Option.some_ne_none text

/-- Whatever the source, a loaded unit has no fixed text. -/
theorem Services.fixedText?_of_load {s : Services τ} {alive : Instance → Bool} {self : Instance}
    {source : Source} {m : Model τ} (hm : (s.load alive self source).1 = .ok m) :
    m.fixedText? = none := by
  obtain ⟨program, models, -, -, rfl⟩ := eq_toModel_of_load hm
  rfl

theorem Services.fixedText?_of_loadWith {loader : Loader} {s : Services τ}
    {alive : Instance → Bool} {self : Instance} {source : Source} {m : Model τ}
    (hm : (s.loadWith loader alive self source).1 = .ok m) : m.fixedText? = none := by
  unfold loadWith at hm
  split at hm
  · cases hm
  · exact fixedText?_of_load hm

theorem Model.Varying.fixedText?_eq_none {m : Model τ} (h : m.Varying) : m.fixedText? = none := by
  cases h with
  | function self eval hint => rfl
  | foreign self eval keeps => rfl
  | loaded hm => exact Services.fixedText?_of_load hm

/-! ## One level -/

/-- The models that a template can be made into. -/
inductive Composed (loaders : Loader → Prop) (t : Template τ) : Model τ → Prop where
  -- evaluated piece by piece, however few pieces there are
  | interpreted (self : Instance) : Composed loaders t (t.interpret self)
  | direct (self : Instance) : Composed loaders t (t.assemble self)
  -- compiled by configured services, with one of the loaders
  | compiled {loader : Loader} (hloader : loaders loader) {s : Services τ} (hs : s.Configured)
      (alive : Instance → Bool) (self : Instance) {m : Model τ}
      (hm : (s.assemble loader alive self t).1.result = .ok m) : Composed loaders t m

/-- A compiled model is that of the shortcut, or a unit, whatever the loader does to the source. -/
theorem Services.shortcut_or_of_assemble {loader : Loader} {s : Services τ}
    {alive : Instance → Bool} {self : Instance} {t : Template τ} {m : Model τ}
    (hm : (s.assemble loader alive self t).1.result = .ok m) :
    t.shortcut? self = some m ∨ (t.shortcut? self = none ∧ m.fixedText? = none) := by
  cases hshort : t.shortcut? self with
  | some n =>
      rw [assemble_of_shortcut _ hshort] at hm
      exact Or.inl (congrArg some (Except.ok.inj hm))
  | none =>
      rw [result_assemble_of_unit hshort] at hm
      exact Or.inr ⟨rfl, fixedText?_of_loadWith hm⟩

section

variable {loaders : Loader → Prop} {t : Template τ} {m : Model τ}

/-- However it was made, the model has the fixed text of the pieces, or none if one of them has
none. -/
theorem Composed.fixedText?_eq (h : Composed loaders t m) (ht : t.Normal) :
    m.fixedText? = Template.fixed t.pieces := by
  cases h with
  | interpreted self => exact ht.fixedText?_interpret self
  | direct self => exact (Made.direct self).fixedText?_eq ht
  | compiled _ _ alive self hm =>
      rcases Services.shortcut_or_of_assemble hm with hshort | ⟨hshort, hm⟩
      · exact Template.fixedText?_shortcut hshort
      · rw [hm, ht.fixed_eq_none (ht.models_ne_nil (Template.shortcut?_eq_none_iff.mp hshort))]

/-- What pushing counts is the length of the fixed text, if the model has one. -/
theorem Composed.bound_of_fixedText? {pushed : List (Piece τ)} {s : String}
    (h : Composed loaders (.ofPieces pushed) m) (hs : m.fixedText? = some s) :
    (Template.ofPieces pushed).bound = .exact s.utf8ByteSize := by
  rw [h.fixedText?_eq (Template.normal_ofPieces pushed), Template.fixed_ofPieces] at hs
  rw [Template.bound_ofPieces, Template.bound_of_fixed hs]

end

/-! ## Any number of levels -/

/-- A part of a construction: a text, or a model with the leaves of its own construction. -/
inductive Part (τ : Type) where
  | text (s : String)
  | model (m : Model τ) (leaves : List (Piece τ))

/-- The piece that is pushed for the part. -/
def Part.piece : Part τ → Piece τ
  | text s => .text s
  | model m _ => .model m

/-- The texts and models at the leaves of the part, in order. -/
def Part.leaves : Part τ → List (Piece τ)
  | text s => [.text s]
  | model _ leaves => leaves

/-- The models that can be made, with the leaves of their construction in order. -/
inductive Constructed (varying : Model τ → Prop) (loaders : Loader → Prop) :
    Model τ → List (Piece τ) → Prop where
  | given {m : Model τ} (h : m.Given) : Constructed varying loaders m [.model m]
  | varying {m : Model τ} (h : varying m) : Constructed varying loaders m [.model m]
  -- made of parts, the models among which were constructed before
  | composed {parts : List (Part τ)} {m : Model τ}
      (hparts : ∀ n leaves, Part.model n leaves ∈ parts → Constructed varying loaders n leaves)
      (hm : Composed loaders (.ofPieces (parts.map Part.piece)) m) :
      Constructed varying loaders m (parts.flatMap Part.leaves)

/-- Models that have the fixed texts of their leaves have it together, too. -/
theorem fixed_map_piece {parts : List (Part τ)}
    (h : ∀ n leaves, Part.model n leaves ∈ parts → n.fixedText? = Template.fixed leaves) :
    Template.fixed (parts.map Part.piece) = Template.fixed (parts.flatMap Part.leaves) := by
  induction parts with
  | nil => rfl
  | cons part parts ih =>
      have hpart : part.piece.fixedText? = Template.fixed part.leaves := by
        cases part with
        | text s => exact (Template.fixed_singleton (.text s)).symm
        | model n leaves => exact h n leaves List.mem_cons_self
      rw [List.map_cons, List.flatMap_cons, Template.fixed, Template.fixed_append, hpart,
        ih fun n leaves hmem => h n leaves (List.mem_cons_of_mem part hmem)]

section

variable {varying : Model τ → Prop} {loaders : Loader → Prop} {m : Model τ}
  {leaves : List (Piece τ)}

/-- A constructed model has the fixed text of its leaves, or none if one of them has none. -/
theorem Constructed.fixedText?_eq (h : Constructed varying loaders m leaves) :
    m.fixedText? = Template.fixed leaves := by
  induction h with
  | @given m h => exact (Template.fixed_singleton (.model m)).symm
  | @varying m h => exact (Template.fixed_singleton (.model m)).symm
  | @composed parts m _ hm ih =>
      rw [hm.fixedText?_eq (Template.normal_ofPieces _), Template.fixed_ofPieces,
        fixed_map_piece ih]

/-- The models at the leaves have a given text, or one that varies. -/
theorem Constructed.given_or_varying (h : Constructed varying loaders m leaves) {n : Model τ}
    (hn : .model n ∈ leaves) : n.Given ∨ varying n := by
  induction h with
  | given h =>
      obtain rfl := Piece.model.inj (List.mem_singleton.mp hn)
      exact Or.inl h
  | varying h =>
      obtain rfl := Piece.model.inj (List.mem_singleton.mp hn)
      exact Or.inr h
  | composed _ _ ih =>
      obtain ⟨part, hpart, hn⟩ := List.mem_flatMap.mp hn
      cases part with
      | text s => cases List.mem_singleton.mp hn
      | model n' leaves => exact ih n' leaves hpart hn

end

/-! ## The contract -/

/-- What can be relied on by who evaluates a model. -/
structure Model.Contract (m : Model τ) : Prop where
  -- a fixed text is given for every target, also for a missing one
  fixed : ∀ s, m.fixedText? = some s → m.isDynamic = false ∧
    (∀ target, m.text target = .ok s) ∧ ∀ target?, m.render target? = .ok (.ok s)
  -- its length is known, if it is one that a text can have
  length : ∀ s, m.fixedText? = some s → s.utf8ByteSize ≤ maxCapacity →
    m.bound.min.map UInt64.toNat = some s.utf8ByteSize ∧
      m.bound.max.map UInt64.toNat = some s.utf8ByteSize
  -- without a fixed text there has to be a target
  dynamic : m.fixedText? = none → m.isDynamic = true ∧ m.render none = .error .missingTarget ∧
    ∀ target, m.render (some target) = .ok (m.text target)

/-- Nothing has to be known of how a model was made: what it shows is read off what it is. That
making it keeps to this is what the fixed text and the count of its template say. -/
theorem Model.contract (m : Model τ) : m.Contract where
  fixed s hs := by
    refine ⟨by rw [isDynamic, hs, Option.isNone_some], ?_, fun target? => by simp only [render, hs]⟩
    exact Template.text_of_fixedText?_eq_some hs
  length s hs hsize := by
    have hword : s.utf8ByteSize < UInt64.size := Nat.lt_of_le_of_lt hsize (by decide)
    rw [bound_of_fixedText? hs, LengthBound.exact, word?_of_lt hword, Option.map_some,
      UInt64.toNat_ofNat_of_lt' hword]
    exact ⟨rfl, rfl⟩
  dynamic hm := by
    refine ⟨by rw [isDynamic, hm, Option.isNone_none], by simp only [render, hm], fun target => ?_⟩
    simp only [render, hm]

/-- **However a model was made, it keeps its contract**: it has the fixed text of its leaves, is
dynamic exactly if the text of one of them varies, and what was counted for it is the length of
its text. -/
theorem contract_of_constructed {loaders : Loader → Prop} {m : Model τ} {leaves : List (Piece τ)}
    (h : Constructed Model.Varying loaders m leaves) :
    m.Contract ∧ m.fixedText? = Template.fixed leaves ∧
      (m.isDynamic = true ↔ ∃ n, .model n ∈ leaves ∧ n.Varying) ∧
      ∀ pushed s, Composed loaders (.ofPieces pushed) m → m.fixedText? = some s →
        (Template.ofPieces pushed).bound = .exact s.utf8ByteSize := by
  refine ⟨m.contract, h.fixedText?_eq, ?_, fun pushed s hm hs => hm.bound_of_fixedText? hs⟩
  rw [Model.isDynamic, Option.isNone_iff_eq_none, h.fixedText?_eq, Template.fixed_eq_none_iff]
  constructor
  · rintro ⟨p, hp, hnone⟩
    cases p with
    | text s => cases hnone
    | model n =>
        refine ⟨n, hp, (h.given_or_varying hp).resolve_left fun hgiven => ?_⟩
        exact hgiven.fixedText?_ne_none hnone
  · rintro ⟨n, hn, hvarying⟩
    exact ⟨.model n, hn, hvarying.fixedText?_eq_none⟩

/-- A greeting that was compiled and put between brackets needs a name, like the greeting. -/
theorem contract_of_constructed_greeting :
    ((Template.ofPieces [.text "<", .model ((Services.new 7 .default).unitModel 1 greeting),
      .text ">"]).assemble 2).render none = .error .missingTarget := by
  let unit := (Services.new 7 .default).unitModel 1 greeting
  let m := (Template.ofPieces [.text "<", .model unit, .text ">"]).assemble 2
  let name : Model String := .ofFunction 0 .ok .unknown
  let inner : List (Part String) := [.text "Hello ", .model name [.model name], .text "\n"]
  let outer : List (Part String) :=
    [.text "<", .model unit (inner.flatMap Part.leaves), .text ">"]
  have hname : name.Varying := .function 0 .ok .unknown
  have hunit : Constructed Model.Varying (fun _ => True) unit (inner.flatMap Part.leaves) := by
    refine .composed ?_ ?_
    · intro n leaves hn
      obtain ⟨rfl, rfl⟩ : n = name ∧ leaves = [.model name] := by simpa [inner] using hn
      exact .varying hname
    · have hsettings : Settings.default.validate = .ok .default := rfl
      have hresult := Services.result_assemble_new hsettings 7 (fun _ => true) 1 (t := greeting)
        (Template.normal_ofPieces _) (by decide) (by decide)
      show Composed _ greeting unit
      exact .compiled trivial (Services.configured_new hsettings 7) (fun _ => true) 1 hresult
  have hm : Constructed Model.Varying (fun _ => True) m (outer.flatMap Part.leaves) := by
    refine .composed ?_ (.direct 2)
    intro n leaves hn
    obtain ⟨rfl, rfl⟩ : n = unit ∧ leaves = inner.flatMap Part.leaves := by
      simpa [outer] using hn
    exact hunit
  obtain ⟨hcontract, -, hdynamic, -⟩ := contract_of_constructed hm
  have hleaf : .model name ∈ outer.flatMap Part.leaves := by simp [outer, inner, Part.leaves]
  have hvaries : m.isDynamic = true := hdynamic.mpr ⟨name, hleaf, hname⟩
  have hnone : m.fixedText? = none := Option.isNone_iff_eq_none.mp hvaries
  exact (hcontract.dynamic hnone).2.1

end Templating
