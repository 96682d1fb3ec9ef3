import Mathlib.Algebra.Ring.Nat
import Mathlib.Data.List.Chain
import Templating.Template.Basic

set_option autoImplicit false

/-! # Templates are in normal form

Whatever is pushed onto a template, its pieces stay in normal form (`Template.Normal`): no
text piece is empty, no two of them are neighbours, no model among the pieces has a fixed
text, and the counts are those of the pieces. Every template that pushes can reach is
`Template.ofPieces` of what was pushed, so `normal_ofPieces` holds of all of them.
-/

namespace Templating.Template

variable {τ : Type}

/-! ## Pushing pieces -/

/-- Appends a piece: a text as a text, a model as a model. -/
def push (t : Template τ) : Piece τ → Template τ
  | .text s => t.pushText s
  | .model m => t.pushModel m

/-- The template onto which the given pieces were pushed, one after the other. -/
def ofPieces (pushed : List (Piece τ)) : Template τ := pushed.foldl push empty

theorem ofPieces_concat (pushed : List (Piece τ)) (p : Piece τ) :
    ofPieces (pushed ++ [p]) = (ofPieces pushed).push p := by
  simp [ofPieces]

/-- A text is appended to the last piece if that is a text, and as a piece otherwise. -/
theorem extend_cases (s : String) (ps : List (Piece τ)) :
    (∃ init last, ps = init ++ [.text last] ∧ extend s ps = init ++ [.text (last ++ s)])
    ∨ ((∀ last, Piece.text last ∉ ps.getLast?) ∧ extend s ps = ps ++ [.text s]) := by
  fun_induction extend s ps with
  | case1 => exact Or.inr ⟨by simp, rfl⟩
  | case2 last => exact Or.inl ⟨[], last, rfl, rfl⟩
  | case3 p ps hlast ih =>
      rcases ih with ⟨init, last, rfl, hext⟩ | ⟨hlast', hext⟩
      · exact Or.inl ⟨p :: init, last, rfl, by rw [hext, List.cons_append]⟩
      · refine Or.inr ⟨?_, by rw [hext, List.cons_append]⟩
        intro last hmem
        cases ps with
        | nil =>
            have hp : p = .text last := by simpa using hmem
            exact hlast last hp rfl
        | cons q ps => exact hlast' last (by simpa using hmem)

/-- The number of bytes of all texts among the pieces. -/
def textBytes (ps : List (Piece τ)) : Nat :=
  ((ps.filterMap Piece.text?).map String.utf8ByteSize).sum

@[simp] theorem model?_text (s : String) : (Piece.text s : Piece τ).model? = none := rfl

@[simp] theorem model?_model (m : Model τ) : (Piece.model m).model? = some m := rfl

@[simp] theorem text?_text (s : String) : (Piece.text s : Piece τ).text? = some s := rfl

@[simp] theorem text?_model (m : Model τ) : (Piece.model m).text? = none := rfl

@[simp] theorem filterMap_model?_text (s : String) (ps : List (Piece τ)) :
    (.text s :: ps).filterMap Piece.model? = ps.filterMap Piece.model? := rfl

@[simp] theorem filterMap_model?_model (m : Model τ) (ps : List (Piece τ)) :
    (.model m :: ps).filterMap Piece.model? = m :: ps.filterMap Piece.model? := rfl

theorem filterMap_model?_extend (s : String) (ps : List (Piece τ)) :
    (extend s ps).filterMap Piece.model? = ps.filterMap Piece.model? := by
  fun_induction extend s ps with
  | case1 => rfl
  | case2 last => rfl
  | case3 p ps _ ih => rw [List.filterMap_cons, List.filterMap_cons, ih]

theorem textBytes_append (ps qs : List (Piece τ)) :
    textBytes (ps ++ qs) = textBytes ps + textBytes qs := by
  simp [textBytes]

theorem textBytes_extend (s : String) (ps : List (Piece τ)) :
    textBytes (extend s ps) = textBytes ps + s.utf8ByteSize := by
  rcases extend_cases s ps with ⟨init, last, rfl, hext⟩ | ⟨-, hext⟩
  · rw [hext, textBytes_append, textBytes_append]
    simp [textBytes, Nat.add_assoc]
  · rw [hext, textBytes_append]
    simp [textBytes]

/-! ## The normal form -/

/-- Of two neighbours at least one is a model. -/
def Apart (p q : Piece τ) : Prop := p.text? = none ∨ q.text? = none

/-- The pieces are in normal form. -/
structure NormalPieces (ps : List (Piece τ)) : Prop where
  -- no text is empty
  text_ne : ∀ s, Piece.text s ∈ ps → s ≠ ""
  -- no model has a fixed text
  fixedText?_eq_none : ∀ m, Piece.model m ∈ ps → m.fixedText? = none
  -- no two texts are neighbours
  apart : ps.IsChain Apart

theorem NormalPieces.nil : NormalPieces ([] : List (Piece τ)) where
  text_ne := by simp
  fixedText?_eq_none := by simp
  apart := List.IsChain.nil

/-- A piece may be appended if it is normal by itself and apart from the last piece. -/
theorem NormalPieces.concat {ps : List (Piece τ)} (h : NormalPieces ps) {p : Piece τ}
    (htext : ∀ s, p = .text s → s ≠ "") (hmodel : ∀ m, p = .model m → m.fixedText? = none)
    (hlast : ∀ q ∈ ps.getLast?, Apart q p) : NormalPieces (ps ++ [p]) where
  text_ne := by
    intro s hs
    rcases List.mem_append.mp hs with hs | hs
    · exact h.text_ne s hs
    · exact htext s (List.mem_singleton.mp hs).symm
  fixedText?_eq_none := by
    intro m hm
    rcases List.mem_append.mp hm with hm | hm
    · exact h.fixedText?_eq_none m hm
    · exact hmodel m (List.mem_singleton.mp hm).symm
  apart := by
    refine List.isChain_append.mpr ⟨h.apart, List.IsChain.singleton p, ?_⟩
    intro q hq p' hp'
    obtain rfl : p' = p := by simpa using hp'.symm
    exact hlast q hq

/-- Pieces in normal form stay so without the last of them, from which they are apart. -/
theorem NormalPieces.of_concat {ps : List (Piece τ)} {p : Piece τ} (h : NormalPieces (ps ++ [p])) :
    NormalPieces ps ∧ ∀ q ∈ ps.getLast?, Apart q p := by
  have hchain := List.isChain_append.mp h.apart
  refine ⟨⟨?_, ?_, hchain.1⟩, fun q hq => hchain.2.2 q hq p (by simp)⟩
  · exact fun s hs => h.text_ne s (List.mem_append_left _ hs)
  · exact fun m hm => h.fixedText?_eq_none m (List.mem_append_left _ hm)

theorem NormalPieces.extend {ps : List (Piece τ)} (h : NormalPieces ps) {s : String}
    (hs : s ≠ "") : NormalPieces (extend s ps) := by
  have happ : ∀ last, last ++ s ≠ "" := fun last hnil =>
    hs (String.append_eq_empty_iff.mp hnil).2
  rcases extend_cases s ps with ⟨init, last, rfl, hext⟩ | ⟨hlast, hext⟩
  · -- the last text grows, and stays apart from its neighbour
    obtain ⟨hinit, hapart⟩ := h.of_concat
    rw [hext]
    refine hinit.concat ?_ (fun m hm => by cases hm) ?_
    · intro s' hs'
      rw [← Piece.text.inj hs']
      exact happ last
    · intro q hq
      rcases hapart q hq with hq | hlast
      · exact Or.inl hq
      · exact absurd hlast (by simp)
  · -- the last piece is a model, if there is one
    rw [hext]
    refine h.concat ?_ (fun m hm => by cases hm) ?_
    · intro s' hs'
      rw [← Piece.text.inj hs']
      exact hs
    · intro q hq
      cases q with
      | text last => exact absurd hq (hlast last)
      | model m => exact Or.inl rfl

/-- The pieces of a template are in normal form, and its counts are those of its pieces. -/
structure Normal (t : Template τ) : Prop where
  pieces : NormalPieces t.pieces
  -- the bytes of all texts are counted
  textLength_eq : t.textLength = textBytes t.pieces
  modelCount_eq : t.modelCount = t.models.length
  -- the bounds of the models are summed up
  modelBound_eq : t.modelBound = t.models.foldl (fun b m => b + m.bound) (.exact 0)

theorem normal_empty : (empty : Template τ).Normal := ⟨.nil, rfl, rfl, rfl⟩

theorem Normal.pushText {t : Template τ} (h : t.Normal) (s : String) : (t.pushText s).Normal := by
  unfold Template.pushText
  split
  · exact h
  next hs =>
  have hmodels : (Template.extend s t.pieces).filterMap Piece.model? = t.models :=
    filterMap_model?_extend s t.pieces
  refine ⟨h.pieces.extend hs, ?_, ?_, ?_⟩
  · show t.textLength + s.utf8ByteSize = textBytes (Template.extend s t.pieces)
    rw [textBytes_extend, h.textLength_eq]
  · show t.modelCount = ((Template.extend s t.pieces).filterMap Piece.model?).length
    rw [hmodels, h.modelCount_eq]
  · show t.modelBound = ((Template.extend s t.pieces).filterMap Piece.model?).foldl _ _
    rw [hmodels, h.modelBound_eq]

theorem Normal.pushModel {t : Template τ} (h : t.Normal) (m : Model τ) :
    (t.pushModel m).Normal := by
  unfold Template.pushModel
  split
  · exact h.pushText _
  next hm =>
  have hmodels : (t.pieces ++ [Piece.model m]).filterMap Piece.model? = t.models ++ [m] := by
    simp [Template.models]
  refine ⟨h.pieces.concat ?_ ?_ (fun q _ => Or.inr rfl), ?_, ?_, ?_⟩
  · intro s hs
    cases hs
  · intro m' hm'
    rw [← Piece.model.inj hm']
    exact hm
  · show t.textLength = textBytes (t.pieces ++ [Piece.model m])
    rw [textBytes_append, h.textLength_eq]
    rfl
  · show t.modelCount + 1 = ((t.pieces ++ [Piece.model m]).filterMap Piece.model?).length
    rw [hmodels, h.modelCount_eq, List.length_append, List.length_singleton]
  · show t.modelBound + m.bound = ((t.pieces ++ [Piece.model m]).filterMap Piece.model?).foldl _ _
    rw [hmodels, h.modelBound_eq, List.foldl_append]
    rfl

theorem Normal.push {t : Template τ} (h : t.Normal) (p : Piece τ) : (t.push p).Normal := by
  cases p with
  | text s => exact h.pushText s
  | model m => exact h.pushModel m

/-- **Every template that pushes can reach is in normal form.** -/
theorem normal_ofPieces (pushed : List (Piece τ)) : (ofPieces pushed).Normal := by
  induction pushed using List.reverseRecOn with
  | nil => exact normal_empty
  | append_singleton pushed p ih =>
      rw [ofPieces_concat]
      exact ih.push p

/-! ## What the normal form says -/

/-- A template counts models exactly if there are some. -/
theorem Normal.isDynamic_iff {t : Template τ} (h : t.Normal) :
    t.isDynamic = true ↔ t.models ≠ [] := by
  rw [isDynamic, decide_eq_true_iff, h.modelCount_eq, List.length_pos_iff]

/-- The length of the texts is zero exactly if there is no text. -/
theorem Normal.textLength_eq_zero_iff {t : Template τ} (h : t.Normal) :
    t.textLength = 0 ↔ ∀ p ∈ t.pieces, p.text? = none := by
  rw [h.textLength_eq, textBytes, List.sum_eq_zero_iff_forall_eq_nat]
  constructor
  · intro hzero p hp
    cases p with
    | model m => rfl
    | text s =>
        have hs := hzero s.utf8ByteSize
          (List.mem_map_of_mem (List.mem_filterMap.mpr ⟨.text s, hp, rfl⟩))
        exact absurd (String.utf8ByteSize_eq_zero_iff.mp hs) (h.pieces.text_ne s hp)
  · intro hmodels n hn
    obtain ⟨s, hs, -⟩ := List.mem_map.mp hn
    obtain ⟨p, hp, hps⟩ := List.mem_filterMap.mp hs
    rw [hmodels p hp] at hps
    cases hps

/-- A template of more than one piece holds a model, because texts are no neighbours. -/
theorem Normal.models_ne_nil {t : Template τ} (h : t.Normal) (hlen : 2 ≤ t.pieces.length) :
    t.models ≠ [] := by
  rcases hps : t.pieces with _ | ⟨p, _ | ⟨q, rest⟩⟩
  · simp [hps] at hlen
  · simp [hps] at hlen
  · have hchain := h.pieces.apart
    rw [hps, List.isChain_cons_cons] at hchain
    intro hnil
    rw [models, hps, List.filterMap_eq_nil_iff] at hnil
    rcases hchain.1 with hp | hq
    · cases p with
      | text s => exact absurd hp (by simp)
      | model m => exact absurd (hnil (.model m) (by simp)) (by simp)
    · cases q with
      | text s => exact absurd hq (by simp)
      | model m => exact absurd (hnil (.model m) (by simp)) (by simp)

end Templating.Template
