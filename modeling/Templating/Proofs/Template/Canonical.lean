import Templating.Proofs.Template.Content

set_option autoImplicit false

/-! # Templates are determined by their content

A template comes about by edits: texts and models are pushed, and now and then everything is taken
away again. Of all this a template shows only its content (`Content`): the models whose texts vary,
in order, and the texts before, between and after them. It does not show how a text was split, which
texts came from models, where an empty text was pushed, or what was taken away
(`canonical_of_edits`).

There are two halves to it. Every edit changes the template and the content of what was pushed in
the same way (`Holds.edit`). And pieces in normal form are those that are laid out for their content
(`NormalPieces.eq_layout`), so that there is only one normal form.
-/

namespace Templating.Template

variable {τ : Type}

/-! ## Edits -/

/-- A change of a template. -/
inductive Edit (τ : Type) where
  -- a text is pushed as a text, a model as a model
  | push (piece : Piece τ)
  | clear

/-- Changes a template. -/
def edit (t : Template τ) : Edit τ → Template τ
  | .push p => t.push p
  | .clear => empty

/-- The new template after some edits, in order. -/
def edited (edits : List (Edit τ)) : Template τ := edits.foldl edit empty

/-- The pieces that count after one more edit. -/
def collect (ps : List (Piece τ)) : Edit τ → List (Piece τ)
  | .push p => ps ++ [p]
  | .clear => []

/-- The pieces that were pushed since the template was cleared last. -/
def collected (edits : List (Edit τ)) : List (Piece τ) := edits.foldl collect []

theorem edited_concat (edits : List (Edit τ)) (e : Edit τ) :
    edited (edits ++ [e]) = (edited edits).edit e := by
  simp [edited]

theorem collected_concat (edits : List (Edit τ)) (e : Edit τ) :
    collected (edits ++ [e]) = collect (collected edits) e := by
  simp [collected]

/-- Only what was pushed since the template was cleared last has an effect. -/
theorem edited_eq_ofPieces (edits : List (Edit τ)) : edited edits = ofPieces (collected edits) := by
  induction edits using List.reverseRecOn with
  | nil => rfl
  | append_singleton edits e ih =>
      rw [edited_concat, collected_concat, ih]
      cases e with
      | push p => exact (ofPieces_concat _ p).symm
      | clear => rfl

/-! ## Content -/

/-- What pieces come to in a row. -/
structure Content (τ : Type) where
  -- the models whose texts vary, each with all the text between it and the one before it
  parts : List (String × Model τ)
  -- the text after the last of them
  rest : String

namespace Content

/-- Nothing. -/
def empty : Content τ := ⟨[], ""⟩

/-- The content with one more piece at its end. -/
def add (c : Content τ) : Piece τ → Content τ
  | .text s => { c with rest := c.rest ++ s }
  | .model m =>
    match m.fixedText? with
    | some s => { c with rest := c.rest ++ s }
    | none => ⟨c.parts ++ [(c.rest, m)], ""⟩

/-- A text as a piece, if there is any. -/
def layoutText (s : String) : List (Piece τ) := if s = "" then [] else [.text s]

/-- The content laid out as pieces. -/
def layout (c : Content τ) : List (Piece τ) :=
  c.parts.flatMap (fun part => layoutText part.1 ++ [.model part.2]) ++ layoutText c.rest

theorem add_of_fixedText? (c : Content τ) {m : Model τ} {s : String} (h : m.fixedText? = some s) :
    c.add (.model m) = c.add (.text s) := by
  simp only [add, h]

theorem add_of_varying (c : Content τ) {m : Model τ} (h : m.fixedText? = none) :
    c.add (.model m) = ⟨c.parts ++ [(c.rest, m)], ""⟩ := by
  simp only [add, h]

@[simp] theorem add_empty_text (c : Content τ) : c.add (.text "") = c := by
  simp [add]

/-- Two texts one after the other are one text. -/
theorem add_text_add_text (c : Content τ) (a b : String) :
    (c.add (.text a)).add (.text b) = c.add (.text (a ++ b)) := by
  simp [add, String.append_assoc]

end Content

/-- The content of pieces. -/
def content (ps : List (Piece τ)) : Content τ := ps.foldl Content.add .empty

theorem content_concat (ps : List (Piece τ)) (p : Piece τ) :
    content (ps ++ [p]) = (content ps).add p := by
  simp [content]

/-- Extending pieces by a text adds it to their content, merged or not. -/
theorem content_extend (s : String) (ps : List (Piece τ)) :
    content (extend s ps) = (content ps).add (.text s) := by
  rcases extend_cases s ps with ⟨init, last, rfl, hext⟩ | ⟨-, hext⟩
  · rw [hext, content_concat, content_concat, Content.add_text_add_text]
  · rw [hext, content_concat]

theorem content_pushText (t : Template τ) (s : String) :
    content (t.pushText s).pieces = (content t.pieces).add (.text s) := by
  unfold pushText
  by_cases hs : s = ""
  · rw [if_pos hs, hs, Content.add_empty_text]
  · rw [if_neg hs, content_extend]

/-- **Pushing a piece adds it to the content**, be it merged, taken in or kept as it is. -/
theorem content_push (t : Template τ) (p : Piece τ) :
    content (t.push p).pieces = (content t.pieces).add p := by
  cases p with
  | text s => exact content_pushText t s
  | model m =>
      show content (t.pushModel m).pieces = (content t.pieces).add (.model m)
      unfold pushModel
      split
      · next s hs => rw [content_pushText, Content.add_of_fixedText? _ hs]
      · rw [content_concat]

/-! ## Models whose texts vary -/

/-- The models among the pieces whose texts vary, in order. -/
def varying (ps : List (Piece τ)) : List (Model τ) :=
  (ps.filterMap Piece.model?).filter Model.isDynamic

theorem varying_concat (ps : List (Piece τ)) (p : Piece τ) :
    varying (ps ++ [p]) = varying ps ++ varying [p] := by
  simp [varying, List.filterMap_append]

/-- The content has all models whose texts vary. -/
theorem parts_content (ps : List (Piece τ)) :
    (content ps).parts.map Prod.snd = varying ps := by
  induction ps using List.reverseRecOn with
  | nil => rfl
  | append_singleton ps p ih =>
      rw [content_concat, varying_concat, ← ih]
      cases p with
      | text s => simp [Content.add, varying]
      | model m =>
          cases hm : m.fixedText? with
          | some s =>
              rw [Content.add_of_fixedText? _ hm]
              simp [Content.add, varying, Model.isDynamic, hm]
          | none =>
              rw [Content.add_of_varying _ hm]
              simp [varying, Model.isDynamic, hm]

/-- In normal form, the texts of all models vary. -/
theorem NormalPieces.varying_eq {ps : List (Piece τ)} (h : NormalPieces ps) :
    varying ps = ps.filterMap Piece.model? := by
  apply List.filter_eq_self.mpr
  intro m hm
  obtain ⟨p, hp, hpm⟩ := List.mem_filterMap.mp hm
  cases p with
  | text s => cases hpm
  | model n =>
      obtain rfl : n = m := Option.some.inj hpm
      rw [Model.isDynamic, h.fixedText?_eq_none n hp, Option.isNone_none]

/-! ## There is only one normal form -/

/-- Pieces in normal form whose last one is no text have no text at the end of their content. -/
theorem NormalPieces.rest_content {ps : List (Piece τ)} (h : NormalPieces ps)
    (hlast : ∀ s, Piece.text s ∉ ps.getLast?) : (content ps).rest = "" := by
  rcases List.eq_nil_or_concat ps with rfl | ⟨init, p, rfl⟩
  · rfl
  · cases p with
    | text s => exact absurd (by simp) (hlast s)
    | model m =>
        have hm : m.fixedText? = none := h.fixedText?_eq_none m (by simp)
        rw [List.concat_eq_append, content_concat, Content.add_of_varying _ hm]

/-- **Pieces in normal form are laid out for their content.** -/
theorem NormalPieces.eq_layout {ps : List (Piece τ)} (h : NormalPieces ps) :
    ps = (content ps).layout := by
  induction ps using List.reverseRecOn with
  | nil => rfl
  | append_singleton ps p ih =>
      obtain ⟨hps, hapart⟩ := h.of_concat
      have hlayout : ps = (content ps).layout := ih hps
      rw [content_concat]
      cases p with
      | text s =>
          have hs : s ≠ "" := h.text_ne s (by simp)
          -- a neighbour of a text is a model, so there is no text to merge with
          have hrest : (content ps).rest = "" := by
            apply hps.rest_content
            intro last hlast
            rcases hapart _ hlast with hnone | hnone
            · cases hnone
            · cases hnone
          calc ps ++ [Piece.text s]
              = (content ps).layout ++ [.text s] := by rw [← hlayout]
            _ = ((content ps).add (.text s)).layout := by
                simp [Content.layout, Content.layoutText, Content.add, hrest, hs]
      | model m =>
          have hm : m.fixedText? = none := h.fixedText?_eq_none m (by simp)
          calc ps ++ [Piece.model m]
              = (content ps).layout ++ [.model m] := by rw [← hlayout]
            _ = ((content ps).add (.model m)).layout := by
                rw [Content.add_of_varying _ hm]
                simp [Content.layout, Content.layoutText]

/-- A template in normal form is determined by its content, its counts included. -/
theorem Normal.eq_of_content {t u : Template τ} (ht : t.Normal) (hu : u.Normal)
    (h : content t.pieces = content u.pieces) : t = u := by
  have hpieces : t.pieces = u.pieces := by
    rw [ht.pieces.eq_layout, hu.pieces.eq_layout, h]
  have hmodels : t.models = u.models := by
    rw [models, models, hpieces]
  have hlength : t.textLength = u.textLength := by
    rw [ht.textLength_eq, hu.textLength_eq, hpieces]
  have hcount : t.modelCount = u.modelCount := by
    rw [ht.modelCount_eq, hu.modelCount_eq, hmodels]
  have hbound : t.modelBound = u.modelBound := by
    rw [ht.modelBound_eq, hu.modelBound_eq, hmodels]
  cases t
  cases u
  simp only [Template.mk.injEq]
  exact ⟨hpieces, hlength, hcount, hbound⟩

/-! ## What a template holds -/

/-- **The template is the normal form of the pieces.** -/
structure Holds (pushed : List (Piece τ)) (t : Template τ) : Prop where
  -- no text is empty, no two texts are neighbours, the text of every model varies, and the counts
  -- are those of the pieces
  normal : t.Normal
  -- the models whose texts vary are held as they were pushed
  models : t.models = varying pushed
  -- before, between and after them is all the text that was pushed there, that of models included
  content : content t.pieces = content pushed

theorem holds_empty : Holds [] (empty : Template τ) where
  normal := normal_empty
  models := rfl
  content := rfl

/-- **One edit.** -/
theorem Holds.edit {pushed : List (Piece τ)} {t : Template τ} (h : Holds pushed t) (e : Edit τ) :
    Holds (collect pushed e) (t.edit e) := by
  cases e with
  | clear => exact holds_empty
  | push p =>
      have hnormal : (t.push p).Normal := h.normal.push p
      have hcontent : Template.content (t.push p).pieces = Template.content (pushed ++ [p]) := by
        rw [content_push, content_concat, h.content]
      refine ⟨hnormal, ?_, hcontent⟩
      calc (t.push p).models
          = varying (t.push p).pieces := hnormal.pieces.varying_eq.symm
        _ = (Template.content (t.push p).pieces).parts.map Prod.snd := (parts_content _).symm
        _ = (Template.content (pushed ++ [p])).parts.map Prod.snd := by rw [hcontent]
        _ = varying (pushed ++ [p]) := parts_content _

/-- Any number of edits. -/
theorem holds_edited (edits : List (Edit τ)) : Holds (collected edits) (edited edits) := by
  induction edits using List.reverseRecOn with
  | nil => exact holds_empty
  | append_singleton edits e ih =>
      rw [edited_concat, collected_concat]
      exact ih.edit e

/-- **A template holds what was pushed since it was cleared last, in its only normal form.** Other
edits that come to the same content give the same template: the same pieces, counts and bound. -/
theorem canonical_of_edits (edits : List (Edit τ)) :
    Holds (collected edits) (edited edits) ∧
      ∀ edits' : List (Edit τ), content (collected edits) = content (collected edits') →
        edited edits = edited edits' := by
  have hholds := holds_edited edits
  refine ⟨hholds, fun edits' hcontent => ?_⟩
  have hholds' := holds_edited edits'
  apply hholds.normal.eq_of_content hholds'.normal
  rw [hholds.content, hholds'.content, hcontent]

/-- A greeting that is started anew and put together from many parts is one that is put together
from few. -/
theorem canonical_of_edits_greeting :
    let name : Piece String := .model (.ofFunction 0 .ok .unknown)
    edited [.push (.text "Bye"), .clear, .push (.text "Hel"), .push (.text "lo "),
        .push (.model .empty), .push name, .push (.model (.fixed 1 "!"))]
      = edited [.push (.text "Hello "), .push name, .push (.text "!")] :=
  (canonical_of_edits _).2 _ rfl

end Templating.Template
