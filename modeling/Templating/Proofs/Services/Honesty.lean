import Templating.Proofs.Services.Construction

set_option autoImplicit false

/-! # Honest hints give true bounds

A hint about the length of a function's texts is a promise that nothing checks. If every hint is
honest, so is the bound of every model that is made of such functions, of given texts and of models
without a hint (`honest_of_constructed`): a text is never shorter or longer than its model says,
through any number of levels. At each of them the bound is the sum of the bounds of the pieces, and
the text, where there is one, is the texts of the pieces in a row.
-/

namespace Templating

variable {τ : Type}

/-! ## Honesty -/

/-- Every text that the model gives is as long as its bound says. -/
def Model.Honest (m : Model τ) : Prop :=
  ∀ target s, m.text target = .ok s → m.bound.Admits s.utf8ByteSize

/-- Every text that the piece gives is as long as its bound says. -/
def Piece.Honest (p : Piece τ) : Prop :=
  ∀ target s, p.eval target = .ok s → p.bound.Admits s.utf8ByteSize

theorem Model.honest_of_fixedText? {m : Model τ} {s : String} (h : m.fixedText? = some s) :
    m.Honest := by
  intro target s' hs'
  rw [Template.text_of_fixedText?_eq_some h] at hs'
  rw [bound_of_fixedText? h, Except.ok.inj hs']
  exact LengthBound.admits_exact _

theorem Piece.honest_text (s : String) : (Piece.text s : Piece τ).Honest := by
  intro target s' hs'
  rw [← Except.ok.inj hs']
  exact LengthBound.admits_exact _

/-- Honest pieces in a row are honest together. -/
theorem admits_of_join {ps : List (Piece τ)} (hps : ∀ p ∈ ps, p.Honest) {target : τ} {s : String}
    (hs : Outcome.join (ps.map (·.eval target)) = .ok s) :
    (ps.map Piece.bound).sum.Admits s.utf8ByteSize := by
  induction ps generalizing s with
  | nil =>
      rw [← Except.ok.inj hs]
      exact LengthBound.admits_exact 0
  | cons p ps ih =>
      obtain ⟨hp, hrest⟩ := List.forall_mem_cons.mp hps
      rw [List.map_cons, Outcome.join_cons] at hs
      obtain ⟨a, b, ha, hb, rfl⟩ := Outcome.append_eq_ok_iff.mp hs
      rw [List.map_cons, List.sum_cons, String.utf8ByteSize_append]
      exact (hp target a ha).add (ih hrest hb)

/-- The models that are not made of others, with a text that varies and an honest hint, if any. -/
inductive Model.Sincere : Model τ → Prop where
  | hinted (self : Instance) (eval : τ → Outcome) (hint : LengthBound)
      (h : ∀ target s, eval target = .ok s → hint.Admits s.utf8ByteSize) :
      Sincere (.ofFunction self eval hint)
  | unhinted (self : Instance) (eval : τ → Outcome) (keeps : List Instance) :
      Sincere (.dynamic self .unknown eval keeps)

theorem Model.Given.honest {m : Model τ} (h : m.Given) : m.Honest := by
  obtain ⟨s, hs⟩ := Option.ne_none_iff_exists'.mp h.fixedText?_ne_none
  exact honest_of_fixedText? hs

theorem Model.Sincere.honest {m : Model τ} (h : m.Sincere) : m.Honest := by
  cases h with
  | hinted self eval hint h => exact h
  | unhinted self eval keeps => exact fun _ s _ => LengthBound.admits_unknown _

/-! ## One level -/

/-- The loader reads sources as they are. -/
def Loader.Faithful (l : Loader) : Prop := ∀ source, l.prepare source = .ok source

theorem Services.assemble_of_faithful {loader : Loader} (h : loader.Faithful)
    (alive : Instance → Bool) (self : Instance) (t : Template τ) (s : Services τ) :
    s.assemble loader alive self t = s.assemble .plain alive self t := by
  unfold assemble loadWith
  simp only [h _, Loader.plain]

section

variable {t : Template τ} {m : Model τ}

theorem Composed.interpreted_or_made (h : Composed Loader.Faithful t m) :
    (∃ self, m = t.interpret self) ∨ ∃ room, Made t m room := by
  cases h with
  | interpreted self => exact Or.inl ⟨self, rfl⟩
  | direct self => exact Or.inr ⟨_, .direct self⟩
  | compiled hloader hs alive self hm =>
      rw [Services.assemble_of_faithful hloader] at hm
      exact Or.inr ⟨_, .compiled hs alive self hm⟩

/-- However it was made, the model has the bound of its template. -/
theorem Composed.bound_eq (h : Composed Loader.Faithful t m) (ht : t.Normal) :
    m.bound = t.bound := by
  rcases h.interpreted_or_made with ⟨self, rfl⟩ | ⟨room, hm⟩
  · exact ht.bound_interpret self
  · exact hm.bound_eq ht

/-- However it was made, the texts that the model gives are those of its template. -/
theorem Composed.output_of_text (h : Composed Loader.Faithful t m) (ht : t.Normal) {target : τ}
    {s : String} (hs : m.text target = .ok s) : t.output target = .ok s := by
  rcases h.interpreted_or_made with ⟨self, rfl⟩ | ⟨room, hm⟩
  · exact ht.output_of_interpret hs
  · rw [hm.text_eq ht] at hs
    exact Outcome.eq_ok_of_within hs

/-- A model that is made of honest pieces is honest. -/
theorem Composed.honest {pushed : List (Piece τ)}
    (h : Composed Loader.Faithful (.ofPieces pushed) m) (hpushed : ∀ p ∈ pushed, p.Honest) :
    m.Honest := by
  intro target s hs
  have hnormal := Template.normal_ofPieces pushed
  have houtput := h.output_of_text hnormal hs
  rw [Template.output_ofPieces] at houtput
  rw [h.bound_eq hnormal, Template.bound_ofPieces]
  exact admits_of_join hpushed houtput

end

/-! ## Any number of levels -/

/-- **Models that are made of honest ones are honest**, at any depth and in whichever way they were
made. -/
theorem honest_of_constructed {m : Model τ} {leaves : List (Piece τ)}
    (h : Constructed Model.Sincere Loader.Faithful m leaves) : m.Honest := by
  induction h with
  | given h => exact h.honest
  | varying h => exact h.honest
  | composed _ hm ih =>
      refine hm.honest fun p hp => ?_
      obtain ⟨part, hpart, rfl⟩ := List.mem_map.mp hp
      cases part with
      | text s => exact Piece.honest_text s
      | model n leaves => exact ih n leaves hpart

/-- A model that answers in two or three letters, and says so. -/
def answer : Model Bool :=
  .ofFunction 0 (fun yes => .ok (if yes then "yes" else "no")) ⟨some 2, some 3⟩

theorem sincere_answer : answer.Sincere := by
  refine .hinted 0 _ _ fun yes s hs => ⟨fun least hleast => ?_, fun greatest hgreatest => ?_⟩
  · rw [← Except.ok.inj hs, ← Option.some.inj hleast]
    cases yes <;> decide
  · rw [← Except.ok.inj hs, ← Option.some.inj hgreatest]
    cases yes <;> decide

/-- A sentence with the answer in it is honest about its length. -/
theorem honest_of_constructed_answer :
    ((Template.ofPieces [.text "It is ", .model answer, .text "."]).assemble 1).Honest := by
  let parts : List (Part Bool) := [.text "It is ", .model answer [.model answer], .text "."]
  have hm : Constructed Model.Sincere Loader.Faithful
      ((Template.ofPieces (parts.map Part.piece)).assemble 1) (parts.flatMap Part.leaves) := by
    refine .composed (fun n leaves hn => ?_) (.direct 1)
    obtain ⟨rfl, rfl⟩ : n = answer ∧ leaves = [.model answer] := by simpa [parts] using hn
    exact .varying sincere_answer
  exact honest_of_constructed hm

end Templating
