import Templating.Proofs.Services.Assembly

set_option autoImplicit false

/-! # What hints about lengths do

The bounds of models and the capacity in the settings decide how much room is made for an output
before anything is evaluated, and nothing else. Whether they can be told from the outside is then
a question of room alone: two models that were made of the same pieces, in either way and with
any hints and capacities, give the same outcome exactly if there is room for both outputs or for
neither (`text_eq_iff_of_alike`). So a hint is not harmless. One that promises more bytes than
there can be room for prevents an output that would have been short.
-/

namespace Templating

variable {τ : Type}

/-! ## Pieces that differ in hints -/

/-- The models differ at most in what is known about the lengths of their texts. -/
structure Model.Alike (m n : Model τ) : Prop where
  -- they have the same fixed text, or both none
  fixedText? : m.fixedText? = n.fixedText?
  text : ∀ target, m.text target = n.text target

theorem Model.alike_ofFunction (self self' : Instance) (eval : τ → Outcome)
    (hint hint' : LengthBound) :
    (ofFunction self eval hint).Alike (ofFunction self' eval hint') :=
  ⟨rfl, fun _ => rfl⟩

/-- The pieces are the same text, or models that differ at most in hints. -/
inductive Piece.Alike : Piece τ → Piece τ → Prop where
  | text (s : String) : Alike (.text s) (.text s)
  | model {m n : Model τ} (h : m.Alike n) : Alike (.model m) (.model n)

theorem Piece.Alike.eval {p q : Piece τ} (h : p.Alike q) (target : τ) :
    p.eval target = q.eval target := by
  cases h with
  | text s => rfl
  | model h => exact h.text target

/-- Hints have no part in the output. -/
theorem output_eq_of_alike {ps qs : List (Piece τ)} (h : List.Forall₂ Piece.Alike ps qs)
    (target : τ) :
    (Template.ofPieces ps).output target = (Template.ofPieces qs).output target := by
  -- the output is that of what was pushed, whatever pushing merged
  rw [Template.output_ofPieces, Template.output_ofPieces]
  congr 1
  induction h with
  | nil => rfl
  | cons hp _ ih => rw [List.map_cons, List.map_cons, hp.eval target, ih]

/-! ## Room -/

/-- The room that the compiled model of a template makes. One that needs no unit makes none, and
neither does one that begins with the output of a model. -/
def Services.room (t : Template τ) (s : Services τ) : Nat :=
  if t.pieces.length ≤ 1 ∨ t.textLength = 0 then 0
  else (t.bound.min.getD (max s.settings.capacity (nearestWord t.textLength))).toNat

theorem Services.room_unitProgram {t : Template τ} (hlen : 2 ≤ t.pieces.length)
    (s : Services τ) : (s.unitProgram t).opening.room = s.room t := by
  have hlen : ¬ t.pieces.length ≤ 1 := by omega
  unfold unitProgram Template.program room
  by_cases hzero : t.textLength = 0
  · rw [if_pos hzero, if_pos (Or.inr hzero)]
    rfl
  · rw [if_neg hzero, if_neg (not_or.mpr ⟨hlen, hzero⟩)]
    rfl

/-- The models of a template, made in either way, each with the room that it makes. -/
inductive Made (t : Template τ) : Model τ → Nat → Prop where
  -- the model that evaluates the template directly
  | direct (self : Instance) : Made t (t.assemble self) t.room
  -- a model that configured services compiled
  | compiled {s : Services τ} (hs : s.Configured) (alive : Instance → Bool) (self : Instance)
      {m : Model τ} (hm : (s.assemble .plain alive self t).1.result = .ok m) :
      Made t m (s.room t)

/-- Either way, the model gives the output of the template if there is room for it. -/
theorem Made.text_eq {t : Template τ} (ht : t.Normal) {m : Model τ} {room : Nat}
    (h : Made t m room) (target : τ) :
    m.text target = Outcome.within room (t.output target) := by
  cases h with
  | direct self => exact Template.text_assemble ht self target
  | @compiled s hs alive self _ hm =>
      rcases Services.shortcut_or_unitModel hs ht hm with hshort | ⟨hshort, rfl⟩
      · have hlen := Template.length_le_of_shortcut hshort
        rw [Services.room, if_pos (Or.inl hlen), Outcome.within_of_le (Nat.zero_le _)]
        exact Template.text_shortcut hshort target
      · have hlen : 2 ≤ t.pieces.length := Template.shortcut?_eq_none_iff.mp hshort
        rw [← Services.room_unitProgram hlen, Services.text_unitModel ht hlen]

/-- An evaluation that aborts for want of room. -/
abbrev Outcome.overflow : Outcome := .error ⟨"capacity overflow"⟩

theorem Outcome.within_eq_within_iff (a b : Nat) (o : Outcome) :
    within a o = within b o ↔ ((a ≤ maxCapacity ↔ b ≤ maxCapacity) ∨ o = overflow) := by
  by_cases ha : a ≤ maxCapacity
  · by_cases hb : b ≤ maxCapacity
    · rw [within_of_le ha, within_of_le hb]
      simp [ha, hb]
    · rw [within_of_le ha, within_of_lt (by omega)]
      simp [ha, hb]
  · by_cases hb : b ≤ maxCapacity
    · rw [within_of_lt (by omega), within_of_le hb]
      simp [ha, hb, eq_comm]
    · rw [within_of_lt (by omega), within_of_lt (by omega)]
      simp [ha, hb]

/-- **Hints and capacities change an outcome exactly if they decide whether there is room.** -/
theorem text_eq_iff_of_alike {ps qs : List (Piece τ)} (h : List.Forall₂ Piece.Alike ps qs)
    {m n : Model τ} {a b : Nat} (hm : Made (.ofPieces ps) m a) (hn : Made (.ofPieces qs) n b)
    (target : τ) :
    m.text target = n.text target ↔
      ((a ≤ maxCapacity ↔ b ≤ maxCapacity)
        ∨ (Template.ofPieces ps).output target = Outcome.overflow) := by
  rw [hm.text_eq (Template.normal_ofPieces ps), hn.text_eq (Template.normal_ofPieces qs),
    ← output_eq_of_alike h]
  exact Outcome.within_eq_within_iff a b _

/-- A text and a name, of whose length something is said. -/
def hinted (hint : LengthBound) : List (Piece String) :=
  [.text "x", .model (.ofFunction 0 .ok hint)]

/-- A hint for which there is room changes nothing, and neither does the way in which the model is
made: it is compiled by new services, or evaluates its template directly. -/
theorem text_hinted_eq :
    ∃ m, ((Services.new 7 .default).assemble .plain (fun _ => true) 2
        (Template.ofPieces (hinted .unknown))).1.result = .ok m ∧
      ((Template.ofPieces (hinted ⟨some 7, none⟩)).assemble 1).text "Ann" = m.text "Ann" := by
  have hsettings : Settings.default.validate = .ok .default := rfl
  have hresult := Services.result_assemble_new hsettings 7 (fun _ => true) 2
    (Template.normal_ofPieces (hinted .unknown)) (by decide) (by decide)
  have halike : List.Forall₂ Piece.Alike (hinted ⟨some 7, none⟩) (hinted .unknown) :=
    .cons (.text "x") (.cons (.model (Model.alike_ofFunction 0 0 .ok _ _)) .nil)
  have hmade := Made.compiled (Services.configured_new hsettings 7) (fun _ => true) 2 hresult
  exact ⟨_, hresult, (text_eq_iff_of_alike halike (.direct 1) hmade "Ann").mpr
    (Or.inl (by decide))⟩

/-- A hint for which there is none does. -/
theorem text_hinted_ne :
    ((Template.ofPieces (hinted ⟨some 9223372036854775808, none⟩)).assemble 1).text "Ann"
      ≠ ((Template.ofPieces (hinted .unknown)).assemble 1).text "Ann" := by
  decide

end Templating
