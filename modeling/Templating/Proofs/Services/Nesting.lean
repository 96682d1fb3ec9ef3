import Templating.Proofs.Services.Room
import Templating.Proofs.Template.Content

set_option autoImplicit false

/-! # Nested templates are flat

A model that was made of pieces may itself be a piece of another template, and so on to any depth.
It makes no difference: what can be told from a model that was made of a nested template can also
be told from one that was made of all the pieces in a row (`agree_of_unnests`). Every level may be
made directly or compiled by any services. Only the room for the output is made level by level, so
the outcomes are compared where there is enough of it everywhere.

The reason is that the bound, the fixed text and the output of a template are each put together
piece by piece, and a model that was made of pieces contributes what these contribute one after
the other (`Made.bound_eq`, `Made.fixedText?_eq`, `Made.text_eq`).
-/

namespace Templating

variable {τ : Type}

/-! ## What a model shows of its template -/

section

variable {t : Template τ} {m : Model τ} {room : Nat}

/-- The model is that of the shortcut, or one with the bound of its template and no fixed text. -/
theorem Made.shortcut_or (h : Made t m room) (ht : t.Normal) :
    (∃ self, t.shortcut? self = some m) ∨
      (2 ≤ t.pieces.length ∧ m.fixedText? = none ∧ m.bound = t.bound) := by
  cases h with
  | direct self =>
      cases hshort : t.shortcut? self with
      | some n =>
          left
          refine ⟨self, ?_⟩
          rw [Template.assemble, hshort, Option.getD_some]
      | none =>
          have hlen : 2 ≤ t.pieces.length := Template.shortcut?_eq_none_iff.mp hshort
          exact Or.inr ⟨hlen, Services.agree_of_unit ht hlen self⟩
  | @compiled s hs alive self _ hm =>
      rcases Services.shortcut_or_unitModel hs ht hm with hshort | ⟨hshort, rfl⟩
      · exact Or.inl ⟨self, hshort⟩
      · exact Or.inr ⟨Template.shortcut?_eq_none_iff.mp hshort, rfl, Services.bound_unitModel⟩

/-- Either way, the model has the bound of its template. -/
theorem Made.bound_eq (h : Made t m room) (ht : t.Normal) : m.bound = t.bound := by
  rcases h.shortcut_or ht with ⟨self, hshort⟩ | ⟨-, -, hbound⟩
  · exact ht.bound_shortcut hshort
  · exact hbound

/-- Either way, the model has the fixed text of the pieces, or none if one of them has none. -/
theorem Made.fixedText?_eq (h : Made t m room) (ht : t.Normal) :
    m.fixedText? = Template.fixed t.pieces := by
  rcases h.shortcut_or ht with ⟨self, hshort⟩ | ⟨hlen, hfixed, -⟩
  · exact Template.fixedText?_shortcut hshort
  · rw [hfixed, ht.fixed_eq_none (ht.models_ne_nil hlen)]

end

/-! ## Nesting -/

/-- The pieces `flat` come from the pieces `nested` when models among them that were made of pieces
are replaced by those pieces, again and again; `rooms` are the rooms that these models make. -/
inductive Unnests : (nested flat : List (Piece τ)) → (rooms : List Nat) → Prop where
  | refl (ps : List (Piece τ)) : Unnests ps ps []
  | step {before inner after flat : List (Piece τ)} {m : Model τ} {room : Nat} {rooms : List Nat}
      (hm : Made (.ofPieces inner) m room)
      (h : Unnests (before ++ inner ++ after) flat rooms) :
      Unnests (before ++ .model m :: after) flat (room :: rooms)

variable {nested flat : List (Piece τ)} {rooms : List Nat}

theorem Unnests.bound_eq (h : Unnests nested flat rooms) :
    (Template.ofPieces nested).bound = (Template.ofPieces flat).bound := by
  induction h with
  | refl ps => rfl
  | @step before inner after flat m room rooms hm _ ih =>
      -- the model has the bound of its pieces together
      have hbound : m.bound = (inner.map Piece.bound).sum := by
        rw [hm.bound_eq (Template.normal_ofPieces inner), Template.bound_ofPieces]
      rw [← ih, Template.bound_ofPieces, Template.bound_ofPieces, List.map_append, List.map_cons,
        List.map_append, List.map_append, List.sum_append, List.sum_cons, List.sum_append,
        List.sum_append, add_assoc]
      show _ + (m.bound + _) = _
      rw [hbound]

theorem Unnests.fixed_eq (h : Unnests nested flat rooms) :
    Template.fixed nested = Template.fixed flat := by
  induction h with
  | refl ps => rfl
  | @step before inner after flat m room rooms hm _ ih =>
      have hfixed : m.fixedText? = Template.fixed inner := by
        rw [hm.fixedText?_eq (Template.normal_ofPieces inner), Template.fixed_ofPieces]
      rw [← ih, Template.fixed_append, Template.fixed_append, Template.fixed_append, Template.fixed,
        Template.map₂_append_assoc]
      show Option.map₂ _ _ (Option.map₂ _ m.fixedText? _) = _
      rw [hfixed]

/-- The output of nested pieces, if every model among them has its room. -/
theorem Unnests.output_eq (h : Unnests nested flat rooms) (hrooms : ∀ r ∈ rooms, r ≤ maxCapacity)
    (target : τ) : (Template.ofPieces nested).output target
      = (Template.ofPieces flat).output target := by
  induction h with
  | refl ps => rfl
  | @step before inner after flat m room rooms hm _ ih =>
      obtain ⟨hroom, hrest⟩ := List.forall_mem_cons.mp hrooms
      have htext : m.text target = Outcome.join (inner.map (·.eval target)) := by
        rw [hm.text_eq (Template.normal_ofPieces inner), Outcome.within_of_le hroom,
          Template.output_ofPieces]
      rw [← ih hrest, Template.output_ofPieces, Template.output_ofPieces]
      simp only [List.map_append, List.map_cons, Outcome.join_append, Outcome.join_cons,
        Outcome.append_assoc]
      show Outcome.append _ (Outcome.append (m.text target) _) = _
      rw [htext]

/-- **A model of a nested template cannot be told from one of the flat template**, if there is room
for the outputs of all models involved. -/
theorem agree_of_unnests (h : Unnests nested flat rooms) {m n : Model τ} {a b : Nat}
    (hm : Made (.ofPieces nested) m a) (hn : Made (.ofPieces flat) n b) :
    m.isDynamic = n.isDynamic ∧ m.fixedText? = n.fixedText? ∧
      m.bound.min = n.bound.min ∧ m.bound.max = n.bound.max ∧
      ((∀ r ∈ a :: b :: rooms, r ≤ maxCapacity) → ∀ target, m.text target = n.text target) := by
  have hnested := Template.normal_ofPieces nested
  have hflat := Template.normal_ofPieces flat
  have hfixed : m.fixedText? = n.fixedText? := by
    rw [hm.fixedText?_eq hnested, hn.fixedText?_eq hflat, Template.fixed_ofPieces,
      Template.fixed_ofPieces, h.fixed_eq]
  have hbound : m.bound = n.bound := by
    rw [hm.bound_eq hnested, hn.bound_eq hflat, h.bound_eq]
  refine ⟨?_, hfixed, by rw [hbound], by rw [hbound], ?_⟩
  · rw [Model.isDynamic, hfixed]
    rfl
  · intro hrooms target
    obtain ⟨ha, hrest⟩ := List.forall_mem_cons.mp hrooms
    obtain ⟨hb, hrest⟩ := List.forall_mem_cons.mp hrest
    rw [hm.text_eq hnested, hn.text_eq hflat, Outcome.within_of_le ha, Outcome.within_of_le hb,
      h.output_eq hrest]

/-- A greeting is compiled and put between brackets. -/
theorem agree_of_unnests_greeting :
    ((Template.ofPieces [.text "<", .model ((Services.new 7 .default).unitModel 1 greeting),
      .text ">"]).assemble 2).text "Ann" = .ok "<Hello Ann\n>" := by
  have hsettings : Settings.default.validate = .ok .default := rfl
  have hresult := Services.result_assemble_new hsettings 7 (fun _ => true) 1
    (t := greeting) (Template.normal_ofPieces _) (by decide) (by decide)
  have hinner : Made greeting ((Services.new 7 .default).unitModel 1 greeting) _ :=
    .compiled (Services.configured_new hsettings 7) (fun _ => true) 1 hresult
  have hunnests : Unnests
      ([.text "<"] ++ .model ((Services.new 7 .default).unitModel 1 greeting) :: [.text ">"])
      ([.text "<"] ++ [.text "Hello ", .model (.ofFunction 0 .ok .unknown), .text "\n"]
        ++ [.text ">"]) [_] := .step hinner (.refl _)
  have hagree := agree_of_unnests hunnests (.direct 2) (.direct 3)
  exact (hagree.2.2.2.2 (by decide) "Ann").trans (by decide)

end Templating
