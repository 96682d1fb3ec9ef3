import Templating.Proofs.Services.Loading
import Templating.Proofs.Services.Synthesis

set_option autoImplicit false

/-! # Compiling gives what evaluating gives

The two ways from a template to a model meet here. A loader that reads sources as they are finds
the models of a template under the keys that were written for it, so loading can fail only
because a living unit has the name (`load_unitProgram`). A model that was compiled cannot be told
from one that evaluates the template directly, except by the room that each of them makes
(`agree_of_assemble`).
-/

namespace Templating

namespace Services

variable {τ : Type} {alive : Instance → Bool} {self : Instance} {t : Template τ} {s : Services τ}

/-! ## Loading what was written -/

/-- The model of a template that was compiled by the services. -/
def unitModel (self : Instance) (t : Template τ) (s : Services τ) : Model τ :=
  ((s.unitProgram t).normal.link t.models).toModel self

/-- The services once a unit was loaded, with the registry that it was defined in. -/
def loaded (t : Template τ) (registry : Registry) (s : Services τ) : Services τ :=
  { s.synthesized t with
    handover := (s.synthesized t).handover.discardAll (s.handover.nextKeys t.models.length)
    registry }

/-- **Loading what was written takes out the models that were deposited for it** and leaves it to
the registry whether there is a unit. -/
theorem load_unitProgram (alive : Instance → Bool) (self : Instance)
    (hwf : (s.unitProgram t).WellFormed) (hsize : t.models.length ≤ UInt64.size) :
    (s.synthesized t).load alive self (s.unitProgram t).source
      = ((s.registry.define alive s.names.current self).1.map fun _ => s.unitModel self t,
        s.loaded t (s.registry.define alive s.names.current self).2) := by
  have hread : (s.unitProgram t).source.read = .ok (s.unitProgram t).normal :=
    Program.read_source hwf (by rw [length_slots_unitProgram]; exact hsize)
  have hslots : (s.unitProgram t).normal.slots = s.handover.nextKeys t.models.length :=
    Template.slots_program
  have hname : (s.unitProgram t).normal.name = s.names.current := Template.name_program
  have hclaims : (s.synthesized t).handover.claimModels (s.unitProgram t).normal.slots
      = (.ok t.models, (s.synthesized t).handover.discardAll
        (s.handover.nextKeys t.models.length)) := by
    rw [hslots]
    exact Handover.claimModels_eq (s.handover.nodup_nextKeys hsize) (forall₂_synthesized hsize)
  rw [load_of_claimed hread hclaims, hname]
  rfl

/-- Loading takes out what waits under the keys that were issued for it, and nothing else. -/
theorem getElem?_loaded {registry : Registry} (key : String) :
    (s.loaded t registry).handover.pending[key]?
      = if key ∈ s.handover.nextKeys t.models.length then none
        else s.handover.pending[key]? := by
  show ((s.synthesized t).handover.discardAll _).pending[key]? = _
  rw [Handover.getElem?_discardAll]
  split
  · rfl
  · next hkey => exact getElem?_synthesized_of_not_mem hkey

/-- A template that needs no unit leaves the services alone. -/
theorem assemble_of_shortcut {m : Model τ} (loader : Loader) (h : t.shortcut? self = some m) :
    s.assemble loader alive self t = (⟨.ok m, none⟩, s) := by
  simp only [assemble, h]

/-- A template that needs a unit gets it if the registry takes its name. -/
theorem assemble_of_define (hs : s.Configured) (ht : t.Normal) (hlen : 2 ≤ t.pieces.length)
    (hsize : t.models.length ≤ UInt64.size)
    (hdefine : (s.registry.define alive s.names.current self).1 = .ok ()) :
    s.assemble .plain alive self t
      = (⟨.ok (s.unitModel self t), some (s.unitProgram t).source⟩,
        s.loaded t (s.registry.define alive s.names.current self).2) := by
  have hshort : t.shortcut? self = none := Template.shortcut?_eq_none_iff.mpr hlen
  have hload := load_unitProgram alive self (wellFormed_unitProgram hs ht hlen) hsize
  rw [hdefine] at hload
  simp only [assemble, hshort, synthesize_eq, loadWith, Loader.plain, hload]
  rfl

/-- New services compile any template that needs a unit. -/
theorem result_assemble_new {settings : Settings} (hsettings : settings.validate = .ok settings)
    (id : Nat) (alive : Instance → Bool) (self : Instance) (ht : t.Normal)
    (hlen : 2 ≤ t.pieces.length) (hsize : t.models.length ≤ UInt64.size) :
    ((new id settings).assemble .plain alive self t).1.result
      = .ok ((new id settings).unitModel self t) := by
  have hrecords : (new id settings : Services τ).registry.Records alive [] :=
    Registry.records_new _
  rw [assemble_of_define (configured_new hsettings id) ht hlen hsize
    (by rw [hrecords.define_eq List.not_mem_nil self])]

/-- If the registry refuses the name, the fault is passed on. Nothing is left to be taken back. -/
theorem assemble_of_refused (hs : s.Configured) (ht : t.Normal) (hlen : 2 ≤ t.pieces.length)
    (hsize : t.models.length ≤ UInt64.size) {fault : Fault}
    (hdefine : (s.registry.define alive s.names.current self).1 = .error fault) :
    s.assemble .plain alive self t
      = (⟨.error fault, some (s.unitProgram t).source⟩,
        let after := s.loaded t (s.registry.define alive s.names.current self).2
        { after with
          handover := after.handover.discardAll (s.handover.nextKeys t.models.length) }) := by
  have hshort : t.shortcut? self = none := Template.shortcut?_eq_none_iff.mpr hlen
  have hload := load_unitProgram alive self (wellFormed_unitProgram hs ht hlen) hsize
  rw [hdefine] at hload
  rw [assemble_of_unit hshort, loadWith, Loader.plain]
  simp only [hload]
  rfl

/-- A unit that was assembled is the one that was written. -/
theorem eq_unitModel_of_assemble (hs : s.Configured) (ht : t.Normal) (hlen : 2 ≤ t.pieces.length)
    {m : Model τ} (hm : (s.assemble .plain alive self t).1.result = .ok m) :
    m = s.unitModel self t := by
  have hshort : t.shortcut? self = none := Template.shortcut?_eq_none_iff.mpr hlen
  have hwf := wellFormed_unitProgram hs ht hlen
  have hload : ((s.synthesized t).load alive self (s.unitProgram t).source).1 = .ok m :=
    (result_assemble_of_unit hshort .plain alive s).symm.trans hm
  -- the program that is read is the one that was written
  obtain ⟨q, models, hread, hclaims, rfl⟩ := eq_toModel_of_load hload
  obtain ⟨hsize, rfl⟩ := (Program.read_source_eq_ok_iff hwf).mp hread
  rw [length_slots_unitProgram] at hsize
  -- and the models that are claimed are those that were deposited
  have hslots : (s.unitProgram t).normal.slots = s.handover.nextKeys t.models.length :=
    Template.slots_program
  rw [hslots, Handover.claimModels_eq (s.handover.nodup_nextKeys hsize)
    (forall₂_synthesized hsize)] at hclaims
  obtain rfl := Except.ok.inj hclaims
  rfl

/-- A model that was compiled is that of the shortcut, or the unit that was written. -/
theorem shortcut_or_unitModel (hs : s.Configured) (ht : t.Normal) {m : Model τ}
    (hm : (s.assemble .plain alive self t).1.result = .ok m) :
    t.shortcut? self = some m ∨ (t.shortcut? self = none ∧ m = s.unitModel self t) := by
  cases hshort : t.shortcut? self with
  | some n =>
      rw [assemble_of_shortcut _ hshort] at hm
      exact Or.inl (congrArg some (Except.ok.inj hm))
  | none =>
      have hlen : 2 ≤ t.pieces.length := Template.shortcut?_eq_none_iff.mp hshort
      exact Or.inr ⟨rfl, eq_unitModel_of_assemble hs ht hlen hm⟩

/-! ## What was loaded -/

theorem bound_unitModel : (s.unitModel self t).bound = t.bound := Template.bound_program

/-- **A unit gives the output of its template**, if there is the room that it opens with. -/
theorem text_unitModel (ht : t.Normal) (hlen : 2 ≤ t.pieces.length) (target : τ) :
    (s.unitModel self t).text target
      = Outcome.within (s.unitProgram t).opening.room (t.output target) := by
  show ((s.unitProgram t).normal.link t.models).eval target = _
  rw [Program.eval_link_normal]
  exact Template.eval_link_program ht hlen (Handover.length_nextKeys _ _) target

/-! ## Both ways -/

/-- The two ways give the same model to a template that needs no unit, apart from its number. -/
theorem agree_of_shortcut {m : Model τ} (h : t.shortcut? self = some m) (self' : Instance) :
    m.fixedText? = (t.assemble self').fixedText? ∧ m.bound = (t.assemble self').bound := by
  unfold Template.assemble
  rcases Template.shortcut?_cases h with ⟨hps, rfl⟩ | ⟨s, hps, rfl⟩ | hps
  · simp only [Template.shortcut?, hps, Option.getD_some, and_self]
  · simp only [Template.shortcut?, hps, Option.getD_some]
    exact ⟨rfl, rfl⟩
  · simp only [Template.shortcut?, hps, Option.getD_some, and_self]

/-- A template that needs a unit is evaluated directly by a model with its bound. -/
theorem agree_of_unit (ht : t.Normal) (hlen : 2 ≤ t.pieces.length) (self' : Instance) :
    (t.assemble self').fixedText? = none ∧ (t.assemble self').bound = t.bound := by
  have hdyn : t.isDynamic = true := ht.isDynamic_iff.mpr (ht.models_ne_nil hlen)
  rw [Template.assemble, Template.shortcut?_eq_none_iff.mpr hlen, Option.getD_none,
    Template.interpret, if_pos hdyn]
  exact ⟨rfl, rfl⟩

/-- **A compiled model and one that evaluates directly cannot be told apart**, if there is room
for the outputs of both. Of the services only the settings matter. -/
theorem agree_of_assemble (hs : s.Configured) (pushed : List (Piece τ))
    (ht : t = Template.ofPieces pushed) (alive : Instance → Bool) (self self' : Instance)
    {m : Model τ} (hm : (s.assemble .plain alive self t).1.result = .ok m) :
    m.isDynamic = (t.assemble self').isDynamic ∧
      m.fixedText? = (t.assemble self').fixedText? ∧
      m.bound.min = (t.assemble self').bound.min ∧
      m.bound.max = (t.assemble self').bound.max ∧
      (t.capacity ≤ maxCapacity →
        (t.shortcut? self = none → (s.unitProgram t).opening.room ≤ maxCapacity) →
        ∀ target, m.text target = t.output target ∧
          (t.assemble self').text target = t.output target) := by
  have hnormal : t.Normal := ht ▸ Template.normal_ofPieces pushed
  have hdirect : t.capacity ≤ maxCapacity → ∀ target,
      (t.assemble self').text target = t.output target := by
    intro hcapacity target
    have hroom : t.room ≤ maxCapacity := by
      unfold Template.room
      split <;> omega
    rw [Template.text_assemble hnormal, Outcome.within_of_le hroom]
  -- it is enough to compare fixed texts, bounds and outputs
  suffices h : m.fixedText? = (t.assemble self').fixedText? ∧
      m.bound = (t.assemble self').bound ∧
      ((t.shortcut? self = none → (s.unitProgram t).opening.room ≤ maxCapacity) →
        ∀ target, m.text target = t.output target) by
    obtain ⟨hfixed, hbound, htext⟩ := h
    refine ⟨?_, hfixed, by rw [hbound], by rw [hbound], fun hcapacity hroom target => ?_⟩
    · rw [Model.isDynamic, hfixed]
      rfl
    · exact ⟨htext hroom target, hdirect hcapacity target⟩
  cases hshort : t.shortcut? self with
  | some n =>
      rw [assemble_of_shortcut _ hshort] at hm
      obtain rfl : n = m := Except.ok.inj hm
      obtain ⟨hfixed, hbound⟩ := agree_of_shortcut hshort self'
      exact ⟨hfixed, hbound, fun _ target => Template.text_shortcut hshort target⟩
  | none =>
      have hlen : 2 ≤ t.pieces.length := Template.shortcut?_eq_none_iff.mp hshort
      obtain ⟨hfixed, hbound⟩ := agree_of_unit hnormal hlen self'
      obtain rfl := eq_unitModel_of_assemble hs hnormal hlen hm
      refine ⟨hfixed.symm, by rw [bound_unitModel, hbound], fun hroom target => ?_⟩
      rw [text_unitModel hnormal hlen, Outcome.within_of_le (hroom rfl)]

/-- On new services a greeting is compiled, and there is room for it. -/
theorem agree_of_assemble_greeting :
    ∃ m, ((new 7 .default).assemble .plain (fun _ => true) 1 greeting).1.result = .ok m ∧
      m.isDynamic = (greeting.assemble 2).isDynamic ∧
      ∀ target, m.text target = greeting.output target ∧
        (greeting.assemble 2).text target = greeting.output target := by
  have hs : (new 7 .default : Services String).Configured := configured_new rfl 7
  have hm : ((new 7 .default).assemble .plain (fun _ => true) 1 greeting).1.result
      = .ok ((new 7 .default).unitModel 1 greeting) :=
    result_assemble_new rfl 7 _ 1 (Template.normal_ofPieces _) (by decide) (by decide)
  have hagree := agree_of_assemble (t := greeting) hs _ rfl (fun _ => true) 1 2 hm
  have hopening : ((new 7 .default).unitProgram greeting).opening = .capacity 64 := rfl
  refine ⟨_, hm, hagree.1, hagree.2.2.2.2 (by decide) fun _ => ?_⟩
  rw [hopening]
  decide

end Services

end Templating
