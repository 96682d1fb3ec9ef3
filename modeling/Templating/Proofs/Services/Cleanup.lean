import Templating.Proofs.Services.Reachable
import Templating.Services.Patch

set_option autoImplicit false

/-! # What an assembly leaves behind

A loader may do anything to a source before it reads it, so an assembly can fail with some of its
models claimed, with none, or with values claimed that were deposited by others. Whatever happened,
a failed assembly leaves nothing of its own behind and takes nothing away but what the altered
source asked for; an assembly that succeeds leaves the models that the source did not ask for
(`settled_assemble`).
-/

namespace Templating.Services

variable {τ : Type} {t : Template τ} {self : Instance} {s : Services τ} {n : Nat}

/-- An assembly that failed left no residue: `keys` are those of its models, and `claims` those
under which the loader claimed models. -/
structure TakenBack (s : Services τ) (keys claims : List String) (after : Services τ) : Prop where
  own : ∀ key ∈ keys, after.handover.pending[key]? = none
  -- what waited before waits still, unless it was claimed
  others : ∀ {key : String} {value : Value τ}, s.handover.pending[key]? = some value →
    key ∉ claims → after.handover.pending[key]? = some value
  -- nothing waits that did not wait before
  nothing_new : ∀ {key : String} {value : Value τ}, after.handover.pending[key]? = some value →
    s.handover.pending[key]? = some value
  -- no name has gained a unit
  registry : ∀ {name : String} {unit : Instance}, after.registry.units[name]? = some unit →
    s.registry.units[name]? = some unit

/-- An assembly that succeeded took out what the loader claimed, and nothing else. -/
structure HandedOver (t : Template τ) (s : Services τ) (keys claims : List String)
    (after : Services τ) : Prop where
  own : List.Forall₂ (fun key m => after.handover.pending[key]?
    = if key ∈ claims then none else some (.model m)) keys t.models
  others : ∀ key ∉ keys, after.handover.pending[key]?
    = if key ∈ claims then none else s.handover.pending[key]?

/-- What an assembly comes to, however the loader alters the source that was written. -/
structure Settled (loader : Loader) (alive : Instance → Bool) (unit : Instance) (t : Template τ)
    (s : Services τ) : Prop where
  -- the loader's result is passed on as it is
  result : (s.assemble loader alive unit t).1.result
    = ((s.synthesize t).2.loadWith loader alive unit (s.synthesize t).1.1).1
  -- one name was issued
  names : (s.assemble loader alive unit t).2.names = s.names.next.2
  failed : ∀ fault, (s.assemble loader alive unit t).1.result = .error fault →
    TakenBack s (s.synthesize t).1.2 (loader.claims (s.synthesize t).1.1)
      (s.assemble loader alive unit t).2
  made : ∀ m, (s.assemble loader alive unit t).1.result = .ok m →
    HandedOver t s (s.synthesize t).1.2 (loader.claims (s.synthesize t).1.1)
      (s.assemble loader alive unit t).2

/-! ## Both ends -/

/-- Loading that failed, and the models taken back after it. -/
theorem takenBack_of_failed (hs : s.Reached n) (hkeys : n + t.models.length ≤ UInt64.size)
    {taken claims : List String} {registry : Registry} (htaken : taken ⊆ claims)
    (hregistry : ∀ {name : String} {unit : Instance}, registry.units[name]? = some unit →
      s.registry.units[name]? = some unit) :
    TakenBack s (s.handover.nextKeys t.models.length) claims
      { s.synthesized t with
        handover := ((s.synthesized t).handover.discardAll taken).discardAll
          (s.handover.nextKeys t.models.length)
        registry } where
  own := fun key hkey => by
    rw [Handover.getElem?_discardAll, if_pos hkey]
  others := by
    intro key value hvalue hclaims
    -- the key was issued before, so it is none of this assembly
    have hother : key ∉ s.handover.nextKeys t.models.length := fun hkey => by
      rw [hs.getElem?_eq_none hkeys hkey] at hvalue
      cases hvalue
    rw [Handover.getElem?_discardAll, if_neg hother, Handover.getElem?_discardAll,
      if_neg fun hmem => hclaims (htaken hmem), getElem?_synthesized_of_not_mem hother, hvalue]
  nothing_new := by
    intro key value hvalue
    rw [Handover.getElem?_discardAll] at hvalue
    split at hvalue
    · cases hvalue
    · next hother =>
      rw [Handover.getElem?_discardAll] at hvalue
      split at hvalue
      · cases hvalue
      · rwa [getElem?_synthesized_of_not_mem hother] at hvalue
  registry := hregistry

/-- Loading that succeeded. -/
theorem handedOver_of_made (hsize : t.models.length ≤ UInt64.size) (claims : List String)
    (registry : Registry) :
    HandedOver t s (s.handover.nextKeys t.models.length) claims
      { s.synthesized t with
        handover := (s.synthesized t).handover.discardAll claims
        registry } where
  own := by
    refine (forall₂_synthesized hsize).imp fun key m hpending => ?_
    rw [Handover.getElem?_discardAll, hpending]
  others := fun key hkey => by
    rw [Handover.getElem?_discardAll, getElem?_synthesized_of_not_mem hkey]

/-- **A failed assembly leaves no residue**, and one that succeeds leaves only what its source did
not ask for. This is so for any services, used in any way, as long as no more keys were issued than
there are words, and for any loader. -/
theorem settled_assemble (hs : s.Reached n) (hkeys : n + t.models.length ≤ UInt64.size)
    (hunit : t.shortcut? self = none) (loader : Loader) (alive : Instance → Bool) :
    Settled loader alive self t s := by
  have hloads := loads_loadWith loader alive self (s.unitProgram t).source (s.synthesized t)
  have hassemble := assemble_of_unit hunit loader alive s
  generalize hload : (s.synthesized t).loadWith loader alive self (s.unitProgram t).source = loaded
    at hloads hassemble
  cases hloads with
  | @failed fault taken registry htaken hregistry =>
      refine ⟨?_, ?_, fun _ _ => ?_, fun m hm => ?_⟩
      · rw [hassemble, synthesize_eq, hload]
      · rw [hassemble]
        rfl
      · rw [hassemble, synthesize_eq]
        exact takenBack_of_failed hs hkeys htaken hregistry
      · rw [hassemble] at hm
        cases hm
  | made =>
      refine ⟨?_, ?_, fun fault hfault => ?_, fun _ _ => ?_⟩
      · rw [hassemble, synthesize_eq, hload]
      · rw [hassemble]
        rfl
      · rw [hassemble] at hfault
        cases hfault
      · rw [hassemble, synthesize_eq]
        exact handedOver_of_made (by omega) _ _

/-- Services in which a number waits. -/
def occupied : Services String :=
  { (new 7 .default : Services String) with handover := ((Handover.new 7).deposit (.int 5)).2 }

/-- A loader refuses a greeting while a number waits. -/
theorem settled_assemble_occupied :
    Settled (.patching ⟨some "no", none, []⟩) (fun _ => true) 1 greeting occupied ∧
      let after := occupied.assemble (.patching ⟨some "no", none, []⟩) (fun _ => true) 1 greeting
      after.1.result = .error (.synthesis "spark.textmodel.Generated$0$0" (.refused "no")) ∧
        after.2.handover.pending["t7-k0"]? = some (.int 5) ∧
        after.2.handover.pending["t7-k1"]? = none := by
  have hs : occupied.Reached 1 := .use (.new rfl 7) (.deposit (.int 5))
  have hsettled : Settled (.patching ⟨some "no", none, []⟩) (fun _ => true) 1 greeting occupied :=
    settled_assemble hs (by decide) rfl _ _
  have hresult := hsettled.result.trans
    (show _ = .error (.synthesis occupied.names.current (.refused "no")) from rfl)
  have hleft := hsettled.failed _ hresult
  refine ⟨hsettled, hresult, hleft.others ?_ ?_, hleft.own "t7-k1" ?_⟩
  · exact Std.HashMap.getElem?_insert_self
  · exact List.not_mem_nil
  · decide

end Templating.Services
