import Templating.Proofs.Program.Grammar
import Templating.Proofs.Services.Loading

set_option autoImplicit false

/-! # The stages of loading

Loading a source goes through three stages, and each of them can fail:

    reading      nothing is changed
    claiming     the values up to the first key that gives no model are gone
    defining     the values under all slots are gone

A key gives no model if nothing waits under it, if what waits is no model, or if the key was claimed
before in the same batch (`Handover.Lacks`), and the first such key is reported. This is so for any
services and any source: the keys may be those of others, and the name may be that of a unit of
others (`staged_load`).
-/

namespace Templating

variable {τ : Type}

/-! ## Keys that give no model -/

namespace Handover

/-- Why the key at place `i` of a batch gives no model when its turn comes. -/
inductive Lacks (h : Handover τ) (keys : List String) (i : Nat) (key : String) : Prop where
  -- nothing waits under the key
  | absent (hnone : h.pending[key]? = none)
  -- what waits under the key is no model
  | foreign {value : Value τ} (hvalue : h.pending[key]? = some value)
      (hmodel : value.model? = none)
  -- the key is claimed at an earlier place
  | repeated {j : Nat} (hj : j < i) (hkey : keys[j]? = some key)

/-- The first key of a batch that gives no model is `key`, at place `i`. -/
structure FirstLacking (h : Handover τ) (keys : List String) (i : Nat) (key : String) : Prop where
  place : keys[i]? = some key
  lacks : h.Lacks keys i key
  first : ∀ {j : Nat} {k : String}, j < i → keys[j]? = some k → ¬ h.Lacks keys j k

/-- Every key of a batch gives a model. -/
def Filled (h : Handover τ) (keys : List String) : Prop :=
  ∀ (i : Nat) (key : String), keys[i]? = some key → ¬ h.Lacks keys i key

variable {h : Handover τ} {keys front rest : List String} {key : String}
  {models : List (Model τ)}

theorem bind_model?_eq_none_iff : (h.pending[key]?).bind Value.model? = none ↔
    h.pending[key]? = none ∨ ∃ value, h.pending[key]? = some value ∧ value.model? = none := by
  cases h.pending[key]? with
  | none => simp
  | some value => simp

/-- Keys that can be claimed together give models, also at the beginning of a longer batch. -/
theorem Claimable.not_lacks (hc : h.Claimable front models) {i : Nat} (hi : front[i]? = some key) :
    ¬ h.Lacks (front ++ rest) i key := by
  obtain ⟨hlt, rfl⟩ := List.getElem?_eq_some_iff.mp hi
  obtain ⟨hlength, hget⟩ := List.forall₂_iff_get.mp hc.pending
  have hmodel : h.pending[front[i]]? = some (.model models[i]) := hget i hlt (hlength ▸ hlt)
  intro hlacks
  cases hlacks with
  | absent hnone =>
      rw [hmodel] at hnone
      cases hnone
  | foreign hvalue hnone =>
      rw [hmodel] at hvalue
      obtain rfl := Option.some.inj hvalue
      cases hnone
  | @repeated j hj hkey =>
      -- both places are in the part without repetition
      rw [List.getElem?_append_left (by omega)] at hkey
      obtain ⟨hj', hsame⟩ := List.getElem?_eq_some_iff.mp hkey
      have hplaces : j = i := hc.nodup.getElem_inj_iff.mp hsame
      omega

/-- The key that a loader stops at is the first that gives no model. -/
theorem firstLacking_of_claimable (hc : h.Claimable front models)
    (hkey : key ∈ front ∨ (h.pending[key]?).bind Value.model? = none) :
    h.FirstLacking (front ++ key :: rest) front.length key where
  place := by simp
  lacks := by
    rcases hkey with hmem | hnone
    · obtain ⟨j, hj, hsame⟩ := List.mem_iff_getElem.mp hmem
      refine .repeated hj ?_
      rw [List.getElem?_append_left hj, List.getElem?_eq_getElem hj, hsame]
    · rcases bind_model?_eq_none_iff.mp hnone with habsent | ⟨value, hvalue, hmodel⟩
      · exact .absent habsent
      · exact .foreign hvalue hmodel
  first := by
    intro j k hj hk
    rw [List.getElem?_append_left hj] at hk
    exact hc.not_lacks hk

/-- **A batch is claimed up to the first key that gives no model**, and in full if there is no such
key. -/
theorem claimModels_cases (h : Handover τ) (keys : List String) :
    (∃ i key, h.FirstLacking keys i key ∧
      h.claimModels keys = (.error (.unknownKey key), h.discardAll (keys.take (i + 1)))) ∨
    (h.Filled keys ∧ ∃ models,
      List.Forall₂ (fun key m => h.pending[key]? = some (.model m)) keys models ∧
      h.claimModels keys = (.ok models, h.discardAll keys)) := by
  generalize hclaims : h.claimModels keys = result
  cases hclaims ▸ h.claiming_claimModels keys with
  | @stop front rest key models hkeys hc hkey =>
      have htaken : keys.take (front.length + 1) = front ++ [key] := by
        rw [hkeys, List.append_cons, List.take_left' (by simp)]
      refine Or.inl ⟨front.length, key, ?_, by rw [htaken]⟩
      rw [hkeys]
      exact firstLacking_of_claimable hc hkey
  | @all models hc =>
      refine Or.inr ⟨fun i key hi => ?_, models, hc.pending, rfl⟩
      have hlacks : ¬ h.Lacks (keys ++ []) i key := hc.not_lacks hi
      rwa [List.append_nil] at hlacks

/-- A batch whose keys all give models is claimed. -/
theorem Filled.claimModels (hfilled : h.Filled keys) : ∃ models,
    List.Forall₂ (fun key m => h.pending[key]? = some (.model m)) keys models ∧
      h.claimModels keys = (.ok models, h.discardAll keys) := by
  rcases h.claimModels_cases keys with ⟨i, key, hfirst, -⟩ | ⟨-, hclaims⟩
  · exact absurd hfirst.lacks (hfilled i key hfirst.place)
  · exact hclaims

end Handover

namespace Services

/-! ## What is left -/

/-- Exactly the values under the given keys are gone, and nothing was issued. -/
structure Took (s : Services τ) (taken : List String) (after : Services τ) : Prop where
  gone : ∀ key ∈ taken, after.handover.pending[key]? = none
  others : ∀ key ∉ taken, after.handover.pending[key]? = s.handover.pending[key]?
  keys : after.handover.id = s.handover.id ∧ after.handover.issued = s.handover.issued
  names : after.names = s.names
  settings : after.settings = s.settings

theorem took_discardAll (s : Services τ) (taken : List String) (registry : Registry) :
    Took s taken { s with handover := s.handover.discardAll taken, registry } where
  gone key hkey := by rw [Handover.getElem?_discardAll, if_pos hkey]
  others key hkey := by rw [Handover.getElem?_discardAll, if_neg hkey]
  keys := ⟨Handover.id_discardAll _ _, Handover.issued_discardAll _ _⟩
  names := rfl
  settings := rfl

/-- What loading a source comes to, stage by stage. -/
structure Staged (alive : Instance → Bool) (unit : Instance) (source : Source) (s : Services τ) :
    Prop where
  -- the source cannot be read
  malformed : ∀ {e : SyntaxError}, source.read = .error e →
    s.load alive unit source = (.error (.synthesis source.name (.malformed e)), s)
  -- and this is the only reason for such a fault
  synthesis : ∀ {name : String} {failure : SynthesisFailure},
    (s.load alive unit source).1 = .error (.synthesis name failure) →
      ∃ e, source.read = .error e
  -- a program that is read has the name of its source
  name : ∀ {p : Program}, source.read = .ok p → p.name = source.name
  -- a slot gives no model: the first such slot is reported, and the registry is not asked
  stopped : ∀ {p : Program}, source.read = .ok p → ¬ s.handover.Filled p.slots →
    ∃ i key, s.handover.FirstLacking p.slots i key ∧
      (s.load alive unit source).1 = .error (.unknownKey key) ∧
      Took s (p.slots.take (i + 1)) (s.load alive unit source).2 ∧
      (s.load alive unit source).2.registry = s.registry
  -- a living unit has the name: it keeps it
  rejected : ∀ {p : Program} {holder : Instance}, source.read = .ok p → s.handover.Filled p.slots →
    s.registry.units[p.name]? = some holder → alive holder = true →
      (s.load alive unit source).1 = .error (.unitAlreadyDefined p.name) ∧
      Took s p.slots (s.load alive unit source).2 ∧
      Registry.Gains alive s.registry [] (s.load alive unit source).2.registry
  -- otherwise the unit gets the name, and is the program over the models that waited
  defined : ∀ {p : Program}, source.read = .ok p → s.handover.Filled p.slots →
    (∀ holder, s.registry.units[p.name]? = some holder → alive holder = false) →
      ∃ models,
        List.Forall₂ (fun key m => s.handover.pending[key]? = some (.model m)) p.slots models ∧
        (s.load alive unit source).1 = .ok ((p.link models).toModel unit) ∧
        Took s p.slots (s.load alive unit source).2 ∧
        Registry.Gains alive s.registry [(p.name, unit)] (s.load alive unit source).2.registry

/-! ## The stages -/

variable {alive : Instance → Bool} {self : Instance} {source : Source} {s : Services τ}
  {p : Program}

/-- Loading leaves the entries of living units as they are, however it ends. -/
theorem getElem?_load_of_living {name : String} {unit : Instance}
    (hentry : s.registry.units[name]? = some unit) (halive : alive unit = true) :
    (s.load alive self source).2.registry.units[name]? = some unit := by
  cases hread : source.read with
  | error e =>
      rw [load_of_malformed hread]
      exact hentry
  | ok p =>
      rcases s.handover.claimModels_cases p.slots with
        ⟨i, key, -, hclaims⟩ | ⟨-, models, -, hclaims⟩
      · rw [load_of_stopped hread hclaims]
        exact hentry
      · rw [load_of_claimed hread hclaims]
        exact Registry.getElem?_define_of_living hentry halive

/-- The source of a load that failed in its synthesis could not be read: claiming and defining have
faults of their own. -/
theorem read_eq_error_of_load {unit : String} {failure : SynthesisFailure}
    (h : (s.load alive self source).1 = .error (.synthesis unit failure)) :
    ∃ e, source.read = .error e := by
  cases hread : source.read with
  | error e => exact ⟨e, rfl⟩
  | ok p =>
      exfalso
      rcases s.handover.claimModels_cases p.slots with
        ⟨i, key, -, hclaims⟩ | ⟨-, models, -, hclaims⟩
      · rw [load_of_stopped hread hclaims] at h
        cases h
      · rw [load_of_claimed hread hclaims, Registry.define_eq] at h
        by_cases hdefined : s.registry.isDefined alive p.name = true
        · rw [if_pos hdefined] at h
          cases h
        · rw [if_neg hdefined] at h
          cases h

/-- **What a failed load leaves depends on the stage it failed in**, for all services and all
sources. -/
theorem staged_load (alive : Instance → Bool) (self : Instance) (source : Source)
    (s : Services τ) : Staged alive self source s where
  malformed := load_of_malformed
  synthesis := read_eq_error_of_load
  name := Source.name_of_read
  stopped := by
    intro p hread hfilled
    rcases s.handover.claimModels_cases p.slots with ⟨i, key, hfirst, hclaims⟩ | ⟨hall, -⟩
    · refine ⟨i, key, hfirst, ?_⟩
      rw [load_of_stopped hread hclaims]
      exact ⟨rfl, took_discardAll s _ s.registry, rfl⟩
    · exact absurd hall hfilled
  rejected := by
    intro p unit hread hfilled hentry halive
    have hdefined : s.registry.isDefined alive p.name = true :=
      (Registry.isDefined_iff p.name).mpr ⟨unit, hentry, halive⟩
    obtain ⟨models, -, hclaims⟩ := hfilled.claimModels
    rw [load_of_claimed hread hclaims, Registry.define_of_isDefined hdefined]
    exact ⟨rfl, took_discardAll s _ _, Registry.gains_tidy⟩
  defined := by
    intro p hread hfilled hdead
    have hdefined : ¬ s.registry.isDefined alive p.name = true := by
      rw [Registry.isDefined_iff]
      rintro ⟨unit, hentry, halive⟩
      rw [hdead unit hentry] at halive
      cases halive
    obtain ⟨hok, hgains⟩ := Registry.define_of_not_isDefined hdefined self
    obtain ⟨models, hmodels, hclaims⟩ := hfilled.claimModels
    refine ⟨models, hmodels, ?_⟩
    rw [load_of_claimed hread hclaims, hok]
    exact ⟨rfl, took_discardAll s _ _, hgains⟩

end Services

end Templating
