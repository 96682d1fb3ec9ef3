import Templating.Proofs.Services.Handover
import Templating.Proofs.Services.Registry
import Templating.Services.Compilation

set_option autoImplicit false

/-! # What loading a source does

A source may name any keys, so a loader may find less than it asks for, or something else. It
claims the models of the slots in order and stops at the first key that it cannot have
(`claiming_claimModels`); the values it has taken out by then are gone. The registry gains an entry
only if everything went well (`loads_loadWith`).
-/

namespace Templating

variable {τ : Type}

/-! ## Claiming under any keys -/

namespace Handover

/-- Models wait under the keys, in order, and no key comes twice. -/
structure Claimable (h : Handover τ) (keys : List String) (models : List (Model τ)) : Prop where
  nodup : keys.Nodup
  pending : List.Forall₂ (fun key m => h.pending[key]? = some (.model m)) keys models

variable {h : Handover τ} {key : String} {keys : List String} {m : Model τ}
  {models : List (Model τ)}

/-- Something waits under every key of a batch that can be claimed. -/
theorem Claimable.getElem?_ne_none (hc : h.Claimable keys models) (hkey : key ∈ keys) :
    h.pending[key]? ≠ none := by
  obtain ⟨i, hi, rfl⟩ := List.mem_iff_getElem.mp hkey
  obtain ⟨hlength, hget⟩ := List.forall₂_iff_get.mp hc.pending
  have hmodel : h.pending[keys[i]]? = some _ := hget i hi (hlength ▸ hi)
  rw [hmodel]
  exact Option.some_ne_none _

/-- One model, and then others when it is taken out, can be claimed together. -/
theorem Claimable.cons (hkey : h.pending[key]? = some (.model m))
    (hc : (h.discard key).2.Claimable keys models) : h.Claimable (key :: keys) (m :: models) where
  nodup := by
    refine List.nodup_cons.mpr ⟨fun hmem => ?_, hc.nodup⟩
    exact hc.getElem?_ne_none hmem (by rw [getElem?_discard, if_pos rfl])
  pending := by
    refine List.Forall₂.cons hkey (hc.pending.imp fun k n hk => ?_)
    rw [getElem?_discard] at hk
    split at hk
    · cases hk
    · exact hk

/-- The ends of claiming a batch: all models are given out, or there is a first key under which
none is left. -/
inductive Claiming (h : Handover τ) (keys : List String) :
    Except Fault (List (Model τ)) × Handover τ → Prop where
  | all {models : List (Model τ)} (hc : h.Claimable keys models) :
      Claiming h keys (.ok models, h.discardAll keys)
  | stop {front rest : List String} {key : String} {models : List (Model τ)}
      (hkeys : keys = front ++ key :: rest) (hc : h.Claimable front models)
      -- the key was claimed before, or it is not that of a model
      (hkey : key ∈ front ∨ (h.pending[key]?).bind Value.model? = none) :
      Claiming h keys (.error (.unknownKey key), h.discardAll (front ++ [key]))

/-- **Claiming a batch stops at the first key that is not that of a model**, with everything taken
out up to this key. -/
theorem claiming_claimModels (keys : List String) (h : Handover τ) :
    h.Claiming keys (h.claimModels keys) := by
  induction keys generalizing h with
  | nil => exact .all ⟨List.nodup_nil, .nil⟩
  | cons key keys ih =>
      cases hvalue : (h.pending[key]?).bind Value.model? with
      | none =>
          simp only [claimModels, claim_of_none hvalue]
          exact .stop rfl ⟨List.nodup_nil, .nil⟩ (.inr hvalue)
      | some m =>
          have hkey : h.pending[key]? = some (.model m) :=
            (bind_select_eq_some_iff Kind.model).mp hvalue
          simp only [claimModels, claim_of_some hkey]
          generalize hend : (h.discard key).2.claimModels keys = result
          -- the rest is claimed from the table without this model
          cases hend ▸ ih (h.discard key).2 with
          | all hc => exact .all (.cons hkey hc)
          | @stop front rest k models hkeys hc hk =>
              refine .stop (by rw [hkeys]; rfl) (.cons hkey hc) ?_
              rw [getElem?_discard] at hk
              by_cases hsame : key = k
              · exact .inl (hsame ▸ List.mem_cons_self)
              · rw [if_neg hsame] at hk
                exact hk.imp_left (List.mem_cons_of_mem key)

end Handover

/-! ## Loading any source -/

/-- The keys of the slots that a source declares, if it can be read. -/
def Source.slotKeys (source : Source) : List String :=
  match source.read with
  | .error _ => []
  | .ok program => program.slots

/-- The keys under which a loader claims models when it is given a source: those of the source that
it reads. -/
def Loader.claims (loader : Loader) (source : Source) : List String :=
  match loader.prepare source with
  | .error _ => []
  | .ok prepared => prepared.slotKeys

namespace Services

section

variable {alive : Instance → Bool} {self : Instance} {source : Source} {s : Services τ}
  {p : Program}

theorem load_of_malformed {e : SyntaxError} (h : source.read = .error e) :
    s.load alive self source = (.error (.synthesis source.name (.malformed e)), s) := by
  simp only [load, h]

theorem load_of_stopped (hread : source.read = .ok p) {fault : Fault} {handover : Handover τ}
    (hclaims : s.handover.claimModels p.slots = (.error fault, handover)) :
    s.load alive self source = (.error fault, { s with handover }) := by
  simp only [load, hread, hclaims]

/-- Once its models are claimed, it is for the registry to say whether there is a unit. -/
theorem load_of_claimed (hread : source.read = .ok p) {models : List (Model τ)}
    {handover : Handover τ} (hclaims : s.handover.claimModels p.slots = (.ok models, handover)) :
    s.load alive self source =
      ((s.registry.define alive p.name self).1.map fun _ => (p.link models).toModel self,
        { s with handover, registry := (s.registry.define alive p.name self).2 }) := by
  simp only [load, hread, hclaims]

end

/-- What loading does to services. Names are not touched. -/
inductive Loads (claims : List String) (s : Services τ) :
    Except Fault (Model τ) × Services τ → Prop where
  -- some values are gone, and the registry may have been purged
  | failed {fault : Fault} {taken : List String} {registry : Registry} (htaken : taken ⊆ claims)
      (hregistry : ∀ {name : String} {unit : Instance}, registry.units[name]? = some unit →
        s.registry.units[name]? = some unit) :
      Loads claims s
        (.error fault, { s with handover := s.handover.discardAll taken, registry })
  | made {m : Model τ} {registry : Registry} :
      Loads claims s (.ok m, { s with handover := s.handover.discardAll claims, registry })

/-- A loaded unit is the program of its source, over the models that it claims. -/
theorem eq_toModel_of_load {alive : Instance → Bool} {self : Instance} {source : Source}
    {s : Services τ} {m : Model τ} (hm : (s.load alive self source).1 = .ok m) :
    ∃ program models, source.read = .ok program ∧
      (s.handover.claimModels program.slots).1 = .ok models ∧
      m = (program.link models).toModel self := by
  cases hread : source.read with
  | error e =>
      rw [load_of_malformed hread] at hm
      cases hm
  | ok program =>
      cases hclaims : s.handover.claimModels program.slots with
      | mk result handover =>
      cases result with
      | error fault =>
          rw [load_of_stopped hread hclaims] at hm
          cases hm
      | ok models =>
          refine ⟨program, models, rfl, by rw [hclaims], ?_⟩
          rw [load_of_claimed hread hclaims] at hm
          change (s.registry.define alive program.name self).1.map _ = _ at hm
          cases hdefine : (s.registry.define alive program.name self).1 with
          | error fault =>
              rw [hdefine] at hm
              cases hm
          | ok _ =>
              rw [hdefine] at hm
              exact (Except.ok.inj hm).symm

theorem loads_load (alive : Instance → Bool) (self : Instance) (source : Source) (s : Services τ) :
    s.Loads source.slotKeys (s.load alive self source) := by
  cases hread : source.read with
  | error e =>
      rw [load_of_malformed hread]
      exact .failed (List.nil_subset _) id
  | ok program =>
      simp only [Source.slotKeys, hread]
      generalize hclaims : s.handover.claimModels program.slots = result
      cases hclaims ▸ s.handover.claiming_claimModels program.slots with
      | @stop front rest key _ hkeys _ _ =>
          have htaken : front ++ [key] ⊆ program.slots := by
            rw [hkeys, List.append_cons front key rest]
            exact List.subset_append_left _ _
          rw [load_of_stopped hread hclaims]
          exact .failed htaken id
      | all _ =>
          rw [load_of_claimed hread hclaims]
          cases hdefine : (s.registry.define alive program.name self).1 with
          | error fault =>
              exact .failed (List.Subset.refl _) (Registry.getElem?_of_define_error hdefine)
          | ok _ => exact .made

/-- **A loader takes out only what its source asks for**, and defines a unit only if it makes
one. -/
theorem loads_loadWith (loader : Loader) (alive : Instance → Bool) (self : Instance)
    (source : Source) (s : Services τ) :
    s.Loads (loader.claims source) (s.loadWith loader alive self source) := by
  unfold loadWith Loader.claims
  cases loader.prepare source with
  | error fault => exact .failed (List.Subset.refl []) id
  | ok prepared => exact loads_load alive self prepared s

end Services

end Templating
