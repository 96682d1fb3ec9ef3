import Templating.Proofs.Services.Loading
import Templating.Proofs.Services.Synthesis

set_option autoImplicit false

/-! # Services that anyone uses

Services may be used for more than building: anyone may deposit and claim values, define and purge
names, load any source, and assemble templates with any loader. `Reached s n` says that services
can come to be `s` in this way with `n` keys issued. Which units live is not fixed by the services,
so every use may see other units living.

Two things hold of all such services. Their settings were accepted, and whatever waits to be
claimed does so under a key that was issued, so that keys which were not are free
(`Reached.getElem?_eq_none`).
-/

namespace Templating.Services

variable {τ : Type}

/-! ## Uses -/

/-- The number of keys that assembling a template issues. -/
def keyCount (self : Instance) (t : Template τ) : Nat :=
  if (t.shortcut? self).isNone then t.models.length else 0

/-- A use of services, with the number of keys that it issues. -/
inductive Use (s : Services τ) : Nat → Services τ → Prop where
  | issueName : Use s 0 { s with names := s.names.next.2 }
  | deposit (value : Value τ) : Use s 1 { s with handover := (s.handover.deposit value).2 }
  | claim {α : Type} (select : Value τ → Option α) (key : String) :
      Use s 0 { s with handover := (s.handover.claim select key).2 }
  | discard (key : String) : Use s 0 { s with handover := (s.handover.discard key).2 }
  | define (alive : Instance → Bool) (name : String) (unit : Instance) :
      Use s 0 { s with registry := (s.registry.define alive name unit).2 }
  | purge (alive : Instance → Bool) : Use s 0 { s with registry := s.registry.purge alive }
  | load (alive : Instance → Bool) (self : Instance) (source : Source) :
      Use s 0 (s.load alive self source).2
  | assemble (loader : Loader) (alive : Instance → Bool) (self : Instance) (t : Template τ) :
      Use s (keyCount self t) (s.assemble loader alive self t).2

/-- Services that were made with accepted settings and used any number of times, and the number of
keys that they issued. -/
inductive Reached : Services τ → Nat → Prop where
  | new {settings : Settings} (hsettings : settings.validate = .ok settings) (id : Nat) :
      Reached (new id settings) 0
  | use {s s' : Services τ} {n k : Nat} (hs : Reached s n) (huse : s.Use k s') :
      Reached s' (n + k)

/-! ## What every use keeps -/

/-- What holds of services that issued `n` keys. -/
structure Accounted (s : Services τ) (n : Nat) : Prop where
  configured : s.Configured
  issued : s.handover.Issued n

variable {s s' : Services τ} {n k : Nat}

theorem Configured.congr (h : s.Configured) (hsettings : s'.settings = s.settings)
    (hlead : s'.names.namePrefix = s.names.namePrefix)
    (hsize : s'.names.pageSize = s.names.pageSize) : s'.Configured where
  accepted := by rw [hsettings, h.accepted]
  namePrefix := by rw [hlead, h.namePrefix, hsettings]
  pageSize := by rw [hsize, h.pageSize, hsettings]

theorem accounted_new {settings : Settings} (hsettings : settings.validate = .ok settings)
    (id : Nat) : (new id settings : Services τ).Accounted 0 where
  configured := configured_new hsettings id
  issued := Handover.issued_new id

/-- Loading takes things out of the table and leaves settings and names alone. -/
theorem Accounted.of_loads (h : s.Accounted n) {claims : List String}
    {r : Except Fault (Model τ) × Services τ} (hr : s.Loads claims r) : r.2.Accounted n := by
  cases hr with
  | failed => exact ⟨h.configured.congr rfl rfl rfl, h.issued.discardAll _⟩
  | made => exact ⟨h.configured.congr rfl rfl rfl, h.issued.discardAll _⟩

theorem Accounted.synthesized (h : s.Accounted n) (t : Template τ) :
    (s.synthesized t).Accounted (n + t.models.length) where
  configured := h.configured.congr rfl rfl rfl
  issued := by
    have hissued := h.issued.depositAll (t.models.map .model)
    rwa [List.length_map] at hissued

theorem Accounted.assemble (h : s.Accounted n) (loader : Loader) (alive : Instance → Bool)
    (self : Instance) (t : Template τ) :
    (s.assemble loader alive self t).2.Accounted (n + keyCount self t) := by
  unfold keyCount
  cases hunit : t.shortcut? self with
  | some m =>
      simp only [Services.assemble, hunit]
      exact h
  | none =>
      have hwritten := h.synthesized t
      have hloaded := hwritten.of_loads
        (loads_loadWith loader alive self (s.unitProgram t).source (s.synthesized t))
      rw [assemble_of_unit hunit]
      split
      · next hload =>
        rw [hload] at hloaded
        exact hloaded
      · next hload =>
        rw [hload] at hloaded
        exact ⟨hloaded.configured.congr rfl rfl rfl, hloaded.issued.discardAll _⟩

/-- One use. -/
theorem Accounted.use (h : s.Accounted n) (huse : s.Use k s') : s'.Accounted (n + k) := by
  obtain ⟨hconfigured, hissued⟩ := h
  cases huse with
  | issueName => exact ⟨hconfigured.congr rfl rfl rfl, hissued⟩
  | deposit value => exact ⟨hconfigured.congr rfl rfl rfl, hissued.depositAll [value]⟩
  | claim select key => exact ⟨hconfigured.congr rfl rfl rfl, hissued.discardAll [key]⟩
  | discard key => exact ⟨hconfigured.congr rfl rfl rfl, hissued.discardAll [key]⟩
  | define alive name unit => exact ⟨hconfigured.congr rfl rfl rfl, hissued⟩
  | purge alive => exact ⟨hconfigured.congr rfl rfl rfl, hissued⟩
  | load alive self source =>
      exact Accounted.of_loads ⟨hconfigured, hissued⟩ (loads_load alive self source s)
  | assemble loader alive self t =>
      exact Accounted.assemble ⟨hconfigured, hissued⟩ loader alive self t

/-- Any number of uses. -/
theorem Reached.accounted (h : s.Reached n) : s.Accounted n := by
  induction h with
  | new hsettings id => exact accounted_new hsettings id
  | use _ huse ih => exact ih.use huse

/-- **Nothing waits under the keys that are issued next**, whatever the services were used for. -/
theorem Reached.getElem?_eq_none (h : s.Reached n) (hcount : n + k ≤ UInt64.size) {key : String}
    (hkey : key ∈ s.handover.nextKeys k) : s.handover.pending[key]? = none :=
  h.accounted.issued.getElem?_eq_none hcount hkey

end Templating.Services
