import Mathlib.Logic.Relation
import Templating.Proofs.Services.Assembly

set_option autoImplicit false

/-! # Services that only build

A run of a workshop is any sequence of assemblies, purges and deaths, on services that were new
at its beginning. Nothing else uses the services, and then nothing can go wrong: every assembly
succeeds, whatever was built before and whatever has died since (`intact_of_run`).

What carries the induction is `Consistent`. It says what the names issued so far are, so that
the next one is another; that nothing waits, so that no key is taken; and that the registry
records the units of the run, so that it takes the next name.
-/

namespace Templating

variable {τ : Type}

/-! ## Runs -/

/-- An assembly of a run. -/
structure Build (τ : Type) where
  template : Template τ
  -- the number of the unit, if one was needed
  unit : Instance
  assembly : Assembly τ

namespace Build

/-- The template needs a unit. -/
def needsUnit (b : Build τ) : Bool := (b.template.shortcut? b.unit).isNone

/-- The number of keys that were issued for the assembly. -/
def keyCount (b : Build τ) : Nat := if b.needsUnit then b.template.models.length else 0

/-- The unit that was made, under the name that its source got. -/
def unit? (b : Build τ) : Option (String × Instance) :=
  b.assembly.given?.map fun source => (source.name, b.unit)

end Build

/-- Services that are used for building, with the models that are held at the moment and the
assemblies so far, in order. -/
structure Workshop (τ : Type) where
  services : Services τ
  -- the models that something holds
  held : List (Model τ)
  builds : List (Build τ)

namespace Workshop

/-- The workshop with new services. -/
def new (id : Nat) (settings : Settings) : Workshop τ := ⟨.new id settings, [], []⟩

/-- A unit lives as long as a model keeps it. -/
def alive (w : Workshop τ) (unit : Instance) : Bool := w.held.any (·.keeps.contains unit)

/-- The units that were made, in order. -/
def units (w : Workshop τ) : List (String × Instance) := w.builds.filterMap Build.unit?

/-- The number of templates so far that needed a unit. -/
def unitCount (w : Workshop τ) : Nat := w.builds.countP Build.needsUnit

/-- The number of keys that were issued so far. -/
def keyCount (w : Workshop τ) : Nat := (w.builds.map Build.keyCount).sum

/-- Assembles a template. The model is held from then on. -/
def assemble (self : Instance) (t : Template τ) (w : Workshop τ) : Workshop τ :=
  let (assembly, services) := w.services.assemble .plain w.alive self t
  { services
    held := assembly.result.toOption.toList ++ w.held
    builds := w.builds ++ [⟨t, self, assembly⟩] }

/-- Purges the registry. -/
def purge (w : Workshop τ) : Workshop τ :=
  { w with services := { w.services with registry := w.services.registry.purge w.alive } }

/-- What can happen in a workshop. -/
inductive Step (w : Workshop τ) : Workshop τ → Prop where
  -- A template is assembled. Its models are held, and no unit had the number of its unit.
  | assemble (self : Instance) (pushed : List (Piece τ))
      (hheld : ∀ unit ∈ (Template.ofPieces pushed).keeps, w.alive unit = true)
      (hnew : ∀ u ∈ w.units, u.2 ≠ self) :
      Step w (w.assemble self (.ofPieces pushed))
  -- A model comes from elsewhere. It may hold units of this workshop that live.
  | hold (m : Model τ) (hunits : ∀ u ∈ w.units, u.2 ∈ m.keeps → w.alive u.2 = true) :
      Step w { w with held := m :: w.held }
  -- some models die, in any order
  | die (held : List (Model τ)) (hheld : held ⊆ w.held) : Step w { w with held }
  | purge : Step w w.purge

/-- A run: any number of steps. -/
def Run : Workshop τ → Workshop τ → Prop := Relation.ReflTransGen Step

/-! ## What holds throughout a run -/

/-- **Builds do not disturb each other.** -/
structure Intact (w : Workshop τ) : Prop where
  -- every assembly succeeded
  built : ∀ b ∈ w.builds, ∃ m, b.assembly.result = .ok m
  -- every template that needed a unit got one
  units : w.units.length = w.unitCount
  -- no name was issued twice
  names : (w.units.map Prod.fst).Nodup
  -- as many names were issued as units were needed
  issued : w.services.names.issued.toNat = w.unitCount
  -- nothing waits to be claimed
  pending : w.services.handover.pending.isEmpty = true
  -- the names of living units are defined, and no others
  isDefined : ∀ name, w.services.registry.isDefined w.alive name = true ↔
    ∃ unit, (name, unit) ∈ w.units ∧ w.alive unit = true
  -- the living units are counted
  live : w.services.registry.live w.alive = (w.units.filter (w.alive ·.2)).length
  -- a template that needs no unit leaves the services alone
  shortcut : ∀ (self : Instance) (t : Template τ), (t.shortcut? self).isSome = true →
    (w.services.assemble .plain w.alive self t).2 = w.services
  -- once all units are dead, a purge leaves no entry
  purge : (∀ u ∈ w.units, w.alive u.2 = false) → w.purge.services.registry.size = 0

/-- The invariant of a run. -/
structure Consistent (w : Workshop τ) : Prop where
  configured : w.services.Configured
  -- every assembly succeeded
  built : ∀ b ∈ w.builds, ∃ m, b.assembly.result = .ok m
  -- the count of the names issued is that of the units needed
  issued : w.services.names.issued = UInt64.ofNat w.unitCount
  -- the names of the units are those at the counts before this one
  names : w.units.map Prod.fst = (List.range w.unitCount).map fun i =>
    w.services.names.nameAt (UInt64.ofNat i)
  pending : ∀ key : String, w.services.handover.pending[key]? = none
  records : w.services.registry.Records w.alive w.units

/-- Fewer names and keys were issued than there are words. -/
structure Counted (w : Workshop τ) : Prop where
  units : w.unitCount < UInt64.size
  keys : w.keyCount < UInt64.size

variable {w w' : Workshop τ}

theorem consistent_new {settings : Settings} (h : settings.validate = .ok settings) (id : Nat) :
    (new id settings : Workshop τ).Consistent where
  configured := Services.configured_new h id
  built := by
    intro b hb
    cases hb
  issued := rfl
  names := rfl
  pending := fun _ => Std.HashMap.getElem?_empty
  records := Registry.records_new _

theorem Consistent.nodup (h : w.Consistent) (hw : w.Counted) :
    (w.units.map Prod.fst).Nodup := by
  have hcount := hw.units
  rw [h.names]
  refine List.Nodup.map_on ?_ List.nodup_range
  intro i hi j hj hij
  rw [List.mem_range] at hi hj
  have hword : UInt64.ofNat i = UInt64.ofNat j := UnitNames.nameAt_injective hij
  have hnat := congrArg UInt64.toNat hword
  rwa [UInt64.toNat_ofNat_of_lt' (by omega), UInt64.toNat_ofNat_of_lt' (by omega)] at hnat

/-- The invariant gives what is promised. -/
theorem Consistent.intact (h : w.Consistent) (hw : w.Counted) : w.Intact := by
  have hlive := h.records.live_eq (h.nodup hw)
  refine ⟨h.built, ?_, h.nodup hw, ?_, ?_, h.records.isDefined_iff, hlive, ?_, ?_⟩
  · rw [← List.length_map (f := Prod.fst), h.names, List.length_map, List.length_range]
  · rw [h.issued, UInt64.toNat_ofNat_of_lt' hw.units]
  · refine Std.HashMap.isEmpty_iff_forall_not_mem.mpr fun key hkey => ?_
    rw [Std.HashMap.mem_iff_isSome_getElem?, h.pending key] at hkey
    cases hkey
  · intro self t hshort
    obtain ⟨m, hm⟩ := Option.isSome_iff_exists.mp hshort
    rw [Services.assemble_of_shortcut _ hm]
  · intro hdead
    show w.services.registry.live w.alive = 0
    rw [hlive, List.length_eq_zero_iff, List.filter_eq_nil_iff]
    intro u hu
    rw [hdead u hu]
    exact Bool.false_ne_true

/-! ## One step -/

theorem builds_assemble (self : Instance) (t : Template τ) :
    (w.assemble self t).builds
      = w.builds ++ [⟨t, self, (w.services.assemble .plain w.alive self t).1⟩] := rfl

theorem unitCount_assemble (self : Instance) (t : Template τ) :
    (w.assemble self t).unitCount
      = w.unitCount + if (t.shortcut? self).isNone = true then 1 else 0 := by
  rw [unitCount, builds_assemble, List.countP_append, List.countP_singleton]
  rfl

theorem keyCount_assemble (self : Instance) (t : Template τ) :
    (w.assemble self t).keyCount
      = w.keyCount + if (t.shortcut? self).isNone = true then t.models.length else 0 := by
  rw [keyCount, builds_assemble, List.map_append, List.sum_append, List.map_singleton,
    List.sum_singleton]
  rfl

/-- One more assembly that succeeded. -/
theorem built_assemble {self : Instance} {t : Template τ} {m : Model τ}
    (h : ∀ b ∈ w.builds, ∃ m, b.assembly.result = .ok m)
    (hm : (w.services.assemble .plain w.alive self t).1.result = .ok m) :
    ∀ b ∈ (w.assemble self t).builds, ∃ m, b.assembly.result = .ok m := by
  intro b hb
  rw [builds_assemble] at hb
  rcases List.mem_append.mp hb with hb | hb
  · exact h b hb
  · rw [List.mem_singleton] at hb
    exact ⟨m, by rw [hb, hm]⟩

/-- Held models may go and others come, as long as no dead unit comes back. -/
theorem Consistent.of_held (h : w.Consistent) {held : List (Model τ)}
    (hle : ∀ u ∈ w.units, Workshop.alive { w with held } u.2 = true → w.alive u.2 = true) :
    Workshop.Consistent { w with held } where
  configured := h.configured
  built := h.built
  issued := h.issued
  names := h.names
  pending := h.pending
  records := h.records.mono hle

theorem Consistent.purge (h : w.Consistent) : w.purge.Consistent where
  configured := ⟨h.configured.accepted, h.configured.namePrefix, h.configured.pageSize⟩
  built := h.built
  issued := h.issued
  names := h.names
  pending := h.pending
  records := h.records.purge

theorem assemble_of_shortcut {self : Instance} {t : Template τ} {m : Model τ}
    (hm : t.shortcut? self = some m) :
    w.assemble self t
      = { w with held := m :: w.held, builds := w.builds ++ [⟨t, self, ⟨.ok m, none⟩⟩] } := by
  simp only [assemble, Services.assemble_of_shortcut _ hm]
  rfl

/-- The model of a template that needs no unit keeps only what the template keeps. -/
theorem keeps_of_shortcut {self unit : Instance} {t : Template τ} {m : Model τ}
    (hm : t.shortcut? self = some m) (hunit : unit ∈ m.keeps) : unit ∈ t.keeps := by
  rw [Template.keeps, List.mem_eraseDups, List.mem_flatMap, Template.models]
  rcases Template.shortcut?_cases hm with ⟨-, rfl⟩ | ⟨s, -, rfl⟩ | hps
  · cases hunit
  · cases hunit
  · rw [hps]
    exact ⟨m, List.mem_singleton_self m, hunit⟩

/-- A template that needs no unit changes nothing but what is held. -/
theorem Consistent.assemble_of_shortcut (h : w.Consistent) {self : Instance} {t : Template τ}
    {m : Model τ} (hm : t.shortcut? self = some m)
    (hheld : ∀ unit ∈ t.keeps, w.alive unit = true) : (w.assemble self t).Consistent := by
  have hunits : (w.assemble self t).units = w.units := by
    rw [Workshop.assemble_of_shortcut hm]
    simp [units, Build.unit?]
  have hcount : (w.assemble self t).unitCount = w.unitCount := by
    simp [unitCount_assemble, hm]
  have hservices : (w.assemble self t).services = w.services := by
    rw [Workshop.assemble_of_shortcut hm]
  have hle : ∀ u ∈ w.units, (w.assemble self t).alive u.2 = true → w.alive u.2 = true := by
    intro u _ halive
    rw [Workshop.assemble_of_shortcut hm] at halive
    rcases Bool.or_eq_true_iff.mp halive with hkeep | halive
    · exact hheld _ (keeps_of_shortcut hm (List.contains_iff_mem.mp hkeep))
    · exact halive
  refine ⟨?_, ?_, ?_, ?_, ?_, ?_⟩
  · rw [hservices]
    exact h.configured
  · exact built_assemble h.built (by rw [Services.assemble_of_shortcut _ hm])
  · rw [hservices, hcount]
    exact h.issued
  · rw [hservices, hcount, hunits]
    exact h.names
  · rw [hservices]
    exact h.pending
  · rw [hservices, hunits]
    exact h.records.mono hle

/-- The name that is issued next is another. -/
theorem Consistent.current_not_mem (h : w.Consistent) (hcount : w.unitCount < UInt64.size) :
    w.services.names.current ∉ w.units.map Prod.fst := by
  have hcurrent : w.services.names.current
      = w.services.names.nameAt (UInt64.ofNat w.unitCount) := by
    rw [← h.issued]
    rfl
  -- a name that was issued before was issued at a smaller count
  rw [h.names, hcurrent]
  intro hmem
  obtain ⟨i, hi, hname⟩ := List.mem_map.mp hmem
  rw [List.mem_range] at hi
  have hnat := congrArg UInt64.toNat (UnitNames.nameAt_injective hname)
  rw [UInt64.toNat_ofNat_of_lt' (by omega), UInt64.toNat_ofNat_of_lt' hcount] at hnat
  omega

/-- After a unit was loaded nothing waits that did not wait before. -/
theorem getElem?_loaded {s : Services τ} {t : Template τ} {registry : Registry} (key : String)
    (hpending : s.handover.pending[key]? = none) :
    (s.loaded t registry).handover.pending[key]? = none := by
  rw [Services.getElem?_loaded, hpending, ite_self]

theorem assemble_of_define {self : Instance} {t : Template τ} (hs : w.services.Configured)
    (ht : t.Normal) (hlen : 2 ≤ t.pieces.length) (hsize : t.models.length ≤ UInt64.size)
    (hdefine : (w.services.registry.define w.alive w.services.names.current self).1 = .ok ()) :
    w.assemble self t = {
      services := w.services.loaded t
        (w.services.registry.define w.alive w.services.names.current self).2
      held := w.services.unitModel self t :: w.held
      builds := w.builds ++ [⟨t, self,
        ⟨.ok (w.services.unitModel self t), some (w.services.unitProgram t).source⟩⟩] } := by
  simp only [assemble, Services.assemble_of_define hs ht hlen hsize hdefine]
  rfl

/-- No unit comes back to life with a new one whose template keeps only living units. -/
theorem alive_of_unitModel {s : Services τ} {self unit : Instance} {t : Template τ}
    (hheld : ∀ unit ∈ t.keeps, w.alive unit = true) (hne : unit ≠ self)
    (halive : Workshop.alive { w with held := s.unitModel self t :: w.held } unit = true) :
    w.alive unit = true := by
  rcases Bool.or_eq_true_iff.mp halive with hkeep | halive
  · rcases mem_keeps_toModel (List.contains_iff_mem.mp hkeep) with hself | ⟨m, hm, hunit⟩
    · exact absurd hself hne
    · exact hheld unit (List.mem_eraseDups.mpr (List.mem_flatMap.mpr ⟨m, hm, hunit⟩))
  · exact halive

/-- A template that needs a unit gets one with a new name. -/
theorem Consistent.assemble_of_unit (h : w.Consistent) {self : Instance} {t : Template τ}
    (ht : t.Normal) (hlen : 2 ≤ t.pieces.length) (hsize : t.models.length ≤ UInt64.size)
    (hcount : w.unitCount < UInt64.size) (hheld : ∀ unit ∈ t.keeps, w.alive unit = true)
    (hnew : ∀ u ∈ w.units, u.2 ≠ self) : (w.assemble self t).Consistent := by
  -- the name is new, so the registry takes it and loading succeeds
  have hname := h.current_not_mem hcount
  have hdefine : (w.services.registry.define w.alive w.services.names.current self).1
      = .ok () := by rw [h.records.define_eq hname self]
  have hrecords := h.records.define hname self fun u hu halive =>
    alive_of_unitModel (s := w.services) hheld (hnew u hu) halive
  have hstep := Workshop.assemble_of_define h.configured ht hlen hsize hdefine
  have hsource : (w.services.unitProgram t).source.name = w.services.names.current :=
    Template.name_program
  have hunits : (w.assemble self t).units = w.units ++ [(w.services.names.current, self)] := by
    rw [hstep]
    simp [units, Build.unit?, hsource]
  have hunitCount : (w.assemble self t).unitCount = w.unitCount + 1 := by
    simp [unitCount_assemble, Template.shortcut?_eq_none_iff.mpr hlen]
  have hnames : (w.assemble self t).services.names
      = { w.services.names with issued := w.services.names.issued + 1 } := by
    rw [hstep]
    rfl
  refine ⟨?_, ?_, ?_, ?_, ?_, ?_⟩
  · rw [hstep]
    exact ⟨h.configured.accepted, h.configured.namePrefix, h.configured.pageSize⟩
  · refine built_assemble (m := w.services.unitModel self t) h.built ?_
    rw [Services.assemble_of_define h.configured ht hlen hsize hdefine]
  · rw [hnames, hunitCount, h.issued, UInt64.ofNat_add]
    rfl
  · rw [hnames, hunitCount, hunits, List.range_succ, List.map_append, List.map_append, h.names,
      List.map_singleton, List.map_singleton, ← h.issued]
    rfl
  · rw [hstep]
    exact fun key => getElem?_loaded key (h.pending key)
  · rw [hunits, hstep]
    exact hrecords

/-! ## Runs -/

/-- A run only adds to its assemblies. -/
theorem Step.builds (h : Step w w') : w.builds <+: w'.builds := by
  cases h with
  | assemble self pushed _ _ => exact List.prefix_append _ _
  | hold m _ => exact List.prefix_refl _
  | die held _ => exact List.prefix_refl _
  | purge => exact List.prefix_refl _

theorem Step.counted (h : Step w w') (hw : w'.Counted) : w.Counted := by
  obtain ⟨rest, hrest⟩ := h.builds
  have hunits : w'.unitCount = w.unitCount + rest.countP Build.needsUnit := by
    rw [unitCount, ← hrest, List.countP_append]
    rfl
  have hkeys : w'.keyCount = w.keyCount + (rest.map Build.keyCount).sum := by
    rw [keyCount, ← hrest, List.map_append, List.sum_append]
    rfl
  have := hw.units
  have := hw.keys
  exact ⟨by omega, by omega⟩

/-- **Every step keeps the invariant.** -/
theorem Consistent.step (h : w.Consistent) (hstep : Step w w') (hw : w'.Counted) :
    w'.Consistent := by
  have hcount := (hstep.counted hw).units
  cases hstep with
  | assemble self pushed hheld hnew =>
      have ht := Template.normal_ofPieces pushed
      cases hshort : (Template.ofPieces pushed).shortcut? self with
      | some m => exact h.assemble_of_shortcut hshort hheld
      | none =>
          have hlen := Template.shortcut?_eq_none_iff.mp hshort
          have hsize : (Template.ofPieces pushed).models.length ≤ UInt64.size := by
            have hkeys := hw.keys
            rw [keyCount_assemble, hshort, Option.isNone_none, if_pos rfl] at hkeys
            omega
          exact h.assemble_of_unit ht hlen hsize hcount hheld hnew
  | hold m hunits =>
      refine h.of_held fun u hu halive => ?_
      rcases Bool.or_eq_true_iff.mp halive with hkeep | halive
      · exact hunits u hu (List.contains_iff_mem.mp hkeep)
      · exact halive
  | die held hheld =>
      refine h.of_held fun u _ halive => ?_
      obtain ⟨m, hm, hkeep⟩ := List.any_eq_true.mp halive
      exact List.any_eq_true.mpr ⟨m, hheld hm, hkeep⟩
  | purge => exact h.purge

theorem Consistent.run (h : w.Consistent) (hrun : Run w w') (hw : w'.Counted) :
    w'.Consistent := by
  induction hrun with
  | refl => exact h
  | tail _ hstep ih => exact (ih (hstep.counted hw)).step hstep hw

/-- **On services that only build, builds never fail and never disturb each other**, as long as
names and keys can be counted. -/
theorem intact_of_run {settings : Settings} (hsettings : settings.validate = .ok settings)
    (id : Nat) (hrun : Run (new id settings) w) (hunits : w.unitCount < UInt64.size)
    (hkeys : w.keyCount < UInt64.size) : w.Intact :=
  ((consistent_new hsettings id).run hrun ⟨hunits, hkeys⟩).intact ⟨hunits, hkeys⟩

/-- A greeting is compiled, its model dies, and the registry is purged. -/
theorem intact_of_run_greeting :
    ∃ w : Workshop String, Run (new 7 .default) w ∧ w.unitCount = 1 ∧ w.Intact := by
  have hassemble : Step (new 7 .default) ((new 7 .default).assemble 0 greeting) :=
    .assemble 0 _ (by decide) (by decide)
  have hdie := Step.die (w := (new 7 .default).assemble 0 greeting) [] (List.nil_subset _)
  have hrun := ((Relation.ReflTransGen.single hassemble).tail hdie).tail .purge
  -- only the assembly counts
  have hafter : ∀ w : Workshop String, (purge { w with held := [] }).unitCount = w.unitCount ∧
      (purge { w with held := [] }).keyCount = w.keyCount := fun _ => ⟨rfl, rfl⟩
  have hneeds : (greeting.shortcut? 0).isNone = true := rfl
  have hunits : ((new 7 .default).assemble 0 greeting).unitCount = 1 := by
    rw [unitCount_assemble, if_pos hneeds]
    rfl
  have hkeys : ((new 7 .default).assemble 0 greeting).keyCount = 1 := by
    rw [keyCount_assemble, if_pos hneeds]
    rfl
  refine ⟨_, hrun, by rw [(hafter _).1, hunits], intact_of_run rfl 7 hrun ?_ ?_⟩
  · rw [(hafter _).1, hunits]
    decide
  · rw [(hafter _).2, hkeys]
    decide

end Workshop

end Templating
