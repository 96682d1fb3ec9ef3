import Templating.Proofs.Services.Assembly
import Templating.Proofs.Services.Reachable
import Templating.Proofs.Services.Stages

set_option autoImplicit false

/-! # Only a taken name makes a build fail

Anyone may use the services of a compiler: deposit and claim values, define names, load sources of
their own, and let units die. Still a compiler whose loader reads sources as they are has nothing to
fear but a living unit with the name that is issued next (`decided_of_run`). Its source is accepted,
and its models are found, since nobody can have guessed a key that was not issued. Whether it fails
or not, exactly what waited before waits afterwards.

The name of a unit that was built is defined as long as the model is held, whatever is done in the
meantime. What carries this is that every request leaves the entries of living units as they are
(`Site.getElem?_handle_of_living`).
-/

namespace Templating

variable {τ : Type}

/-! ## Requests -/

/-- What can happen to services that anyone uses. -/
inductive Request (τ : Type) : Type 1 where
  | issueName
  | deposit (value : Value τ)
  | claim {α : Type} (select : Value τ → Option α) (key : String)
  | discard (key : String)
  | define (name : String) (unit : Instance)
  | purge
  | load (self : Instance) (source : Source)
  | assemble (loader : Loader) (self : Instance) (t : Template τ)
  -- a unit dies, for good
  | die (unit : Instance)

/-- The number of keys that are issued for a request. -/
def Request.keyCount : Request τ → Nat
  | deposit _ => 1
  | assemble _ self t => Services.keyCount self t
  | _ => 0

/-- Services in use, with the units that are dead. -/
structure Site (τ : Type) where
  services : Services τ
  dead : List Instance

namespace Site

/-- The site with new services. -/
def new (id : Nat) (settings : Settings) : Site τ := ⟨.new id settings, []⟩

/-- A unit lives until it dies. -/
def alive (w : Site τ) (unit : Instance) : Bool := !w.dead.contains unit

/-- All units of a model live, as they do while something holds the model. -/
def Holds (w : Site τ) (m : Model τ) : Prop := ∀ unit ∈ m.keeps, w.alive unit = true

/-- The registry has an entry of a living unit under the name. -/
def Taken (w : Site τ) (name : String) : Prop :=
  ∃ unit, w.services.registry.units[name]? = some unit ∧ w.alive unit = true

/-- Assembles a template. -/
def assemble (loader : Loader) (self : Instance) (t : Template τ) (w : Site τ) :
    Assembly τ × Site τ :=
  let (assembly, services) := w.services.assemble loader w.alive self t
  (assembly, { w with services })

/-- Does what is asked for. -/
def handle (w : Site τ) : Request τ → Site τ
  | .issueName => { w with services := { w.services with names := w.services.names.next.2 } }
  | .deposit value =>
    { w with services := { w.services with handover := (w.services.handover.deposit value).2 } }
  | .claim select key =>
    { w with services := { w.services with handover := (w.services.handover.claim select key).2 } }
  | .discard key =>
    { w with services := { w.services with handover := (w.services.handover.discard key).2 } }
  | .define name unit =>
    let registry := (w.services.registry.define w.alive name unit).2
    { w with services := { w.services with registry } }
  | .purge =>
    { w with services := { w.services with registry := w.services.registry.purge w.alive } }
  | .load self source => { w with services := (w.services.load w.alive self source).2 }
  | .assemble loader self t => (w.assemble loader self t).2
  | .die unit => { w with dead := unit :: w.dead }

/-- Does what is asked for, in order. -/
def run (w : Site τ) (requests : List (Request τ)) : Site τ := requests.foldl handle w

/-! ## What is promised -/

/-- What assembling a template comes to that needs a unit, when the loader reads sources as they
are. -/
structure Compiled (w : Site τ) (unit : Instance) (t : Template τ) : Prop where
  -- it fails exactly if a living unit has the name that is issued
  error_iff : ∀ fault, (w.assemble .plain unit t).1.result = .error fault ↔
    w.Taken w.services.names.current ∧ fault = .unitAlreadyDefined w.services.names.current
  -- in either case what waited before waits afterwards, and nothing else does
  pending : ∀ key : String, (w.assemble .plain unit t).2.services.handover.pending[key]?
    = w.services.handover.pending[key]?
  -- in either case one name is issued
  names : (w.assemble .plain unit t).2.services.names = w.services.names.next.2
  -- living units keep their names, and a failure defines none
  failed : ∀ fault, (w.assemble .plain unit t).1.result = .error fault →
    Registry.Gains w.alive w.services.registry []
      (w.assemble .plain unit t).2.services.registry
  -- a unit has its name for as long as its model is held
  made : ∀ m, (w.assemble .plain unit t).1.result = .ok m →
    Registry.Gains w.alive w.services.registry [(w.services.names.current, unit)]
      (w.assemble .plain unit t).2.services.registry ∧
    ∀ later : List (Request τ), ((w.assemble .plain unit t).2.run later).Holds m →
      ((w.assemble .plain unit t).2.run later).services.registry.isDefined
        ((w.assemble .plain unit t).2.run later).alive w.services.names.current = true

/-- What assembling any template comes to. -/
structure Decided (w : Site τ) (unit : Instance) (t : Template τ) : Prop where
  -- a template that needs no unit is assembled, and nothing is changed
  shortcut : ∀ m, t.shortcut? unit = some m → w.assemble .plain unit t = (⟨.ok m, none⟩, w)
  compiled : t.shortcut? unit = none → w.Compiled unit t

/-! ## What every request keeps -/

variable {w : Site τ} {n : Nat}

/-- A request is a use, or a death, which the services do not notice. -/
theorem reached_handle (h : w.services.Reached n) (request : Request τ) :
    (w.handle request).services.Reached (n + request.keyCount) := by
  cases request with
  | issueName => exact h.use .issueName
  | deposit value => exact h.use (.deposit value)
  | claim select key => exact h.use (.claim select key)
  | discard key => exact h.use (.discard key)
  | define name unit => exact h.use (.define w.alive name unit)
  | purge => exact h.use (.purge w.alive)
  | load self source => exact h.use (.load w.alive self source)
  | assemble loader self t => exact h.use (.assemble loader w.alive self t)
  | die unit => exact h

/-- Any number of requests is any number of uses. -/
theorem reached_run (h : w.services.Reached n) (requests : List (Request τ)) :
    (w.run requests).services.Reached (n + (requests.map Request.keyCount).sum) := by
  induction requests generalizing w n with
  | nil => exact h
  | cons request requests ih =>
      have hrest := ih (reached_handle h request)
      rwa [Nat.add_assoc, ← List.sum_cons, ← List.map_cons] at hrest

/-- Nobody comes back to life. -/
theorem alive_of_handle {request : Request τ} {unit : Instance}
    (h : (w.handle request).alive unit = true) : w.alive unit = true := by
  cases request with
  | die dead =>
      change (!(dead :: w.dead).contains unit) = true at h
      rw [List.contains_cons, Bool.not_or, Bool.and_eq_true] at h
      exact h.2
  | _ => exact h

theorem alive_of_run {requests : List (Request τ)} {unit : Instance}
    (h : (w.run requests).alive unit = true) : w.alive unit = true := by
  induction requests generalizing w with
  | nil => exact h
  | cons request requests ih => exact alive_of_handle (ih h)

end Site

namespace Services

variable {s : Services τ} {alive : Instance → Bool} {name : String} {unit : Instance}

/-- To take out what waits under the keys that are issued next is to take out nothing. -/
theorem Reached.ite_mem_nextKeys {n k : Nat} (hs : s.Reached n) (hcount : n + k ≤ UInt64.size)
    (key : String) :
    (if key ∈ s.handover.nextKeys k then none else s.handover.pending[key]?)
      = s.handover.pending[key]? := by
  by_cases hkey : key ∈ s.handover.nextKeys k
  · rw [if_pos hkey, hs.getElem?_eq_none hcount hkey]
  · rw [if_neg hkey]

/-- An assembly leaves the entries of living units as they are, whatever its loader does. -/
theorem getElem?_assemble_of_living (loader : Loader) (self : Instance) (t : Template τ)
    (hentry : s.registry.units[name]? = some unit) (halive : alive unit = true) :
    (s.assemble loader alive self t).2.registry.units[name]? = some unit := by
  cases hunit : t.shortcut? self with
  | some m =>
      rw [assemble_of_shortcut loader hunit]
      exact hentry
  | none =>
      -- taking models back does not concern the registry
      have hload : ((s.synthesized t).loadWith loader alive self
          (s.unitProgram t).source).2.registry.units[name]? = some unit := by
        unfold loadWith
        cases loader.prepare (s.unitProgram t).source with
        | error fault => exact hentry
        | ok prepared => exact getElem?_load_of_living hentry halive
      rw [assemble_of_unit hunit]
      split
      · next heq =>
        rw [heq] at hload
        exact hload
      · next heq =>
        rw [heq] at hload
        exact hload

end Services

namespace Site

variable {w : Site τ} {n : Nat} {self : Instance} {t : Template τ} {name : String}
  {unit : Instance}

/-- **A living unit keeps its name**, whatever is asked for. -/
theorem getElem?_handle_of_living {request : Request τ}
    (hentry : w.services.registry.units[name]? = some unit)
    (halive : (w.handle request).alive unit = true) :
    (w.handle request).services.registry.units[name]? = some unit := by
  have hbefore : w.alive unit = true := alive_of_handle halive
  cases request with
  | define => exact Registry.getElem?_define_of_living hentry hbefore
  | purge => exact Registry.gains_purge.living hentry hbefore
  | load => exact Services.getElem?_load_of_living hentry hbefore
  | assemble => exact Services.getElem?_assemble_of_living _ _ _ hentry hbefore
  | _ => exact hentry

theorem getElem?_run_of_living {requests : List (Request τ)}
    (hentry : w.services.registry.units[name]? = some unit)
    (halive : (w.run requests).alive unit = true) :
    (w.run requests).services.registry.units[name]? = some unit := by
  induction requests generalizing w with
  | nil => exact hentry
  | cons request requests ih =>
      have hnext : (w.handle request).alive unit = true := alive_of_run halive
      exact ih (getElem?_handle_of_living hentry hnext) halive

/-! ## The two ends -/

theorem taken_iff_isDefined : w.Taken name ↔ w.services.registry.isDefined w.alive name = true :=
  (Registry.isDefined_iff name).symm

section

variable (hs : w.services.Reached n) (hkeys : n + t.models.length ≤ UInt64.size)
  (ht : t.Normal) (hlen : 2 ≤ t.pieces.length)

include hs hkeys ht hlen

/-- The name is taken. -/
theorem compiled_of_taken (htaken : w.Taken w.services.names.current) : w.Compiled self t := by
  have hdefine := Registry.define_of_isDefined (taken_iff_isDefined.mp htaken) self
  have hrefused : (w.services.registry.define w.alive w.services.names.current self).1
      = .error (.unitAlreadyDefined w.services.names.current) := by rw [hdefine]
  have hassemble := Services.assemble_of_refused hs.accounted.configured ht hlen (by omega) hrefused
  rw [hdefine] at hassemble
  have hresult : (w.assemble .plain self t).1.result
      = .error (.unitAlreadyDefined w.services.names.current) := by
    simp only [assemble, hassemble]
  refine ⟨fun fault => ?_, fun key => ?_, ?_, fun _ _ => ?_, fun m hm => ?_⟩
  · rw [hresult, Except.error.injEq, eq_comm]
    exact (and_iff_right htaken).symm
  · simp only [assemble, hassemble]
    rw [Handover.getElem?_discardAll, Services.getElem?_loaded, hs.ite_mem_nextKeys hkeys,
      hs.ite_mem_nextKeys hkeys]
  · simp only [assemble, hassemble]
    rfl
  · simp only [assemble, hassemble]
    exact Registry.gains_tidy
  · rw [hresult] at hm
    cases hm

/-- The name is free. -/
theorem compiled_of_free (hfree : ¬ w.Taken w.services.names.current) : w.Compiled self t := by
  obtain ⟨hok, hgains⟩ := Registry.define_of_not_isDefined
    (fun hdefined => hfree (taken_iff_isDefined.mpr hdefined)) self
  have hassemble := Services.assemble_of_define hs.accounted.configured ht hlen (by omega) hok
  have hresult : (w.assemble .plain self t).1.result = .ok (w.services.unitModel self t) := by
    simp only [assemble, hassemble]
  have hregistry : Registry.Gains w.alive w.services.registry
      [(w.services.names.current, self)] (w.assemble .plain self t).2.services.registry := by
    simp only [assemble, hassemble]
    exact hgains
  refine ⟨fun fault => ?_, fun key => ?_, ?_, fun fault hfault => ?_, fun m hm => ⟨hregistry, ?_⟩⟩
  · rw [hresult]
    constructor
    · intro h
      cases h
    · rintro ⟨htaken, -⟩
      exact absurd htaken hfree
  · simp only [assemble, hassemble]
    rw [Services.getElem?_loaded, hs.ite_mem_nextKeys hkeys]
  · simp only [assemble, hassemble]
    rfl
  · rw [hresult] at hfault
    cases hfault
  · intro later hheld
    rw [hresult] at hm
    obtain rfl := Except.ok.inj hm
    -- a unit keeps itself alive
    have halive := hheld self (List.mem_eraseDups.mpr List.mem_cons_self)
    have hentry := hregistry.gained List.mem_cons_self
    exact (Registry.isDefined_iff _).mpr ⟨self, getElem?_run_of_living hentry halive, halive⟩

end

/-- **A build fails only for its name**, on services that anyone has used in any way, as long as the
keys can be counted. -/
theorem decided_of_run {settings : Settings} (hsettings : settings.validate = .ok settings)
    (id : Nat) (requests : List (Request τ)) (pushed : List (Piece τ)) (self : Instance)
    (hkeys : (requests.map Request.keyCount).sum + (Template.ofPieces pushed).models.length
      ≤ UInt64.size) :
    ((new id settings).run requests).Decided self (.ofPieces pushed) := by
  have hs : ((new id settings).run requests).services.Reached
      (0 + (requests.map Request.keyCount).sum) := reached_run (.new hsettings id) requests
  rw [Nat.zero_add] at hs
  have ht := Template.normal_ofPieces pushed
  constructor
  · intro m hm
    rw [assemble, Services.assemble_of_shortcut _ hm]
  · intro hunit
    have hlen := Template.shortcut?_eq_none_iff.mp hunit
    by_cases htaken : ((new id settings).run requests).Taken
        ((new id settings).run requests).services.names.current
    · exact compiled_of_taken hs hkeys ht hlen htaken
    · exact compiled_of_free hs hkeys ht hlen htaken

/-- A number waits, and a unit of somebody else has the name that is issued first. -/
def squatting : List (Request String) :=
  [.deposit (.int 5), .define "spark.textmodel.Generated$0$0" 5]

/-- A greeting is refused as long as that unit lives, and the number waits on. Once the unit is
dead, the greeting is compiled. -/
theorem decided_of_run_squatting :
    let w := (new 7 .default).run squatting
    let freed := (new 7 .default).run (squatting ++ [.die 5])
    ((w.assemble .plain 1 greeting).1.result
        = .error (.unitAlreadyDefined "spark.textmodel.Generated$0$0") ∧
      (w.assemble .plain 1 greeting).2.services.handover.pending["t7-k0"]? = some (.int 5)) ∧
    ∃ m, (freed.assemble .plain 1 greeting).1.result = .ok m := by
  intro w freed
  have hw : w.Compiled 1 greeting := (decided_of_run rfl 7 squatting _ 1 (by decide)).compiled rfl
  have hfreed : freed.Compiled 1 greeting :=
    (decided_of_run rfl 7 (squatting ++ [.die 5]) _ 1 (by decide)).compiled rfl
  -- the name is defined in a new registry
  have hempty : ∀ name : String, (Registry.new 1024).units[name]? = none :=
    fun name => Std.HashMap.getElem?_empty
  have hnew : ¬ (Registry.new 1024).isDefined (new 7 .default : Site String).alive
      "spark.textmodel.Generated$0$0" = true := by
    rw [Registry.isDefined, hempty]
    exact Bool.false_ne_true
  have hgains : Registry.Gains (new 7 .default : Site String).alive (.new 1024)
      [("spark.textmodel.Generated$0$0", 5)] w.services.registry :=
    (Registry.define_of_not_isDefined hnew 5).2
  have hcurrent : w.services.names.current = "spark.textmodel.Generated$0$0" := by decide
  refine ⟨⟨?_, ?_⟩, ?_⟩
  · rw [hw.error_iff, hcurrent]
    exact ⟨⟨5, hgains.gained List.mem_cons_self, rfl⟩, rfl⟩
  · rw [hw.pending]
    exact Std.HashMap.getElem?_insert_self
  · cases hresult : (freed.assemble .plain 1 greeting).1.result with
    | ok m => exact ⟨m, rfl⟩
    | error fault =>
        -- only the dead unit could have the name
        obtain ⟨⟨unit, hentry, halive⟩, -⟩ := (hfreed.error_iff fault).mp hresult
        rcases hgains.others hentry with hnone | hunit
        · rw [hempty] at hnone
          cases hnone
        · obtain ⟨-, rfl⟩ := Prod.mk.inj (List.mem_singleton.mp hunit)
          cases halive

end Site

end Templating
