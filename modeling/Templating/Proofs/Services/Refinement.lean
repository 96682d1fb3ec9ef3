import Mathlib.Data.Set.Card
import Templating.Proofs.Services.Registry

set_option autoImplicit false

/-! # Purging is never noticed

A registry purges when it sees fit, even in a definition that then fails. Its callers cannot tell:
whatever is defined, purged and dies in any order, a registry answers like a map that keeps the
unit of each name's last successful definition for ever (`faithful_of_run`). In particular neither
the threshold nor the purges that are asked for have an effect on any answer.

The invariant is that the registry and that map agree on living units (`Watch.Agrees`). They may
disagree on a name whose unit is dead, since its entry may have been removed.
-/

namespace Templating.Registry

/-! ## Counting names -/

/-- The keys of a map are counted by its size. -/
theorem encard_setOf_mem {α : Type} (m : Std.HashMap String α) :
    {key | key ∈ m}.encard = m.size := by
  have hnodup : m.keys.Nodup := m.distinct_keys.imp fun hne heq => by
    rw [heq, beq_self_eq_true] at hne
    cases hne
  have hset : {key | key ∈ m} = (m.keys.toFinset : Set String) := by
    ext key
    rw [Set.mem_ofPred_eq, Finset.mem_coe, List.mem_toFinset, Std.HashMap.mem_keys]
  rw [hset, Set.encard_coe_eq_coe_finsetCard, List.toFinset_card_of_nodup hnodup,
    Std.HashMap.length_keys]

/-! ## Runs -/

/-- What can happen to a registry. -/
inductive Event where
  | define (name : String) (unit : Instance)
  | isDefined (name : String)
  | live
  | purge
  -- a unit dies, for good
  | die (unit : Instance)
deriving DecidableEq, Repr

/-- What a registry answers. -/
inductive Answer where
  | define (result : Except Fault Unit)
  | isDefined (defined : Bool)
  | live (count : Nat)

/-- A registry under observation. -/
structure Watch where
  registry : Registry
  -- the units that are dead
  dead : List Instance
  -- the definitions that succeeded, the last one first
  defined : List (String × Instance)

namespace Watch

/-- A registry with the given threshold, before anything happens. -/
def new (threshold : Nat) : Watch := ⟨.new threshold, [], []⟩

/-- A unit lives until it dies. -/
def alive (w : Watch) (unit : Instance) : Bool := !w.dead.contains unit

/-- The unit of the last successful definition of a name. -/
def last? (w : Watch) (name : String) : Option Instance := w.defined.lookup name

/-- Lets something happen. Purges and deaths have no answer. -/
def handle (w : Watch) : Event → Option Answer × Watch
  | .define name unit =>
    match w.registry.define w.alive name unit with
    | (.ok (), registry) =>
      (some (.define (.ok ())), { w with registry, defined := (name, unit) :: w.defined })
    | (.error fault, registry) => (some (.define (.error fault)), { w with registry })
  | .isDefined name => (some (.isDefined (w.registry.isDefined w.alive name)), w)
  | .live => (some (.live (w.registry.live w.alive)), w)
  | .purge => (none, { w with registry := w.registry.purge w.alive })
  | .die unit => (none, { w with dead := unit :: w.dead })

/-- Lets things happen in order. Gives all answers. -/
def run (w : Watch) : List Event → List Answer × Watch
  | [] => ([], w)
  | event :: events =>
    let (answer?, w) := w.handle event
    let (answers, w) := run w events
    (answer?.toList ++ answers, w)

theorem run_cons (w : Watch) (event : Event) (events : List Event) :
    w.run (event :: events) = ((w.handle event).1.toList ++ ((w.handle event).2.run events).1,
      ((w.handle event).2.run events).2) := rfl

/-! ## What is promised -/

/-- The last unit that was defined by the name lives. -/
def Living (w : Watch) (name : String) : Prop :=
  ∃ unit, w.last? name = some unit ∧ w.alive unit = true

/-- **A registry answers like a map that forgets nothing.** -/
structure Faithful (w : Watch) : Prop where
  -- a definition fails exactly if the last unit of its name lives
  define_fails : ∀ name unit,
    (w.registry.define w.alive name unit).1 = .error (.unitAlreadyDefined name) ↔ w.Living name
  -- otherwise it succeeds, and the name's last unit is the new one
  define_succeeds : ∀ name unit, ¬ w.Living name →
    (w.registry.define w.alive name unit).1 = .ok () ∧
      ∀ k, (w.handle (.define name unit)).2.last? k = if k = name then some unit else w.last? k
  -- a definition that fails leaves every name's last unit as it was
  unchanged : ∀ name unit, w.Living name →
    ∀ k, (w.handle (.define name unit)).2.last? k = w.last? k
  isDefined : ∀ name, w.registry.isDefined w.alive name = true ↔ w.Living name
  -- as many units live as there are names whose last unit lives
  live : (w.registry.live w.alive : ENat) = {name | w.Living name}.encard
  live_le : w.registry.live w.alive ≤ w.registry.size

/-- The registry and the last units agree on what lives. -/
def Agrees (w : Watch) : Prop :=
  ∀ name, (w.registry.units[name]?).filter w.alive = (w.last? name).filter w.alive

variable {w w' : Watch}

theorem living_iff (name : String) :
    w.Living name ↔ ((w.last? name).filter w.alive).isSome = true := by
  simp only [Living, Option.isSome_iff_exists, Option.filter_eq_some_iff]

/-- The last unit of a name after one more definition. -/
theorem lookup_cons_eq (name k : String) (unit : Instance) (defined : List (String × Instance)) :
    ((name, unit) :: defined).lookup k = if k = name then some unit else defined.lookup k := by
  by_cases hk : k = name
  · rw [hk, List.lookup_cons_self, if_pos rfl]
  · rw [List.lookup_cons, beq_eq_false_iff_ne.mpr hk, if_neg hk]

/-! ## What the agreement tells -/

namespace Agrees

theorem isDefined_iff (h : w.Agrees) (name : String) :
    w.registry.isDefined w.alive name = true ↔ w.Living name := by
  rw [isDefined_eq_isSome, h name, living_iff]

theorem define_of_living (h : w.Agrees) {name : String} (hname : w.Living name) (unit : Instance) :
    w.registry.define w.alive name unit
      = (.error (.unitAlreadyDefined name), w.registry.tidy w.alive) := by
  rw [define_eq, if_pos ((h.isDefined_iff name).mpr hname)]

theorem define_of_not_living (h : w.Agrees) {name : String} (hname : ¬ w.Living name)
    (unit : Instance) : w.registry.define w.alive name unit
      = (.ok (), { w.registry.tidy w.alive with
        units := (w.registry.tidy w.alive).units.insert name unit }) := by
  rw [define_eq, if_neg fun hdefined => hname ((h.isDefined_iff name).mp hdefined)]

theorem handle_define_of_living (h : w.Agrees) {name : String} (hname : w.Living name)
    (unit : Instance) : w.handle (.define name unit)
      = (some (.define (.error (.unitAlreadyDefined name))),
        { w with registry := w.registry.tidy w.alive }) := by
  simp only [handle, h.define_of_living hname]

theorem handle_define_of_not_living (h : w.Agrees) {name : String} (hname : ¬ w.Living name)
    (unit : Instance) : w.handle (.define name unit)
      = (some (.define (.ok ())),
        { w with
          registry := { w.registry.tidy w.alive with
            units := (w.registry.tidy w.alive).units.insert name unit }
          defined := (name, unit) :: w.defined }) := by
  simp only [handle, h.define_of_not_living hname]

/-- The living units are counted by the names that have one. -/
theorem live_eq (h : w.Agrees) :
    (w.registry.live w.alive : ENat) = {name | w.Living name}.encard := by
  rw [Registry.live, ← encard_setOf_mem]
  congr 1
  ext name
  rw [Set.mem_ofPred_eq, Set.mem_ofPred_eq, Std.HashMap.mem_iff_isSome_getElem?,
    Std.HashMap.getElem?_filter', h name, living_iff]

/-- The invariant gives what is promised. -/
theorem faithful (h : w.Agrees) : w.Faithful where
  define_fails := by
    intro name unit
    constructor
    · intro hfails
      by_contra hname
      rw [h.define_of_not_living hname] at hfails
      cases hfails
    · intro hname
      rw [h.define_of_living hname]
  define_succeeds := by
    intro name unit hname
    rw [h.define_of_not_living hname, h.handle_define_of_not_living hname]
    exact ⟨rfl, fun k => lookup_cons_eq name k unit w.defined⟩
  unchanged := by
    intro name unit hname k
    rw [h.handle_define_of_living hname]
    rfl
  isDefined := h.isDefined_iff
  live := h.live_eq
  live_le := Std.HashMap.size_filter_le_size

/-! ## One event -/

theorem new (threshold : Nat) : (new threshold).Agrees := by
  intro name
  rw [Watch.new, Registry.new, Std.HashMap.getElem?_empty]
  rfl

theorem define (h : w.Agrees) (name : String) (unit : Instance) :
    (w.handle (.define name unit)).2.Agrees := by
  by_cases hname : w.Living name
  · rw [h.handle_define_of_living hname]
    intro k
    exact (filter_getElem?_tidy k).trans (h k)
  · rw [h.handle_define_of_not_living hname]
    intro k
    show (((w.registry.tidy w.alive).units.insert name unit)[k]?).filter w.alive
      = (((name, unit) :: w.defined).lookup k).filter w.alive
    rw [Std.HashMap.getElem?_insert, lookup_cons_eq]
    by_cases hk : k = name
    · rw [if_pos hk, if_pos (beq_iff_eq.mpr hk.symm)]
    · rw [if_neg hk, if_neg fun hsame => hk (beq_iff_eq.mp hsame).symm]
      exact (filter_getElem?_tidy k).trans (h k)

theorem purge (h : w.Agrees) : (w.handle .purge).2.Agrees := by
  intro k
  show ((w.registry.purge w.alive).units[k]?).filter w.alive = (w.last? k).filter w.alive
  rw [getElem?_purge, h k, Option.filter_filter]
  simp only [Bool.and_self]

theorem die (h : w.Agrees) (unit : Instance) : (w.handle (.die unit)).2.Agrees := by
  -- who lives afterwards has lived before
  have hmono : ∀ u, (w.alive u && (w.handle (.die unit)).2.alive u)
      = (w.handle (.die unit)).2.alive u := by
    intro u
    show (!w.dead.contains u && !(unit :: w.dead).contains u) = !(unit :: w.dead).contains u
    rw [List.contains_cons, Bool.not_or, Bool.and_left_comm, Bool.and_self]
  intro k
  have hfilter := congrArg (Option.filter (w.handle (.die unit)).2.alive) (h k)
  rw [Option.filter_filter, Option.filter_filter] at hfilter
  simp only [hmono] at hfilter
  exact hfilter

theorem handle (h : w.Agrees) (event : Event) : (w.handle event).2.Agrees := by
  cases event with
  | define name unit => exact h.define name unit
  | isDefined name => exact h
  | live => exact h
  | purge => exact h.purge
  | die unit => exact h.die unit

/-! ## Any number of events -/

theorem run (h : w.Agrees) (events : List Event) : (w.run events).2.Agrees := by
  induction events generalizing w with
  | nil => exact h
  | cons event events ih => exact ih (h.handle event)

end Agrees

/-! ## Two registries -/

/-- The same units are dead and the same definitions succeeded. -/
def SamePast (w w' : Watch) : Prop := w.dead = w'.dead ∧ w.defined = w'.defined

theorem SamePast.living_iff (h : SamePast w w') (name : String) :
    w.Living name ↔ w'.Living name := by
  unfold Living last? alive
  rw [h.1, h.2]

/-- One event is answered in the same way and leaves the same past. -/
theorem SamePast.handle (h : SamePast w w') (hw : w.Agrees) (hw' : w'.Agrees) (event : Event) :
    (w.handle event).1 = (w'.handle event).1 ∧
      SamePast (w.handle event).2 (w'.handle event).2 := by
  cases event with
  | define name unit =>
      by_cases hname : w.Living name
      · rw [hw.handle_define_of_living hname,
          hw'.handle_define_of_living ((h.living_iff name).mp hname)]
        exact ⟨rfl, h⟩
      · rw [hw.handle_define_of_not_living hname,
          hw'.handle_define_of_not_living fun hname' => hname ((h.living_iff name).mpr hname')]
        exact ⟨rfl, h.1, congrArg ((name, unit) :: ·) h.2⟩
  | isDefined name =>
      have hdefined : w.registry.isDefined w.alive name = w'.registry.isDefined w'.alive name := by
        rw [Bool.eq_iff_iff, hw.isDefined_iff, hw'.isDefined_iff, h.living_iff]
      exact ⟨congrArg (some ∘ Answer.isDefined) hdefined, h⟩
  | live =>
      have hlive : w.registry.live w.alive = w'.registry.live w'.alive := by
        rw [← ENat.natCast_inj, hw.live_eq, hw'.live_eq]
        simp only [h.living_iff]
      exact ⟨congrArg (some ∘ Answer.live) hlive, h⟩
  | purge => exact ⟨rfl, h⟩
  | die unit => exact ⟨rfl, congrArg (unit :: ·) h.1, h.2⟩

/-- Purges may be left out. -/
theorem SamePast.run_filter (h : SamePast w w') (hw : w.Agrees) (hw' : w'.Agrees)
    (events : List Event) :
    (w.run events).1 = (w'.run (events.filter (· ≠ .purge))).1 := by
  induction events generalizing w w' with
  | nil => rfl
  | cons event events ih =>
      by_cases hpurge : event = .purge
      · rw [List.filter_cons_of_neg (by simpa using hpurge), hpurge]
        exact ih h hw.purge hw'
      · obtain ⟨hanswer, hpast⟩ := h.handle hw hw' event
        rw [List.filter_cons_of_pos (by simpa using hpurge)]
        rw [run_cons, run_cons, hanswer, ih hpast (hw.handle event) (hw'.handle event)]

/-- **A registry refines a map that is never purged.** After any run it answers as the map of last
definitions demands, and another run that differs in the threshold and in purges only has the same
answers. -/
theorem faithful_of_run (threshold : Nat) (events : List Event) :
    ((new threshold).run events).2.Faithful ∧
      ∀ threshold' events', events.filter (· ≠ .purge) = events'.filter (· ≠ .purge) →
        ((new threshold).run events).1 = ((new threshold').run events').1 := by
  refine ⟨((Agrees.new threshold).run events).faithful, fun threshold' events' hevents => ?_⟩
  have hpast : ∀ a b, SamePast (new a) (new b) := fun _ _ => ⟨rfl, rfl⟩
  calc ((new threshold).run events).1
      = ((new threshold).run (events.filter (· ≠ .purge))).1 :=
        (hpast _ _).run_filter (.new _) (.new _) events
    _ = ((new threshold).run (events'.filter (· ≠ .purge))).1 := by rw [hevents]
    _ = ((new threshold').run events').1 :=
        ((hpast _ _).run_filter (.new _) (.new _) events').symm

/-- A name is taken, its unit dies, and it is free again, with a purge and without. -/
theorem faithful_of_run_reused :
    ((new 1).run [.define "a" 0, .define "a" 1, .die 0, .purge, .define "a" 2, .live]).1
      = ((new 64).run [.define "a" 0, .define "a" 1, .die 0, .define "a" 2, .live]).1 :=
  (faithful_of_run 1 _).2 64 _ rfl

end Watch

end Templating.Registry
