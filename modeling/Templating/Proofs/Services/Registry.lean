import Mathlib.Data.List.Nodup
import Templating.Services.Registry

set_option autoImplicit false

/-! # What a registry records

A registry forgets dead units whenever it purges, so its entries are not simply the units that
were defined. `Records` says what holds at any time: every entry is a unit that was defined, and
every living unit still has its entry. This is enough to tell which names are defined
(`Records.isDefined_iff`) and how many units live (`Records.live_eq`).

What purging and defining do to the entries is said in one way: there is a list of entries that are
gained, no other entry is new, and no living unit loses its entry (`Gains`). Hence they keep the
records (`Records.of_gains`), and so does the death of units.
-/

namespace Templating.Registry

/-- **The entries are some of the units that were defined, the living ones among them.** -/
structure Records (alive : Instance → Bool) (r : Registry) (units : List (String × Instance)) :
    Prop where
  -- an entry is a unit that was defined
  mem : ∀ {name : String} {unit : Instance}, r.units[name]? = some unit → (name, unit) ∈ units
  -- a living unit has its entry
  entry : ∀ {name : String} {unit : Instance}, (name, unit) ∈ units → alive unit = true →
    r.units[name]? = some unit

variable {alive alive' : Instance → Bool} {r : Registry} {units : List (String × Instance)}

theorem records_new (threshold : Nat) : Records alive (new threshold) [] where
  mem := by
    intro name unit h
    rw [new, Std.HashMap.getElem?_empty] at h
    cases h
  entry := by
    intro name unit h
    cases h

/-! ## What is kept -/

/-- Purging leaves the entries of living units. -/
theorem getElem?_purge (name : String) :
    (r.purge alive).units[name]? = (r.units[name]?).filter alive := by
  show (r.units.filter fun _ unit => alive unit)[name]? = _
  rw [Std.HashMap.getElem?_filter']

/-- No purge is noticed by looking for living units. -/
theorem filter_getElem?_tidy (name : String) :
    ((r.tidy alive).units[name]?).filter alive = (r.units[name]?).filter alive := by
  unfold Registry.tidy
  split
  · rw [getElem?_purge, Option.filter_filter]
    simp only [Bool.and_self]
  · rfl

theorem isDefined_eq_isSome (name : String) :
    r.isDefined alive name = ((r.units[name]?).filter alive).isSome := by
  rw [isDefined]
  cases r.units[name]? with
  | none => rfl
  | some unit => rw [Option.any_some, Option.isSome_filter, Option.any_some]

/-- Whether a definition succeeds does not depend on the purge before it. -/
theorem define_eq (name : String) (unit : Instance) :
    r.define alive name unit = if r.isDefined alive name
      then (.error (.unitAlreadyDefined name), r.tidy alive)
      else (.ok (), { r.tidy alive with units := (r.tidy alive).units.insert name unit }) := by
  simp only [Registry.define, isDefined_eq_isSome, filter_getElem?_tidy]

/-- Who is asked for is the unit of the entry. -/
theorem isDefined_iff (name : String) :
    r.isDefined alive name = true ↔ ∃ unit, r.units[name]? = some unit ∧ alive unit = true := by
  rw [isDefined]
  cases r.units[name]? with
  | none => simp
  | some unit => simp

/-! ## What is gained -/

/-- The registry has gained the given entries and no others. It may have lost entries, but not those
of living units. -/
structure Gains (alive : Instance → Bool) (r : Registry) (entries : List (String × Instance))
    (r' : Registry) : Prop where
  gained : ∀ {name : String} {unit : Instance}, (name, unit) ∈ entries →
    r'.units[name]? = some unit
  living : ∀ {name : String} {unit : Instance}, r.units[name]? = some unit → alive unit = true →
    r'.units[name]? = some unit
  others : ∀ {name : String} {unit : Instance}, r'.units[name]? = some unit →
    r.units[name]? = some unit ∨ (name, unit) ∈ entries

theorem gains_refl (r : Registry) : Gains alive r [] r where
  gained := fun h => absurd h List.not_mem_nil
  living := fun h _ => h
  others := Or.inl

theorem gains_purge : Gains alive r [] (r.purge alive) where
  gained := fun h => absurd h List.not_mem_nil
  living := by
    intro name unit hentry halive
    rw [getElem?_purge, Option.filter_eq_some_iff]
    exact ⟨hentry, halive⟩
  others := by
    intro name unit hentry
    rw [getElem?_purge, Option.filter_eq_some_iff] at hentry
    exact Or.inl hentry.1

theorem gains_tidy : Gains alive r [] (r.tidy alive) := by
  unfold Registry.tidy
  split
  · exact gains_purge
  · exact gains_refl r

/-- No purge adds an entry. -/
theorem getElem?_of_tidy {name : String} {unit : Instance}
    (h : (r.tidy alive).units[name]? = some unit) : r.units[name]? = some unit :=
  (gains_tidy.others h).resolve_right List.not_mem_nil

/-- A name that a living unit has is not defined anew. -/
theorem define_of_isDefined {name : String} (h : r.isDefined alive name = true)
    (unit : Instance) :
    r.define alive name unit = (.error (.unitAlreadyDefined name), r.tidy alive) := by
  rw [define_eq, if_pos h]

/-- Any other name is. -/
theorem define_of_not_isDefined {name : String} (h : ¬ r.isDefined alive name = true)
    (unit : Instance) :
    (r.define alive name unit).1 = .ok () ∧
      Gains alive r [(name, unit)] (r.define alive name unit).2 := by
  rw [define_eq, if_neg h]
  refine ⟨rfl, ?_, ?_, ?_⟩
  · intro k u hu
    obtain ⟨rfl, rfl⟩ := Prod.mk.inj (List.mem_singleton.mp hu)
    exact Std.HashMap.getElem?_insert_self
  · intro k u hentry halive
    -- the unit lives, so its name is not the new one
    have hk : ¬ (name == k) = true := by
      intro hk
      rw [← eq_of_beq hk] at hentry
      exact h ((isDefined_iff name).mpr ⟨u, hentry, halive⟩)
    show ((r.tidy alive).units.insert name unit)[k]? = some u
    rw [Std.HashMap.getElem?_insert, if_neg hk]
    exact gains_tidy.living hentry halive
  · intro k u hentry
    change ((r.tidy alive).units.insert name unit)[k]? = some u at hentry
    rw [Std.HashMap.getElem?_insert] at hentry
    split at hentry
    · next hk =>
      rw [← eq_of_beq hk, Option.some.inj hentry]
      exact Or.inr List.mem_cons_self
    · exact Or.inl (getElem?_of_tidy hentry)

/-- A definition leaves the entries of living units as they are, whether it succeeds or not. -/
theorem getElem?_define_of_living {name k : String} {unit u : Instance}
    (hentry : r.units[k]? = some u) (halive : alive u = true) :
    (r.define alive name unit).2.units[k]? = some u := by
  by_cases hdefined : r.isDefined alive name = true
  · rw [define_of_isDefined hdefined]
    exact gains_tidy.living hentry halive
  · exact (define_of_not_isDefined hdefined unit).2.living hentry halive

/-- A definition that fails adds no entry. -/
theorem getElem?_of_define_error {name k : String} {unit u : Instance} {fault : Fault}
    (h : (r.define alive name unit).1 = .error fault)
    (hentry : (r.define alive name unit).2.units[k]? = some u) : r.units[k]? = some u := by
  by_cases hdefined : r.isDefined alive name = true
  · rw [define_of_isDefined hdefined] at hentry
    exact getElem?_of_tidy hentry
  · rw [(define_of_not_isDefined hdefined unit).1] at h
    cases h

/-! ## What the records keep -/

/-- Entries that are gained are recorded. Meanwhile units may die. -/
theorem Records.of_gains (h : Records alive r units) {entries : List (String × Instance)}
    {r' : Registry} (hgains : Gains alive r entries r')
    (hle : ∀ u ∈ units, alive' u.2 = true → alive u.2 = true) :
    Records alive' r' (units ++ entries) where
  mem := by
    intro name unit hentry
    rcases hgains.others hentry with hold | hnew
    · exact List.mem_append_left _ (h.mem hold)
    · exact List.mem_append_right _ hnew
  entry := by
    intro name unit hmem halive
    rcases List.mem_append.mp hmem with hold | hnew
    · have hbefore : alive unit = true := hle _ hold halive
      exact hgains.living (h.entry hold hbefore) hbefore
    · exact hgains.gained hnew

/-- The records of a registry that has gained nothing stay as they are. -/
theorem Records.of_gains_nil (h : Records alive r units) {r' : Registry}
    (hgains : Gains alive r [] r')
    (hle : ∀ u ∈ units, alive' u.2 = true → alive u.2 = true) : Records alive' r' units := by
  have hrecords : Records alive' r' (units ++ []) := h.of_gains hgains hle
  rwa [List.append_nil] at hrecords

theorem Records.purge (h : Records alive r units) : Records alive (r.purge alive) units :=
  h.of_gains_nil gains_purge fun _ _ halive => halive

/-- Units may die. -/
theorem Records.mono (h : Records alive r units)
    (hle : ∀ u ∈ units, alive' u.2 = true → alive u.2 = true) : Records alive' r units :=
  h.of_gains_nil (gains_refl r) hle

/-- No living unit has a name that no unit had. -/
theorem Records.not_isDefined (h : Records alive r units) {name : String}
    (hname : name ∉ units.map Prod.fst) : ¬ r.isDefined alive name = true := by
  rw [Registry.isDefined_iff]
  rintro ⟨unit, hentry, -⟩
  exact hname (List.mem_map_of_mem (h.mem hentry))

/-- **Defining a name that no unit had succeeds.** -/
theorem Records.define_eq (h : Records alive r units) {name : String}
    (hname : name ∉ units.map Prod.fst) (unit : Instance) :
    r.define alive name unit
      = (.ok (), { r.tidy alive with units := (r.tidy alive).units.insert name unit }) := by
  rw [Registry.define_eq, if_neg (h.not_isDefined hname)]

/-- The new unit is recorded. It counts as living only from then on. -/
theorem Records.define (h : Records alive r units) {name : String}
    (hname : name ∉ units.map Prod.fst) (unit : Instance)
    (hle : ∀ u ∈ units, alive' u.2 = true → alive u.2 = true) :
    Records alive' (r.define alive name unit).2 (units ++ [(name, unit)]) :=
  h.of_gains (define_of_not_isDefined (h.not_isDefined hname) unit).2 hle

/-! ## What is told -/

/-- **A name is defined exactly if a living unit was defined by it.** -/
theorem Records.isDefined_iff (h : Records alive r units) (name : String) :
    r.isDefined alive name = true ↔ ∃ unit, (name, unit) ∈ units ∧ alive unit = true := by
  rw [isDefined, Option.any_eq_true_iff_get]
  constructor
  · rintro ⟨hsome, halive⟩
    exact ⟨_, h.mem (Option.some_get hsome).symm, halive⟩
  · rintro ⟨unit, hmem, halive⟩
    have hentry := h.entry hmem halive
    refine ⟨by rw [hentry]; rfl, ?_⟩
    simpa only [hentry, Option.get_some] using halive

/-- The entries that a purge would leave are the units that live. -/
theorem Records.mem_toList_filter (h : Records alive r units) (u : String × Instance) :
    u ∈ (r.units.filter fun _ unit => alive unit).toList ↔ u ∈ units.filter (alive ·.2) := by
  rw [Std.HashMap.mem_toList_iff_getElem?_eq_some, Std.HashMap.getElem?_filter',
    Option.filter_eq_some_iff, List.mem_filter]
  constructor
  · rintro ⟨hentry, halive⟩
    exact ⟨h.mem hentry, halive⟩
  · rintro ⟨hmem, halive⟩
    exact ⟨h.entry hmem halive, halive⟩

/-- **The living units are counted**, if no two units were defined by one name. -/
theorem Records.live_eq (h : Records alive r units) (hnodup : (units.map Prod.fst).Nodup) :
    r.live alive = (units.filter (alive ·.2)).length := by
  have hentries : (r.units.filter fun _ unit => alive unit).toList.Nodup := by
    refine List.Pairwise.imp ?_ Std.HashMap.distinct_keys_toList
    rintro a b hkeys rfl
    rw [beq_self_eq_true] at hkeys
    cases hkeys
  have hunits : (units.filter (alive ·.2)).Nodup := hnodup.of_map _ |>.filter _
  -- two lists without repetition that have the same members are equally long
  have hperm := (List.perm_ext_iff_of_nodup hentries hunits).mpr h.mem_toList_filter
  rw [live, ← Std.HashMap.length_toList, hperm.length_eq]

end Templating.Registry
