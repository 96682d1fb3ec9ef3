import Mathlib.Logic.Function.Basic
import Mathlib.Logic.Relation
import Templating.Proofs.Services.Handover

set_option autoImplicit false

/-! # Values are handed over once

Any number of tables is used in any order: values are deposited, and claimed and discarded under
any texts, be they keys of the same table, keys of another one, keys that were named before, or no
keys at all. Still each value is given out at most once, by its own table, under its own key and as
what it is (`oneShot_of_run`).

There are two reasons. A key says which table issued it and at which count, so no key is issued
twice. And an entry is there exactly as long as its deposit is the last deed that concerns its key
(`Exchange.Waits`).
-/

namespace Templating

variable {ι τ : Type}

/-! ## Tables in use -/

/-- Something that was done with a table. -/
inductive Deed (ι τ : Type) where
  -- a value was deposited and a key issued
  | deposit (table : ι) (key : String) (value : Value τ)
  -- a key was named by a claim or a discard, and a value was found under it or not
  | take (table : ι) (key : String) (found : Bool)

namespace Deed

def table : Deed ι τ → ι
  | deposit i _ _ => i
  | take i _ _ => i

def key : Deed ι τ → String
  | deposit _ key _ => key
  | take _ key _ => key

/-- The key that was issued, if one was. -/
def issued? : Deed ι τ → Option String
  | deposit _ key _ => some key
  | take _ _ _ => none

variable [DecidableEq ι]

/-- The deed is a deposit on the table. -/
def isDeposit (i : ι) : Deed ι τ → Bool
  | deposit j _ _ => i = j
  | take _ _ _ => false

/-- The deed is a claim or a discard that found a value on the table. -/
def isFind (i : ι) : Deed ι τ → Bool
  | deposit _ _ _ => false
  | take j _ found => i = j && found

end Deed

/-- Tables, each under its index, and what was done with them so far, the last deed first. -/
structure Exchange (ι τ : Type) where
  tables : ι → Handover τ
  deeds : List (Deed ι τ)

namespace Exchange

/-- New tables with the given numbers. -/
def new (ids : ι → Nat) : Exchange ι τ := ⟨fun i => .new (ids i), []⟩

/-- The keys that were issued by all tables. -/
def keys (x : Exchange ι τ) : List String := x.deeds.filterMap Deed.issued?

/-- The value was deposited under the key, and the key has not been named on the table since. -/
def Waits (deeds : List (Deed ι τ)) (i : ι) (key : String) (value : Value τ) : Prop :=
  ∃ later earlier, deeds = later ++ .deposit i key value :: earlier ∧
    ∀ found, Deed.take i key found ∉ later

/-! ## Deeds that concern a key -/

/-- A value waits if its deposit is the last deed, or if it waited before and is not named by the
last deed. -/
theorem waits_cons {deed : Deed ι τ} {deeds : List (Deed ι τ)} {i : ι} {key : String}
    {value : Value τ} :
    Waits (deed :: deeds) i key value ↔ deed = .deposit i key value ∨
      (∀ found, deed ≠ .take i key found) ∧ Waits deeds i key value := by
  constructor
  · rintro ⟨later, earlier, heq, hnamed⟩
    cases later with
    | nil => exact Or.inl (List.cons.inj heq).1
    | cons last later =>
        obtain ⟨rfl, hdeeds⟩ := List.cons.inj heq
        refine Or.inr ⟨fun found hdeed => ?_, later, earlier, hdeeds, fun found hmem => ?_⟩
        · exact hnamed found (hdeed ▸ List.mem_cons_self)
        · exact hnamed found (List.mem_cons_of_mem _ hmem)
  · rintro (rfl | ⟨hdeed, later, earlier, rfl, hnamed⟩)
    · exact ⟨[], deeds, rfl, fun found => List.not_mem_nil⟩
    · refine ⟨deed :: later, earlier, rfl, fun found hmem => ?_⟩
      rcases List.mem_cons.mp hmem with hlast | hmem
      · exact hdeed found hlast.symm
      · exact hnamed found hmem

section

variable {deeds : List (Deed ι τ)} {i : ι} {key k : String} {value v : Value τ}

/-- A deposit on a table starts a wait, and ends none. -/
theorem waits_deposit_cons :
    Waits (.deposit i key value :: deeds) i k v ↔ (key = k ∧ value = v) ∨ Waits deeds i k v := by
  rw [waits_cons]
  constructor
  · rintro (hdeed | ⟨-, hwaits⟩)
    · exact Or.inl (Deed.deposit.inj hdeed).2
    · exact Or.inr hwaits
  · rintro (⟨rfl, rfl⟩ | hwaits)
    · exact Or.inl rfl
    · exact Or.inr ⟨(fun found hdeed => by cases hdeed), hwaits⟩

/-- Naming a key on a table ends what waits under it there, and nothing else. -/
theorem waits_take_cons {found : Bool} :
    Waits (.take i key found :: deeds) i k v ↔ key ≠ k ∧ Waits deeds i k v := by
  rw [waits_cons]
  constructor
  · rintro (hdeed | ⟨hnamed, hwaits⟩)
    · cases hdeed
    · exact ⟨fun hkey => hnamed found (by rw [hkey]), hwaits⟩
  · rintro ⟨hkey, hwaits⟩
    exact Or.inr ⟨fun found hdeed => hkey (Deed.take.inj hdeed).2.1, hwaits⟩

/-- What waits on a table is not concerned by deeds on other tables. -/
theorem waits_cons_of_ne {deed : Deed ι τ} (hne : i ≠ deed.table) :
    Waits (deed :: deeds) i k v ↔ Waits deeds i k v := by
  rw [waits_cons]
  constructor
  · rintro (rfl | ⟨-, hwaits⟩)
    · exact absurd rfl hne
    · exact hwaits
  · intro hwaits
    exact Or.inr ⟨fun found hdeed => hne (hdeed ▸ rfl), hwaits⟩

end

theorem not_waits_nil (i : ι) (key : String) (value : Value τ) : ¬ Waits [] i key value := by
  rintro ⟨later, earlier, heq, -⟩
  cases later <;> cases heq

theorem mem_of_waits {deeds : List (Deed ι τ)} {i : ι} {key : String} {value : Value τ}
    (h : Waits deeds i key value) : Deed.deposit i key value ∈ deeds := by
  obtain ⟨later, earlier, rfl, -⟩ := h
  exact List.mem_append_right _ List.mem_cons_self

theorem mem_keys_iff {x : Exchange ι τ} {key : String} :
    key ∈ x.keys ↔ ∃ i value, Deed.deposit i key value ∈ x.deeds := by
  rw [keys, List.mem_filterMap]
  constructor
  · rintro ⟨deed, hmem, hkey⟩
    cases deed with
    | deposit i k value => exact ⟨i, value, Option.some.inj hkey ▸ hmem⟩
    | take i k found => cases hkey
  · rintro ⟨i, value, hmem⟩
    exact ⟨_, hmem, rfl⟩

/-! ## What can be done -/

variable [DecidableEq ι]

/-- The number of deposits on a table. -/
def deposits (x : Exchange ι τ) (i : ι) : Nat := x.deeds.countP (Deed.isDeposit i)

/-- The number of claims and discards on a table that found a value. -/
def finds (x : Exchange ι τ) (i : ι) : Nat := x.deeds.countP (Deed.isFind i)

/-- Takes down a deed and what has become of its table. -/
def record (x : Exchange ι τ) (deed : Deed ι τ) (h : Handover τ) : Exchange ι τ :=
  ⟨Function.update x.tables deed.table h, deed :: x.deeds⟩

/-- What can be done with tables. -/
inductive Step (x : Exchange ι τ) : Deed ι τ → Exchange ι τ → Prop where
  | deposit (i : ι) (value : Value τ) :
      Step x (.deposit i ((x.tables i).deposit value).1 value)
        (x.record (.deposit i ((x.tables i).deposit value).1 value)
          ((x.tables i).deposit value).2)
  | claim (i : ι) {α : Type} (kind : Kind τ α) (key : String) :
      Step x (.take i key ((x.tables i).pending.contains key))
        (x.record (.take i key ((x.tables i).pending.contains key))
          ((x.tables i).claim kind.select key).2)
  | discard (i : ι) (key : String) :
      Step x (.take i key ((x.tables i).discard key).1)
        (x.record (.take i key ((x.tables i).discard key).1) ((x.tables i).discard key).2)

/-- Any number of deeds. -/
def Run : Exchange ι τ → Exchange ι τ → Prop :=
  Relation.ReflTransGen fun x y => ∃ deed, Step x deed y

/-- **Every value is given out at most once**, by its own table and under its own key. -/
structure OneShot (x : Exchange ι τ) : Prop where
  -- no two deposits issued the same key, on whatever tables
  keys : x.keys.Nodup
  -- a claim or a discard finds something exactly if a value waits
  found_iff : ∀ {i : ι} {key : String} {found : Bool} {y : Exchange ι τ},
    Step x (.take i key found) y → (found = true ↔ ∃ value, Waits x.deeds i key value)
  -- a claim gives out the value that waits if it is of the type that is asked for
  claim_eq_ok_iff : ∀ (i : ι) {α : Type} (kind : Kind τ α) (key : String) (a : α),
    ((x.tables i).claim kind.select key).1 = .ok a ↔ Waits x.deeds i key (kind.value a)
  -- a value of another type and no value at all are the same fault
  claim_eq_error : ∀ (i : ι) {α : Type} (kind : Kind τ α) (key : String),
    (∀ a, ¬ Waits x.deeds i key (kind.value a)) →
      ((x.tables i).claim kind.select key).1 = .error (.unknownKey key)
  -- in either case nothing is left under the key
  taken : ∀ {i : ι} {key : String} {found : Bool} {y : Exchange ι τ},
    Step x (.take i key found) y → (y.tables i).pending[key]? = none
  -- other tables and other keys are not concerned
  others : ∀ {deed : Deed ι τ} {y : Exchange ι τ}, Step x deed y →
    (∀ j ≠ deed.table, y.tables j = x.tables j) ∧
      ∀ key ≠ deed.key, (y.tables deed.table).pending[key]?
        = (x.tables deed.table).pending[key]?
  -- what was deposited and not found waits still
  size : ∀ i, (x.tables i).pending.size + x.finds i = x.deposits i

/-! ## One table and the deeds -/

/-- The deeds account for all that is in a table. -/
structure Matches (id : Nat) (deeds : List (Deed ι τ)) (i : ι) (h : Handover τ) : Prop where
  id_eq : h.id = id
  issued : h.issued = UInt64.ofNat (deeds.countP (Deed.isDeposit i))
  -- the keys are those at the counts so far
  key : ∀ {key : String} {value : Value τ}, Deed.deposit i key value ∈ deeds →
    ∃ n < deeds.countP (Deed.isDeposit i), key = Handover.keyAt id (UInt64.ofNat n)
  waits : ∀ {key : String} {value : Value τ},
    h.pending[key]? = some value ↔ Waits deeds i key value
  size : h.pending.size + deeds.countP (Deed.isFind i) = deeds.countP (Deed.isDeposit i)

variable {id : Nat} {deeds : List (Deed ι τ)} {i : ι} {h : Handover τ} {key : String}

theorem matches_new (id : Nat) (i : ι) : Matches id ([] : List (Deed ι τ)) i (.new id) where
  id_eq := rfl
  issued := rfl
  key := fun hmem => absurd hmem List.not_mem_nil
  waits := by
    intro key value
    have hnone : (Handover.new id : Handover τ).pending[key]? = none :=
      Std.HashMap.getElem?_empty
    rw [hnone]
    exact ⟨(fun h => by cases h), fun h => absurd h (not_waits_nil i key value)⟩
  size := rfl

/-- A table is not concerned by deeds on other tables. -/
theorem Matches.other (hm : Matches id deeds i h) {deed : Deed ι τ} (hne : i ≠ deed.table) :
    Matches id (deed :: deeds) i h := by
  have hdeposit : ¬ deed.isDeposit i = true := by
    cases deed <;> simp_all [Deed.isDeposit, Deed.table]
  have hfind : ¬ deed.isFind i = true := by
    cases deed <;> simp_all [Deed.isFind, Deed.table]
  constructor
  · exact hm.id_eq
  · rw [List.countP_cons_of_neg hdeposit, hm.issued]
  · intro key value hmem
    rw [List.countP_cons_of_neg hdeposit]
    rcases List.mem_cons.mp hmem with rfl | hmem
    · exact absurd rfl hne
    · exact hm.key hmem
  · intro key value
    rw [hm.waits, waits_cons_of_ne hne]
  · rw [List.countP_cons_of_neg hdeposit, List.countP_cons_of_neg hfind, hm.size]

/-- A deposit under a key that was not issued before. -/
theorem Matches.deposit (hm : Matches id deeds i h) (value : Value τ)
    (hnew : ∀ v, Deed.deposit i (h.deposit value).1 v ∉ deeds) :
    Matches id (.deposit i (h.deposit value).1 value :: deeds) i (h.deposit value).2 := by
  have hnone : ∀ v, ¬ Waits deeds i (h.deposit value).1 v := fun v hv => hnew v (mem_of_waits hv)
  have hdeposit : (Deed.deposit i (h.deposit value).1 value).isDeposit i = true := by
    simp [Deed.isDeposit]
  have hfind : ¬ (Deed.deposit i (h.deposit value).1 value).isFind i = true := by
    simp [Deed.isFind]
  constructor
  · exact hm.id_eq
  · show h.issued + 1 = _
    rw [List.countP_cons_of_pos hdeposit, hm.issued, UInt64.ofNat_add]
    rfl
  · intro key v hmem
    rw [List.countP_cons_of_pos hdeposit]
    rcases List.mem_cons.mp hmem with hdeed | hmem
    · refine ⟨_, Nat.lt_succ_self _, ?_⟩
      rw [(Deed.deposit.inj hdeed).2.1, ← hm.id_eq, ← hm.issued]
      rfl
    · obtain ⟨n, hn, hkey⟩ := hm.key hmem
      exact ⟨n, by omega, hkey⟩
  · intro key v
    show (h.pending.insert (h.deposit value).1 value)[key]? = some v ↔ _
    rw [waits_deposit_cons, Std.HashMap.getElem?_insert]
    by_cases hkey : (h.deposit value).1 = key
    · -- nothing waited under the key before
      obtain rfl := hkey
      rw [if_pos (beq_self_eq_true _), Option.some_inj]
      exact ⟨fun hv => Or.inl ⟨rfl, hv⟩, fun hwaits => (hwaits.resolve_right (hnone v)).2⟩
    · rw [if_neg fun hsame => hkey (beq_iff_eq.mp hsame), hm.waits]
      exact ⟨Or.inr, fun hwaits => hwaits.resolve_left fun hnew => hkey hnew.1⟩
  · have hmem : (h.deposit value).1 ∉ h.pending := by
      intro hmem
      obtain ⟨v, hv⟩ := Option.isSome_iff_exists.mp (Std.HashMap.mem_iff_isSome_getElem?.mp hmem)
      exact hnone v (hm.waits.mp hv)
    show (h.pending.insert (h.deposit value).1 value).size + _ = _
    rw [List.countP_cons_of_pos hdeposit, List.countP_cons_of_neg hfind, Std.HashMap.size_insert,
      if_neg hmem, ← hm.size]
    omega

/-- A claim or a discard under any text. -/
theorem Matches.discard (hm : Matches id deeds i h) (key : String) :
    Matches id (.take i key (h.discard key).1 :: deeds) i (h.discard key).2 := by
  have hdeposit : ¬ (Deed.take i key (h.discard key).1 : Deed ι τ).isDeposit i = true := by
    simp [Deed.isDeposit]
  constructor
  · exact hm.id_eq
  · rw [List.countP_cons_of_neg hdeposit]
    exact hm.issued
  · intro k v hmem
    rw [List.countP_cons_of_neg hdeposit]
    rcases List.mem_cons.mp hmem with hdeed | hmem
    · cases hdeed
    · exact hm.key hmem
  · intro k v
    rw [waits_take_cons, Handover.getElem?_discard]
    by_cases hkey : key = k
    · rw [if_pos hkey]
      exact ⟨(fun hv => by cases hv), fun hwaits => absurd hkey hwaits.1⟩
    · rw [if_neg hkey, hm.waits]
      exact ⟨fun hwaits => ⟨hkey, hwaits⟩, And.right⟩
  · rw [List.countP_cons_of_neg hdeposit, List.countP_cons]
    have hsize := hm.size
    have herase := Handover.size_discard h key
    by_cases hfound : (h.discard key).1 = true
    · simp only [hfound, Deed.isFind, decide_true, Bool.and_self, if_true] at herase ⊢
      omega
    · simp only [hfound, Deed.isFind, Bool.and_false, Bool.false_eq_true, if_false] at herase ⊢
      omega

/-! ## All tables -/

/-- The deeds account for all tables, and no key was issued twice. -/
structure Consistent (ids : ι → Nat) (x : Exchange ι τ) : Prop where
  tables : ∀ i, Matches (ids i) x.deeds i (x.tables i)
  keys : x.keys.Nodup

variable {x y : Exchange ι τ} {ids : ι → Nat} {deed : Deed ι τ}

theorem consistent_new (ids : ι → Nat) : (new ids : Exchange ι τ).Consistent ids where
  tables := fun i => matches_new (ids i) i
  keys := List.nodup_nil

theorem tables_record_self (deed : Deed ι τ) (h : Handover τ) :
    (x.record deed h).tables deed.table = h := Function.update_self ..

theorem tables_record_of_ne {j : ι} (hj : j ≠ deed.table) (h : Handover τ) :
    (x.record deed h).tables j = x.tables j := Function.update_of_ne hj ..

/-- Only the table of a deed has to be looked at. -/
theorem Consistent.record (hx : x.Consistent ids) {h : Handover τ}
    (hm : Matches (ids deed.table) (deed :: x.deeds) deed.table h)
    (hkeys : (x.record deed h).keys.Nodup) : (x.record deed h).Consistent ids where
  tables := by
    intro j
    by_cases hj : j = deed.table
    · rw [hj, tables_record_self]
      exact hm
    · rw [tables_record_of_ne hj]
      exact (hx.tables j).other hj
  keys := hkeys

/-- **The next key is new**, also to the other tables. -/
theorem Consistent.not_mem_keys (hx : x.Consistent ids) (hids : Function.Injective ids) {i : ι}
    (hcount : x.deposits i < UInt64.size) (value : Value τ) :
    ((x.tables i).deposit value).1 ∉ x.keys := by
  intro hmem
  obtain ⟨j, v, hdeed⟩ := mem_keys_iff.mp hmem
  obtain ⟨n, hn, hkey⟩ := (hx.tables j).key hdeed
  obtain ⟨hid, hword⟩ := Handover.keyAt_inj.mp hkey
  obtain rfl : i = j := hids ((hx.tables i).id_eq.symm.trans hid)
  rw [(hx.tables i).issued] at hword
  have hnat := congrArg UInt64.toNat hword
  change n < x.deposits i at hn
  change (UInt64.ofNat (x.deposits i)).toNat = _ at hnat
  rw [UInt64.toNat_ofNat_of_lt' hcount, UInt64.toNat_ofNat_of_lt' (by omega)] at hnat
  omega

/-- A claim does the same to the tables as a discard. -/
theorem Step.eq_discard {i : ι} {key : String} {found : Bool}
    (h : Step x (.take i key found) y) : found = ((x.tables i).discard key).1 ∧
      y = x.record (.take i key found) ((x.tables i).discard key).2 := by
  cases h with
  | claim kind => exact ⟨rfl, rfl⟩
  | discard => exact ⟨rfl, rfl⟩

/-- A deed is taken down, and concerns one table and one key. -/
theorem Step.eq_record (hstep : Step x deed y) : ∃ h, y = x.record deed h ∧
    ∀ key ≠ deed.key, h.pending[key]? = (x.tables deed.table).pending[key]? := by
  cases deed with
  | deposit i key value =>
      cases hstep with
      | deposit =>
          refine ⟨_, rfl, fun key hkey => ?_⟩
          change key ≠ ((x.tables i).deposit value).1 at hkey
          show ((x.tables i).pending.insert ((x.tables i).deposit value).1 value)[key]?
            = (x.tables i).pending[key]?
          rw [Std.HashMap.getElem?_insert, if_neg fun hsame => hkey (beq_iff_eq.mp hsame).symm]
  | take i key found =>
      obtain ⟨-, rfl⟩ := hstep.eq_discard
      refine ⟨_, rfl, fun k hk => ?_⟩
      change k ≠ key at hk
      rw [Handover.getElem?_discard, if_neg (Ne.symm hk)]
      rfl

/-- **Every deed keeps the invariant**, as long as the deposits can be counted. -/
theorem Consistent.step (hx : x.Consistent ids) (hids : Function.Injective ids)
    (hcount : ∀ i, x.deposits i < UInt64.size) (hstep : Step x deed y) : y.Consistent ids := by
  cases deed with
  | deposit i key value =>
      cases hstep with
      | deposit =>
          have hnew := hx.not_mem_keys hids (hcount i) value
          refine hx.record ?_ (List.nodup_cons.mpr ⟨hnew, hx.keys⟩)
          exact (hx.tables i).deposit value fun v hv => hnew (mem_keys_iff.mpr ⟨i, v, hv⟩)
  | take i key found =>
      obtain ⟨rfl, rfl⟩ := hstep.eq_discard
      exact hx.record ((hx.tables i).discard key) hx.keys

/-- The invariant gives what is promised. -/
theorem Consistent.oneShot (hx : x.Consistent ids) : x.OneShot where
  keys := hx.keys
  found_iff := by
    intro i key found y hstep
    obtain ⟨rfl, -⟩ := hstep.eq_discard
    show (x.tables i).pending.contains key = true ↔ _
    rw [Std.HashMap.contains_eq_isSome_getElem?, Option.isSome_iff_exists]
    simp only [(hx.tables i).waits]
  claim_eq_ok_iff := by
    intro i α kind key a
    rw [Handover.claim_eq_ok_iff, (hx.tables i).waits]
  claim_eq_error := by
    intro i α kind key hnone
    refine Handover.claim_eq_error kind (Option.eq_none_iff_forall_ne_some.mpr fun a ha => ?_)
    exact hnone a ((hx.tables i).waits.mp ((Handover.bind_select_eq_some_iff kind).mp ha))
  taken := by
    intro i key found y hstep
    obtain ⟨-, rfl⟩ := hstep.eq_discard
    have htable := tables_record_self (x := x) (.take i key found) ((x.tables i).discard key).2
    change (x.record _ _).tables i = _ at htable
    rw [htable, Handover.getElem?_discard, if_pos rfl]
  others := by
    intro deed y hstep
    obtain ⟨h, rfl, hother⟩ := hstep.eq_record
    refine ⟨fun j hj => tables_record_of_ne hj h, ?_⟩
    rw [tables_record_self]
    exact hother
  size := fun i => (hx.tables i).size

/-! ## Any number of deeds -/

/-- A run only adds to its deeds. -/
theorem Step.deposits_le (h : Step x deed y) (i : ι) : x.deposits i ≤ y.deposits i := by
  obtain ⟨t, rfl, -⟩ := h.eq_record
  exact (List.sublist_cons_self deed x.deeds).countP_le

theorem Consistent.run (hx : x.Consistent ids) (hids : Function.Injective ids) (hrun : Run x y)
    (hcount : ∀ i, y.deposits i < UInt64.size) : y.Consistent ids := by
  induction hrun with
  | refl => exact hx
  | tail _ hstep ih =>
      obtain ⟨deed, hstep⟩ := hstep
      have hbefore := fun i => Nat.lt_of_le_of_lt (hstep.deposits_le i) (hcount i)
      exact (ih hbefore).step hids hbefore hstep

/-- A claim can be made at any time. What it finds is told by the deeds before it. -/
theorem OneShot.exists_claim (h : x.OneShot) {α : Type} (kind : Kind τ α) {i : ι} {key : String}
    {found : Bool} (hfound : found = true ↔ ∃ value, Waits x.deeds i key value) :
    ∃ y, Step x (.take i key found) y ∧ y.deeds = .take i key found :: x.deeds := by
  have hstep := Step.claim (x := x) i kind key
  rw [Bool.eq_iff_iff.mpr ((h.found_iff hstep).trans hfound.symm)] at hstep
  exact ⟨_, hstep, rfl⟩

/-- **What is handed over is handed over once**, between any number of tables with different
numbers, as long as the deposits on each of them can be counted. -/
theorem oneShot_of_run (hids : Function.Injective ids) (hrun : Run (new ids) x)
    (hcount : ∀ i, x.deposits i < UInt64.size) : x.OneShot :=
  ((consistent_new ids).run hids hrun hcount).oneShot

/-- A number waits in one of two tables and is claimed twice. The first claim gets it, the second
does not, and before that neither does the other table nor a claim of another type. -/
theorem oneShot_of_run_number : ∃ x y z : Exchange Bool String,
    Run (new Bool.toNat) x ∧ Step x (.take false "t0-k0" true) y ∧
      Step y (.take false "t0-k0" false) z ∧ x.OneShot ∧ y.OneShot ∧ z.OneShot ∧
      ((x.tables false).claim Kind.int.select "t0-k0").1 = .ok 5 ∧
      ((x.tables true).claim Kind.int.select "t0-k0").1 = .error (.unknownKey "t0-k0") ∧
      ((x.tables false).claim Kind.text.select "t0-k0").1 = .error (.unknownKey "t0-k0") ∧
      ((x.tables false).claim Kind.foreign.select "t0-k0").1 = .error (.unknownKey "t0-k0") ∧
      ((y.tables false).claim Kind.int.select "t0-k0").1 = .error (.unknownKey "t0-k0") := by
  have hids : Function.Injective Bool.toNat := by
    intro a b
    revert a b
    decide
  obtain ⟨x, hdeposit, hx⟩ : ∃ x : Exchange Bool String,
      Step (new Bool.toNat) (.deposit false "t0-k0" (.int 5)) x ∧
        x.deeds = [.deposit false "t0-k0" (.int 5)] := ⟨_, .deposit false (.int 5), rfl⟩
  have hrun : Run (new Bool.toNat) x := .single ⟨_, hdeposit⟩
  have hone : x.OneShot := oneShot_of_run hids hrun (by simp only [deposits, hx]; decide)
  have hwaits : ∀ i v, Waits x.deeds i "t0-k0" v ↔ i = false ∧ v = .int 5 := by
    intro i v
    rw [hx, waits_cons]
    simp [not_waits_nil, eq_comm]
  obtain ⟨y, hfirst, hy⟩ := hone.exists_claim Kind.int
    (iff_of_true rfl ⟨.int 5, (hwaits _ _).mpr ⟨rfl, rfl⟩⟩)
  have hclaimed : Run (new Bool.toNat) y := hrun.tail ⟨_, hfirst⟩
  have hone' : y.OneShot := oneShot_of_run hids hclaimed (by simp only [deposits, hy, hx]; decide)
  have hgone : ∀ v, ¬ Waits y.deeds false "t0-k0" v := by
    intro v hv
    rw [hy] at hv
    exact (waits_take_cons.mp hv).1 rfl
  obtain ⟨z, hsecond, hz⟩ := hone'.exists_claim Kind.int
    (iff_of_false Bool.false_ne_true fun hwait => hwait.elim hgone)
  have hone'' : z.OneShot :=
    oneShot_of_run hids (hclaimed.tail ⟨_, hsecond⟩) (by simp only [deposits, hz, hy, hx]; decide)
  refine ⟨x, y, z, hrun, hfirst, hsecond, hone, hone', hone'', ?_, ?_, ?_, ?_, ?_⟩
  · exact (hone.claim_eq_ok_iff false Kind.int "t0-k0" 5).mpr ((hwaits _ _).mpr ⟨rfl, rfl⟩)
  · refine hone.claim_eq_error true Kind.int "t0-k0" fun a ha => ?_
    exact absurd ((hwaits _ _).mp ha).1 (by decide)
  · refine hone.claim_eq_error false Kind.text "t0-k0" fun a ha => ?_
    cases ((hwaits _ _).mp ha).2
  · exact hone.claim_eq_error false Kind.foreign "t0-k0" fun a => a.elim
  · exact hone'.claim_eq_error false Kind.int "t0-k0" fun a => hgone _

end Exchange

end Templating
