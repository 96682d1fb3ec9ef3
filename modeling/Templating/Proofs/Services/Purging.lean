import Mathlib.Data.List.Infix
import Templating.Proofs.Services.Refinement

set_option autoImplicit false

/-! # Purging is cheap

A purge looks at every entry. A registry purges only when as many entries as its mark have come
together, and the mark is at least twice what the last purge has left, so half of the entries at
least have come since. Each of them came with a definition of a name that had no entry, and those
definitions pay for the purge: all purges together that definitions did on their own looked at no
more than two entries for each definition that succeeded (`amortised_of_run`).

What has been done to a registry is kept in a log (`Deed`, the last deed first). From the log alone
the mark and the number of entries can be told (`Accounts`). That each purge is paid for
(`Deed.Paid`) is what a step must show, and the bound over the whole run then follows from the log,
with twice the definitions that have not yet paid as the potential (`Deed.Paid.scanned_le`).

Whether a name has an entry is asked where it is defined, after the purge in the same definition.
-/

namespace Templating.Registry

/-! ## Logs -/

/-- What is done to the entries of a registry. -/
inductive Deed where
  -- a purge of `scanned` entries, in a definition or one that was asked for
  | purge (automatic : Bool) (scanned left : Nat)
  -- a definition that succeeds; the name is fresh if it has no entry
  | define (fresh : Bool)
deriving DecidableEq, Repr

namespace Deed

def isPurge : Deed → Bool
  | purge _ _ _ => true
  | define _ => false

def isDefine : Deed → Bool
  | purge _ _ _ => false
  | define _ => true

/-- The number of entries that the last purge has left, if there was one. -/
def left? : List Deed → Option Nat
  | [] => none
  | purge _ _ left :: _ => some left
  | define _ :: log => left? log

/-- The number of fresh names defined since the last purge. -/
def fresh : List Deed → Nat
  | [] => 0
  | purge _ _ _ :: _ => 0
  | define isFresh :: log => fresh log + isFresh.toNat

/-- The number of entries that the purges in definitions have looked at. -/
def scanned : List Deed → Nat
  | [] => 0
  | purge automatic n _ :: log => scanned log + if automatic then n else 0
  | define _ :: log => scanned log

/-- Each purge in a definition is paid for by the fresh names since the purge before it, with two
entries for a name. -/
def Paid (log : List Deed) : Prop :=
  ∀ n left earlier, purge true n left :: earlier <:+ log → n ≤ 2 * fresh earlier

theorem paid_nil : Paid [] := fun _ _ _ h => by
  cases List.suffix_nil.mp h

theorem paid_cons_iff {deed : Deed} {log : List Deed} :
    Paid (deed :: log) ↔ (∀ n left, deed = purge true n left → n ≤ 2 * fresh log) ∧ Paid log := by
  constructor
  · intro h
    constructor
    · rintro n left rfl
      exact h n left log List.suffix_rfl
    · intro n left earlier hsuffix
      exact h n left earlier (hsuffix.trans (List.suffix_cons deed log))
  · rintro ⟨hdeed, hlog⟩ n left earlier hsuffix
    rcases List.suffix_cons_iff.mp hsuffix with heq | hsuffix
    · obtain ⟨rfl, rfl⟩ := List.cons.inj heq
      exact hdeed n left rfl
    · exact hlog n left earlier hsuffix

/-- **All that was looked at is paid for.** The names that have paid for no purge yet are the
potential. -/
theorem Paid.scanned_le {log : List Deed} (h : Paid log) :
    scanned log + 2 * fresh log ≤ 2 * log.countP isDefine := by
  induction log with
  | nil => exact Nat.le_refl 0
  | cons deed log ih =>
      obtain ⟨hdeed, hlog⟩ := paid_cons_iff.mp h
      have hle := ih hlog
      cases deed with
      | purge automatic n left =>
          rw [List.countP_cons_of_neg (by simp [isDefine])]
          cases automatic with
          | false =>
              simp only [scanned, fresh, Bool.false_eq_true, if_false]
              omega
          | true =>
              have hn := hdeed n left rfl
              simp only [scanned, fresh, if_true]
              omega
      | define isFresh =>
          have hfresh := isFresh.toNat_le
          rw [List.countP_cons_of_pos rfl]
          simp only [scanned, fresh]
          omega

end Deed

/-- The purge in a definition, if there is one. -/
def tidyDeeds (alive : Instance → Bool) (r : Registry) : List Deed :=
  if (r.tidy alive).purges = r.purges then [] else [.purge true r.size (r.tidy alive).size]

/-- What a definition does, the last deed first. -/
def defineDeeds (alive : Instance → Bool) (name : String) (unit : Instance) (r : Registry) :
    List Deed :=
  match (r.define alive name unit).1 with
  | .ok () => .define (r.tidy alive).units[name]?.isNone :: r.tidyDeeds alive
  | .error _ => r.tidyDeeds alive

/-! ## Accounts -/

/-- The mark after a purge that has left so many entries, and before the first purge. -/
def markAfter (threshold : Nat) : Option Nat → Nat
  | none => max threshold 1
  | some left => max (max threshold 1) (2 * left)

/-- The state of a registry can be told from its log. -/
structure Accounts (threshold : Nat) (r : Registry) (log : List Deed) : Prop where
  threshold_eq : r.threshold = max threshold 1
  mark_eq : r.mark = markAfter threshold (Deed.left? log)
  size_eq : r.size = (Deed.left? log).getD 0 + Deed.fresh log
  purges_eq : r.purges = log.countP Deed.isPurge
  size_le : r.size ≤ r.mark
  paid : Deed.Paid log

variable {alive : Instance → Bool} {threshold : Nat} {r : Registry} {log : List Deed}

theorem accounts_new (threshold : Nat) : Accounts threshold (new threshold) [] where
  threshold_eq := rfl
  mark_eq := rfl
  size_eq := Std.HashMap.size_empty
  purges_eq := rfl
  size_le := Nat.zero_le _
  paid := Deed.paid_nil

/-- An entry is new if the name had none. -/
theorem size_insert (name : String) (unit : Instance) :
    size { r with units := r.units.insert name unit }
      = r.size + r.units[name]?.isNone.toNat := by
  show (r.units.insert name unit).size = _
  rw [Std.HashMap.size_insert]
  by_cases hname : name ∈ r.units
  · rw [if_pos hname, Std.HashMap.getElem?_eq_some_getElem hname]
    rfl
  · rw [if_neg hname, Std.HashMap.getElem?_eq_none hname]
    rfl

namespace Accounts

/-- The mark leaves room for as many entries again as the last purge has left. -/
theorem two_mul_left_le (h : Accounts threshold r log) :
    2 * (Deed.left? log).getD 0 ≤ r.mark := by
  rw [h.mark_eq]
  cases Deed.left? log with
  | none => exact Nat.zero_le _
  | some left => exact Nat.le_max_right _ _

/-- Twice a number below `2 ^ 63` is a word. -/
theorem mark_lt (h : Accounts threshold r log) (hthreshold : max threshold 1 < UInt64.size)
    (hleft : ∀ left ∈ Deed.left? log, left < 2 ^ 63) : r.mark < UInt64.size := by
  rw [h.mark_eq]
  cases hlast : Deed.left? log with
  | none => exact hthreshold
  | some left =>
      have hlt : 2 * left < 2 * 2 ^ 63 :=
        Nat.mul_lt_mul_of_pos_left (hleft left hlast) Nat.two_pos
      exact Nat.max_lt.mpr ⟨hthreshold, hlt⟩

/-- **At the mark, half of the entries are new.** -/
theorem size_le_of_mark_le (h : Accounts threshold r log) (hmark : r.mark ≤ r.size) :
    r.size ≤ 2 * Deed.fresh log := by
  have hsize := h.size_eq
  have hleft := h.two_mul_left_le
  omega

/-- A purge leaves fewer entries than the new mark. -/
theorem size_purge_lt (h : Accounts threshold r log) :
    (r.purge alive).size < (r.purge alive).mark := by
  show (r.purge alive).size < max r.threshold (2 * (r.purge alive).size)
  rw [h.threshold_eq]
  omega

/-! ### One deed -/

theorem purge (h : Accounts threshold r log) {automatic : Bool}
    (hmark : automatic = true → r.mark ≤ r.size) :
    Accounts threshold (r.purge alive)
      (.purge automatic r.size (r.purge alive).size :: log) where
  threshold_eq := h.threshold_eq
  mark_eq := by
    show max r.threshold _ = _
    rw [h.threshold_eq]
    rfl
  size_eq := (Nat.add_zero _).symm
  purges_eq := by
    rw [List.countP_cons_of_pos rfl, ← h.purges_eq]
    rfl
  size_le := h.size_purge_lt.le
  paid := by
    refine Deed.paid_cons_iff.mpr ⟨?_, h.paid⟩
    rintro n left hdeed
    cases hdeed
    exact h.size_le_of_mark_le (hmark rfl)

theorem insert (h : Accounts threshold r log) (hlt : r.size < r.mark) (name : String)
    (unit : Instance) :
    Accounts threshold { r with units := r.units.insert name unit }
      (.define r.units[name]?.isNone :: log) where
  threshold_eq := h.threshold_eq
  mark_eq := h.mark_eq
  size_eq := by
    rw [size_insert, h.size_eq, Nat.add_assoc]
    rfl
  purges_eq := h.purges_eq
  size_le := by
    have hone := (r.units[name]?.isNone).toNat_le
    rw [size_insert]
    show r.size + _ ≤ r.mark
    omega
  paid := by
    refine Deed.paid_cons_iff.mpr ⟨fun n left hdeed => ?_, h.paid⟩
    cases hdeed

/-! ### Definitions -/

theorem tidy_eq (h : Accounts threshold r log) :
    r.tidy alive = if r.size = r.mark then r.purge alive else r := by
  have hle := h.size_le
  unfold Registry.tidy
  by_cases hmark : r.size = r.mark
  · rw [if_pos hmark, if_pos hmark.ge]
  · rw [if_neg hmark, if_neg (by omega)]

/-- **A definition purges exactly at the mark.** -/
theorem purges_define (h : Accounts threshold r log) (name : String) (unit : Instance) :
    (r.define alive name unit).2.purges
      = if r.size = r.mark then r.purges + 1 else r.purges := by
  have htidy : (r.define alive name unit).2.purges = (r.tidy alive).purges := by
    rw [define_eq]
    split <;> rfl
  rw [htidy, h.tidy_eq]
  split <;> rfl

theorem tidyDeeds_eq (h : Accounts threshold r log) :
    r.tidyDeeds alive
      = if r.size = r.mark then [.purge true r.size (r.purge alive).size] else [] := by
  have hpurges : (r.purge alive).purges ≠ r.purges := Nat.succ_ne_self r.purges
  unfold Registry.tidyDeeds
  rw [h.tidy_eq]
  by_cases hmark : r.size = r.mark
  · rw [if_pos hmark, if_pos hmark, if_neg hpurges]
  · rw [if_neg hmark, if_neg hmark, if_pos rfl]

/-- After the purge in a definition, if there is one, there is room for an entry. -/
theorem tidy (h : Accounts threshold r log) :
    Accounts threshold (r.tidy alive) (r.tidyDeeds alive ++ log) ∧
      (r.tidy alive).size < (r.tidy alive).mark := by
  rw [h.tidyDeeds_eq, h.tidy_eq]
  by_cases hmark : r.size = r.mark
  · rw [if_pos hmark, if_pos hmark]
    exact ⟨h.purge fun _ => hmark.ge, h.size_purge_lt⟩
  · rw [if_neg hmark, if_neg hmark]
    exact ⟨h, Nat.lt_of_le_of_ne h.size_le hmark⟩

theorem define (h : Accounts threshold r log) (name : String) (unit : Instance) :
    Accounts threshold (r.define alive name unit).2 (r.defineDeeds alive name unit ++ log) := by
  obtain ⟨htidy, hlt⟩ : _ ∧ (r.tidy alive).size < (r.tidy alive).mark := h.tidy
  unfold Registry.defineDeeds
  rw [define_eq]
  by_cases hname : r.isDefined alive name = true
  · rw [if_pos hname]
    exact htidy
  · rw [if_neg hname]
    exact htidy.insert hlt name unit

end Accounts

/-! ## Runs -/

namespace Watch

variable {w : Watch}

/-- What an event does to the entries, the last deed first. -/
def deeds (w : Watch) : Event → List Deed
  | .define name unit => w.registry.defineDeeds w.alive name unit
  | .purge => [.purge false w.registry.size (w.registry.purge w.alive).size]
  | .isDefined _ => []
  | .live => []
  | .die _ => []

/-- The log of what happens. -/
def journal (w : Watch) : List Event → List Deed
  | [] => []
  | event :: events => (w.handle event).2.journal events ++ w.deeds event

theorem registry_handle_define (name : String) (unit : Instance) :
    (w.handle (.define name unit)).2.registry = (w.registry.define w.alive name unit).2 := by
  simp only [handle]
  split
  · next heq => rw [heq]
  · next heq => rw [heq]

theorem accounts_handle (h : Accounts threshold w.registry log) (event : Event) :
    Accounts threshold (w.handle event).2.registry (w.deeds event ++ log) := by
  cases event with
  | define name unit =>
      rw [registry_handle_define]
      exact h.define name unit
  | isDefined name => exact h
  | live => exact h
  | purge => exact h.purge fun hfalse => by cases hfalse
  | die unit => exact h

/-- The definitions that succeed are in the log. -/
theorem length_defined_handle (event : Event) :
    (w.handle event).2.defined.length
      = (w.deeds event).countP Deed.isDefine + w.defined.length := by
  have htidy : (w.registry.tidyDeeds w.alive).countP Deed.isDefine = 0 := by
    unfold Registry.tidyDeeds
    split <;> rfl
  cases event with
  | define name unit =>
      simp only [handle, deeds, Registry.defineDeeds]
      split
      · next heq =>
          rw [heq, List.countP_cons_of_pos rfl, htidy, List.length_cons, Nat.add_comm]
      · next heq => rw [heq, htidy, Nat.zero_add]
  | isDefined name => exact (Nat.zero_add _).symm
  | live => exact (Nat.zero_add _).symm
  | purge => exact (Nat.zero_add _).symm
  | die unit => exact (Nat.zero_add _).symm

theorem accounts_run (h : Accounts threshold w.registry log) (events : List Event) :
    Accounts threshold (w.run events).2.registry (w.journal events ++ log) := by
  induction events generalizing w log with
  | nil => exact h
  | cons event events ih =>
      rw [journal, List.append_assoc]
      exact ih (accounts_handle h event)

theorem length_defined_run (events : List Event) :
    (w.run events).2.defined.length
      = (w.journal events).countP Deed.isDefine + w.defined.length := by
  induction events generalizing w with
  | nil => exact (Nat.zero_add _).symm
  | cons event events ih =>
      rw [journal, List.countP_append, Nat.add_assoc, ← length_defined_handle]
      exact ih

/-- **What the mark is worth**, at any time in the life of a registry. -/
structure Amortised (threshold : Nat) (w : Watch) (log : List Deed) : Prop where
  -- the log is that of the registry
  purges : w.registry.purges = log.countP Deed.isPurge
  defined : w.defined.length = log.countP Deed.isDefine
  size : w.registry.size = (Deed.left? log).getD 0 + Deed.fresh log
  -- the mark is the threshold, or twice what the last purge has left if that is more
  mark : w.registry.mark = markAfter threshold (Deed.left? log)
  -- it fits a word as long as a purge leaves fewer entries than half the words
  word : max threshold 1 < UInt64.size → (∀ left ∈ Deed.left? log, left < 2 ^ 63) →
    w.registry.mark < UInt64.size
  size_le : w.registry.size ≤ w.registry.mark
  -- a definition purges exactly at the mark, be it successful or not
  define : ∀ name unit, (w.registry.define w.alive name unit).2.purges
    = if w.registry.size = w.registry.mark then w.registry.purges + 1 else w.registry.purges
  -- after a purge there is room
  purge : (w.registry.purge w.alive).size < (w.registry.purge w.alive).mark
  -- half of what a purge looks at is new since the purge before it
  paid : ∀ n left earlier, Deed.purge true n left :: earlier <:+ log → n ≤ 2 * Deed.fresh earlier
  scanned : Deed.scanned log ≤ 2 * w.defined.length

/-- **Purging costs a constant for each definition**, whatever is defined, purged and dies in any
order. -/
theorem amortised_of_run (threshold : Nat) (events : List Event) :
    Amortised threshold ((new threshold).run events).2 ((new threshold).journal events) := by
  have h := accounts_run (w := new threshold) (accounts_new threshold) events
  rw [List.append_nil] at h
  have hdefined := length_defined_run (w := new threshold) events
  refine ⟨h.purges_eq, hdefined, h.size_eq, h.mark_eq, h.mark_lt, h.size_le, h.purges_define,
    h.size_purge_lt, h.paid, ?_⟩
  have hscanned := h.paid.scanned_le
  rw [hdefined]
  show _ ≤ 2 * List.countP Deed.isDefine _
  omega

end Watch

end Templating.Registry
