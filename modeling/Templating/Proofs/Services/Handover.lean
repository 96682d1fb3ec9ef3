import Mathlib.Data.List.Nodup
import Templating.Proofs.Text.Numeral
import Templating.Services.Handover

set_option autoImplicit false

/-! # Handing a batch of models over

A compiler deposits the models of a template in one batch and a loader claims them under the
same keys. The keys of a batch are determined by the table's number and count (`nextKeys`) and
differ from each other as long as the batch is no longer than the count of all words. Depositing
a batch puts each value under its key (`forall₂_depositAll`), and claiming the batch gives the
values back in order and takes exactly these keys out (`claimModels_eq`). Whatever waits does so
under a key that was issued, so nothing waits under the next ones (`Issued.getElem?_eq_none`).

What a claim asks for is a type of values (`Kind`), and it gets a value only as a member of that
type (`claim_eq_ok_iff`).
-/

namespace Templating

variable {τ : Type}

/-! ## Types of values -/

/-- A type of values that a claim can ask for. -/
structure Kind (τ α : Type) where
  -- a member of the type, as a value
  value : α → Value τ
  -- the member of the type that a value is, if it is one
  select : Value τ → Option α
  select_eq_some_iff : ∀ {v : Value τ} {a : α}, select v = some a ↔ v = value a

namespace Kind

def int : Kind τ Int where
  value := .int
  select := Value.int?
  select_eq_some_iff := by
    intro v a
    cases v <;> simp [Value.int?]

def text : Kind τ String where
  value := .text
  select := Value.text?
  select_eq_some_iff := by
    intro v a
    cases v <;> simp [Value.text?]

def model : Kind τ (Model τ) where
  value := .model
  select := Value.model?
  select_eq_some_iff := by
    intro v a
    cases v <;> simp [Value.model?]

/-- A type to which no value belongs. -/
def foreign : Kind τ Empty where
  value := Empty.elim
  select := fun _ => none
  select_eq_some_iff := by
    intro v a
    exact a.elim

end Kind

namespace Handover

/-! ## Keys -/

/-- **Keys are equal only if they come from the same table at the same count.** The number of the
table ends at the dash, which is no digit. -/
theorem keyAt_inj {id id' : Nat} {a b : UInt64} :
    keyAt id a = keyAt id' b ↔ id = id' ∧ a = b := by
  constructor
  · intro h
    have hlist := congrArg String.toList h
    have hlead : "-k".toList = '-' :: ['k'] := rfl
    simp only [keyAt, keyLead, String.toList_append, String.toList_ofList, hlead,
      List.append_assoc, List.cons_append] at hlist
    have hrest := List.append_cancel_left hlist
    have hnot : ∀ n : Nat, '-' ∉ Text.hexadecimal n := Text.not_mem_hexadecimal (by decide)
    have hcount : ∀ n : Nat, '-' ∉ ['k'] ++ Text.hexadecimal n := by
      intro n hmem
      rcases List.mem_append.mp hmem with hk | hdigit
      · exact absurd hk (by decide)
      · exact hnot n hdigit
    obtain ⟨hid, -, hkey⟩ := (List.append_cons_inj_of_notMem (hnot _) (hcount _)).mp hrest
    have hhex := Text.hexadecimal_injective (List.append_cancel_left hkey)
    exact ⟨Text.hexadecimal_injective hid, UInt64.toNat_inj.mp hhex⟩
  · rintro ⟨rfl, rfl⟩
    rfl

/-- Keys of one table are equal only at the same count. -/
theorem keyAt_injective {id : Nat} {a b : UInt64} (h : keyAt id a = keyAt id b) : a = b :=
  (keyAt_inj.mp h).2

/-- The keys that the table issues next, in order. -/
def nextKeys (h : Handover τ) (n : Nat) : List String :=
  (List.range n).map fun i => keyAt h.id (h.issued + UInt64.ofNat i)

@[simp] theorem length_nextKeys (h : Handover τ) (n : Nat) : (h.nextKeys n).length = n := by
  simp [nextKeys]

/-- After a deposit the table issues the keys after the one it issued. -/
theorem nextKeys_succ (h : Handover τ) (value : Value τ) (n : Nat) :
    h.nextKeys (n + 1) = keyAt h.id h.issued :: (h.deposit value).2.nextKeys n := by
  have hkey : ∀ i : Nat, h.issued + UInt64.ofNat (i + 1) = h.issued + 1 + UInt64.ofNat i := by
    intro i
    rw [UInt64.ofNat_add, UInt64.add_assoc, UInt64.add_comm (UInt64.ofNat i)]
    rfl
  unfold nextKeys
  rw [List.range_succ_eq_map, List.map_cons, List.map_map]
  refine List.cons_eq_cons.mpr ⟨?_, ?_⟩
  · rw [show UInt64.ofNat 0 = 0 from rfl, UInt64.add_zero]
  · refine List.map_congr_left fun i _ => ?_
    show keyAt h.id (h.issued + UInt64.ofNat (i + 1)) = keyAt h.id (h.issued + 1 + UInt64.ofNat i)
    rw [hkey]

/-- The keys of a batch differ from each other. -/
theorem nodup_nextKeys (h : Handover τ) {n : Nat} (hn : n ≤ UInt64.size) :
    (h.nextKeys n).Nodup := by
  refine List.Nodup.map_on ?_ List.nodup_range
  intro i hi j hj hij
  -- counts wrap around, so equal keys say nothing beyond the number of words
  have hword := UInt64.add_right_inj h.issued |>.mp (keyAt_injective hij)
  have hnat := congrArg UInt64.toNat hword
  rw [List.mem_range] at hi hj
  rwa [UInt64.toNat_ofNat_of_lt' (by omega), UInt64.toNat_ofNat_of_lt' (by omega)] at hnat

/-! ## Depositing a batch -/

theorem depositAll_fst (values : List (Value τ)) (h : Handover τ) :
    (h.depositAll values).1 = h.nextKeys values.length := by
  induction values generalizing h with
  | nil => rfl
  | cons value values ih =>
      show keyAt h.id h.issued :: ((h.deposit value).2.depositAll values).1 = _
      rw [ih, List.length_cons, nextKeys_succ h value]

theorem id_depositAll (values : List (Value τ)) (h : Handover τ) :
    (h.depositAll values).2.id = h.id := by
  induction values generalizing h with
  | nil => rfl
  | cons value values ih => exact ih (h.deposit value).2

theorem issued_depositAll (values : List (Value τ)) (h : Handover τ) :
    (h.depositAll values).2.issued = h.issued + UInt64.ofNat values.length := by
  induction values generalizing h with
  | nil => exact (UInt64.add_zero h.issued).symm
  | cons value values ih =>
      show ((h.deposit value).2.depositAll values).2.issued = _
      rw [ih, List.length_cons, UInt64.ofNat_add, UInt64.add_comm (UInt64.ofNat _),
        ← UInt64.add_assoc]
      rfl

/-- Depositing a batch leaves alone what waits under other keys. -/
theorem getElem?_depositAll_of_not_mem {values : List (Value τ)} {h : Handover τ} {key : String}
    (hkey : key ∉ h.nextKeys values.length) :
    (h.depositAll values).2.pending[key]? = h.pending[key]? := by
  induction values generalizing h with
  | nil => rfl
  | cons value values ih =>
      rw [List.length_cons, nextKeys_succ h value, List.mem_cons, not_or] at hkey
      show ((h.deposit value).2.depositAll values).2.pending[key]? = _
      rw [ih hkey.2]
      show (h.pending.insert (keyAt h.id h.issued) value)[key]? = _
      rw [Std.HashMap.getElem?_insert, if_neg]
      simpa using Ne.symm hkey.1

/-- **Depositing a batch puts each value under its key.** -/
theorem forall₂_depositAll (values : List (Value τ)) (h : Handover τ)
    (hn : values.length ≤ UInt64.size) :
    List.Forall₂ (fun key value => (h.depositAll values).2.pending[key]? = some value)
      (h.nextKeys values.length) values := by
  induction values generalizing h with
  | nil => exact List.Forall₂.nil
  | cons value values ih =>
      have hnodup := h.nodup_nextKeys hn
      rw [List.length_cons] at hn
      rw [List.length_cons, nextKeys_succ h value] at hnodup ⊢
      refine List.Forall₂.cons ?_ (ih (h.deposit value).2 (by omega))
      show ((h.deposit value).2.depositAll values).2.pending[keyAt h.id h.issued]? = _
      rw [getElem?_depositAll_of_not_mem (List.nodup_cons.mp hnodup).1]
      exact Std.HashMap.getElem?_insert_self

/-! ## Taking a value out -/

section

variable {h : Handover τ} {key : String}

/-- Discarding takes out what is under the key. -/
theorem getElem?_discard (k : String) :
    (h.discard key).2.pending[k]? = if key = k then none else h.pending[k]? := by
  show (h.pending.erase key)[k]? = _
  rw [Std.HashMap.getElem?_erase]
  simp only [beq_iff_eq]

/-- Discarding takes out one value if there is one. -/
theorem size_discard (h : Handover τ) (key : String) :
    (h.discard key).2.pending.size + (if (h.discard key).1 = true then 1 else 0)
      = h.pending.size := by
  show (h.pending.erase key).size + (if h.pending.contains key = true then 1 else 0) = _
  simp only [Std.HashMap.size_erase, Std.HashMap.contains_iff_mem]
  by_cases hmem : key ∈ h.pending
  · have hpos : 0 < h.pending.size := by
      rw [← Std.HashMap.length_keys]
      exact List.length_pos_of_mem (Std.HashMap.mem_keys.mpr hmem)
    rw [if_pos hmem, if_pos hmem]
    omega
  · rw [if_neg hmem, if_neg hmem, Nat.add_zero]

variable {α : Type} (kind : Kind τ α)

theorem bind_select_eq_some_iff {a : α} :
    (h.pending[key]?).bind kind.select = some a ↔ h.pending[key]? = some (kind.value a) := by
  rw [Option.bind_eq_some_iff]
  constructor
  · rintro ⟨v, hv, hselect⟩
    rw [hv, kind.select_eq_some_iff.mp hselect]
  · intro hv
    exact ⟨_, hv, kind.select_eq_some_iff.mpr rfl⟩

/-- A claim gives out exactly what was deposited, as a member of its type. -/
theorem claim_eq_ok_iff {a : α} :
    (h.claim kind.select key).1 = .ok a ↔ h.pending[key]? = some (kind.value a) := by
  rw [← bind_select_eq_some_iff, claim]
  cases (h.pending[key]?).bind kind.select with
  | none => exact ⟨(fun h => by cases h), fun h => by cases h⟩
  | some b => rw [Except.ok.injEq, Option.some.injEq]

/-- A claim that gives out nothing names its key. -/
theorem claim_eq_error (hkey : (h.pending[key]?).bind kind.select = none) :
    (h.claim kind.select key).1 = .error (.unknownKey key) := by
  rw [claim, hkey]

theorem claim_of_some {m : Model τ} (hkey : h.pending[key]? = some (.model m)) :
    h.claim Value.model? key = (.ok m, (h.discard key).2) :=
  Prod.ext ((claim_eq_ok_iff Kind.model).mpr hkey) rfl

theorem claim_of_none (hkey : (h.pending[key]?).bind Value.model? = none) :
    h.claim Value.model? key = (.error (.unknownKey key), (h.discard key).2) :=
  Prod.ext (claim_eq_error Kind.model hkey) rfl

end

/-! ## Claiming a batch -/

@[simp] theorem id_discardAll (keys : List String) (h : Handover τ) :
    (h.discardAll keys).id = h.id := by
  induction keys generalizing h with
  | nil => rfl
  | cons key keys ih => exact ih (h.discard key).2

@[simp] theorem issued_discardAll (keys : List String) (h : Handover τ) :
    (h.discardAll keys).issued = h.issued := by
  induction keys generalizing h with
  | nil => rfl
  | cons key keys ih => exact ih (h.discard key).2

/-- Discarding takes out exactly what is under the given keys. -/
theorem getElem?_discardAll (keys : List String) (h : Handover τ) (key : String) :
    (h.discardAll keys).pending[key]? = if key ∈ keys then none else h.pending[key]? := by
  induction keys generalizing h with
  | nil => simp [discardAll]
  | cons k keys ih =>
      show ((h.discard k).2.discardAll keys).pending[key]? = _
      rw [ih, getElem?_discard]
      by_cases hk : k = key
      · simp [hk]
      · simp [hk, Ne.symm hk]

/-- **Claiming a batch gives its models in order** and takes out exactly its keys. -/
theorem claimModels_eq {keys : List String} {models : List (Model τ)} {h : Handover τ}
    (hnodup : keys.Nodup)
    (hpending : List.Forall₂ (fun key m => h.pending[key]? = some (.model m)) keys models) :
    h.claimModels keys = (.ok models, h.discardAll keys) := by
  induction keys generalizing models h with
  | nil =>
      cases hpending
      rfl
  | cons key keys ih =>
      cases hpending with
      | @cons _ m _ models hkey hrest =>
      obtain ⟨hnot, hnodup⟩ := List.nodup_cons.mp hnodup
      -- the other keys differ from the one that is taken out
      have hrest : List.Forall₂
          (fun k m => (h.discard key).2.pending[k]? = some (.model m)) keys models := by
        rw [List.forall₂_iff_get] at hrest ⊢
        refine ⟨hrest.1, fun i hi hi' => ?_⟩
        rw [getElem?_discard, if_neg, hrest.2 i hi hi']
        intro hsame
        exact hnot (hsame ▸ List.get_mem keys ⟨i, hi⟩)
      simp only [claimModels, claim_of_some hkey, ih hnodup hrest]
      rfl

/-! ## What was issued -/

/-- `n` keys were issued so far, and whatever waits does so under one of them. -/
structure Issued (h : Handover τ) (n : Nat) : Prop where
  count : h.issued = UInt64.ofNat n
  waiting : ∀ {key : String}, h.pending[key]? ≠ none → ∃ i < n, key = keyAt h.id (UInt64.ofNat i)

theorem issued_new (id : Nat) : (new id : Handover τ).Issued 0 where
  count := rfl
  waiting := fun hkey => absurd Std.HashMap.getElem?_empty hkey

variable {h : Handover τ} {n : Nat}

/-- The next keys are those at the counts from `n` on. -/
theorem Issued.mem_nextKeys_iff (hi : h.Issued n) {k : Nat} {key : String} :
    key ∈ h.nextKeys k ↔ ∃ i < k, key = keyAt h.id (UInt64.ofNat (n + i)) := by
  rw [nextKeys, hi.count, List.mem_map]
  constructor
  · rintro ⟨i, hmem, rfl⟩
    exact ⟨i, List.mem_range.mp hmem, by rw [UInt64.ofNat_add]⟩
  · rintro ⟨i, hlt, rfl⟩
    exact ⟨i, List.mem_range.mpr hlt, by rw [UInt64.ofNat_add]⟩

theorem Issued.depositAll (hi : h.Issued n) (values : List (Value τ)) :
    (h.depositAll values).2.Issued (n + values.length) where
  count := by rw [issued_depositAll, hi.count, UInt64.ofNat_add]
  waiting := by
    intro key hkey
    rw [id_depositAll]
    by_cases hnext : key ∈ h.nextKeys values.length
    · obtain ⟨i, hlt, heq⟩ := hi.mem_nextKeys_iff.mp hnext
      exact ⟨n + i, by omega, heq⟩
    · rw [getElem?_depositAll_of_not_mem hnext] at hkey
      obtain ⟨i, hlt, heq⟩ := hi.waiting hkey
      exact ⟨i, by omega, heq⟩

theorem Issued.discardAll (hi : h.Issued n) (keys : List String) :
    (h.discardAll keys).Issued n where
  count := by rw [issued_discardAll, hi.count]
  waiting := by
    intro key hkey
    rw [id_discardAll]
    rw [getElem?_discardAll] at hkey
    split at hkey
    · exact absurd rfl hkey
    · exact hi.waiting hkey

/-- **Nothing waits under the next keys**, until all words have been counted. -/
theorem Issued.getElem?_eq_none (hi : h.Issued n) {k : Nat} (hcount : n + k ≤ UInt64.size)
    {key : String} (hkey : key ∈ h.nextKeys k) : h.pending[key]? = none := by
  by_contra hwaiting
  obtain ⟨i, hi', heq⟩ := hi.waiting hwaiting
  obtain ⟨j, hj, rfl⟩ := hi.mem_nextKeys_iff.mp hkey
  have hnat := congrArg UInt64.toNat (keyAt_injective heq)
  rw [UInt64.toNat_ofNat_of_lt' (by omega), UInt64.toNat_ofNat_of_lt' (by omega)] at hnat
  omega

end Handover

end Templating
