import Std.Data.HashMap
import Templating.Model
import Templating.Text.Numeral

set_option autoImplicit false

/-! # Handing values over

The source of a unit is a text and cannot hold models. A compiler deposits each model in a
hand-over table and writes only its key; a loader claims the model under the key. A value can
be claimed once, and only as what it is: claiming it as something else fails and still takes it
out of the table.
-/

namespace Templating

/-- What can be handed over. -/
inductive Value (τ : Type) where
  | int (value : Int)
  | text (value : String)
  | model (value : Model τ)

namespace Value

variable {τ : Type}

/-- The integer, if the value is one. -/
def int? : Value τ → Option Int
  | int value => some value
  | _ => none

/-- The text, if the value is one. -/
def text? : Value τ → Option String
  | text value => some value
  | _ => none

/-- The model, if the value is one. -/
def model? : Value τ → Option (Model τ)
  | model value => some value
  | _ => none

/-- The loaded units that live as long as the value does. -/
def keeps : Value τ → List Instance
  | model value => value.keeps
  | _ => []

end Value

/-- A table of values that wait to be claimed. Tables with different numbers issue different
keys. -/
structure Handover (τ : Type) where
  id : Nat
  -- the number of keys issued, as a 64-bit word
  issued : UInt64
  -- the values that have not been claimed, by their keys
  pending : Std.HashMap String (Value τ)

namespace Handover

variable {τ : Type}

/-- The table with the given number, in which nothing waits. -/
def new (id : Nat) : Handover τ := ⟨id, 0, ∅⟩

/-- What the keys of a table begin with. -/
def keyLead (id : Nat) : String := "t" ++ String.ofList (Text.hexadecimal id) ++ "-k"

/-- The key that a table issues at the given count. -/
def keyAt (id : Nat) (count : UInt64) : String :=
  keyLead id ++ String.ofList (Text.hexadecimal count.toNat)

/-- Deposits a value and issues its key. -/
def deposit (value : Value τ) (h : Handover τ) : String × Handover τ :=
  let key := keyAt h.id h.issued
  (key, { h with issued := h.issued + 1, pending := h.pending.insert key value })

/-- Deposits values in order and issues their keys. -/
def depositAll : List (Value τ) → Handover τ → List String × Handover τ
  | [], h => ([], h)
  | value :: values, h =>
    let (key, h) := h.deposit value
    let (keys, h) := depositAll values h
    (key :: keys, h)

/-- Takes the value under a key out of the table. It is given out only if `select` finds in it
what the claimant asks for. -/
def claim {α : Type} (select : Value τ → Option α) (key : String) (h : Handover τ) :
    Except Fault α × Handover τ :=
  let result := match (h.pending[key]?).bind select with
    | some value => .ok value
    | none => .error (.unknownKey key)
  (result, { h with pending := h.pending.erase key })

/-- Claims the models under several keys in order, up to the first that fails. -/
def claimModels : List String → Handover τ → Except Fault (List (Model τ)) × Handover τ
  | [], h => (.ok [], h)
  | key :: keys, h =>
    match h.claim Value.model? key with
    | (.error fault, h) => (.error fault, h)
    | (.ok model, h) =>
      let (models, h) := claimModels keys h
      (models.map (model :: ·), h)

/-- Takes the value under a key out of the table, and says whether there was one. -/
def discard (key : String) (h : Handover τ) : Bool × Handover τ :=
  (h.pending.contains key, { h with pending := h.pending.erase key })

/-- Takes the values under several keys out of the table. -/
def discardAll (keys : List String) (h : Handover τ) : Handover τ :=
  keys.foldl (fun h key => (h.discard key).2) h

/-- The loaded units that live as long as the table does. -/
def keeps (h : Handover τ) : List Instance := h.pending.values.flatMap Value.keeps

end Handover

end Templating
