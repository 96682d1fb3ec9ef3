import Templating.Proofs.Program.Meaning
import Templating.Proofs.Program.Rewriting
import Templating.Proofs.Services.Stages

set_option autoImplicit false

/-! # What a loaded unit gives

A source need not come from a compiler. It may begin with any slot, push a slot several times or
never, and declare any bound. Whatever it says, once it is loaded its unit depends on the target,
has the bound that the source declares, and gives what its program means over the models that were
claimed for its slots (`denotes_of_load`).
-/

namespace Templating

variable {τ : Type}

namespace Services

/-- What a unit is that was loaded from a source: `p` is the program of the source, and `models` are
those that were claimed for its slots. -/
structure Denotes (source : Source) (s : Services τ) (p : Program) (models : List (Model τ))
    (unit : Model τ) : Prop where
  read : source.read = .ok p
  claimed : List.Forall₂ (fun key m => s.handover.pending[key]? = some (.model m)) p.slots models
  -- every reference is to one of the models
  opening : p.opening.InRange models.length
  instructions : ∀ i ∈ p.instructions, i.InRange models.length
  dynamic : unit.isDynamic = true
  bound : unit.bound = p.bound
  -- a run of the linked program asks the models that the meaning tells, and no others
  means : ∀ target asked o,
    p.Means models target asked o ↔ (p.link models).observe target = (o, asked)
  text : ∀ target, unit.text target = ((p.link models).observe target).1

variable {alive : Instance → Bool} {self : Instance} {source : Source} {s : Services τ}
  {unit : Model τ}

/-- **A loaded unit gives what its program means** over the models that were claimed for it. -/
theorem denotes_of_load (h : (s.load alive self source).1 = .ok unit) :
    ∃ p models, Denotes source s p models unit := by
  obtain ⟨p, models, hread, hclaims, rfl⟩ := eq_toModel_of_load h
  rcases s.handover.claimModels_cases p.slots with
    ⟨i, key, -, hstopped⟩ | ⟨-, claimed, hmodels, hall⟩
  · rw [hstopped] at hclaims
    cases hclaims
  · rw [hall] at hclaims
    obtain rfl := Except.ok.inj hclaims
    -- a program that is read refers to its slots only, and each of them is filled
    have hspells := ((source.read_eq_ok_iff p).mp hread).2
    have hopening := hspells.opening_inRange
    have hinstructions := hspells.instructions_inRange
    rw [hmodels.length_eq] at hopening hinstructions
    refine ⟨p, claimed, hread, hmodels, hopening, hinstructions, rfl, rfl,
      fun target asked o => ?_, fun target => ?_⟩
    · exact Program.means_iff_observe hopening hinstructions
    · exact ((p.link claimed).observe_fst target).symm

/-- A source that begins with its second slot, pushes it again, and never pushes the first. -/
def echo : Source where
  name := "echo"
  body := "unit echo\nslot D0 <- \"t7-k0\"\nslot D1 <- \"t7-k1\"\nbound 3 ?\nbegin from D1\n"
    ++ "push ' '\npush D1\nend\n"

/-- A model that always aborts, and one that gives its target. -/
def lent : List (Model String) :=
  [.ofFunction 1 (fun _ => .error ⟨"asked"⟩) .unknown, .ofFunction 2 .ok .unknown]

/-- Services in which these models wait. -/
def lending : Services String :=
  { (new 7 .default : Services String) with
    handover := ((Handover.new 7).depositAll (lent.map .model)).2 }

/-- The model in the first slot is not asked, so its abort does not show. -/
theorem denotes_of_load_echo :
    ∃ unit, (lending.load (fun _ => true) 3 echo).1 = .ok unit ∧
      (∃ p models, Denotes echo lending p models unit) ∧ unit.text "Ann" = .ok "Ann Ann" := by
  let p : Program := ⟨"echo", ["t7-k0", "t7-k1"], ⟨some 3, none⟩, .slot 1, [.char ' ', .slot 1]⟩
  have hread : echo.read = .ok p := by decide +kernel
  have hkeys : (Handover.new 7 : Handover String).nextKeys 2 = p.slots := by decide +kernel
  have hpending := Handover.forall₂_depositAll (lent.map Value.model) (Handover.new 7) (by decide)
  rw [List.length_map, show lent.length = 2 from rfl, hkeys,
    List.forall₂_map_right_iff] at hpending
  have hclaims := Handover.claimModels_eq (h := lending.handover) (by decide) hpending
  have hrecords : lending.registry.Records (fun _ => true) [] := Registry.records_new 1024
  have hload : (lending.load (fun _ => true) 3 echo).1 = .ok ((p.link lent).toModel 3) := by
    rw [load_of_claimed hread hclaims, hrecords.define_eq List.not_mem_nil 3]
    rfl
  exact ⟨_, hload, denotes_of_load hload, rfl⟩

end Services

end Templating
