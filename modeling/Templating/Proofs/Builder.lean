import Templating.Builder
import Templating.Proofs.Template.NormalForm

set_option autoImplicit false

/-! # What becomes of the pieces of a builder

A builder is asked for one thing after another, and whenever it is asked for a model, the backend
that is to make it may be another one and may refuse. Whatever is asked in which order, the replies
follow from the state alone, and the template is the one onto which the pieces were pushed that the
builder took since it was cleared last (`orderly_of_run`).
-/

namespace Templating.Builder

variable {τ : Type}

/-! ## Requests and replies -/

/-- What a builder can be asked. -/
inductive Request (τ : Type) where
  | append (text : String)
  | appendModel (m : Model τ)
  | appendFunction (self : Instance) (eval : τ → Outcome)
  | build (backend : Template τ → Except Fault (Model τ))
  | release (backend : Template τ → Except Fault (Model τ))
  | clear

/-- What a builder replies. -/
structure Reply (τ : Type) where
  -- why it refuses, or the model if one was asked for
  result : Except Fault (Option (Model τ))
  -- the templates that the backend was given meanwhile
  given : List (Template τ)

/-- The piece that is to be appended, if the request is to append one. -/
def Request.piece? : Request τ → Option (Piece τ)
  | append text => some (.text text)
  | appendModel m => some (.model m)
  | appendFunction self eval => some (.model (.ofFunction self eval .unknown))
  | _ => none

/-- A backend that notes the templates it is given. -/
def consult (backend : Template τ → Except Fault (Model τ)) (t : Template τ) :
    StateM (List (Template τ)) (Except Fault (Model τ)) := do
  modify (· ++ [t])
  return backend t

/-- The reply to a request that is not for a model. Nothing changes if it is refused. -/
def settle (b : Builder τ) : Except Fault (Builder τ) → Reply τ × Builder τ
  | .ok b' => (⟨.ok none, []⟩, b')
  | .error fault => (⟨.error fault, []⟩, b)

/-- The reply to a request for a model. -/
def finish (way : StateM (List (Template τ)) (Except Fault (Model τ) × Builder τ)) :
    Reply τ × Builder τ :=
  let ((result, b), given) := way.run []
  (⟨result.map some, given⟩, b)

/-- Asks a builder for something. -/
def handle (b : Builder τ) : Request τ → Reply τ × Builder τ
  | .append text => b.settle (b.append text)
  | .appendModel m => b.settle (b.appendModel m)
  | .appendFunction self eval => b.settle (b.appendModel (.ofFunction self eval .unknown))
  | .build backend => finish (b.build (consult backend))
  | .release backend => finish (b.release (consult backend))
  | .clear => b.settle b.clear

/-- Asks a builder for things in order. Gives all replies. -/
def run (b : Builder τ) : List (Request τ) → List (Request τ × Reply τ) × Builder τ
  | [] => ([], b)
  | r :: rs =>
    let (reply, b) := b.handle r
    let (log, b) := b.run rs
    ((r, reply) :: log, b)

/-- The pieces that are collected after one more reply: appending one adds it, clearing takes all
away, and what is refused does neither. -/
def collect (ps : List (Piece τ)) : Request τ × Reply τ → List (Piece τ)
  | (r, reply) =>
    match reply.result, r with
    | .error _, _ => ps
    | .ok _, .clear => []
    | .ok _, r => ps ++ r.piece?.toList

/-- The pieces that were taken since the last time that the builder was cleared. -/
def collected (log : List (Request τ × Reply τ)) : List (Piece τ) := log.foldl collect []

/-- **The replies of a builder follow from its state**, and its template from what it took. -/
structure Orderly (log : List (Request τ × Reply τ)) (b : Builder τ) : Prop where
  template : b.state ≠ .released → b.template = .ofPieces (collected log)
  -- a released builder holds nothing and refuses everything, for ever
  released : b.state = .released → b.template = .empty ∧
    (∀ r, b.handle r = (⟨.error .alreadyReleased, []⟩, b)) ∧ ∀ rs, (b.run rs).2 = b
  -- a builder that is built can only be cleared
  built : b.state = .built →
    ∀ r, r ≠ .clear → b.handle r = (⟨.error .alreadyBuilt, []⟩, b)
  clear : b.state ≠ .released → b.handle .clear = (⟨.ok none, []⟩, new)
  append : b.state = .building → ∀ r p, r.piece? = some p →
    b.handle r = (⟨.ok none, []⟩, ⟨.building, b.template.push p⟩)
  -- the backend is given the template once, and its answer is passed on as it is
  build : b.state = .building → ∀ backend, b.handle (.build backend)
    = (⟨(backend b.template).map some, [b.template]⟩,
      ⟨if (backend b.template).isOk then .built else .building, b.template⟩)
  release : b.state = .building → ∀ backend, b.handle (.release backend)
    = (⟨(backend b.template).map some, [b.template]⟩, ⟨.released, .empty⟩)

variable {b : Builder τ}

/-! ## One request -/

/-- A released builder refuses everything. -/
theorem handle_of_released (h : b.state = .released) (r : Request τ) :
    b.handle r = (⟨.error .alreadyReleased, []⟩, b) := by
  obtain ⟨state, t⟩ := b
  obtain rfl : state = .released := h
  cases r <;> rfl

/-- A builder that is built refuses everything but to be cleared. -/
theorem handle_of_built (h : b.state = .built) {r : Request τ} (hr : r ≠ .clear) :
    b.handle r = (⟨.error .alreadyBuilt, []⟩, b) := by
  obtain ⟨state, t⟩ := b
  obtain rfl : state = .built := h
  cases r with
  | clear => exact absurd rfl hr
  | _ => rfl

theorem handle_clear (h : b.state ≠ .released) : b.handle .clear = (⟨.ok none, []⟩, new) := by
  obtain ⟨state, t⟩ := b
  cases state with
  | building => rfl
  | built => rfl
  | released => exact absurd rfl h

theorem handle_append (h : b.state = .building) {r : Request τ} {p : Piece τ}
    (hp : r.piece? = some p) :
    b.handle r = (⟨.ok none, []⟩, ⟨.building, b.template.push p⟩) := by
  obtain ⟨state, t⟩ := b
  obtain rfl : state = .building := h
  cases r with
  | append text => cases hp; rfl
  | appendModel m => cases hp; rfl
  | appendFunction self eval => cases hp; rfl
  | _ => cases hp

theorem handle_build (h : b.state = .building) (backend : Template τ → Except Fault (Model τ)) :
    b.handle (.build backend) = (⟨(backend b.template).map some, [b.template]⟩,
      ⟨if (backend b.template).isOk then .built else .building, b.template⟩) := by
  obtain ⟨state, t⟩ := b
  obtain rfl : state = .building := h
  show finish (Builder.build (consult backend) ⟨.building, t⟩) = _
  unfold finish Builder.build consult
  dsimp only
  -- whether the builder is built depends on what the backend says
  cases backend t with
  | error fault => rfl
  | ok m => rfl

theorem handle_release (h : b.state = .building) (backend : Template τ → Except Fault (Model τ)) :
    b.handle (.release backend)
      = (⟨(backend b.template).map some, [b.template]⟩, ⟨.released, .empty⟩) := by
  obtain ⟨state, t⟩ := b
  obtain rfl : state = .building := h
  rfl

/-! ## The template -/

/-- The builder took the pieces `ps` since it was cleared last. -/
structure Holds (ps : List (Piece τ)) (b : Builder τ) : Prop where
  template : b.state ≠ .released → b.template = .ofPieces ps
  released : b.state = .released → b.template = .empty

variable {ps : List (Piece τ)}

theorem holds_new : Holds [] (new : Builder τ) where
  template := fun _ => rfl
  released := fun h => by cases h

theorem collect_append {r : Request τ} {p : Piece τ} (hp : r.piece? = some p) :
    collect ps (r, ⟨.ok none, []⟩) = ps ++ [p] := by
  cases r with
  | append text => cases hp; rfl
  | appendModel m => cases hp; rfl
  | appendFunction self eval => cases hp; rfl
  | _ => cases hp

/-- A piece that is taken is pushed. -/
theorem Holds.append (h : Holds ps b) (hstate : b.state = .building) {r : Request τ} {p : Piece τ}
    (hp : r.piece? = some p) : Holds (collect ps (r, (b.handle r).1)) (b.handle r).2 := by
  rw [handle_append hstate hp, collect_append hp]
  constructor
  · intro _
    show b.template.push p = .ofPieces (ps ++ [p])
    rw [Template.ofPieces_concat, h.template (by rw [hstate]; decide)]
  · intro hreleased
    cases hreleased

/-- Making a model neither adds nor takes away pieces. -/
theorem Holds.build (h : Holds ps b) (hstate : b.state = .building)
    (backend : Template τ → Except Fault (Model τ)) :
    Holds (collect ps (.build backend, (b.handle (.build backend)).1))
      (b.handle (.build backend)).2 := by
  have htemplate : b.template = .ofPieces ps := h.template (by rw [hstate]; decide)
  rw [handle_build hstate]
  cases backend b.template with
  | error fault => exact ⟨fun _ => htemplate, fun hreleased => by cases hreleased⟩
  | ok m =>
      refine ⟨fun _ => ?_, fun hreleased => by cases hreleased⟩
      show b.template = .ofPieces (ps ++ [])
      rw [List.append_nil, htemplate]

/-- **One request** leaves the builder with what it has taken by then. -/
theorem Holds.handle (h : Holds ps b) (r : Request τ) :
    Holds (collect ps (r, (b.handle r).1)) (b.handle r).2 := by
  have hclear (hstate : b.state ≠ .released) :
      Holds (collect ps (.clear, (b.handle .clear).1)) (b.handle .clear).2 := by
    rw [handle_clear hstate]
    exact holds_new
  cases hstate : b.state with
  | released =>
      rw [handle_of_released hstate r]
      exact h
  | built =>
      by_cases hr : r = .clear
      · rw [hr]
        exact hclear (by rw [hstate]; decide)
      · rw [handle_of_built hstate hr]
        exact h
  | building =>
      cases r with
      | append text => exact h.append hstate rfl
      | appendModel m => exact h.append hstate rfl
      | appendFunction self eval => exact h.append hstate rfl
      | build backend => exact h.build hstate backend
      | release backend =>
          rw [handle_release hstate]
          exact ⟨fun hne => absurd rfl hne, fun _ => rfl⟩
      | clear => exact hclear (by rw [hstate]; decide)

/-! ## Any number of requests -/

theorem Holds.run (h : Holds ps b) (rs : List (Request τ)) :
    Holds ((b.run rs).1.foldl collect ps) (b.run rs).2 := by
  induction rs generalizing ps b with
  | nil => exact h
  | cons r rs ih => exact ih (h.handle r)

/-- A released builder stays as it is. -/
theorem run_of_released (h : b.state = .released) (rs : List (Request τ)) : (b.run rs).2 = b := by
  induction rs with
  | nil => rfl
  | cons r rs ih =>
      show ((b.handle r).2.run rs).2 = b
      rw [handle_of_released h r]
      exact ih

/-- **Whatever a builder is asked, it keeps to its states and loses no piece**, with any
backends. -/
theorem orderly_of_run (rs : List (Request τ)) :
    Orderly ((new : Builder τ).run rs).1 ((new : Builder τ).run rs).2 := by
  have hholds := holds_new.run rs
  exact {
    template := hholds.template
    released := fun h => ⟨hholds.released h, handle_of_released h, run_of_released h⟩
    built := fun h r hr => handle_of_built h hr
    clear := handle_clear
    append := fun h r p hp => handle_append h hp
    build := handle_build
    release := handle_release }

end Templating.Builder
