/-
The state of a run: the entities it tracks, in the order of their discovery, and the stages each
has completed.

Completed stages are kept in the order of the stages, so two states that agree on what is done
are equal.
-/
import Tablewright.Entity.Basic

set_option autoImplicit false

namespace Tablewright

/-- An entity and the stages it has completed (`EntityProgress`). -/
structure Progress where
  /-- The entity. -/
  entity : Entity
  /-- The completed stages, in their order. -/
  done : List Stage
deriving DecidableEq

namespace Progress

/-- An entity that has completed nothing. -/
def start (e : Entity) : Progress := ⟨e, []⟩

/-- Whether a stage is completed. -/
def has (p : Progress) (s : Stage) : Bool := p.done.contains s

/-- The same entity with one more stage completed. -/
def complete (p : Progress) (s : Stage) : Progress :=
  { p with done := Stage.all.filter fun t => p.has t || t = s }

/-- The stages that are not completed. -/
def missing (p : Progress) : List Stage := Stage.all.filter fun s => !p.has s

end Progress

/-- The tracked entities in the order of their discovery (`WorkflowState`). There is one for each
name; every operation below gives a new state. -/
structure WorkflowState where
  /-- The entities with their progress. -/
  entities : List Progress
deriving DecidableEq

namespace WorkflowState

/-- The state that tracks nothing. -/
def empty : WorkflowState := ⟨[]⟩

/-- The progress of an entity. -/
def get? (st : WorkflowState) (name : Text) : Option Progress :=
  st.entities.find? fun p => p.entity.name = name

/-- Whether an entity is tracked. -/
def contains (st : WorkflowState) (name : Text) : Bool := (st.get? name).isSome

/-- The names of the tracked entities. -/
def names (st : WorkflowState) : List Text := st.entities.map fun p => p.entity.name

/-- Change the progress of the entity of a name. -/
def update (st : WorkflowState) (name : Text) (f : Progress → Progress) : WorkflowState :=
  ⟨st.entities.map fun p => if p.entity.name = name then f p else p⟩

/-- Track an entity (`WorkflowState.discover`). One that is tracked already keeps its fields and its
progress, since a request only guesses what a written schema knows. -/
def discover (st : WorkflowState) (e : Entity) : WorkflowState :=
  if st.contains e.name then st else ⟨st.entities ++ [Progress.start e]⟩

/-- Track an entity as it was written (`WorkflowState.define`). One that is tracked already keeps
its progress only. -/
def define (st : WorkflowState) (e : Entity) : WorkflowState :=
  if st.contains e.name then st.update e.name fun p => { p with entity := e } else st.discover e

/-- Complete a stage of a tracked entity (`WorkflowState.complete`). It does not matter which stages
were completed before: the order is kept by the tools. -/
def complete (st : WorkflowState) (name : Text) (s : Stage) : Except Refusal WorkflowState :=
  if st.contains name then .ok (st.update name fun p => p.complete s)
  else .error (.unknownEntity name)

/-- Whether an entity is tracked and has completed a stage. -/
def has (st : WorkflowState) (name : Text) (s : Stage) : Bool :=
  (st.get? name).any fun p => p.has s

/-- The names of the entities that have completed a stage. -/
def withStage (st : WorkflowState) (s : Stage) : List Text :=
  (st.entities.filter fun p => p.has s).map fun p => p.entity.name

/-- The stages a tracked entity has not completed. -/
def missing (st : WorkflowState) (name : Text) : Except Refusal (List Stage) :=
  match st.get? name with
  | some p => .ok p.missing
  | none => .error (.unknownEntity name)

/-- The entities that are not finished, with the stages they lack. -/
def incomplete (st : WorkflowState) : List (Text × List Stage) :=
  (st.entities.map fun p => (p.entity.name, p.missing)).filter fun row => !row.2.isEmpty

/-- Whether every tracked entity is finished (`WorkflowState.is_complete`). A state that tracks
nothing is. -/
def isComplete (st : WorkflowState) : Bool := st.incomplete.isEmpty

/-- Discover entities one after another. -/
def discoverAll (st : WorkflowState) (es : List Entity) : WorkflowState :=
  es.foldl discover st

/-- Define entities one after another. -/
def defineAll (st : WorkflowState) (es : List Entity) : WorkflowState :=
  es.foldl define st

/-- Complete stages one after another. -/
def completeAll : WorkflowState → List (Text × Stage) → Except Refusal WorkflowState
  | st, [] => .ok st
  | st, (name, s) :: r => do completeAll (← st.complete name s) r

/-- For every entity, which stages are completed. -/
def progressRows (st : WorkflowState) : List (Text × List (Stage × Bool)) :=
  st.entities.map fun p => (p.entity.name, Stage.all.map fun s => (s, p.has s))

end WorkflowState

end Tablewright
