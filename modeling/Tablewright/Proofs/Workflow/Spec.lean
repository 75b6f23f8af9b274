/-
Which entity is tracked under a name.

What a fold of operations leaves under a name is told by two lists: of the entities that were
defined the last one of that name is tracked, and only where none was defined, the first one that
was discovered. Stages make no difference.
-/
import Tablewright.Proofs.Workflow

set_option autoImplicit false

namespace Tablewright

namespace Entity

/-- The first of several entities that has a name. -/
def firstNamed (n : Text) (es : List Entity) : Option Entity := es.find? fun e => e.name = n

/-- The last of several entities that has a name. -/
def lastNamed (n : Text) (es : List Entity) : Option Entity := firstNamed n es.reverse

variable {n : Text} {es : List Entity}

theorem firstNamed_append (n : Text) (es fs : List Entity) :
    firstNamed n (es ++ fs) = (firstNamed n es).or (firstNamed n fs) := List.find?_append

theorem lastNamed_append (n : Text) (es fs : List Entity) :
    lastNamed n (es ++ fs) = (lastNamed n fs).or (lastNamed n es) := by
  rw [lastNamed, List.reverse_append, firstNamed_append]
  rfl

@[simp] theorem lastNamed_singleton (n : Text) (e : Entity) :
    lastNamed n [e] = if e.name = n then some e else none := by
  rw [lastNamed, firstNamed, List.reverse_singleton, List.find?_singleton]
  simp

/-- An entity that is found by its name stands in the list and has the name. -/
theorem mem_of_lastNamed {e : Entity} (h : lastNamed n es = some e) : e ∈ es ∧ e.name = n :=
  ⟨List.mem_reverse.mp (List.mem_of_find?_eq_some h), by simpa using List.find?_some h⟩

/-- One is found exactly when there is one. -/
theorem lastNamed_isSome_iff : (lastNamed n es).isSome = true ↔ ∃ e ∈ es, e.name = n := by
  simp [lastNamed, firstNamed, List.find?_isSome]

end Entity

namespace WorkflowState

open Entity (firstNamed lastNamed)

/-- A name is tracked exactly when an entity is tracked under it. -/
theorem spec?_isSome (st : WorkflowState) (n : Text) : (st.spec? n).isSome = st.contains n := by
  rw [spec?, contains, Option.isSome_map]

/-- A discovered entity is tracked if its name was not. -/
theorem spec?_discover (st : WorkflowState) (e : Entity) (n : Text) :
    (st.discover e).spec? n = (st.spec? n).or (firstNamed n [e]) := by
  by_cases h : st.contains e.name = true
  · rw [discover, if_pos h]
    by_cases hn : e.name = n
    · -- the name is tracked already
      have hsome : (st.spec? n).isSome = true := by rw [spec?_isSome, ← hn, h]
      obtain ⟨d, hd⟩ := Option.isSome_iff_exists.mp hsome
      rw [hd, Option.some_or]
    · have hnone : firstNamed n [e] = none := by simp [firstNamed, hn]
      rw [hnone, Option.or_none]
  · rw [discover, if_neg h, spec?, spec?, get?, get?, List.find?_append, Option.map_or]
    by_cases hn : e.name = n <;> simp [firstNamed, Progress.start, hn]

/-- Of discovered entities the first one of a new name is tracked. -/
theorem spec?_discoverAll (st : WorkflowState) (es : List Entity) (n : Text) :
    (st.discoverAll es).spec? n = (st.spec? n).or (firstNamed n es) := by
  induction es generalizing st with
  | nil => exact (Option.or_none).symm
  | cons e es ih =>
    have hhead : st.discoverAll (e :: es) = (st.discover e).discoverAll es := rfl
    rw [hhead, ih, spec?_discover, Option.or_assoc, ← Entity.firstNamed_append]
    rfl

/-- A defined entity is tracked under its name. -/
theorem spec?_define (st : WorkflowState) (e : Entity) (n : Text) :
    (st.define e).spec? n = (lastNamed n [e]).or (st.spec? n) := by
  by_cases hn : e.name = n
  · rw [← hn, spec?_define_self, Entity.lastNamed_singleton, if_pos rfl, Option.some_or]
  · rw [spec?, get?_define_of_ne st hn, Entity.lastNamed_singleton, if_neg hn, Option.none_or]
    rfl

/-- Of defined entities the last one of a name is tracked. -/
theorem spec?_defineAll_eq (st : WorkflowState) (es : List Entity) (n : Text) :
    (st.defineAll es).spec? n = (lastNamed n es).or (st.spec? n) := by
  induction es generalizing st with
  | nil => rfl
  | cons e es ih =>
    have hhead : st.defineAll (e :: es) = (st.define e).defineAll es := rfl
    rw [hhead, ih, spec?_define, ← Option.or_assoc, ← Entity.lastNamed_append]
    rfl

/-- What is tracked under a name once an outcome is folded in. -/
theorem spec?_apply {o : Outcome} {st st' : WorkflowState} (h : o.apply st = .ok st') (n : Text) :
    st'.spec? n = (lastNamed n o.defined).or ((st.spec? n).or (firstNamed n o.discovered)) := by
  rw [(get?_completeAll h n).2, spec?_defineAll_eq, spec?_discoverAll]

end WorkflowState

end Tablewright
