/-
The state of a run through its two questions: which names are tracked, and which stages a tracked
name has completed.

Every operation on a state is described by what it does to `names` and to `has`. Discovering and
defining add a name at the end, if anything, and never touch a stage; completing adds one stage to
one name. The three lists of an outcome are folded in one after another, and `apply_names` and
`apply_has_iff` are what comes out: a call appends names, and the stages gained are exactly the
ones its outcome lists.

An entry of the list of entities and its name say the same about stages only when no name is
tracked twice. That is `Distinct`, and it is kept by everything that is done to a state.
-/
import Mathlib.Data.List.Nodup
import Tablewright.Tool.Outcome
import Tablewright.Proofs.Action

set_option autoImplicit false

namespace Tablewright

/-! ## Stages -/

/-- The list of stages leaves none out. -/
theorem Stage.mem_all (s : Stage) : s ∈ Stage.all := by
  cases s <;> decide

@[simp] theorem Stage.ofLabel?_label (s : Stage) : Stage.ofLabel? s.label = some s := by
  cases s <;> decide

/-- A text is the word for at most one stage. -/
theorem Stage.ofLabel?_eq_some_iff {t : Text} {s : Stage} : ofLabel? t = some s ↔ t = s.label := by
  constructor
  · intro h
    have hs := List.find?_some h
    exact (of_decide_eq_true hs).symm
  · rintro rfl
    exact ofLabel?_label s

theorem Stage.label_injective : Function.Injective Stage.label := fun s s' h =>
  Option.some.inj (by rw [← ofLabel?_label s, h, ofLabel?_label])

namespace Progress

/-- Completing a stage adds that stage and keeps the others. -/
theorem has_complete_iff (p : Progress) (s t : Stage) :
    (p.complete s).has t = true ↔ p.has t = true ∨ t = s := by
  simp [has, complete, List.mem_filter, Stage.mem_all]

/-- A stage is missing exactly when it is not completed. -/
theorem mem_missing_iff (p : Progress) (s : Stage) : s ∈ p.missing ↔ p.has s = false := by
  simp [missing, List.mem_filter, Stage.mem_all]

end Progress

namespace WorkflowState

/-! ## What an operation does to the tracked names -/

/-- A name is tracked exactly when it stands in the list of names. -/
theorem contains_iff_mem_names (st : WorkflowState) (n : Text) :
    st.contains n = true ↔ n ∈ st.names := by
  simp [contains, get?, names, List.find?_isSome]

/-- Changing entries without renaming them keeps the list of names. -/
theorem names_update (st : WorkflowState) (n : Text) (f : Progress → Progress)
    (hf : ∀ p : Progress, p.entity.name = n → (f p).entity.name = n) :
    (st.update n f).names = st.names := by
  simp only [names, update, List.map_map]
  refine List.map_congr_left fun p _ => ?_
  by_cases h : p.entity.name = n
  · simp [h, hf p h]
  · simp [h]

/-- Discovering an entity adds its name at the end, unless it is tracked. -/
theorem names_discover (st : WorkflowState) (e : Entity) :
    (st.discover e).names = if e.name ∈ st.names then st.names else st.names ++ [e.name] := by
  unfold discover
  by_cases h : st.contains e.name = true
  · rw [if_pos h, if_pos ((contains_iff_mem_names st e.name).mp h)]
  · rw [if_neg h, if_neg (fun hm => h ((contains_iff_mem_names st e.name).mpr hm))]
    simp [names, Progress.start]

/-- Defining an entity does to the names what discovering it does. -/
theorem names_define (st : WorkflowState) (e : Entity) :
    (st.define e).names = if e.name ∈ st.names then st.names else st.names ++ [e.name] := by
  unfold define
  by_cases h : st.contains e.name = true
  · rw [if_pos h, if_pos ((contains_iff_mem_names st e.name).mp h)]
    exact names_update st e.name _ fun _ _ => rfl
  · rw [if_neg h]
    exact names_discover st e

/-- Completing a stage keeps the names. -/
theorem names_complete {st st' : WorkflowState} {n : Text} {s : Stage}
    (h : st.complete n s = .ok st') : st'.names = st.names := by
  unfold complete at h
  split at h
  · cases h
    exact names_update st n _ fun _ hp => hp
  · cases h

/-- A list of names that grows by a name whenever a new one comes. -/
private theorem names_foldl (f : WorkflowState → Entity → WorkflowState)
    (hf : ∀ st e, (f st e).names = if e.name ∈ st.names then st.names else st.names ++ [e.name])
    (es : List Entity) (st : WorkflowState) :
    ∃ new, (es.foldl f st).names = st.names ++ new ∧
      ∀ n, n ∈ (es.foldl f st).names ↔ n ∈ st.names ∨ ∃ e ∈ es, e.name = n := by
  induction es generalizing st with
  | nil => exact ⟨[], by simp, by simp⟩
  | cons e es ih =>
    obtain ⟨new, hnew, hmem⟩ := ih (f st e)
    -- a known name changes nothing, a new one goes to the end
    by_cases h : e.name ∈ st.names
    · have hst : (f st e).names = st.names := by rw [hf, if_pos h]
      refine ⟨new, by rw [List.foldl_cons, hnew, hst], fun n => ?_⟩
      rw [List.foldl_cons, hmem, hst]
      constructor
      · rintro (hn | ⟨d, hd, hn⟩)
        · exact .inl hn
        · exact .inr ⟨d, List.mem_cons_of_mem e hd, hn⟩
      · rintro (hn | ⟨d, hd, hn⟩)
        · exact .inl hn
        · rcases List.mem_cons.mp hd with rfl | hd
          · exact .inl (hn ▸ h)
          · exact .inr ⟨d, hd, hn⟩
    · have hst : (f st e).names = st.names ++ [e.name] := by rw [hf, if_neg h]
      refine ⟨e.name :: new, by rw [List.foldl_cons, hnew, hst]; simp, fun n => ?_⟩
      rw [List.foldl_cons, hmem, hst]
      simp [or_assoc, eq_comm]

/-- Discovering entities appends names, and tracks theirs besides those tracked before. -/
theorem names_discoverAll (st : WorkflowState) (es : List Entity) :
    ∃ new, (st.discoverAll es).names = st.names ++ new ∧
      ∀ n, n ∈ (st.discoverAll es).names ↔ n ∈ st.names ∨ ∃ e ∈ es, e.name = n :=
  names_foldl discover names_discover es st

/-- Defining entities appends names, and tracks theirs besides those tracked before. -/
theorem names_defineAll (st : WorkflowState) (es : List Entity) :
    ∃ new, (st.defineAll es).names = st.names ++ new ∧
      ∀ n, n ∈ (st.defineAll es).names ↔ n ∈ st.names ∨ ∃ e ∈ es, e.name = n :=
  names_foldl define names_define es st

/-- Completing stages keeps the names. -/
theorem names_completeAll {st st' : WorkflowState} {cs : List (Text × Stage)}
    (h : st.completeAll cs = .ok st') : st'.names = st.names := by
  induction cs generalizing st with
  | nil =>
    cases h
    rfl
  | cons c cs ih =>
    obtain ⟨n, s⟩ := c
    rw [completeAll] at h
    rcases hc : st.complete n s with r | st₁
    · rw [hc] at h
      cases h
    · rw [hc] at h
      exact (ih h).trans (names_complete hc)

/-- Stages are completed exactly when all of their names are tracked. -/
theorem completeAll_ok_of_tracked (st : WorkflowState) (cs : List (Text × Stage))
    (h : ∀ c ∈ cs, c.1 ∈ st.names) : ∃ st', st.completeAll cs = .ok st' := by
  induction cs generalizing st with
  | nil => exact ⟨st, rfl⟩
  | cons c cs ih =>
    obtain ⟨n, s⟩ := c
    have hn : st.contains n = true := (contains_iff_mem_names st n).mpr (h _ List.mem_cons_self)
    obtain ⟨st₁, hc⟩ : ∃ st₁, st.complete n s = .ok st₁ := ⟨_, by rw [complete, if_pos hn]⟩
    obtain ⟨st', h'⟩ := ih st₁ fun d hd => by
      rw [names_complete hc]
      exact h d (List.mem_cons_of_mem _ hd)
    exact ⟨st', by rw [completeAll, hc]; exact h'⟩

/-! ## What an operation does to the completed stages -/

/-- A stage counts as completed only for a tracked name. -/
theorem mem_names_of_has {st : WorkflowState} {n : Text} {s : Stage} (h : st.has n s = true) :
    n ∈ st.names := by
  rw [← contains_iff_mem_names, contains]
  rw [has] at h
  cases hg : st.get? n with
  | none => simp [hg] at h
  | some p => rfl

/-- The entry found under a name after entries were changed but not renamed. -/
theorem get?_update (st : WorkflowState) (n m : Text) (f : Progress → Progress)
    (hf : ∀ p : Progress, p.entity.name = n → (f p).entity.name = n) :
    (st.update n f).get? m = if m = n then (st.get? m).map f else st.get? m := by
  rcases st with ⟨ps⟩
  simp only [get?, update]
  induction ps with
  | nil => simp
  | cons p ps ih =>
    rw [List.map_cons]
    -- the head is found before the change exactly when it is found after it
    by_cases hp : p.entity.name = n
    · by_cases hm : m = n
      · simp [hp, hm, hf p hp]
      · have hne : ¬ n = m := fun h => hm h.symm
        rw [if_neg hm] at ih ⊢
        rw [if_pos hp, List.find?_cons_of_neg (by simp [hf p hp, hne]),
          List.find?_cons_of_neg (by simp [hp, hne])]
        exact ih
    · by_cases hpm : p.entity.name = m
      · have hm : ¬ m = n := fun h => hp (hpm.trans h)
        simp [hpm, hm]
      · rw [if_neg hp, List.find?_cons_of_neg (by simp [hpm]),
          List.find?_cons_of_neg (by simp [hpm])]
        exact ih

/-- Discovering an entity completes nothing. -/
theorem has_discover (st : WorkflowState) (e : Entity) (n : Text) (s : Stage) :
    (st.discover e).has n s = st.has n s := by
  unfold discover
  by_cases h : st.contains e.name = true
  · rw [if_pos h]
  · rw [if_neg h]
    simp only [has, get?, List.find?_append]
    cases hf : st.entities.find? fun p => decide (p.entity.name = n) with
    | some p => rfl
    | none =>
      -- the entry found is the new one, if any, and that has completed nothing
      by_cases hn : e.name = n
      · simp [Progress.start, Progress.has, hn]
      · simp [Progress.start, hn]

/-- Defining an entity completes nothing. -/
theorem has_define (st : WorkflowState) (e : Entity) (n : Text) (s : Stage) :
    (st.define e).has n s = st.has n s := by
  unfold define
  by_cases h : st.contains e.name = true
  · rw [if_pos h, has, get?_update st e.name n _ fun _ _ => rfl, has]
    by_cases hn : n = e.name
    · rw [if_pos hn]
      cases st.get? n <;> rfl
    · rw [if_neg hn]
  · rw [if_neg h, has_discover]

/-- Completing a stage completes it for its name, and nothing else. -/
theorem has_complete_iff {st st' : WorkflowState} {m : Text} {t : Stage}
    (h : st.complete m t = .ok st') (n : Text) (s : Stage) :
    st'.has n s = true ↔ st.has n s = true ∨ (n, s) = (m, t) := by
  unfold complete at h
  split at h
  case isFalse => cases h
  case isTrue hm =>
    cases h
    have hg := get?_update st m n (fun p => p.complete t) fun _ hp => hp
    rw [has, hg, has]
    by_cases hn : n = m
    · subst hn
      rw [if_pos rfl]
      cases hg : st.get? n with
      | none => simp [contains, hg] at hm
      | some p => simp [Progress.has_complete_iff]
    · rw [if_neg hn]
      simp [hn]

/-- Discovering entities completes nothing. -/
theorem has_discoverAll (st : WorkflowState) (es : List Entity) (n : Text) (s : Stage) :
    (st.discoverAll es).has n s = st.has n s := by
  induction es generalizing st with
  | nil => rfl
  | cons e es ih => exact (ih (st.discover e)).trans (has_discover st e n s)

/-- Defining entities completes nothing. -/
theorem has_defineAll (st : WorkflowState) (es : List Entity) (n : Text) (s : Stage) :
    (st.defineAll es).has n s = st.has n s := by
  induction es generalizing st with
  | nil => rfl
  | cons e es ih => exact (ih (st.define e)).trans (has_define st e n s)

/-- Completing stages completes the listed ones, and nothing else. -/
theorem has_completeAll_iff {st st' : WorkflowState} {cs : List (Text × Stage)}
    (h : st.completeAll cs = .ok st') (n : Text) (s : Stage) :
    st'.has n s = true ↔ st.has n s = true ∨ (n, s) ∈ cs := by
  induction cs generalizing st with
  | nil =>
    cases h
    simp
  | cons c cs ih =>
    obtain ⟨m, t⟩ := c
    rw [completeAll] at h
    rcases hc : st.complete m t with r | st₁
    · rw [hc] at h
      cases h
    · rw [hc] at h
      rw [ih h, has_complete_iff hc, List.mem_cons, or_assoc]

/-! ## The entity found under a name -/

/-- The entity tracked under a name, as it was last discovered or written. -/
def spec? (st : WorkflowState) (n : Text) : Option Entity := (st.get? n).map fun p => p.entity

/-- A defined entity is the one tracked under its name. -/
theorem spec?_define_self (st : WorkflowState) (e : Entity) : (st.define e).spec? e.name = some e := by
  unfold define
  by_cases h : st.contains e.name = true
  · rw [if_pos h, spec?, get?_update st e.name e.name _ fun _ _ => rfl, if_pos rfl, Option.map_map]
    obtain ⟨p, hp⟩ := Option.isSome_iff_exists.mp h
    rw [hp]
    rfl
  · have hnone : st.get? e.name = none := Option.not_isSome_iff_eq_none.mp h
    rw [get?] at hnone
    rw [if_neg h, discover, if_neg h, spec?, get?, List.find?_append, hnone]
    simp [Progress.start]

/-- Defining an entity changes nothing under other names. -/
theorem get?_define_of_ne (st : WorkflowState) {e : Entity} {n : Text} (hne : e.name ≠ n) :
    (st.define e).get? n = st.get? n := by
  unfold define
  by_cases h : st.contains e.name = true
  · rw [if_pos h, get?_update st e.name n _ fun _ _ => rfl, if_neg fun hn => hne hn.symm]
  · rw [if_neg h, discover, if_neg h, get?, get?, List.find?_append]
    simp [Progress.start, hne]

/-- Defining entities changes nothing under names that none of them has. -/
theorem get?_defineAll_of_ne (st : WorkflowState) {es : List Entity} {n : Text}
    (hne : ∀ e ∈ es, e.name ≠ n) : (st.defineAll es).get? n = st.get? n := by
  induction es generalizing st with
  | nil => rfl
  | cons e es ih =>
    have hrest := ih (st.define e) fun e' he' => hne e' (List.mem_cons_of_mem e he')
    exact hrest.trans (get?_define_of_ne st (hne e List.mem_cons_self))

/-- Of several entities defined under one name, the last one is tracked. -/
theorem spec?_defineAll (st : WorkflowState) {before after : List Entity} {e : Entity}
    (hlast : ∀ e' ∈ after, e'.name ≠ e.name) :
    (st.defineAll (before ++ e :: after)).spec? e.name = some e := by
  have hsplit : st.defineAll (before ++ e :: after)
      = ((st.defineAll before).define e).defineAll after := by
    rw [defineAll, defineAll, defineAll, List.foldl_append, List.foldl_cons]
  rw [hsplit, spec?, get?_defineAll_of_ne _ hlast]
  exact spec?_define_self _ e

/-- Completing a stage changes nothing under other names, and no entity. -/
theorem get?_complete {st st' : WorkflowState} {m : Text} {t : Stage}
    (h : st.complete m t = .ok st') (n : Text) :
    (n ≠ m → st'.get? n = st.get? n) ∧ st'.spec? n = st.spec? n := by
  unfold complete at h
  split at h
  case isFalse => cases h
  case isTrue =>
    cases h
    have hg := get?_update st m n (fun p => p.complete t) fun _ hp => hp
    refine ⟨fun hn => by rw [hg, if_neg hn], ?_⟩
    rw [spec?, spec?, hg]
    by_cases hn : n = m
    · rw [if_pos hn, Option.map_map]
      rfl
    · rw [if_neg hn]

/-- Completing stages changes nothing under names that are not listed, and no entity. -/
theorem get?_completeAll {st st' : WorkflowState} {cs : List (Text × Stage)}
    (h : st.completeAll cs = .ok st') (n : Text) :
    ((∀ c ∈ cs, n ≠ c.1) → st'.get? n = st.get? n) ∧ st'.spec? n = st.spec? n := by
  induction cs generalizing st with
  | nil =>
    cases h
    exact ⟨fun _ => rfl, rfl⟩
  | cons c cs ih =>
    obtain ⟨m, t⟩ := c
    rw [completeAll] at h
    rcases hc : st.complete m t with r | st₁
    · rw [hc] at h
      cases h
    · rw [hc] at h
      obtain ⟨hother, hspec⟩ := ih h
      obtain ⟨hone, hspec₁⟩ := get?_complete hc n
      refine ⟨fun hn => ?_, hspec.trans hspec₁⟩
      rw [hother fun c hc' => hn c (List.mem_cons_of_mem _ hc'), hone (hn _ List.mem_cons_self)]

/-! ## Folding in an outcome -/

/-- An outcome is folded in whenever every name it completes a stage of is tracked before or
introduced by it. -/
theorem apply_ok_of_tracked (o : Outcome) (st : WorkflowState)
    (h : ∀ c ∈ o.completed, c.1 ∈ st.names ∨ ∃ e ∈ o.defined, e.name = c.1) :
    ∃ st', o.apply st = .ok st' := by
  refine completeAll_ok_of_tracked _ _ fun c hc => ?_
  obtain ⟨_, -, hdef⟩ := names_defineAll (st.discoverAll o.discovered) o.defined
  obtain ⟨_, -, hdis⟩ := names_discoverAll st o.discovered
  rcases h c hc with hn | he
  · exact (hdef c.1).mpr (.inl ((hdis c.1).mpr (.inl hn)))
  · exact (hdef c.1).mpr (.inr he)

/-- Folding in an outcome appends the new names among those it discovered and defined. -/
theorem apply_names {o : Outcome} {st st' : WorkflowState} (h : o.apply st = .ok st') :
    ∃ new, st'.names = st.names ++ new ∧
      ∀ n, n ∈ st'.names ↔
        n ∈ st.names ∨ (∃ e ∈ o.discovered, e.name = n) ∨ ∃ e ∈ o.defined, e.name = n := by
  obtain ⟨new₁, hdis, hmem₁⟩ := names_discoverAll st o.discovered
  obtain ⟨new₂, hdef, hmem₂⟩ := names_defineAll (st.discoverAll o.discovered) o.defined
  have hcom := names_completeAll h
  refine ⟨new₁ ++ new₂, by rw [hcom, hdef, hdis, List.append_assoc], fun n => ?_⟩
  rw [hcom, hmem₂, hmem₁, or_assoc]

/-- Folding in an outcome completes the stages it lists, and nothing else. -/
theorem apply_has_iff {o : Outcome} {st st' : WorkflowState} (h : o.apply st = .ok st')
    (n : Text) (s : Stage) :
    st'.has n s = true ↔ st.has n s = true ∨ (n, s) ∈ o.completed := by
  rw [has_completeAll_iff h, has_defineAll, has_discoverAll]

/-! ## Names tracked once -/

/-- No name is tracked twice. -/
def Distinct (st : WorkflowState) : Prop := st.names.Nodup

/-- The state that tracks nothing tracks nothing twice. -/
theorem distinct_empty : empty.Distinct := List.nodup_nil

/-- A name is appended only when it is new. -/
private theorem distinct_foldl (f : WorkflowState → Entity → WorkflowState)
    (hf : ∀ st e, (f st e).names = if e.name ∈ st.names then st.names else st.names ++ [e.name])
    (es : List Entity) {st : WorkflowState} (h : st.Distinct) : (es.foldl f st).Distinct := by
  induction es generalizing st with
  | nil => exact h
  | cons e es ih =>
    refine ih ?_
    rw [Distinct, hf]
    split
    case isTrue => exact h
    case isFalse hn =>
      exact List.nodup_append.mpr ⟨h, List.nodup_singleton _, fun a ha b hb hab =>
        hn (List.mem_singleton.mp hb ▸ hab ▸ ha)⟩

/-- Discovering entities tracks no name twice. -/
theorem Distinct.discoverAll {st : WorkflowState} (h : st.Distinct) (es : List Entity) :
    (st.discoverAll es).Distinct :=
  distinct_foldl WorkflowState.discover names_discover es h

/-- Folding in an outcome tracks no name twice. -/
theorem Distinct.apply {st st' : WorkflowState} {o : Outcome} (h : st.Distinct)
    (ho : o.apply st = .ok st') : st'.Distinct := by
  have hdef := distinct_foldl define names_define o.defined (h.discoverAll o.discovered)
  rw [Distinct, names_completeAll ho]
  exact hdef

/-- In a state that tracks no name twice, every entry is the one found under its name. -/
theorem Distinct.get?_eq {st : WorkflowState} (h : st.Distinct) {p : Progress}
    (hp : p ∈ st.entities) : st.get? p.entity.name = some p := by
  rcases st with ⟨ps⟩
  simp only [Distinct, names] at h
  simp only [get?]
  induction ps with
  | nil => cases hp
  | cons q qs ih =>
    rw [List.map_cons, List.nodup_cons] at h
    rcases List.mem_cons.mp hp with rfl | hq
    · simp
    · -- no earlier entry has the name, so the search passes it
      have hne : ¬ q.entity.name = p.entity.name := fun he =>
        h.1 (he ▸ List.mem_map_of_mem (f := fun p : Progress => p.entity.name) hq)
      rw [List.find?_cons_of_neg (by simp [hne])]
      exact ih h.2 hq

/-- Of a state that tracks no name twice, the question by name and the question to the entry have
the same answer. -/
theorem Distinct.has_eq {st : WorkflowState} (h : st.Distinct) {p : Progress}
    (hp : p ∈ st.entities) (s : Stage) : st.has p.entity.name s = p.has s := by
  rw [has, h.get?_eq hp]
  rfl

/-- The names listed for a stage are the ones that have completed it. -/
theorem Distinct.mem_withStage_iff {st : WorkflowState} (h : st.Distinct) (n : Text) (s : Stage) :
    n ∈ st.withStage s ↔ st.has n s = true := by
  simp only [withStage, List.mem_map, List.mem_filter]
  constructor
  · rintro ⟨p, ⟨hp, hs⟩, rfl⟩
    rw [h.has_eq hp, hs]
  · intro hs
    rw [has] at hs
    cases hg : st.get? n with
    | none => simp [hg] at hs
    | some p =>
      rw [hg] at hs
      have hn : p.entity.name = n := by simpa using List.find?_some hg
      exact ⟨p, ⟨List.mem_of_find?_eq_some hg, hs⟩, hn⟩

/-- A name listed for a stage is tracked. -/
theorem mem_names_of_mem_withStage {st : WorkflowState} {n : Text} {s : Stage}
    (h : n ∈ st.withStage s) : n ∈ st.names := by
  simp only [withStage, List.mem_map, List.mem_filter] at h
  obtain ⟨p, ⟨hp, -⟩, rfl⟩ := h
  exact List.mem_map_of_mem (f := fun p : Progress => p.entity.name) hp

/-! ## Finished states -/

/-- A state is finished exactly when every entity has completed every stage. -/
theorem isComplete_iff (st : WorkflowState) :
    st.isComplete = true ↔ ∀ p ∈ st.entities, ∀ s, p.has s = true := by
  simp only [isComplete, incomplete, List.isEmpty_iff, List.filter_eq_nil_iff, List.mem_map]
  constructor
  · intro h p hp s
    have hm : p.missing = [] := by simpa using h _ ⟨p, hp, rfl⟩
    by_contra hs
    have hmem : s ∈ p.missing := (p.mem_missing_iff s).mpr (by simpa using hs)
    rw [hm] at hmem
    cases hmem
  · rintro h _ ⟨p, hp, rfl⟩
    have hm : p.missing = [] := List.eq_nil_iff_forall_not_mem.mpr fun s hs => by
      rw [Progress.mem_missing_iff, h p hp s] at hs
      cases hs
    simp [hm]

end WorkflowState

end Tablewright
