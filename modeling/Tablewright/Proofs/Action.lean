/-
Operations that fail and change something: how their runs are taken apart.

An operation on the world and an operation on the tree are the same thing over two kinds of state,
so the facts about sequences are stated once, over any state. For every way to build an operation
there are two inversion lemmas, one that says when it succeeds and one that says when it fails; a
sequence succeeds exactly when both parts do, and fails exactly when the first part does or the
second one does after it. Later proofs use these and never unfold the monad.

`FailsBy` says in which ways an operation can fail, `EndsIn` that it ends in such a failure, `Breaks`
that it ends in a defect, and `Keeps` that it leaves the world as it was, whatever its result. All of
them pass through sequences, so for a tool they are read off the operations the tool is made of.
-/
import Mathlib.Data.List.Forall2
import Tablewright.Command.Process

set_option autoImplicit false

namespace Tablewright

/-- Failures that a run answers. -/
def Failure.IsAnswered : Failure → Prop
  | .refused _ => True
  | .system _ => True
  | _ => False

/-! ## Sequences -/

namespace Effect

variable {σ α β : Type}

/-- A sequence runs its first part; the second one only starts when the first one succeeded. -/
theorem run_bind (a : ExceptT Failure (StateM σ) α) (k : α → ExceptT Failure (StateM σ) β)
    (s : σ) :
    (a >>= k).run s =
      match a.run s with
      | (.ok x, s₁) => (k x).run s₁
      | (.error f, s₁) => (.error f, s₁) := by
  -- the monad is opened here and nowhere else
  change (ExceptT.bind a k).run s = _
  rcases h : a.run s with ⟨r, s₁⟩
  have h' : (a : StateM σ (Except Failure α)) s = (r, s₁) := h
  simp only [ExceptT.bind, ExceptT.run, ExceptT.mk, bind, StateT.bind, h']
  cases r <;> rfl

/-- A sequence succeeds exactly when its first part does and then its second part does. -/
theorem bind_ok_iff {a : ExceptT Failure (StateM σ) α} {k : α → ExceptT Failure (StateM σ) β}
    {s s' : σ} {y : β} :
    (a >>= k).run s = (.ok y, s') ↔
      ∃ x s₁, a.run s = (.ok x, s₁) ∧ (k x).run s₁ = (.ok y, s') := by
  rw [run_bind]
  rcases a.run s with ⟨g | x, s₁⟩
  · constructor
    · intro h
      cases h
    · rintro ⟨_, _, h, -⟩
      cases h
  · constructor
    · intro h
      exact ⟨x, s₁, rfl, h⟩
    · rintro ⟨_, _, h, hk⟩
      cases h
      exact hk

/-- A sequence fails exactly when its first part does, or its second part does after it. -/
theorem bind_error_iff {a : ExceptT Failure (StateM σ) α}
    {k : α → ExceptT Failure (StateM σ) β} {s s' : σ} {f : Failure} :
    (a >>= k).run s = (.error f, s') ↔
      a.run s = (.error f, s') ∨
        ∃ x s₁, a.run s = (.ok x, s₁) ∧ (k x).run s₁ = (.error f, s') := by
  rw [run_bind]
  rcases a.run s with ⟨g | x, s₁⟩
  · constructor
    · intro h
      cases h
      exact .inl rfl
    · rintro (h | ⟨_, _, h, -⟩)
      · cases h
        rfl
      · cases h
  · constructor
    · intro h
      exact .inr ⟨x, s₁, rfl, h⟩
    · rintro (h | ⟨_, _, h, hk⟩)
      · cases h
      · cases h
        exact hk

/-- What a sequence leaves is related to what it found when its parts leave what is related to what
they found, by any relation that passes from one change to the next. -/
theorem leaves_bind {R : σ → σ → Prop} (htrans : ∀ {s₁ s₂ s₃ : σ}, R s₁ s₂ → R s₂ s₃ → R s₁ s₃)
    {a : ExceptT Failure (StateM σ) α} {k : α → ExceptT Failure (StateM σ) β} {s : σ}
    (ha : R s (a.run s).2) (hk : ∀ x s₁, a.run s = (.ok x, s₁) → R s₁ ((k x).run s₁).2) :
    R s ((a >>= k).run s).2 := by
  rw [run_bind]
  rcases h : a.run s with ⟨f | x, s₁⟩
  · rw [h] at ha
    exact ha
  · rw [h] at ha
    exact htrans ha (hk x s₁ h)

/-- A value succeeds as itself and changes nothing. -/
theorem pure_ok_iff {x y : α} {s s' : σ} :
    (pure x : ExceptT Failure (StateM σ) α).run s = (.ok y, s') ↔ y = x ∧ s' = s := by
  constructor
  · intro h
    cases h
    exact ⟨rfl, rfl⟩
  · rintro ⟨rfl, rfl⟩
    rfl

/-- A value does not fail. -/
theorem pure_ne_error {x : α} {s s' : σ} {f : Failure} :
    (pure x : ExceptT Failure (StateM σ) α).run s ≠ (.error f, s') := by
  intro h
  cases h

/-- A failure does not succeed. -/
theorem throw_ne_ok {g : Failure} {y : α} {s s' : σ} :
    (throw g : ExceptT Failure (StateM σ) α).run s ≠ (.ok y, s') := by
  intro h
  cases h

/-- A failure fails as itself and changes nothing. -/
theorem throw_error_iff {g f : Failure} {s s' : σ} :
    (throw g : ExceptT Failure (StateM σ) α).run s = (.error f, s') ↔ f = g ∧ s' = s := by
  constructor
  · intro h
    cases h
    exact ⟨rfl, rfl⟩
  · rintro ⟨rfl, rfl⟩
    rfl

/-- A value after an operation adds no failure to it. -/
theorem bind_pure_error_iff {a : ExceptT Failure (StateM σ) α} {g : α → β} {s s' : σ}
    {f : Failure} :
    (a >>= fun x => pure (g x)).run s = (.error f, s') ↔ a.run s = (.error f, s') := by
  rw [bind_error_iff]
  refine or_iff_left ?_
  rintro ⟨x, s₁, -, hk⟩
  exact pure_ne_error hk

/-- The operation only fails in ways that satisfy a condition. -/
def FailsBy (P : Failure → Prop) (a : ExceptT Failure (StateM σ) α) : Prop :=
  ∀ ⦃s f s'⦄, a.run s = (.error f, s') → P f

section FailsBy

variable {P : Failure → Prop}

theorem failsBy_pure (x : α) : FailsBy P (pure x : ExceptT Failure (StateM σ) α) :=
  fun _ _ _ h => absurd h pure_ne_error

theorem failsBy_throw {f : Failure} (h : P f) :
    FailsBy P (throw f : ExceptT Failure (StateM σ) α) := by
  intro s g s' hg
  obtain ⟨rfl, -⟩ := throw_error_iff.mp hg
  exact h

/-- A sequence fails as one of its parts does. -/
theorem FailsBy.bind {a : ExceptT Failure (StateM σ) α} {k : α → ExceptT Failure (StateM σ) β}
    (ha : FailsBy P a) (hk : ∀ x, FailsBy P (k x)) : FailsBy P (a >>= k) := by
  intro s f s' h
  rcases bind_error_iff.mp h with h₁ | ⟨x, s₁, -, h₂⟩
  · exact ha h₁
  · exact hk x h₂

/-- Nothing comes after a failure. -/
theorem failsBy_throw_bind {f : Failure} (h : P f) (k : α → ExceptT Failure (StateM σ) β) :
    FailsBy P ((throw f : ExceptT Failure (StateM σ) α) >>= k) := by
  intro s g s' hg
  rcases bind_error_iff.mp hg with h₁ | ⟨x, s₁, h₁, -⟩
  · exact failsBy_throw h h₁
  · exact absurd h₁ throw_ne_ok

/-- A condition on failures may be weakened. -/
theorem FailsBy.mono {Q : Failure → Prop} {a : ExceptT Failure (StateM σ) α} (ha : FailsBy P a)
    (h : ∀ f, P f → Q f) : FailsBy Q a :=
  fun _ _ _ hf => h _ (ha hf)

end FailsBy

/-- The operation ends in a failure that satisfies a condition. -/
def EndsIn (P : Failure → Prop) (a : ExceptT Failure (StateM σ) α) (s : σ) : Prop :=
  ∃ f s', a.run s = (.error f, s') ∧ P f

section EndsIn

variable {P : Failure → Prop} {s : σ}

/-- A sequence ends as its first part does, or as its second part does after it. -/
theorem endsIn_bind_iff {a : ExceptT Failure (StateM σ) α}
    {k : α → ExceptT Failure (StateM σ) β} :
    EndsIn P (a >>= k) s ↔
      EndsIn P a s ∨ ∃ x s₁, a.run s = (.ok x, s₁) ∧ EndsIn P (k x) s₁ := by
  constructor
  · rintro ⟨f, s', h, hf⟩
    rcases bind_error_iff.mp h with ha | ⟨x, s₁, hx, hk⟩
    · exact .inl ⟨f, s', ha, hf⟩
    · exact .inr ⟨x, s₁, hx, f, s', hk, hf⟩
  · rintro (⟨f, s', ha, hf⟩ | ⟨x, s₁, hx, f, s', hk, hf⟩)
    · exact ⟨f, s', bind_error_iff.mpr (.inl ha), hf⟩
    · exact ⟨f, s', bind_error_iff.mpr (.inr ⟨x, s₁, hx, hk⟩), hf⟩

theorem not_endsIn_pure (x : α) : ¬ EndsIn P (pure x : ExceptT Failure (StateM σ) α) s := by
  rintro ⟨f, s', h, -⟩
  exact pure_ne_error h

end EndsIn

/-- The operation ends in a defect. -/
def Breaks (a : ExceptT Failure (StateM σ) α) (s : σ) : Prop :=
  ∃ d s', a.run s = (.error (.defect d), s')

theorem breaks_iff {a : ExceptT Failure (StateM σ) α} {s : σ} :
    Breaks a s ↔ EndsIn (fun f => ∃ d, f = .defect d) a s := by
  constructor
  · rintro ⟨d, s', h⟩
    exact ⟨_, s', h, d, rfl⟩
  · rintro ⟨_, s', h, d, rfl⟩
    exact ⟨d, s', h⟩

/-- A sequence breaks exactly when its first part does, or its second part does after it. -/
theorem breaks_bind_iff {a : ExceptT Failure (StateM σ) α}
    {k : α → ExceptT Failure (StateM σ) β} {s : σ} :
    Breaks (a >>= k) s ↔
      Breaks a s ∨ ∃ x s₁, a.run s = (.ok x, s₁) ∧ Breaks (k x) s₁ := by
  simp only [breaks_iff, endsIn_bind_iff]

theorem not_breaks_pure (x : α) (s : σ) :
    ¬ Breaks (pure x : ExceptT Failure (StateM σ) α) s := fun h =>
  not_endsIn_pure x (breaks_iff.mp h)

/-- An operation that does not fail by a defect does not break. -/
theorem not_breaks_of_failsBy {P : Failure → Prop} {a : ExceptT Failure (StateM σ) α}
    (h : FailsBy P a) (hP : ∀ d, ¬ P (.defect d)) (s : σ) : ¬ Breaks a s := by
  rintro ⟨d, s', hd⟩
  exact hP d (h hd)

/-- An operation that only fails in ways a run answers does not break. -/
theorem FailsBy.not_breaks {a : ExceptT Failure (StateM σ) α}
    (h : FailsBy Failure.IsAnswered a) (s : σ) : ¬ Breaks a s :=
  not_breaks_of_failsBy h (fun _ => id) s

/-- A value after an operation does not break. -/
theorem breaks_bind_pure_iff {a : ExceptT Failure (StateM σ) α} {g : α → β} {s : σ} :
    Breaks (a >>= fun x => pure (g x)) s ↔ Breaks a s := by
  simp only [Breaks, bind_pure_error_iff]

/-- An operation that does not break leaves it to what comes after it. -/
theorem breaks_bind_iff_of_not {a : ExceptT Failure (StateM σ) α}
    {k : α → ExceptT Failure (StateM σ) β} {s : σ} (h : ¬ Breaks a s) :
    Breaks (a >>= k) s ↔ ∃ x s₁, a.run s = (.ok x, s₁) ∧ Breaks (k x) s₁ := by
  rw [breaks_bind_iff]
  exact or_iff_right h

@[simp] theorem mapError_ok {ε ε' : Type} (g : ε → ε') (x : α) :
    (Except.ok x : Except ε α).mapError g = .ok x := rfl

@[simp] theorem mapError_error {ε ε' : Type} (g : ε → ε') (e : ε) :
    (Except.error e : Except ε α).mapError g = .error (g e) := rfl

/-- A computation in two parts succeeds exactly when its first part does and then its second. -/
theorem result_bind_ok_iff {ε : Type} {r : Except ε α} {k : α → Except ε β} {y : β} :
    (r >>= k) = .ok y ↔ ∃ x, r = .ok x ∧ k x = .ok y := by
  rcases r with g | x
  · constructor
    · intro h
      cases h
    · rintro ⟨_, h, -⟩
      cases h
  · constructor
    · intro h
      exact ⟨x, rfl, h⟩
    · rintro ⟨_, h, hk⟩
      cases h
      exact hk

/-- A computation in two parts fails exactly when its first part does, or its second after it. -/
theorem result_bind_error_iff {ε : Type} {r : Except ε α} {k : α → Except ε β} {f : ε} :
    (r >>= k) = .error f ↔ r = .error f ∨ ∃ x, r = .ok x ∧ k x = .error f := by
  rcases r with g | x
  · constructor
    · intro h
      cases h
      exact .inl rfl
    · rintro (h | ⟨_, h, -⟩)
      · cases h
        rfl
      · cases h
  · constructor
    · intro h
      exact .inr ⟨x, rfl, h⟩
    · rintro (h | ⟨_, h, hk⟩)
      · cases h
      · cases h
        exact hk

/-- Computations in two parts come to the same when their second parts do on every result of the
first. -/
theorem result_bind_congr {ε : Type} {r : Except ε α} {k k' : α → Except ε β}
    (h : ∀ x, r = .ok x → k x = k' x) : (r >>= k) = r >>= k' := by
  cases r with
  | error f => rfl
  | ok x => exact h x rfl

/-- Computations for every item come to the same when they do for each. -/
theorem result_mapM_congr {ε : Type} {g g' : α → Except ε β} {xs : List α}
    (h : ∀ x ∈ xs, g x = g' x) : xs.mapM g = xs.mapM g' := by
  induction xs with
  | nil => rfl
  | cons x xs ih =>
    rw [List.mapM_cons, List.mapM_cons, h x List.mem_cons_self,
      ih fun y hy => h y (List.mem_cons_of_mem x hy)]

/-- What has a value is a success with it. -/
theorem result_ok_of_toOption {ε : Type} {r : Except ε α} {x : α} (h : r.toOption = some x) :
    r = .ok x := by
  cases r with
  | error f => cases h
  | ok y => exact congrArg Except.ok (Option.some.inj h)

/-- A result of which something is known is there. -/
theorem result_ok_of_map {ε : Type} {r : Except ε α} {g : α → β} {y : β}
    (h : r.toOption.map g = some y) : ∃ x, r = .ok x ∧ g x = y := by
  obtain ⟨x, hx, hy⟩ := Option.map_eq_some_iff.mp h
  exact ⟨x, result_ok_of_toOption hx, hy⟩

/-- A computation for every item fails as it fails for some item. -/
theorem result_mapM_error {ε : Type} {g : α → Except ε β} {xs : List α} {f : ε}
    (h : xs.mapM g = .error f) : ∃ x ∈ xs, g x = .error f := by
  induction xs with
  | nil => cases h
  | cons x xs ih =>
    rw [List.mapM_cons] at h
    rcases result_bind_error_iff.mp h with hx | ⟨y, -, hrest⟩
    · exact ⟨x, List.mem_cons_self, hx⟩
    · rcases result_bind_error_iff.mp hrest with hxs | ⟨ys, -, hlast⟩
      · obtain ⟨z, hz, hfail⟩ := ih hxs
        exact ⟨z, List.mem_cons_of_mem x hz, hfail⟩
      · cases hlast

/-- A computation that succeeds for every item succeeds for all of them, with what comes of each. -/
theorem result_mapM_ok {ε : Type} {g : α → Except ε β} {xs : List α}
    (h : ∀ x ∈ xs, ∃ y, g x = .ok y) :
    ∃ ys, xs.mapM g = .ok ys ∧ ∀ y, y ∈ ys ↔ ∃ x ∈ xs, g x = .ok y := by
  induction xs with
  | nil => exact ⟨[], rfl, by simp⟩
  | cons x xs ih =>
    obtain ⟨y, hy⟩ := h x List.mem_cons_self
    obtain ⟨ys, hys, hmem⟩ := ih fun z hz => h z (List.mem_cons_of_mem x hz)
    refine ⟨y :: ys, ?_, fun z => ?_⟩
    · rw [List.mapM_cons]
      exact result_bind_ok_iff.mpr ⟨y, hy, result_bind_ok_iff.mpr ⟨ys, hys, rfl⟩⟩
    · simp only [List.mem_cons, exists_eq_or_imp, hmem, hy, Except.ok.injEq, @eq_comm _ y z]

/-- A computation for every item succeeds exactly if each one does, with what comes of them in
their order. -/
theorem result_mapM_ok_iff {ε : Type} {g : α → Except ε β} {xs : List α} {ys : List β} :
    xs.mapM g = .ok ys ↔ List.Forall₂ (fun x y => g x = .ok y) xs ys := by
  induction xs generalizing ys with
  | nil =>
    rw [List.mapM_nil, List.forall₂_nil_left_iff]
    exact ⟨fun h => (Except.ok.inj h).symm, fun h => h ▸ rfl⟩
  | cons x xs ih =>
    rw [List.mapM_cons, result_bind_ok_iff, List.forall₂_cons_left_iff]
    constructor
    · rintro ⟨y, hy, h⟩
      obtain ⟨zs, hzs, hlast⟩ := result_bind_ok_iff.mp h
      exact ⟨y, zs, hy, ih.mp hzs, (Except.ok.inj hlast).symm⟩
    · rintro ⟨y, zs, hy, hzs, rfl⟩
      exact ⟨y, hy, result_bind_ok_iff.mpr ⟨zs, ih.mpr hzs, rfl⟩⟩

/-- What is there for every item is there for all of them, in their order. -/
theorem option_mapM_eq_some_iff {g : α → Option β} {xs : List α} {ys : List β} :
    xs.mapM g = some ys ↔ List.Forall₂ (fun x y => g x = some y) xs ys := by
  induction xs generalizing ys with
  | nil =>
    rw [List.mapM_nil, List.forall₂_nil_left_iff]
    exact ⟨fun h => (Option.some.inj h).symm, fun h => h ▸ rfl⟩
  | cons x xs ih =>
    rw [List.mapM_cons, List.forall₂_cons_left_iff]
    constructor
    · intro h
      obtain ⟨y, hy, hrest⟩ := Option.bind_eq_some_iff.mp h
      obtain ⟨zs, hzs, hlast⟩ := Option.bind_eq_some_iff.mp hrest
      exact ⟨y, zs, hy, ih.mp hzs, (Option.some.inj hlast).symm⟩
    · rintro ⟨y, zs, hy, hzs, rfl⟩
      exact Option.bind_eq_some_iff.mpr ⟨y, hy, Option.bind_eq_some_iff.mpr ⟨zs, ih.mpr hzs, rfl⟩⟩

end Effect

/-- Where the items of two lists correspond, one list has a property in all its items exactly if the
other one has the corresponding property in all of its own. -/
theorem forall_mem_iff_of_forall₂ {α β : Type} {R : α → β → Prop} {P : α → Prop} {Q : β → Prop}
    {xs : List α} {ys : List β} (h : List.Forall₂ R xs ys) (hR : ∀ x y, R x y → (P x ↔ Q y)) :
    (∀ x ∈ xs, P x) ↔ ∀ y ∈ ys, Q y := by
  induction h with
  | nil => simp
  | cons hxy _ ih => rw [List.forall_mem_cons, List.forall_mem_cons, hR _ _ hxy, ih]

/-! ## Refusals -/

/-- A computation that can only be refused succeeds as one that can fail. -/
theorem liftRefusal_ok_iff {α : Type} {r : Except Refusal α} {x : α} :
    liftRefusal r = .ok x ↔ r = .ok x := by
  cases r <;> simp [liftRefusal]

/-- The only failure of a computation that can only be refused is its refusal. -/
theorem liftRefusal_error_iff {α : Type} {r : Except Refusal α} {f : Failure} :
    liftRefusal r = .error f ↔ ∃ q, r = .error q ∧ f = .refused q := by
  cases r <;> simp [liftRefusal, eq_comm]

/-! ## Worlds -/

/-- What the next process does: the next event of the script, and beyond the script a good and
silent end. -/
def World.upcoming (w : World) : ProcessEvent := w.script.headD (.ended 0 [] [])

/-- The world once a process was started. -/
def World.start (w : World) (p : Spawn) : World :=
  { w with script := w.script.tail, spawned := w.spawned ++ [p] }

/-! ## Operations on the world -/

namespace Action

variable {α β : Type}

/-- A result given as an operation is the result of the operation, in an unchanged world. -/
theorem ofExcept_iff {r q : Except Failure α} {w w' : World} :
    (ofExcept r).run w = (q, w') ↔ r = q ∧ w' = w := by
  constructor
  · intro h
    cases h
    exact ⟨rfl, rfl⟩
  · rintro ⟨rfl, rfl⟩
    rfl

/-- A result that can only be refused, given as an operation, succeeds when it does. -/
theorem ofRefusal_ok_iff {r : Except Refusal α} {x : α} {w w' : World} :
    (ofRefusal r).run w = (.ok x, w') ↔ r = .ok x ∧ w' = w := by
  rw [ofRefusal, ofExcept_iff, liftRefusal_ok_iff]

/-- A result that can only be refused, given as an operation, fails by its refusal. -/
theorem ofRefusal_error_iff {r : Except Refusal α} {f : Failure} {w w' : World} :
    (ofRefusal r).run w = (.error f, w') ↔ (∃ q, r = .error q ∧ f = .refused q) ∧ w' = w := by
  rw [ofRefusal, ofExcept_iff, liftRefusal_error_iff]

/-- A look at the tree answers what the tree says, in an unchanged world. -/
theorem look_iff {g : Tree → Except Failure α} {q : Except Failure α} {w w' : World} :
    (look g).run w = (q, w') ↔ g w.tree = q ∧ w' = w := by
  constructor
  · intro h
    cases h
    exact ⟨rfl, rfl⟩
  · rintro ⟨rfl, rfl⟩
    rfl

/-- An operation on the tree answers what it answers there, and only the tree changes. -/
theorem onFiles_iff {a : FileAction α} {q : Except Failure α} {w w' : World} :
    (onFiles a).run w = (q, w') ↔ ∃ t, a.run w.tree = (q, t) ∧ w' = { w with tree := t } := by
  constructor
  · intro h
    cases h
    exact ⟨_, rfl, rfl⟩
  · rintro ⟨t, h, rfl⟩
    change ((a.run w.tree).1, { w with tree := (a.run w.tree).2 }) = _
    rw [h]

/-- A process that can be handed over is started: the start is logged, and what the process does is
the next event. -/
theorem spawn_run {p : Spawn} (h : p.flaw? = none) (w : World) :
    (spawn p).run w = (.ok w.upcoming, w.start p) := by
  rw [spawn, ofFunction, ExceptT.run, World.upcoming, World.start, h]
  cases w.script <;> rfl

/-- A process that cannot be handed over is not started, and nothing is logged. -/
theorem spawn_run_of_flaw {p : Spawn} {flaw : HandoverFlaw} (h : p.flaw? = some flaw) (w : World) :
    (spawn p).run w = (.error (.badValue (.badWord flaw)), w) := by
  rw [spawn, ofFunction, ExceptT.run, h]

/-! ## How operations fail -/

theorem failsBy_look {P : Failure → Prop} {g : Tree → Except Failure α}
    (h : ∀ t f, g t = .error f → P f) : Effect.FailsBy P (look g) := by
  intro w f w' hf
  exact h w.tree f (look_iff.mp hf).1

theorem failsBy_ofExcept {P : Failure → Prop} {r : Except Failure α}
    (h : ∀ f, r = .error f → P f) : Effect.FailsBy P (ofExcept r) := by
  intro w f w' hf
  exact h f (ofExcept_iff.mp hf).1

/-- An operation on the tree fails in the world as it fails on the tree. -/
theorem failsBy_onFiles {P : Failure → Prop} {a : FileAction α} (h : Effect.FailsBy P a) :
    Effect.FailsBy P (onFiles a) := by
  intro w f w' hf
  obtain ⟨t, ht, -⟩ := onFiles_iff.mp hf
  exact h ht

/-- The start of a process only fails when it cannot be handed over; what the process does is its
event. -/
theorem failsBy_spawn {P : Failure → Prop} {p : Spawn}
    (hflaw : ∀ flaw, p.flaw? = some flaw → P (.badValue (.badWord flaw))) :
    Effect.FailsBy P (spawn p) := by
  intro w f w' h
  cases hp : p.flaw? with
  | none =>
    rw [spawn_run hp] at h
    cases h
  | some flaw =>
    rw [spawn_run_of_flaw hp] at h
    cases h
    exact hflaw flaw hp

/-! ## Operations on the world that end in a defect -/

theorem breaks_look_iff {g : Tree → Except Failure α} {w : World} :
    Effect.Breaks (look g) w ↔ ∃ d, g w.tree = .error (.defect d) := by
  constructor
  · rintro ⟨d, w', h⟩
    exact ⟨d, (look_iff.mp h).1⟩
  · rintro ⟨d, h⟩
    exact ⟨d, w, look_iff.mpr ⟨h, rfl⟩⟩

theorem breaks_onFiles_iff {a : FileAction α} {w : World} :
    Effect.Breaks (onFiles a) w ↔ Effect.Breaks a w.tree := by
  constructor
  · rintro ⟨d, w', h⟩
    obtain ⟨t, ht, -⟩ := onFiles_iff.mp h
    exact ⟨d, t, ht⟩
  · rintro ⟨d, t, ht⟩
    exact ⟨d, { w with tree := t }, onFiles_iff.mpr ⟨t, ht, rfl⟩⟩

/-- What comes after a result goes on with it, in the same world. -/
theorem breaks_ofExcept_bind_iff {r : Except Failure α} (h : ∀ f, r = .error f → f.IsAnswered)
    {k : α → Action β} {w : World} :
    Effect.Breaks (ofExcept r >>= k) w ↔ ∃ x, r = .ok x ∧ Effect.Breaks (k x) w := by
  rw [Effect.breaks_bind_iff_of_not ((failsBy_ofExcept h).not_breaks w)]
  constructor
  · rintro ⟨x, w₁, hx, hk⟩
    obtain ⟨hr, rfl⟩ := ofExcept_iff.mp hx
    exact ⟨x, hr, hk⟩
  · rintro ⟨x, hr, hk⟩
    exact ⟨x, w, ofExcept_iff.mpr ⟨hr, rfl⟩, hk⟩

theorem breaks_ofRefusal_bind_iff {r : Except Refusal α} {k : α → Action β} {w : World} :
    Effect.Breaks (ofRefusal r >>= k) w ↔ ∃ x, r = .ok x ∧ Effect.Breaks (k x) w := by
  have hanswered : ∀ f, liftRefusal r = .error f → f.IsAnswered := by
    intro f hf
    obtain ⟨q, -, rfl⟩ := liftRefusal_error_iff.mp hf
    trivial
  rw [ofRefusal, breaks_ofExcept_bind_iff hanswered]
  simp only [liftRefusal_ok_iff]

/-! ## Operations that leave the world alone -/

/-- The operation leaves the world as it was, whether it succeeds or fails. -/
def Keeps (a : Action α) : Prop := ∀ w : World, (a.run w).2 = w

theorem keeps_pure (x : α) : Keeps (pure x : Action α) := fun _ => rfl

theorem keeps_throw (f : Failure) : Keeps (throw f : Action α) := fun _ => rfl

theorem keeps_ofExcept (r : Except Failure α) : Keeps (ofExcept r) := fun _ => rfl

theorem keeps_ofRefusal (r : Except Refusal α) : Keeps (ofRefusal r) := fun _ => rfl

theorem keeps_look (g : Tree → Except Failure α) : Keeps (look g) := fun _ => rfl

/-- A sequence leaves the world alone when both of its parts do. -/
theorem Keeps.bind {a : Action α} {k : α → Action β} (ha : Keeps a) (hk : ∀ x, Keeps (k x)) :
    Keeps (a >>= k) := by
  intro w
  have hw := ha w
  rw [Effect.run_bind]
  rcases h : a.run w with ⟨_ | x, w₁⟩
  · rw [h] at hw
    exact hw
  · rw [h] at hw
    exact (hk x w₁).trans hw

end Action

end Tablewright
