/-
The course of a run: which points it comes to and how it ends.

`Reached` collects the turns from the beginning of a run, with the history of what happened, one
occurrence for each step that was recorded. What holds at every such point is proved by induction
on it, one turn at a time. `Ends` says that a path of turns is over, because the steps are used up
or because the last turn halts, and `perform_ok_iff` and `perform_error_iff` say that a run is such
a path.
-/
import Tablewright.Proofs.Run.Turn

set_option autoImplicit false

namespace Tablewright

namespace Run

/-! ## Histories -/

/-- The points a run comes to: what happened so far, the session and the world. -/
inductive Reached (cfg : RunConfig) (engine : Engine) (request : Text) (w₀ : World) :
    List Occurrence → Session → World → Prop
  | origin : Reached cfg engine request w₀ [] (start request cfg.dryRun) w₀
  | next {history : List Occurrence} {s s' : Session} {w w' : World} {o : Occurrence}
      (h : Reached cfg engine request w₀ history s w)
      (hleft : history.length < cfg.budget.toNat) (ha : Advance cfg engine s w o s' w') :
      Reached cfg engine request w₀ (history ++ [o]) s' w'

/-- How the asking of a run ends: at a point where the steps are used up, or by a last turn. -/
inductive Ends (cfg : RunConfig) (engine : Engine) (request : Text) (w₀ : World)
    (history : List Occurrence) (s : Session) (w : World) :
    Except Failure (Session × Verdict) → World → Prop
  | exhausted (h : Reached cfg engine request w₀ history s w)
      (hfull : history.length = cfg.budget.toNat) :
      Ends cfg engine request w₀ history s w (.ok (s, .exhausted)) w
  | halted {q : Except Failure (Session × Verdict)} {w' : World}
      (h : Reached cfg engine request w₀ history s w)
      (hleft : history.length < cfg.budget.toNat) (hh : Halts cfg engine s w q w') :
      Ends cfg engine request w₀ history s w q w'

section Course

variable {cfg : RunConfig} {engine : Engine} {request : Text} {w₀ : World}

/-- The steps of a run are never overdrawn. -/
theorem Reached.length_le {history : List Occurrence} {s : Session} {w : World}
    (h : Reached cfg engine request w₀ history s w) : history.length ≤ cfg.budget.toNat := by
  cases h with
  | origin => exact Nat.zero_le _
  | next _ hleft _ =>
    rw [List.length_append, List.length_singleton]
    omega

/-- The steps of a run are those of its history. -/
theorem Reached.steps_eq {history : List Occurrence} {s : Session} {w : World}
    (h : Reached cfg engine request w₀ history s w) :
    s.steps = history.map Occurrence.step := by
  induction h with
  | origin => rfl
  | next _ _ ha ih => rw [ha.steps_eq, ih, List.map_append, List.map_singleton]

/-- There are as many steps as things that happened. -/
theorem Reached.length_steps {history : List Occurrence} {s : Session} {w : World}
    (h : Reached cfg engine request w₀ history s w) : s.steps.length = history.length := by
  rw [h.steps_eq, List.length_map]

/-- So far the engine was asked once for every step. -/
theorem Reached.length_asked {history : List Occurrence} {s : Session} {w : World}
    (h : Reached cfg engine request w₀ history s w) : s.asked.length = history.length := by
  induction h with
  | origin => rfl
  | next _ _ ha ih =>
    rw [ha.asked_eq, Session.length_ask_asked, ih, List.length_append, List.length_singleton]

/-- The steps of a run are numbered from one. -/
theorem Reached.numbers {history : List Occurrence} {s : Session} {w : World}
    (h : Reached cfg engine request w₀ history s w) :
    s.steps.map Step.number = List.range' 1 s.steps.length := by
  induction h with
  | origin => rfl
  | @next history s s' w w' o _ _ ha ih =>
    rw [ha.steps_eq, List.map_append, ih, List.map_singleton, ha.number_eq, List.length_append,
      List.length_singleton, List.range'_concat, Session.nextNumber, Nat.one_mul, Nat.add_comm 1]

/-- A run comes to one point only with as many things that happened. -/
theorem Reached.unique {history history' : List Occurrence} {s s' : Session} {w w' : World}
    (h : Reached cfg engine request w₀ history s w)
    (h' : Reached cfg engine request w₀ history' s' w')
    (hlen : history.length = history'.length) : history = history' ∧ s = s' ∧ w = w' := by
  induction h generalizing history' s' w' with
  | origin =>
    cases h' with
    | origin => exact ⟨rfl, rfl, rfl⟩
    | next => simp at hlen
  | next _ _ ha ih =>
    cases h' with
    | origin => simp at hlen
    | next h' _ ha' =>
      obtain ⟨rfl, rfl, rfl⟩ := ih h' (by simpa using hlen)
      obtain ⟨rfl, rfl, rfl⟩ := ha.unique ha'
      exact ⟨rfl, rfl, rfl⟩

/-- A run tracks no name twice. -/
theorem Reached.distinct {history : List Occurrence} {s : Session} {w : World}
    (h : Reached cfg engine request w₀ history s w) : s.state.Distinct := by
  induction h with
  | origin => exact WorkflowState.distinct_empty.discoverAll _
  | next _ _ ha ih => exact ha.distinct ih

/-- Every occurrence in the history of a run was a turn of it, at the point before it. -/
theorem Reached.split {before after : List Occurrence} {o : Occurrence} {s : Session} {w : World}
    (h : Reached cfg engine request w₀ (before ++ o :: after) s w) :
    ∃ s₁ w₁ s₂ w₂, Reached cfg engine request w₀ before s₁ w₁ ∧
      before.length < cfg.budget.toNat ∧ Advance cfg engine s₁ w₁ o s₂ w₂ ∧
        Reached cfg engine request w₀ (before ++ [o]) s₂ w₂ := by
  generalize hh : before ++ o :: after = history at h
  induction h generalizing after with
  | origin =>
    exact absurd hh (List.append_ne_nil_of_right_ne_nil before (List.cons_ne_nil o after))
  | @next history s s' w w' o' hr hleft ha ih =>
    -- either the occurrence is the last one, or it is in the history before
    rcases List.eq_nil_or_concat after with rfl | ⟨rest, x, rfl⟩
    · obtain ⟨rfl, ho⟩ := List.append_inj' hh rfl
      obtain rfl : o = o' := by simpa using ho
      exact ⟨s, w, s', w', hr, hleft, ha, hr.next hleft ha⟩
    · have hcat : (before ++ o :: rest) ++ [x] = history ++ [o'] := by
        rw [← hh, List.concat_eq_append, List.append_assoc, List.cons_append]
      exact ih (List.append_inj' hcat rfl).1

/-- At a point a run comes to, the rest of the run is the loop from there. -/
theorem Reached.loop_eq {history : List Occurrence} {s : Session} {w : World}
    (h : Reached cfg engine request w₀ history s w) :
    (loop cfg engine cfg.budget.toNat (start request cfg.dryRun)).run w₀
      = (loop cfg engine (cfg.budget.toNat - history.length) s).run w := by
  induction h with
  | origin => rfl
  | @next history s s' w w' o _ hleft ha ih =>
    have hsucc : cfg.budget.toNat - history.length
        = cfg.budget.toNat - (history ++ [o]).length + 1 := by
      rw [List.length_append, List.length_singleton]
      omega
    rw [ih, hsucc, ha.loop_eq]

/-- Where the asking ends, the loop ends with that. -/
theorem Ends.loop_eq {history : List Occurrence} {s : Session} {w w' : World}
    {q : Except Failure (Session × Verdict)}
    (h : Ends cfg engine request w₀ history s w q w') :
    (loop cfg engine cfg.budget.toNat (start request cfg.dryRun)).run w₀ = (q, w') := by
  cases h with
  | exhausted h hfull =>
    rw [h.loop_eq, hfull, Nat.sub_self]
    rfl
  | halted h hleft hh =>
    obtain ⟨left, hsucc⟩ : ∃ left, cfg.budget.toNat - history.length = left + 1 :=
      ⟨cfg.budget.toNat - history.length - 1, by omega⟩
    rw [h.loop_eq, hsucc, hh.loop_eq]

/-- A run ends at a point it comes to. -/
theorem Ends.reached {history : List Occurrence} {s : Session} {w w' : World}
    {q : Except Failure (Session × Verdict)} (h : Ends cfg engine request w₀ history s w q w') :
    Reached cfg engine request w₀ history s w := by
  cases h with
  | exhausted h | halted h => exact h

/-- A last turn that ends with a verdict adds no step and does not change the tracked entities. -/
theorem Ends.last_eq {history : List Occurrence} {s last : Session} {v : Verdict} {w w' : World}
    (h : Ends cfg engine request w₀ history s w (.ok (last, v)) w') :
    last.steps = s.steps ∧ last.state = s.state := by
  cases h with
  | exhausted => exact ⟨rfl, rfl⟩
  | halted h hleft hh =>
    cases hh with
    | answered | interrupted | cut => exact ⟨rfl, rfl⟩

/-- A run that is completed tracks something and has finished all of it. -/
theorem Ends.isComplete_of_completed {history : List Occurrence} {s last : Session} {v : Verdict}
    {w w' : World} (h : Ends cfg engine request w₀ history s w (.ok (last, v)) w')
    (hs : status last v = .completed) :
    last.state.entities ≠ [] ∧ last.state.isComplete = true := by
  cases h with
  | exhausted h hfull =>
    simp only [status] at hs
    split at hs
    case isTrue hc => simpa using hc
    case isFalse => cases hs
  | halted h hleft hh =>
    cases hh with
    | answered hturn hfinal hdone =>
      simp only [status] at hs
      split at hs
      case isTrue => cases hs
      case isFalse hne => exact ⟨fun he => hne (by rw [he]; rfl), hdone⟩
    | interrupted | cut => cases hs

/-- From every point a run comes to, it goes on to its end. -/
private theorem ends_of_reached (left : Nat) {history : List Occurrence} {s : Session} {w : World}
    (h : Reached cfg engine request w₀ history s w)
    (hleft : history.length + left = cfg.budget.toNat) :
    ∃ history' s' w' q w'', Ends cfg engine request w₀ history' s' w' q w'' := by
  -- induction on the steps that are left
  induction left generalizing history s w with
  | zero => exact ⟨_, _, _, _, _, .exhausted h hleft⟩
  | succ left ih =>
    have hlt : history.length < cfg.budget.toNat := by omega
    rcases advance_or_halts cfg engine s w with ⟨o, s', w', ha⟩ | ⟨q, w', hh⟩
    · refine ih (h.next hlt ha) ?_
      rw [List.length_append, List.length_singleton]
      omega
    · exact ⟨_, _, _, _, _, .halted h hlt hh⟩

/-- **Every run ends.** The loop of a run is a path of turns to its end, and its result is the one
the end says. -/
theorem loop_ends {q : Except Failure (Session × Verdict)} {w' : World}
    (h : (loop cfg engine cfg.budget.toNat (start request cfg.dryRun)).run w₀ = (q, w')) :
    ∃ history s w, Ends cfg engine request w₀ history s w q w' := by
  have h₀ : Reached cfg engine request w₀ [] (start request cfg.dryRun) w₀ := .origin
  obtain ⟨history, s, w, q', w'', hend⟩ :=
    ends_of_reached cfg.budget.toNat h₀ (Nat.zero_add _)
  -- the loop has one result, so the path ends in the given one
  have heq := hend.loop_eq.symm.trans h
  cases heq
  exact ⟨history, s, w, hend⟩

/-- The loop of a run has a result exactly when a path of turns ends in it. -/
theorem loop_iff_ends {q : Except Failure (Session × Verdict)} {w' : World} :
    (loop cfg engine cfg.budget.toNat (start request cfg.dryRun)).run w₀ = (q, w') ↔
      ∃ history s w, Ends cfg engine request w₀ history s w q w' := by
  constructor
  · exact loop_ends
  · rintro ⟨_, _, _, hend⟩
    exact hend.loop_eq

/-- A run with a step to spend is its loop, and then the report. -/
theorem perform_run (hb : 1 ≤ cfg.budget) (id : Text) :
    (perform cfg engine id request).run w₀ =
      match (loop cfg engine cfg.budget.toNat (start request cfg.dryRun)).run w₀ with
      | (.ok (s, v), w') => (.ok (report cfg id request s v, s), w')
      | (.error f, w') => (.error f, w') := by
  have hlt : ¬ cfg.budget < 1 := by omega
  rw [perform, if_neg hlt, Effect.run_bind]
  rcases (loop cfg engine cfg.budget.toNat (start request cfg.dryRun)).run w₀ with ⟨f | ⟨s, v⟩, w'⟩
  · rfl
  · rfl

/-- A run with a step to spend is reported exactly when its path of turns ends with a verdict. -/
theorem perform_ok_iff (hb : 1 ≤ cfg.budget) {id : Text} {result : RunReport} {last : Session}
    {w' : World} :
    (perform cfg engine id request).run w₀ = (.ok (result, last), w') ↔
      ∃ history s w v, Ends cfg engine request w₀ history s w (.ok (last, v)) w' ∧
        result = report cfg id request last v := by
  rw [perform_run hb]
  constructor
  · intro h
    rcases hl : (loop cfg engine cfg.budget.toNat (start request cfg.dryRun)).run w₀ with
      ⟨f | ⟨s', v⟩, w₁⟩
    all_goals rw [hl] at h
    · cases h
    · cases h
      obtain ⟨history, s, w, hend⟩ := loop_ends hl
      exact ⟨history, s, w, v, hend, rfl⟩
  · rintro ⟨_, _, _, v, hend, rfl⟩
    rw [hend.loop_eq]

/-- A run with a step to spend fails exactly when its path of turns ends with the failure. -/
theorem perform_error_iff (hb : 1 ≤ cfg.budget) {id : Text} {f : Failure} {w' : World} :
    (perform cfg engine id request).run w₀ = (.error f, w') ↔
      ∃ history s w, Ends cfg engine request w₀ history s w (.error f) w' := by
  rw [perform_run hb, ← loop_iff_ends]
  rcases (loop cfg engine cfg.budget.toNat (start request cfg.dryRun)).run w₀ with ⟨g | ⟨s, v⟩, w₁⟩
  · constructor
    · intro h
      cases h
      rfl
    · intro h
      cases h
      rfl
  · constructor
    · intro h
      cases h
    · intro h
      cases h

/-- A run without a step to spend is turned down before anything happens. -/
theorem perform_of_budget_lt (hb : cfg.budget < 1) (id : Text) :
    (perform cfg engine id request).run w₀ = (.error (.badValue .budget), w₀) := by
  rw [perform, if_pos hb]
  rfl

/-- A run that is reported had a step to spend. -/
theorem one_le_budget_of_perform_ok {id : Text} {result : RunReport} {last : Session} {w' : World}
    (h : (perform cfg engine id request).run w₀ = (.ok (result, last), w')) : 1 ≤ cfg.budget := by
  by_contra hb
  rw [perform_of_budget_lt (by omega)] at h
  cases h

end Course

/-! ## A small run -/

end Run

/-- Runs of a project at the root with a single step to spend and no commands configured. -/
def RunConfig.single (dryRun : Bool) : RunConfig :=
  { root := [], budget := 1, limit := none, maxObservation := 1000, dryRun
    generateCommand := [], labelFlag := [], applyCommand := [] }

/-- A world without files and processes. -/
def World.bare : World := { tree := ⟨[]⟩, script := [], spawned := [] }

/-- An engine that answers every time. -/
def Engine.answering : Engine := fun _ => .ok { text := some "done", call := none }

/-- A call to read a file, which a bare world does not have. -/
def ToolCall.reading : ToolCall :=
  { id := .str "call_1", name := .str "read_file", arguments := .str "\x7b\"path\":\"a.txt\"\x7d" }

/-- What an engine replies that proposes this call. -/
def Reply.reading : Reply := { text := none, call := some .reading }

end Tablewright
