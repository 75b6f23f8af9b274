/-
What a correction tells of the work that remains.

A final answer is turned down as long as a tracked entity lacks a stage, and the text it is answered
by is made of `WorkflowState.incomplete`. At every point a run comes to, the tracked names are
canonical, so they hold neither colons nor line ends and the text is read back as exactly these rows
(`Wording.rows?_correction`).

What the rows list is the work that remains in two senses. They name the entities that lack a stage,
in the order of tracking, each with the stages it lacks (`WorkflowState.incomplete_eq`). And stages
that are completed one after another finish the state exactly when every listed stage is among them
(`WorkflowState.Distinct.isComplete_completeAll_iff`), which rests on no name being tracked twice.
-/
import Tablewright.Proofs.Conversation.Correction
import Tablewright.Proofs.Run.Ending
import Tablewright.Proofs.Run.Reachable

set_option autoImplicit false

namespace Tablewright

/-! ## Entities that lack a stage -/

namespace Progress

/-- Whether an entity lacks a stage. -/
def isOpen (p : Progress) : Bool := Stage.all.any fun s => !p.has s

theorem isOpen_iff (p : Progress) : p.isOpen = true ↔ ∃ s, p.has s = false := by
  simp [isOpen, Stage.mem_all]

/-- A row tells of an entity: it names it, and it lists exactly the stages that it lacks, in their
order. -/
structure IsToldBy (p : Progress) (row : Text × List Stage) : Prop where
  /-- The row has the name. -/
  name : row.1 = p.entity.name
  /-- The stages stand in their order, none of them twice. -/
  ordered : row.2.Sublist Stage.all
  /-- They are the stages that are not completed. -/
  lacks : ∀ s, s ∈ row.2 ↔ p.has s = false

theorem isToldBy_missing (p : Progress) : p.IsToldBy (p.entity.name, p.missing) where
  name := rfl
  ordered := List.filter_sublist
  lacks := p.mem_missing_iff

end Progress

/-! ## The list of the remaining work -/

/-- The stages that rows list, each with the name it is listed for. -/
def worklist (rows : List (Text × List Stage)) : List (Text × Stage) :=
  rows.flatMap fun row => row.2.map fun s => (row.1, s)

theorem mem_worklist_iff {rows : List (Text × List Stage)} {n : Text} {s : Stage} :
    (n, s) ∈ worklist rows ↔ ∃ row ∈ rows, row.1 = n ∧ s ∈ row.2 := by
  simp only [worklist, List.mem_flatMap, List.mem_map, Prod.mk.injEq]
  constructor
  · rintro ⟨row, hrow, t, ht, hn, rfl⟩
    exact ⟨row, hrow, hn, ht⟩
  · rintro ⟨row, hrow, hn, hs⟩
    exact ⟨row, hrow, s, hs, hn, rfl⟩

namespace WorkflowState

variable {st st' : WorkflowState}

/-- The entities that are not finished are the open ones, in the order of tracking. -/
theorem incomplete_eq (st : WorkflowState) :
    st.incomplete
      = (st.entities.filter Progress.isOpen).map fun p => (p.entity.name, p.missing) := by
  rw [incomplete, List.filter_map]
  refine congrArg _ (List.filter_congr fun p _ => ?_)
  rw [Bool.eq_iff_iff, p.isOpen_iff, Function.comp_apply, Bool.not_eq_true',
    List.isEmpty_eq_false_iff_exists_mem]
  exact exists_congr p.mem_missing_iff

/-- What is listed is what tracked names lack. -/
theorem Distinct.mem_worklist_incomplete_iff (h : st.Distinct) {n : Text} {s : Stage} :
    (n, s) ∈ worklist st.incomplete ↔ n ∈ st.names ∧ st.has n s = false := by
  rw [mem_worklist_iff, incomplete_eq]
  constructor
  · rintro ⟨row, hrow, rfl, hs⟩
    obtain ⟨p, hp, rfl⟩ := List.mem_map.mp hrow
    have hmem := List.mem_of_mem_filter hp
    exact ⟨List.mem_map_of_mem hmem, by rw [h.has_eq hmem, ← p.mem_missing_iff]; exact hs⟩
  · rintro ⟨hn, hs⟩
    obtain ⟨p, hp, rfl⟩ := List.mem_map.mp hn
    rw [h.has_eq hp] at hs
    have hopen : p.isOpen = true := p.isOpen_iff.mpr ⟨s, hs⟩
    exact ⟨_, List.mem_map_of_mem (List.mem_filter.mpr ⟨hp, hopen⟩), rfl,
      (p.mem_missing_iff s).mpr hs⟩

/-- A state that tracks no name twice is finished exactly when every tracked name has every
stage. -/
theorem Distinct.isComplete_iff_has (h : st.Distinct) :
    st.isComplete = true ↔ ∀ n ∈ st.names, ∀ s, st.has n s = true := by
  rw [isComplete_iff, names, List.forall_mem_map]
  refine forall₂_congr fun p hp => forall_congr' fun s => ?_
  rw [h.has_eq hp]

theorem isComplete_eq_false_iff (st : WorkflowState) :
    st.isComplete = false ↔ ∃ p ∈ st.entities, ∃ s, p.has s = false := by
  rw [Bool.eq_false_iff, ne_eq, isComplete_iff]
  simp

/-- **The remaining work.** Stages that are completed one after another finish a state exactly when
all that is listed is among them. -/
theorem Distinct.isComplete_completeAll_iff (h : st.Distinct) {cs : List (Text × Stage)}
    (hc : st.completeAll cs = .ok st') :
    st'.isComplete = true ↔ ∀ c ∈ worklist st.incomplete, c ∈ cs := by
  have hnames := names_completeAll hc
  have h' : st'.Distinct := by rw [Distinct, hnames]; exact h
  rw [h'.isComplete_iff_has, hnames]
  constructor
  · rintro hall ⟨n, s⟩ hlisted
    obtain ⟨hn, hs⟩ := h.mem_worklist_incomplete_iff.mp hlisted
    rcases (has_completeAll_iff hc n s).mp (hall n hn s) with hold | hin
    · rw [hs] at hold
      cases hold
    · exact hin
  · intro hcover n hn s
    refine (has_completeAll_iff hc n s).mpr ?_
    by_cases hs : st.has n s = true
    · exact .inl hs
    · exact .inr (hcover _ (h.mem_worklist_incomplete_iff.mpr ⟨hn, Bool.eq_false_iff.mpr hs⟩))

/-- What is listed can be completed, and this finishes the state. -/
theorem Distinct.completeAll_worklist (h : st.Distinct) :
    ∃ st', st.completeAll (worklist st.incomplete) = .ok st' ∧ st'.isComplete = true := by
  obtain ⟨st', hc⟩ := completeAll_ok_of_tracked st (worklist st.incomplete) fun c hlisted =>
    (h.mem_worklist_incomplete_iff.mp hlisted).1
  exact ⟨st', hc, (h.isComplete_completeAll_iff hc).mpr fun _ hlisted => hlisted⟩

/-- A canonical name can be told from a text around it. -/
theorem Sound.isPlain (h : st.Sound) {row : Text × List Stage} (hrow : row ∈ st.incomplete) :
    Wording.IsPlain row := by
  obtain ⟨hmem, hopen⟩ := List.mem_filter.mp hrow
  obtain ⟨p, hp, rfl⟩ := List.mem_map.mp hmem
  have hcanonical : Naming.canonical p.entity.name = p.entity.name :=
    h.canonical _ (List.mem_map_of_mem hp)
  have hmade : ∀ c ∈ p.entity.name, c.isNameLetter = true ∨ c = CodePoint.ofChar '_' := fun c hc =>
    Naming.mem_canonical (hcanonical.symm ▸ hc)
  refine ⟨fun hc => ?_, fun hc => ?_, by simpa using hopen⟩
  · exact absurd (hmade _ hc) (by decide)
  · exact absurd (hmade _ hc) (by decide)

/-! ## What a text tells -/

/-- A text tells what remains in a state: the rows that are read in it are those of the entities
that lack a stage, and what they list is what has to be done. -/
structure IsToldBy (st : WorkflowState) (text : Text) (rows : List (Text × List Stage)) : Prop where
  /-- The text is read as the rows. -/
  read : Wording.rows? text = some rows
  /-- Between its first line and its last one it has exactly one line for each row, in their order,
  and no other row is written so. -/
  lines : ∃ body, Text.splitOn '\n' text
      = Wording.opensCorrection :: body ++ [Wording.closesCorrection] ∧
    List.Forall₂ (fun line row => ∀ other, Wording.remainingLine other = line ↔ other = row)
      body rows
  /-- There is one row for each entity that lacks a stage, in the order of tracking, and it tells
  the name of the entity and the stages it lacks. -/
  entities : List.Forall₂ Progress.IsToldBy (st.entities.filter Progress.isOpen) rows
  /-- No row has the name of an entity that is finished. -/
  finished : ∀ p ∈ st.entities, (∀ s, p.has s = true) → ∀ row ∈ rows, row.1 ≠ p.entity.name
  /-- Completing exactly what is listed finishes the state. -/
  enough : ∃ st', st.completeAll (worklist rows) = .ok st' ∧ st'.isComplete = true
  /-- Whatever stages are completed, they finish the state exactly when nothing that is listed is
  left out. -/
  needed : ∀ cs st', st.completeAll cs = .ok st' →
    (st'.isComplete = true ↔ ∀ c ∈ worklist rows, c ∈ cs)

/-- The correction of a sound state tells what remains in it. -/
theorem Sound.isToldBy (h : st.Sound) :
    st.IsToldBy (Wording.correction st.incomplete) st.incomplete where
  read := Wording.rows?_correction fun _ hrow => h.isPlain hrow
  lines := by
    refine ⟨_, Wording.splitOn_correction fun _ hrow => (h.isPlain hrow).no_newline, ?_⟩
    rw [List.forall₂_map_left_iff, List.forall₂_same]
    exact fun row hrow other => Wording.remainingLine_eq_iff (h.isPlain hrow)
  entities := by
    rw [incomplete_eq, List.forall₂_map_right_iff, List.forall₂_same]
    exact fun p _ => p.isToldBy_missing
  finished p hp hdone row hrow hname := by
    -- a stage that is listed for the name is one that the entity lacks
    obtain ⟨s, hs⟩ := List.exists_mem_of_ne_nil _ (h.isPlain hrow).remains
    obtain ⟨-, hlacks⟩ := h.distinct.mem_worklist_incomplete_iff.mp
      (mem_worklist_iff.mpr ⟨row, hrow, hname, hs⟩)
    rw [h.distinct.has_eq hp, hdone s] at hlacks
    cases hlacks
  enough := h.distinct.completeAll_worklist
  needed _ _ hc := h.distinct.isComplete_completeAll_iff hc

end WorkflowState

namespace Run

variable {cfg : RunConfig} {engine : Engine} {request : Text} {w₀ w : World}
  {history : List Occurrence} {s : Session}

/-! ## Final answers that come too early -/

/-- A final answer is turned down at a point of a run: the run goes on from it with a failed step
that holds a text, the answer and the text stand at the end of the conversation, and what is tracked
stays as it is. -/
structure TurnsDown (cfg : RunConfig) (engine : Engine) (request : Text) (w₀ : World)
    (history : List Occurrence) (s : Session) (w : World) (reply : Reply) (text : Text)
    (step : Step) (s' : Session) : Prop where
  /-- The run comes to the point behind the answer. -/
  reached : Reached cfg engine request w₀ (history ++ [.corrected reply step]) s' w
  /-- The step is recorded. -/
  steps : s'.steps = s.steps ++ [step]
  /-- It is a failed one, and its output is the text. -/
  step : step = { number := s.nextNumber, tool := .str finalAnswerStep
                  input := .obj [("text", Json.ofText? reply.text)], ok := false, output := text
                  errorKind := some incompleteKind }
  /-- The answer and the text are put to the conversation. -/
  messages : s'.messages = s.messages ++ [reply.message, .user text]
  /-- Nothing that is tracked changes. -/
  state : s'.state = s.state

/-- A final answer at a point of a run that is not finished is turned down, with the text for what
is tracked there. -/
theorem turnsDown_of_open {reply : Reply} (h : Reached cfg engine request w₀ history s w)
    (hleft : history.length < cfg.budget.toNat) (hturn : engine s.asked.length = .ok reply)
    (hfinal : reply.call = none) (hopen : s.state.isComplete = false) :
    TurnsDown cfg engine request w₀ history s w reply (Wording.correction s.state.incomplete)
      (correctedStep s.nextNumber s.state reply) (correct s.ask reply) where
  reached := h.next hleft (.corrected hturn hfinal hopen)
  steps := rfl
  step := rfl
  messages := rfl
  state := rfl

/-- Whenever a final answer is turned down, something is not finished, and the text is the one for
what is tracked. -/
theorem TurnsDown.inv {reply : Reply} {text : Text} {step : Step} {s' : Session}
    (h : TurnsDown cfg engine request w₀ history s w reply text step s')
    (hr : Reached cfg engine request w₀ history s w) :
    s.state.isComplete = false ∧ text = Wording.correction s.state.incomplete := by
  have hlast : Reached cfg engine request w₀ (history ++ .corrected reply step :: []) s' w :=
    h.reached
  obtain ⟨s₁, w₁, s₂, w₂, hbefore, -, ha, -⟩ := hlast.split
  obtain ⟨-, rfl, rfl⟩ := hbefore.unique hr rfl
  have hstep := h.step
  cases ha with
  | corrected hturn hfinal hopen => exact ⟨hopen, (congrArg Step.output hstep).symm⟩

/-- **A correction names the remaining work.** At every point of a run at which the engine gives a
final answer, the answer is turned down exactly when a tracked entity lacks a stage, and the run
ends with it exactly when none does. The text by which it is turned down tells exactly what
remains. -/
theorem correction_tells_remaining {reply : Reply}
    (h : Reached cfg engine request w₀ history s w) (hleft : history.length < cfg.budget.toNat)
    (hturn : engine s.asked.length = .ok reply) (hfinal : reply.call = none) :
    ((∃ text step s', TurnsDown cfg engine request w₀ history s w reply text step s') ↔
      ∃ p ∈ s.state.entities, ∃ stage, p.has stage = false) ∧
    (Ends cfg engine request w₀ history s w (.ok (s.ask, .answered reply.text)) w ↔
      ∀ p ∈ s.state.entities, ∀ stage, p.has stage = true) ∧
    ∀ text step s', TurnsDown cfg engine request w₀ history s w reply text step s' →
      ∃ rows, s.state.IsToldBy text rows := by
  refine ⟨⟨?_, fun hlacks => ?_⟩, ⟨fun hend => ?_, fun hall => ?_⟩, ?_⟩
  · rintro ⟨text, step, s', hdown⟩
    exact s.state.isComplete_eq_false_iff.mp (hdown.inv h).1
  · have hopen := s.state.isComplete_eq_false_iff.mpr hlacks
    exact ⟨_, _, _, turnsDown_of_open h hleft hturn hfinal hopen⟩
  · rcases hend.verdict_cases with ⟨-, -, hv⟩ | ⟨-, -, ⟨-, hv⟩ | ⟨_, ⟨-, -, hall⟩, -⟩⟩
    · cases hv
    · cases hv
    · exact hall
  · exact .halted h hleft (.answered hturn hfinal (s.state.isComplete_iff.mpr hall))
  · intro text step s' hdown
    obtain ⟨deeds, hreachable⟩ := h.reachable
    rw [(hdown.inv h).2]
    exact ⟨_, hreachable.sound.isToldBy⟩

/-! ## A run that stops too early -/

/-- The stages after the schema, as they are listed. -/
def laterStages : Text :=
  "migration_generated, migration_applied, endpoint_written, hook_written"

/-- An engine that creates one schema and is done. -/
def hastyEngine : Engine
  | 0 => .ok { text := none, call := some respelledCall }
  | _ => .ok { text := some "done", call := none }

/-- Of two entities that were found one has its schema when the engine is done: the answer is turned
down, and the text names all stages of the other one and what this one lacks. -/
theorem correction_tells_remaining_of_hasty : ∃ history s w,
    Reached twoSteps hastyEngine hastyRequest .bare history s w ∧
      history.length = 1 ∧ ∃ text step s',
        TurnsDown twoSteps hastyEngine hastyRequest .bare history s w
          { text := some "done", call := none } text step s' ∧
        Text.splitOn '\n' text = ([
          "The workflow is not complete yet. Remaining stages:",
          "- popular_albums: schema_written, " ++ laterStages,
          "- favorite_songs: " ++ laterStages,
          "Continue with the next tool call."] : List Text) ∧
        ∃ rows, s.state.IsToldBy text rows := by
  have h₀ : Reached twoSteps hastyEngine hastyRequest .bare []
    (start hastyRequest true) .bare := .origin
  -- the call is carried out once
  have hstate : (stateAfter twoSteps respelledCall (start hastyRequest true).state 1
      .bare).incomplete = [(Text.ofString "popular_albums", Stage.all),
        (Text.ofString "favorite_songs", Stage.all.tail)] := by decide +kernel
  rcases stateAfter_cases twoSteps respelledCall (start hastyRequest true).state 1 .bare with
    ⟨_, arguments, o, w, -, hrun, -, -⟩ | ⟨-, hsame⟩
  · have hcalled : hastyEngine (start hastyRequest true).asked.length
        = .ok { text := none, call := some respelledCall } := rfl
    obtain ⟨occurrence, s, ha, hs⟩ := exists_advance_of_outcome hcalled rfl hrun
    have h₁ := h₀.next (by decide) ha
    have hincomplete := hs ▸ hstate
    have hopen : s.state.isComplete = false := by
      rw [WorkflowState.isComplete, hincomplete]
      rfl
    have hasked : s.asked.length = 1 := h₁.length_asked
    have hturn : hastyEngine s.asked.length = .ok { text := some "done", call := none } := by
      rw [hasked]
      rfl
    obtain ⟨hdown, -, htells⟩ := correction_tells_remaining h₁ Nat.one_lt_two hturn rfl
    obtain ⟨text, step, s', hd⟩ := hdown.mpr (s.state.isComplete_eq_false_iff.mp hopen)
    refine ⟨_, s, w, h₁, rfl, text, step, s', hd, ?_, htells text step s' hd⟩
    rw [(hd.inv h₁).2, hincomplete]
    decide +kernel
  · -- a call without an outcome would have left both entities without a stage
    rw [hsame] at hstate
    exact absurd hstate (by decide +kernel)

end Run

end Tablewright
