/-
A dry run is a faithful preview.

The same calls are carried out twice, once really and once dry, from one state and in any two
worlds. As long as the real calls meet no failed write and every process they set out to start is
started and ends well, the two states agree after every call, and every call of a tool that emits artifacts shows in the dry run exactly what is
handed over to be written in the real one (`dry_run_previews`).

Reading, writing and editing single files may well succeed in one of the two and fail in the other;
the induction gets past these calls because nothing is learnt from them. A failure that no step
answers leaves the state as it was, here as in a run.

A dry run cannot know whether a process would be started at all, so that has to be asked of the real
calls, beside the status of those that are (`dry_run_departs_without_program`).
-/
import Tablewright.Proofs.Run.Course
import Tablewright.Proofs.Tool.Preview

set_option autoImplicit false

namespace Tablewright

/-- The same run as a dry one. -/
def RunConfig.dry (cfg : RunConfig) : RunConfig := { cfg with dryRun := true }

namespace Run

/-! ## Sequences of calls -/

/-- The state that is left when a call was carried out in a state. -/
def stateOf (st : WorkflowState) : Except Failure Executed → WorkflowState
  | .ok done => done.state
  | .error _ => st

/-- Carry out calls one after another, numbered from a number on, and say which state and which
world are left. -/
def carryOut (cfg : RunConfig) : List ToolCall → Nat → WorkflowState × World → WorkflowState × World
  | [], _, p => p
  | call :: rest, n, (st, w) =>
    let (result, w') := (executeTool cfg call st n).run w
    carryOut cfg rest (n + 1) (stateOf st result, w')

/-- The first call is carried out, and the others in the state and the world it left. -/
theorem carryOut_cons (cfg : RunConfig) (call : ToolCall) (rest : List ToolCall) (n : Nat)
    (st : WorkflowState) (w : World) :
    carryOut cfg (call :: rest) n (st, w)
      = carryOut cfg rest (n + 1) (stateOf st ((executeTool cfg call st n).run w).1,
          ((executeTool cfg call st n).run w).2) := rfl

/-! ## The state after one call -/

/-- What a state becomes by what came of a tool. -/
def learn (st : WorkflowState) : Except Failure Outcome → WorkflowState
  | .ok o => (o.apply st).toOption.getD st
  | .error _ => st

/-- Outcomes that teach the same lead from one state to one state. -/
theorem learn_eq {st : WorkflowState} {o o' : Outcome} (h : o.SameLesson o') :
    learn st (.ok o) = learn st (.ok o') := by
  rw [learn, learn, h.apply_eq]

/-- From a tool that teaches nothing nothing is learnt, whatever came of it. -/
theorem learn_of_idle (ctx : ToolContext) {input : ToolInput} (hidle : input.isIdle = true)
    (w : World) : learn ctx.state ((Tool.handle ctx input).run w).1 = ctx.state := by
  rcases hrun : (Tool.handle ctx input).run w with ⟨f | o, w'⟩
  · rfl
  · cases Tool.handle_lesson hrun with
    | nothing _ hdis hdef hcom _ =>
      have hsame : o.SameLesson (Outcome.success o.message o.data) := ⟨hdis, hdef, hcom⟩
      exact learn_eq hsame
    | request | schema | schemas | generated | applied | endpoint | hook => cases hidle

section Calls

variable {cfg : RunConfig} {call : ToolCall}

/-- A call whose tool is not found or whose arguments are turned down leaves the state as it was. -/
theorem stateOf_of_unread {st : WorkflowState}
    (h : ∀ tool arguments, findTool call.name = .ok tool →
      tool.parse call.arguments ≠ .ok arguments)
    (n : Nat) (w : World) : stateOf st ((executeTool cfg call st n).run w).1 = st := by
  rcases hx : (executeTool cfg call st n).run w with ⟨q, w'⟩
  rcases executeTool_cases hx with ⟨arguments, outcome, hp, -⟩ | ⟨_, _, _, -, -, hfail⟩ |
    ⟨_, -, -, rfl⟩
  · obtain ⟨tool, hfind, hparse, -⟩ := performCall_ok_iff.mp hp
    exact absurd hparse (h tool arguments hfind)
  · cases q with
    | error _ => rfl
    | ok done =>
      obtain ⟨_, -, rfl⟩ := failedCall_ok_iff.mp hfail
      rfl
  · rfl

/-- A call whose tool is found and whose arguments are accepted leaves the state that is learnt from
the tool. -/
theorem stateOf_executeTool {st : WorkflowState} {tool : ToolName} {arguments : Members}
    (hfind : findTool call.name = .ok tool) (hparse : tool.parse call.arguments = .ok arguments)
    (n : Nat) (w : World) :
    stateOf st ((executeTool cfg call st n).run w).1
      = learn st ((Tool.handle (cfg.context st) (ToolInput.ofMembers arguments tool)).run w).1 := by
  rcases hh : (Tool.handle (cfg.context st) (ToolInput.ofMembers arguments tool)).run w with
    ⟨f | o, w₁⟩
  · have hperform : (performCall cfg call st).run w = (.error f, w₁) :=
      performCall_error_iff.mpr (.inr ⟨tool, hfind, .inr ⟨arguments, hparse, hh⟩⟩)
    rcases hx : (executeTool cfg call st n).run w with ⟨q, w'⟩
    rcases executeTool_cases hx with ⟨_, _, hp, -⟩ | ⟨_, _, _, -, -, hfail⟩ | ⟨_, -, -, rfl⟩
    · rw [hperform] at hp
      cases hp
    · cases q with
      | error _ => rfl
      | ok done =>
        obtain ⟨_, -, rfl⟩ := failedCall_ok_iff.mp hfail
        rfl
    · rfl
  · have hperform : (performCall cfg call st).run w = (.ok (arguments, o), w₁) :=
      performCall_ok_iff.mpr ⟨tool, hfind, hparse, hh⟩
    obtain ⟨st', happly⟩ := (Tool.handle_lesson hh).apply_ok
    have happly' : o.apply st = .ok st' := happly
    rw [executeTool_run, hperform]
    dsimp only
    rw [finishedCall, learn, happly']
    rfl

/-! ## A real call and a dry one -/

/-- Everything goes well in a call: if its tool is found and its arguments are accepted, every
artifact it comes to emit can be written, and the process it sets out to start is started, ends with
status zero and is read. -/
def SmoothCall (cfg : RunConfig) (call : ToolCall) (st : WorkflowState) (w : World) : Prop :=
  ∀ tool arguments, findTool call.name = .ok tool → tool.parse call.arguments = .ok arguments →
    Tool.Smooth (cfg.context st) (ToolInput.ofMembers arguments tool) w

/-- The dry run previews a call: if its tool emits artifacts, it succeeds in both runs or in none,
and its dry outcome shows what is handed over to be written. -/
def PreviewedCall (cfg : RunConfig) (call : ToolCall) (st : WorkflowState) (w v : World) : Prop :=
  ∀ tool arguments, findTool call.name = .ok tool → tool.parse call.arguments = .ok arguments →
    (ToolInput.ofMembers arguments tool).emits = true →
      Tool.Agree (cfg.context st) (ToolInput.ofMembers arguments tool) w v
        (Tool.Previewed (cfg.context st) (ToolInput.ofMembers arguments tool) w)

/-- A smooth call is previewed, whatever the world of the dry run. -/
theorem SmoothCall.previewed (hreal : cfg.dryRun = false) {st : WorkflowState} {w : World}
    (h : SmoothCall cfg call st w) (v : World) : PreviewedCall cfg call st w v := by
  intro tool arguments hfind hparse hemits
  exact Tool.emits_agree hreal hemits (h tool arguments hfind hparse).writable v

/-- A smooth call leaves the same state in both runs. -/
theorem SmoothCall.stateOf_eq (hreal : cfg.dryRun = false) {st : WorkflowState} {w : World}
    (h : SmoothCall cfg call st w) (n : Nat) (v : World) :
    stateOf st ((executeTool cfg call st n).run w).1
      = stateOf st ((executeTool cfg.dry call st n).run v).1 := by
  by_cases hread : ∃ tool arguments, findTool call.name = .ok tool ∧
      tool.parse call.arguments = .ok arguments
  · obtain ⟨tool, arguments, hfind, hparse⟩ := hread
    rw [stateOf_executeTool hfind hparse, stateOf_executeTool hfind hparse]
    -- either nothing can be learnt from the tool, or both runs learn the same
    cases hidle : (ToolInput.ofMembers arguments tool).isIdle with
    | true =>
      have hr := learn_of_idle (cfg.context st) hidle w
      have hd := learn_of_idle (cfg.dry.context st) hidle v
      exact hr.trans hd.symm
    | false =>
      have hctx : (cfg.context st).dryRun = false := hreal
      cases Tool.handle_agree hctx hidle (h tool arguments hfind hparse) v with
      | done hr hd hlesson =>
        have hd' : (Tool.handle (cfg.dry.context st) (ToolInput.ofMembers arguments tool)).run v
            = _ := hd
        rw [hr, hd']
        exact learn_eq hlesson
      | failed hr hd =>
        have hd' : (Tool.handle (cfg.dry.context st) (ToolInput.ofMembers arguments tool)).run v
            = _ := hd
        rw [hr, hd']
  · have hnone : ∀ tool arguments, findTool call.name = .ok tool →
        tool.parse call.arguments ≠ .ok arguments := by
      intro tool arguments hfind hparse
      exact hread ⟨tool, arguments, hfind, hparse⟩
    rw [stateOf_of_unread hnone, stateOf_of_unread hnone]

end Calls

/-! ## Faithful previews -/

/-- **A dry run is a faithful preview.** The same calls are carried out from one state, really in
one world and dry in another. If everything goes well in every real call, every process it sets out to start being
started included, then after each of the
calls the two states are the same, and every call of a tool that emits artifacts shows in the dry
run, in order, exactly the paths and contents that are handed over to be written in the real one. -/
theorem dry_run_previews {cfg : RunConfig} (hreal : cfg.dryRun = false) (st : WorkflowState)
    (w v : World) (n : Nat) (calls : List ToolCall)
    (hsmooth : ∀ before call after, calls = before ++ call :: after →
      SmoothCall cfg call (carryOut cfg before n (st, w)).1 (carryOut cfg before n (st, w)).2) :
    ∀ before after, calls = before ++ after →
      (carryOut cfg before n (st, w)).1 = (carryOut cfg.dry before n (st, v)).1 ∧
      ∀ call rest, after = call :: rest →
        PreviewedCall cfg call (carryOut cfg before n (st, w)).1 (carryOut cfg before n (st, w)).2
          (carryOut cfg.dry before n (st, v)).2 := by
  intro before
  induction before generalizing st w v n calls with
  | nil =>
    intro after hcalls
    refine ⟨rfl, ?_⟩
    rintro call rest rfl
    exact (hsmooth [] call rest hcalls).previewed hreal v
  | cons first before ih =>
    rintro after rfl
    -- the first call leaves one state in both runs, and the others start from it
    have hfirst : SmoothCall cfg first st w := hsmooth [] first (before ++ after) rfl
    have hstate := hfirst.stateOf_eq hreal n v
    have hrest : ∀ earlier call later, before ++ after = earlier ++ call :: later →
        SmoothCall cfg call (carryOut cfg (first :: earlier) n (st, w)).1
          (carryOut cfg (first :: earlier) n (st, w)).2 := by
      intro earlier call later heq
      exact hsmooth (first :: earlier) call later (by rw [List.cons_append, heq, List.cons_append])
    simp only [carryOut_cons] at hrest ⊢
    rw [← hstate]
    exact ih _ _ _ (n + 1) (before ++ after) hrest after rfl

/-! ## Smooth calls by computation -/

/-- Whether a process ends with status zero and is read. -/
def endsWell : ProcessEvent → Bool
  | .ended status _ _ => status = 0
  | _ => false

/-- Whether a command that is needed is started and ends well. -/
def commandEndsWell (ctx : ToolContext) (w : World) : Option Tool.NeededCommand → Bool
  | none => true
  | some u =>
    match u.words with
    | .error _ => true
    | .ok words => (Tool.process ctx words).flaw?.isNone && endsWell w.upcoming

/-- Whether everything goes well in a call, found out by trying every write. -/
def isSmooth (cfg : RunConfig) (call : ToolCall) (st : WorkflowState) (w : World) : Bool :=
  match findTool call.name with
  | .error _ => true
  | .ok tool =>
    match tool.parse call.arguments with
    | .error _ => true
    | .ok arguments =>
      let ctx := cfg.context st
      let input := ToolInput.ofMembers arguments tool
      ((Tool.emissions ctx input w).all fun e =>
          ((Project.writeArtifact ctx.root e.1).run e.2.tree).1.toBool) &&
        commandEndsWell ctx w (Tool.neededCommand ctx input)

/-- What is found out is so. -/
theorem smoothCall_of_isSmooth {cfg : RunConfig} {call : ToolCall} {st : WorkflowState} {w : World}
    (h : isSmooth cfg call st w = true) : SmoothCall cfg call st w := by
  intro tool arguments hfind hparse
  rw [isSmooth, hfind] at h
  dsimp only at h
  rw [hparse] at h
  obtain ⟨hwrites, hcommand⟩ := Bool.and_eq_true_iff.mp h
  have hwell : ∀ u words, Tool.neededCommand (cfg.context st) (ToolInput.ofMembers arguments tool)
      = some u → u.words = .ok words →
      (Tool.process (cfg.context st) words).flaw? = none ∧ endsWell w.upcoming = true := by
    intro u words hneed hwords
    rw [hneed, commandEndsWell, hwords] at hcommand
    obtain ⟨hpass, hend⟩ := Bool.and_eq_true_iff.mp hcommand
    exact ⟨Option.isNone_iff_eq_none.mp hpass, hend⟩
  constructor
  · intro a w₁ hcome
    have hwrite := List.all_eq_true.mp hwrites (a, w₁) (Tool.mem_emissions_iff.mpr hcome)
    dsimp only at hwrite
    rcases hr : (Project.writeArtifact (cfg.context st).root a).run w₁.tree with ⟨f | r, t⟩
    · rw [hr] at hwrite
      cases hwrite
    · exact ⟨r, t, hr⟩
  · exact fun u words hneed hwords => (hwell u words hneed hwords).1
  · intro u words hneed hwords
    have hend := (hwell u words hneed hwords).2
    cases hevent : w.upcoming with
    | ended status stdout stderr =>
      rw [hevent] at hend
      have hzero : status = 0 := of_decide_eq_true hend
      exact ⟨stdout, stderr, by rw [hzero]⟩
    | timedOut | refused _ | unread _ _ | interrupted =>
      rw [hevent] at hend
      cases hend

/-- A call for the schema of an entity without fields of its own. -/
def schemaCall : ToolCall :=
  { id := .str "call_1", name := .str "create_schema"
    arguments := .str "\x7b\"name\":\"a\"\x7d" }

/-- A call to generate a migration without a label. -/
def migrateCall : ToolCall :=
  { id := .str "call_1", name := .str "generate_migration", arguments := .str "\x7b\x7d" }

/-- Runs of a single step with a command to generate migrations. -/
def migratingConfig : RunConfig := { RunConfig.single false with generateCommand := "alembic" }

/-- A world in which nothing can be written below `app`, since a file is there. -/
def blockedWorld : World := { World.bare with tree := ⟨[(["app"], .file [])]⟩ }

/-- A schema that is written in an empty file system, and a migration that is generated for it, are
previewed even in a world in which the schema could not be written. -/
theorem schema_previewed_in_blocked_world :
    (carryOut migratingConfig [schemaCall, migrateCall] 1 (.empty, .bare)).1
        = (carryOut migratingConfig.dry [schemaCall, migrateCall] 1 (.empty, blockedWorld)).1 ∧
      PreviewedCall migratingConfig schemaCall .empty .bare blockedWorld := by
  have hschema : isSmooth migratingConfig schemaCall .empty .bare = true := by decide +kernel
  have hmigration : isSmooth migratingConfig migrateCall
      (carryOut migratingConfig [schemaCall] 1 (.empty, .bare)).1
      (carryOut migratingConfig [schemaCall] 1 (.empty, .bare)).2 = true := by decide +kernel
  have hsmooth : ∀ before call after, [schemaCall, migrateCall] = before ++ call :: after →
      SmoothCall migratingConfig call (carryOut migratingConfig before 1 (.empty, .bare)).1
        (carryOut migratingConfig before 1 (.empty, .bare)).2 := by
    intro before call after heq
    rcases before with _ | ⟨first, _ | ⟨second, before⟩⟩
    · obtain ⟨rfl, -⟩ := List.cons.inj heq
      exact smoothCall_of_isSmooth hschema
    · obtain ⟨rfl, hrest⟩ := List.cons.inj heq
      obtain ⟨rfl, -⟩ := List.cons.inj hrest
      exact smoothCall_of_isSmooth hmigration
    · obtain ⟨-, hrest⟩ := List.cons.inj heq
      obtain ⟨-, hnil⟩ := List.cons.inj hrest
      exact absurd hnil.symm (List.append_ne_nil_of_right_ne_nil before (List.cons_ne_nil _ _))
  have hpreviews :=
    dry_run_previews rfl .empty .bare blockedWorld 1 [schemaCall, migrateCall] hsmooth
  exact ⟨(hpreviews [schemaCall, migrateCall] [] rfl).1,
    (hpreviews [] [schemaCall, migrateCall] rfl).2 schemaCall [migrateCall] rfl⟩

/-! ## A program that is missing -/

/-- One entity whose schema is written. -/
def schemaState : WorkflowState := ⟨[⟨⟨"a", "", []⟩, [.schemaWritten]⟩]⟩

/-- A world without the program of the command. -/
def programlessWorld : World := { World.bare with script := [.refused .noEntry] }

/-- That no write fails and that every process that comes into being ends with status zero is not
enough. Where the program of a command is missing there is no write and no process, the real call
fails, and the dry one completes the stage. -/
theorem dry_run_departs_without_program :
    input? migrateCall = some (.generateMigration none) ∧
    (∀ a w, ¬ Tool.ComesToEmit (migratingConfig.context schemaState) (.generateMigration none)
      programlessWorld a w) ∧
    (∀ e ∈ programlessWorld.script, ∃ cause, e = .refused cause) ∧
    (carryOut migratingConfig [migrateCall] 1 (schemaState, programlessWorld)).1.has "a"
      .migrationGenerated = false ∧
    (carryOut migratingConfig.dry [migrateCall] 1 (schemaState, programlessWorld)).1.has "a"
      .migrationGenerated = true := by
  refine ⟨rfl, nofun, fun e he => ?_, by decide +kernel, by decide +kernel⟩
  obtain rfl := List.mem_singleton.mp he
  exact ⟨.noEntry, rfl⟩

end Run

end Tablewright
