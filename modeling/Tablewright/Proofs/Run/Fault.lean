/-
When a run is not reported.

Whatever goes wrong in a call is meant to become a failed step. `CallFault` lists what does not: it
is the exact condition, read off the arguments, the commands and their processes, the paths the tool
resolves and the texts it comes to store, under which carrying a call out leaves the run
(`executeTool_fault_iff`). A run whose engine keeps to its protocol is then reported exactly when it
comes to no such call (`run_reported_iff`).
-/
import Tablewright.Proofs.Json.Reader
import Tablewright.Proofs.Run.Course
import Tablewright.Proofs.Tool.Defect

set_option autoImplicit false

namespace Tablewright

/-- A run answers a failure exactly when there is an answer to it. -/
theorem Failure.isAnswered_iff (f : Failure) :
    f.IsAnswered ↔ ∃ kind message, f.answer? = some (kind, message) := by
  cases f <;> simp [IsAnswered, answer?]

/-! ## Arguments -/

/-- Arguments that cannot be recorded are turned down by every tool, and in the same way. -/
theorem ToolName.parse_of_unrecordable (tool : ToolName) {arguments : Json} {f : Failure}
    (h : recordedArguments arguments = .error f) : tool.parse arguments = .error f := by
  obtain ⟨s, rfl, hs⟩ := recordedArguments_error_iff.mp h
  have hblank : ¬ Text.isBlank s = true := by
    -- blank text is a flaw, which can be recorded
    intro hb
    obtain ⟨what, before, hflaw⟩ := Json.read_of_blank hb argumentDepth
    rw [hflaw] at hs
    rcases hs with ⟨_, hs, -⟩ | ⟨hs, -⟩
    · cases hs
    · cases hs
  have hread : readArguments tool (.str s) = .error f := by
    rw [readArguments, if_neg hblank]
    rcases hs with ⟨k, hs, rfl⟩ | ⟨hs, rfl⟩
    · rw [hs]
    · rw [hs]
  rw [parse, Effect.result_bind_error_iff]
  exact .inl hread

/-- Arguments that are turned down are refused, or they cannot be recorded either. -/
theorem ToolName.parse_error {tool : ToolName} {arguments : Json} {f : Failure}
    (h : tool.parse arguments = .error f) :
    f.IsAnswered ∨ recordedArguments arguments = .error f := by
  rw [parse, Effect.result_bind_error_iff] at h
  rcases h with hread | ⟨v, -, hrest⟩
  · cases arguments with
    | str s =>
      rw [readArguments] at hread
      split at hread
      · cases hread
      · rw [recordedArguments]
        rcases hr : Json.read argumentDepth s with e | v
        · rw [hr] at hread
          cases e with
          | flaw what before =>
            cases hread
            exact .inl trivial
          | tooManyDigits n =>
            cases hread
            exact .inr rfl
          | tooDeep =>
            cases hread
            exact .inr rfl
        · rw [hr] at hread
          cases hread
    | null | bool _ | int _ | float _ | arr _ | obj _ => cases hread
  · left
    cases v with
    | obj ms =>
      dsimp only at hrest
      split at hrest
      · cases hrest
      · cases hrest
        trivial
    | null | bool _ | int _ | float _ | str _ | arr _ =>
      cases hrest
      trivial

namespace Run

/-! ## Calls that leave a run -/

/-- What makes a call leave the run instead of failing as a step. -/
inductive CallFault (cfg : RunConfig) (call : ToolCall) (st : WorkflowState) (w : World) : Prop
  /-- An integer in the arguments has more digits than are read. -/
  | digits {s : Text} {n : Nat} (hargs : call.arguments = .str s)
      (hread : Json.read argumentDepth s = .error (.tooManyDigits n)) : CallFault cfg call st w
  /-- The arguments nest deeper than is followed. -/
  | nesting {s : Text} (hargs : call.arguments = .str s)
      (hread : Json.read argumentDepth s = .error .tooDeep) : CallFault cfg call st w
  /-- The tool needs a configured command, and this has an open quote or escape, or in a real run the
  system cannot be given one of its words or its process is started and not read. -/
  | command {tool : ToolName} {arguments : Members} {u : Tool.NeededCommand} {v : BadValue}
      (hfind : findTool call.name = .ok tool) (hparse : tool.parse call.arguments = .ok arguments)
      (hneed : Tool.neededCommand (cfg.context st) (ToolInput.ofMembers arguments tool) = some u)
      (hfault : Tool.CommandFault (cfg.context st) u w v) : CallFault cfg call st w
  /-- A path the tool resolves leads into a circle of links, or in a real run a text it comes to
  store has no encoding. -/
  | files {tool : ToolName} {arguments : Members} (hfind : findTool call.name = .ok tool)
      (hparse : tool.parse call.arguments = .ok arguments)
      (hfault : Tool.FileFault (cfg.context st) (ToolInput.ofMembers arguments tool) w) :
      CallFault cfg call st w

section Calls

variable {cfg : RunConfig} {call : ToolCall} {st : WorkflowState} {w : World}

/-- A call whose arguments cannot be recorded is a fault. -/
theorem callFault_of_unrecordable {f : Failure} (h : recordedArguments call.arguments = .error f) :
    CallFault cfg call st w := by
  obtain ⟨s, hargs, ⟨k, hread, -⟩ | ⟨hread, -⟩⟩ := recordedArguments_error_iff.mp h
  · exact .digits hargs hread
  · exact .nesting hargs hread

/-- A call whose arguments cannot be recorded leaves the run, whether its tool is found or not. -/
theorem executeTool_of_unrecordable {f : Failure}
    (h : recordedArguments call.arguments = .error f) (n : Nat) :
    (executeTool cfg call st n).run w = (.error f, w) := by
  have hanswer : f.answer? = none := by
    obtain ⟨s, -, ⟨k, -, rfl⟩ | ⟨-, rfl⟩⟩ := recordedArguments_error_iff.mp h
    · rfl
    · rfl
  rw [executeTool_run]
  cases hfind : findTool call.name with
  | error r =>
    -- the refusal has an answer, but its step cannot be recorded
    have hp : (performCall cfg call st).run w = (.error (.refused r), w) :=
      performCall_error_iff.mpr (.inl ⟨⟨r, hfind, rfl⟩, rfl⟩)
    rw [hp]
    dsimp only [Failure.answer?]
    rw [failedCall_error_iff.mpr h]
  | ok tool =>
    have hp : (performCall cfg call st).run w = (.error f, w) :=
      performCall_error_iff.mpr (.inr ⟨tool, hfind, .inl ⟨tool.parse_of_unrecordable h, rfl⟩⟩)
    rw [hp]
    dsimp only
    rw [hanswer]

/-- A call whose tool fails without an answer leaves the run. -/
theorem executeTool_of_unanswered {tool : ToolName} {arguments : Members} {f : Failure}
    {w' : World} (hfind : findTool call.name = .ok tool)
    (hparse : tool.parse call.arguments = .ok arguments)
    (hrun : (Tool.handle (cfg.context st) (ToolInput.ofMembers arguments tool)).run w
      = (.error f, w')) (hanswer : f.answer? = none) (n : Nat) :
    (executeTool cfg call st n).run w = (.error f, w') := by
  have hp : (performCall cfg call st).run w = (.error f, w') :=
    performCall_error_iff.mpr (.inr ⟨tool, hfind, .inr ⟨arguments, hparse, hrun⟩⟩)
  rw [executeTool_run, hp]
  dsimp only
  rw [hanswer]

/-- **Calls that leave a run.** Carrying a call out fails, other than by an interrupt, exactly when
the call is one of the listed faults. -/
theorem executeTool_fault_iff (n : Nat) :
    (∃ f w', (executeTool cfg call st n).run w = (.error f, w') ∧ f ≠ .interrupted) ↔
      CallFault cfg call st w := by
  constructor
  · rintro ⟨f, w', h, hne⟩
    rcases executeTool_cases h with ⟨arguments, outcome, hp, hfin⟩ | ⟨_, _, _, -, -, hfail⟩ |
      ⟨g, hp, hanswer, hg⟩
    · -- an outcome can always be folded in, so this never happens
      obtain ⟨r, happly, -⟩ := finishedCall_error_iff.mp hfin
      obtain ⟨tool, -, -, hrun⟩ := performCall_ok_iff.mp hp
      obtain ⟨next, hnext⟩ := (Tool.handle_lesson hrun).apply_ok
      have hst : (cfg.context st).state = st := rfl
      rw [hst, happly] at hnext
      cases hnext
    · exact callFault_of_unrecordable (failedCall_error_iff.mp hfail)
    · -- a failure without an answer comes from the arguments or from the tool
      cases hg
      have hnot : ¬ f.IsAnswered := by
        rw [f.isAnswered_iff, hanswer]
        rintro ⟨_, _, hk⟩
        cases hk
      rcases performCall_error_iff.mp hp with ⟨⟨r, -, rfl⟩, -⟩ | ⟨tool, hfind, hrest⟩
      · exact absurd trivial hnot
      · rcases hrest with ⟨hparse, -⟩ | ⟨arguments, hparse, hrun⟩
        · rcases ToolName.parse_error hparse with ha | hrec
          · exact absurd ha hnot
          · exact callFault_of_unrecordable hrec
        · rcases Tool.handle_failsBy _ _ hrun with
            (ha | hi | ⟨-, v, rfl⟩) | ⟨d, rfl⟩
          · exact absurd ha hnot
          · exact absurd hi hne
          · obtain ⟨u, hneed, hcommand⟩ := Tool.handle_badValue_iff.mp ⟨w', hrun⟩
            exact .command hfind hparse hneed hcommand
          · exact .files hfind hparse (Tool.handle_breaks_iff.mp ⟨d, w', hrun⟩)
  · intro h
    cases h with
    | digits hargs hread =>
      have hrec := recordedArguments_error_iff.mpr ⟨_, hargs, .inl ⟨_, hread, rfl⟩⟩
      exact ⟨_, w, executeTool_of_unrecordable hrec n, fun hi => by cases hi⟩
    | nesting hargs hread =>
      have hrec := recordedArguments_error_iff.mpr ⟨_, hargs, .inr ⟨hread, rfl⟩⟩
      exact ⟨_, w, executeTool_of_unrecordable hrec n, fun hi => by cases hi⟩
    | command hfind hparse hneed hcommand =>
      obtain ⟨w', hrun⟩ := Tool.handle_badValue_iff.mpr ⟨_, hneed, hcommand⟩
      exact ⟨_, w', executeTool_of_unanswered hfind hparse hrun rfl n, fun hi => by cases hi⟩
    | files hfind hparse hfault =>
      obtain ⟨d, w', hrun⟩ := Tool.handle_breaks_iff.mpr hfault
      exact ⟨_, w', executeTool_of_unanswered hfind hparse hrun rfl n, fun hi => by cases hi⟩

end Calls

/-! ## Runs without a report -/

/-- The engine keeps to its protocol: it replies, it is refused in a way it may be, or it is
interrupted. -/
def Lawful (engine : Engine) : Prop :=
  ∀ k f, engine k = .error f →
    f = .interrupted ∨ ∃ r, f = .refused r ∧ isEngineRefusal r = true

/-- A run comes to a call, in a session and a world, while it has a step left. -/
structure ComesTo (cfg : RunConfig) (engine : Engine) (request : Text) (w₀ : World)
    (history : List Occurrence) (s : Session) (w : World) (reply : Reply) (call : ToolCall) :
    Prop where
  reached : Reached cfg engine request w₀ history s w
  left : (history.length : Int) < cfg.budget
  turn : engine s.asked.length = .ok reply
  proposed : reply.call = some call

section Runs

variable {cfg : RunConfig} {engine : Engine} {request : Text} {w₀ w : World}
  {history : List Occurrence} {s : Session} {reply : Reply} {call : ToolCall}

/-- A fault is the end of the run. -/
theorem ComesTo.ends_of_fault (h : ComesTo cfg engine request w₀ history s w reply call)
    (hfault : CallFault cfg call s.state w) :
    ∃ f w', Ends cfg engine request w₀ history s w (.error f) w' := by
  obtain ⟨f, w', hrun, hne⟩ := (executeTool_fault_iff s.nextNumber).mpr hfault
  have hleft := h.left
  exact ⟨f, w', .halted h.reached (by omega) (.aborted h.turn h.proposed hrun hne)⟩

/-- The loop of a lawful engine only fails at a fault. -/
theorem fault_of_ends_error (hlaw : Lawful engine) {f : Failure} {w' : World}
    (h : Ends cfg engine request w₀ history s w (.error f) w') :
    ∃ reply call, ComesTo cfg engine request w₀ history s w reply call ∧
      CallFault cfg call s.state w := by
  cases h with
  | halted hr hleft hh =>
    cases hh with
    | broken hturn hne hr' =>
      rcases hlaw _ _ hturn with hi | ⟨r, rfl, hengine⟩
      · exact absurd hi hne
      · rw [hr' r rfl] at hengine
        cases hengine
    | @aborted reply call _ _ hturn hcall hrun hne =>
      refine ⟨reply, call, ⟨hr, by omega, hturn, hcall⟩, ?_⟩
      exact (executeTool_fault_iff s.nextNumber).mp ⟨f, w', hrun, hne⟩

/-- A failure that is no fault becomes a failed step: the state is as it was, the engine is told,
and the run goes on. -/
theorem ComesTo.next_of_failure (h : ComesTo cfg engine request w₀ history s w reply call)
    {f : Failure} {w' : World} (hrun : (performCall cfg call s.state).run w = (.error f, w'))
    (hne : f ≠ .interrupted) (hfault : ¬ CallFault cfg call s.state w) :
    ∃ kind message input done, f.answer? = some (kind, message) ∧
      done = { state := s.state
               step := { number := s.nextNumber, tool := call.name, input, ok := false
                         output := message, errorKind := some kind }
               observation := Wording.failure call.name kind message } ∧
      Reached cfg engine request w₀ (history ++ [.failed reply call done])
        ((s.ask.say [reply.message]).execute call done) w' := by
  cases hexec : (executeTool cfg call s.state s.nextNumber).run w with
  | mk q w₁ =>
    cases q with
    | error g =>
      by_cases hg : g = .interrupted
      · subst hg
        have hp := executeTool_interrupted_iff.mp hexec
        rw [hrun] at hp
        cases hp
        exact absurd rfl hne
      · -- the step would not be recorded, so the call is a fault after all
        exact absurd ((executeTool_fault_iff s.nextNumber).mp ⟨g, w₁, hexec, hg⟩) hfault
    | ok done =>
      rcases executeTool_cases hexec with ⟨_, _, hp, -⟩ | ⟨g, kind, message, hp, hanswer, hdone⟩ |
        ⟨_, -, -, hq⟩
      · rw [hrun] at hp
        cases hp
      · rw [hrun] at hp
        cases hp
        obtain ⟨input, -, heq⟩ := failedCall_ok_iff.mp hdone
        have hleft := h.left
        refine ⟨kind, message, input, done, hanswer, heq, ?_⟩
        exact h.reached.next (by omega) (.failed h.turn h.proposed hrun hanswer hdone)
      · cases hq

/-- **When a run is reported.** A run of a lawful engine is reported exactly when it comes to no
call that is a fault. Whatever else goes wrong in a call becomes a failed step and a failure
observation, and the run goes on. -/
theorem run_reported_iff (cfg : RunConfig) (engine : Engine) (id request : Text) (w₀ : World)
    (hb : 1 ≤ cfg.budget) (hlaw : Lawful engine) :
    ((∃ result last w', (perform cfg engine id request).run w₀ = (.ok (result, last), w')) ↔
      ∀ history s w reply call, ComesTo cfg engine request w₀ history s w reply call →
        ¬ CallFault cfg call s.state w) ∧
    ∀ history s w reply call f w', ComesTo cfg engine request w₀ history s w reply call →
      (performCall cfg call s.state).run w = (.error f, w') → f ≠ .interrupted →
      ¬ CallFault cfg call s.state w →
      ∃ kind message input done, f.answer? = some (kind, message) ∧
        done = { state := s.state
                 step := { number := s.nextNumber, tool := call.name, input, ok := false
                           output := message, errorKind := some kind }
                 observation := Wording.failure call.name kind message } ∧
        Reached cfg engine request w₀ (history ++ [.failed reply call done])
          ((s.ask.say [reply.message]).execute call done) w' := by
  refine ⟨⟨?_, ?_⟩, ?_⟩
  · rintro ⟨result, last, w', hrun⟩ history s w reply call hcome hfault
    obtain ⟨f, w'', hend⟩ := hcome.ends_of_fault hfault
    have herror : (perform cfg engine id request).run w₀ = (.error f, w'') :=
      (perform_error_iff hb).mpr ⟨_, _, _, hend⟩
    rw [hrun] at herror
    cases herror
  · intro hnone
    rcases hrun : (perform cfg engine id request).run w₀ with ⟨f | ⟨result, last⟩, w'⟩
    · obtain ⟨history, s, w, hend⟩ := (perform_error_iff hb).mp hrun
      obtain ⟨reply, call, hcome, hfault⟩ := fault_of_ends_error hlaw hend
      exact absurd hfault (hnone history s w reply call hcome)
    · exact ⟨result, last, w', rfl⟩
  · intro history s w reply call f w' hcome hrun hne hfault
    exact hcome.next_of_failure hrun hne hfault

/-- A call for a file that is missing is no fault: it becomes a failed step, the engine is told, and
the run, whose only step it is, is reported. -/
theorem run_reported_of_reading :
    (∃ result last w', (perform (.single false) (fun _ => .ok .reading) "run" "").run .bare
      = (.ok (result, last), w')) ∧
    ∃ message input done s' w',
      done.step = { number := 1, tool := .str "read_file", input, ok := false, output := message
                    errorKind := some "validation" } ∧
      done.observation = Wording.failure (.str "read_file") "validation" message ∧
      Reached (.single false) (fun _ => .ok .reading) "" .bare [.failed .reading .reading done] s'
        w' := by
  have hlaw : Lawful fun _ => .ok .reading := by
    intro k f h
    cases h
  have hcome : ComesTo (.single false) (fun _ => .ok .reading) "" .bare [] (start "" false) .bare
      .reading .reading := ⟨.origin, by decide, rfl, rfl⟩
  -- the call is carried out, so it is no fault
  have hdone : ((executeTool (.single false) .reading (start "" false).state 1).run .bare).1.toBool
      = true := by decide +kernel
  have hfault : ¬ CallFault (.single false) .reading (start "" false).state .bare := by
    intro hfault
    obtain ⟨f, w', hrun, -⟩ := (executeTool_fault_iff 1).mpr hfault
    rw [hrun] at hdone
    cases hdone
  have hkind : (match ((performCall (.single false) .reading (start "" false).state).run .bare).1 with
      | .error f => f.answer?.map Prod.fst
      | .ok _ => none) = some (Text.ofString "validation") := by decide +kernel
  obtain ⟨hreport, hstep⟩ :=
    run_reported_iff (.single false) (fun _ => .ok .reading) "run" "" .bare (by decide) hlaw
  refine ⟨hreport.mpr fun history s w reply call h => ?_, ?_⟩
  · -- there is only one step, so every call a run comes to is this one
    have hlen := h.left
    obtain rfl : history = [] := List.eq_nil_of_length_eq_zero (by
      change (history.length : Int) < 1 at hlen
      omega)
    obtain ⟨-, rfl, rfl⟩ := h.reached.unique hcome.reached rfl
    have hturn := h.turn
    cases hturn
    have hcall := h.proposed
    cases hcall
    exact hfault
  · rcases hp : (performCall (.single false) .reading (start "" false).state).run .bare with
      ⟨f | o, w'⟩
    · rw [hp] at hkind
      have hne : f ≠ .interrupted := by
        rintro rfl
        cases hkind
      obtain ⟨kind, message, input, done, hanswer, hdone, hreached⟩ :=
        hstep [] _ .bare .reading .reading f w' hcome hp hne hfault
      dsimp only at hkind
      rw [hanswer] at hkind
      obtain rfl := Option.some.inj hkind
      exact ⟨message, input, done, _, w', by rw [hdone]; rfl, by rw [hdone]; rfl, hreached⟩
    · rw [hp] at hkind
      cases hkind

/-- A call to write a file whose content is a lone surrogate. -/
def surrogateCall : ToolCall :=
  { id := .str "call_write_file", name := .str "write_file"
    arguments := .str "\x7b\"path\":\"a.txt\",\"content\":\"\\ud800\"\x7d" }

/-- The response in which the engine proposes that call. -/
def surrogateResponse : Json :=
  .obj [("choices", .arr [.obj [("message", .obj [("content", .null),
    ("tool_calls", .arr [.obj [("id", surrogateCall.id),
      ("function", .obj [("name", surrogateCall.name),
        ("arguments", surrogateCall.arguments)])]])])]])]

/-- The call is accepted: the reader makes the escape one code point, and the contract does not look
inside a text. -/
private theorem parse_surrogateCall : ∃ arguments,
    ToolName.parse .writeFile surrogateCall.arguments = .ok arguments ∧
      ToolInput.ofMembers arguments .writeFile = .writeFile "a.txt" [CodePoint.ofNat 0xD800] := by
  have hshown : (ToolName.parse .writeFile surrogateCall.arguments).toOption.map
      (fun ms => (ms.text "path", ms.text "content"))
        = some (Text.ofString "a.txt", [CodePoint.ofNat 0xD800]) := by decide +kernel
  cases h : ToolName.parse .writeFile surrogateCall.arguments with
  | error f =>
    rw [h] at hshown
    cases hshown
  | ok arguments =>
    rw [h] at hshown
    obtain ⟨hpath, hcontent⟩ := Prod.mk.inj (Option.some.inj hshown)
    exact ⟨arguments, rfl, by rw [ToolInput.ofMembers, hpath, hcontent]⟩

/-- The run of an engine that keeps to its protocol is not always reported: a call that writes a
lone surrogate leaves it. -/
theorem run_not_reported_at_surrogate :
    Lawful (fun _ => Response.read surrogateResponse) ∧
      ¬ ∃ result last w', (perform (.single false) (fun _ => Response.read surrogateResponse)
        "run" "").run .bare = (.ok (result, last), w') := by
  have hread : Response.read surrogateResponse = .ok ⟨none, some surrogateCall⟩ := rfl
  rw [hread]
  refine ⟨?_, ?_⟩
  · intro k f h
    cases h
  · rintro ⟨result, last, w', hrun⟩
    obtain ⟨arguments, hparse, hargs⟩ := parse_surrogateCall
    have hcome : ComesTo (.single false) (fun _ => .ok ⟨none, some surrogateCall⟩) "" .bare []
        (start "" false) .bare ⟨none, some surrogateCall⟩ surrogateCall :=
      ⟨.origin, by decide, rfl, rfl⟩
    have hwrite : Project.WriteFault [] "a.txt" [CodePoint.ofNat 0xD800] World.bare.tree :=
      .store rfl rfl rfl (.encoding rfl ⟨_, List.mem_singleton_self _, rfl⟩)
    have hfault : CallFault (.single false) surrogateCall (start "" false).state .bare :=
      .files rfl hparse (by rw [hargs]; exact .written rfl hwrite)
    obtain ⟨f, w'', hend⟩ := hcome.ends_of_fault hfault
    have herror : (perform (.single false) (fun _ => .ok ⟨none, some surrogateCall⟩) "run" "").run
        .bare = (.error f, w'') := (perform_error_iff (by decide)).mpr ⟨_, _, _, hend⟩
    rw [hrun] at herror
    cases herror

end Runs

end Run

end Tablewright
