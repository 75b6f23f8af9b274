/-
What the engine observes of a call.

The observation of a call that was carried out is JSON: an object that repeats what is recorded of
the step. It holds the flag, the message of an outcome, or the tool, the kind and the message of a
failure. The data of an outcome stands beside these and never over them, since no tool shows a flag
or a message of its own. Texts come back with their surrogate pairs joined: JSON writes a code point
beyond 16 bits by the very escapes that write its two surrogates, and the reader takes them for the
code point. `observation_told` says so for every call whose observation was not cut, and
`split_pair_is_not_told` shows a message that the engine cannot be told as it is recorded.

The observation of an outcome is cut to the limit of the run, whatever the tool put into it. The
report of a failure is passed on whole, and it repeats what the engine or a process said, so no limit
holds for it. `observation_bounded_iff` says which observations keep to the limit: all those of
outcomes, and those failures whose report is short enough as it is.
-/
import Tablewright.Proofs.Run.Call
import Tablewright.Proofs.Run.Course
import Tablewright.Proofs.Tool.Shown

set_option autoImplicit false

namespace Tablewright

/-- Members tell a text under a key as far as an observation can: with its surrogate pairs joined,
and so the text itself exactly if it holds none. -/
def Members.Tells (ms : Members) (key t : Text) : Prop :=
  ms.get? key = some (.str t.joined) ∧ (ms.get? key = some (.str t) ↔ t.IsPairless)

theorem Members.tells_of_get? {ms : Members} {key t : Text}
    (h : ms.get? key = some (.str t.joined)) : ms.Tells key t := by
  refine ⟨h, ?_⟩
  rw [h, Option.some.injEq, Json.str.injEq]
  exact Text.joined_eq_self_iff

namespace Json

variable {key : Text} {acc : Members}

/-- Members under other keys change nothing of what was read under a key. -/
theorem get?_rereadMembers {ms : Members} (h : ∀ m ∈ ms, m.1.joined ≠ key) :
    (rereadMembers acc ms).get? key = acc.get? key := by
  induction ms generalizing acc with
  | nil => rw [rereadMembers]
  | cons m ms ih =>
    obtain ⟨k, v⟩ := m
    rw [rereadMembers, ih fun m hm => h m (List.mem_cons_of_mem _ hm),
      Members.get?_put_of_ne (Ne.symm (h (k, v) List.mem_cons_self))]

end Json

/-! ## The observation of an outcome -/

namespace Outcome

variable {o : Outcome}

/-- The data comes behind the flag and the message. -/
theorem observation_eq (h : Tool.IsShown 5 o.data) :
    o.observation = Json.write (.obj (("success", .bool o.ok) :: ("message", .str o.message)
      :: Members.putAll [] o.data)) := by
  have hsuccess : Text.ofString "success" ∉ o.data.map Prod.fst := by
    rintro hmem
    obtain ⟨m, hm, hkey⟩ := List.mem_map.mp hmem
    exact (Tool.dataKeys_apart _ (h m hm).1).1 hkey
  have hmessage : Text.ofString "message" ∉ o.data.map Prod.fst := by
    rintro hmem
    obtain ⟨m, hm, hkey⟩ := List.mem_map.mp hmem
    exact (Tool.dataKeys_apart _ (h m hm).1).2.1 hkey
  rw [observation, Members.putAll_cons hsuccess, Members.putAll_cons hmessage]

/-- The observation of an outcome is read as an object with its flag and its message. -/
theorem read_observation (h : Tool.IsShown 5 o.data) :
    ∃ ms : Members, Json.read argumentDepth o.observation = .ok (.obj ms) ∧
      ms.get? "success" = some (.bool o.ok) ∧ ms.Tells "message" o.message := by
  have hdata : ∀ m ∈ Members.putAll [] o.data, m.1 ∈ Tool.dataKeys ∧ m.2.IsReadable 5 :=
    fun m hm => h m ((Members.mem_putAll hm).resolve_left List.not_mem_nil)
  have hreadable : Json.IsReadable 6 (.obj (("success", .bool o.ok) :: ("message", .str o.message)
      :: Members.putAll [] o.data)) := by
    refine .obj ?_
    simp only [List.forall_mem_cons]
    exact ⟨.bool 5 _, .str 5 _, fun m hm => (hdata m hm).2⟩
  -- what comes behind leaves the first two members alone
  have hapart : ∀ key, key = Text.ofString "success" ∨ key = Text.ofString "message" →
      ∀ m ∈ Members.putAll [] o.data, m.1.joined ≠ key := by
    intro key hkey m hm
    obtain ⟨hsuccess, hmessage, hjoined⟩ := Tool.dataKeys_apart m.1 (hdata m hm).1
    rw [hjoined]
    rcases hkey with rfl | rfl
    · exact hsuccess
    · exact hmessage
  have hsuccess : Text.joined (Text.ofString "success") = Text.ofString "success" := by decide
  have hmessage : Text.joined (Text.ofString "message") = Text.ofString "message" := by decide
  rw [observation_eq h, Json.write,
    Json.read_value_eq_reread JsonWriter.isSpaced_oneLine (hreadable.mono (by decide)), Json.reread,
    Json.rereadMembers, Json.rereadMembers, hsuccess, hmessage, Json.reread, Json.reread]
  refine ⟨_, rfl, ?_, Members.tells_of_get? ?_⟩
  · rw [Json.get?_rereadMembers (hapart _ (.inl rfl))]
    rfl
  · rw [Json.get?_rereadMembers (hapart _ (.inr rfl))]
    rfl

end Outcome

/-! ## The report of a failure -/

/-- The report of a failure is read as an object with the tool, the kind and the message. -/
theorem Wording.read_failure (tool kind message : Text) :
    ∃ ms : Members, Json.read argumentDepth (failure (.str tool) kind message) = .ok (.obj ms) ∧
      ms.get? "success" = some (.bool false) ∧ ms.Tells "tool" tool ∧ ms.Tells "kind" kind ∧
      ms.Tells "error" message := by
  have hreadable : Json.IsReadable 1 (.obj [("success", .bool false), ("tool", .str tool),
      ("kind", .str kind), ("error", .str message)]) := by
    refine .obj ?_
    simp only [List.forall_mem_cons]
    exact ⟨.bool 0 _, .str 0 _, .str 0 _, .str 0 _, List.forall_mem_nil _⟩
  have hkeys : ([] ++ [Text.ofString "success", "tool", "kind", "error"]).Nodup := by decide
  have hjoined : ∀ key ∈ [Text.ofString "success", "tool", "kind", "error"], key.joined = key := by
    decide
  have hmembers : Json.rereadMembers [] [("success", .bool false), ("tool", .str tool),
      ("kind", .str kind), ("error", .str message)] = _ :=
    Json.rereadMembers_eq hkeys fun m hm => hjoined m.1 (List.mem_map_of_mem hm)
  rw [failure, Json.write,
    Json.read_value_eq_reread JsonWriter.isSpaced_oneLine (hreadable.mono (by decide)), Json.reread,
    hmembers]
  refine ⟨_, rfl, ?_, Members.tells_of_get? ?_, Members.tells_of_get? ?_, Members.tells_of_get? ?_⟩
  all_goals simp only [List.nil_append, List.map_cons, List.map_nil, Json.reread]; rfl

/-! ## Calls -/

/-- The kinds of failures are plain words. -/
theorem Failure.isPairless_kind {f : Failure} {kind message : Text}
    (h : f.answer? = some (kind, message)) : kind.IsPairless := by
  have hlabel : ∀ c : RefusalClass, c.label.IsPairless := fun c => by cases c <;> decide
  cases f with
  | refused r =>
    cases h
    exact hlabel r.kind
  | system e =>
    cases h
    exact hlabel .external
  | badValue _ | interrupted | defect _ => cases h

/-- What is recorded of a failed step is told: its tool, its kind and its message. -/
structure Executed.TellsFailure (done : Executed) (ms : Members) : Prop where
  tool : ∃ name, done.step.tool = .str name ∧ ms.Tells "tool" name
  kind : ∃ kind, done.step.errorKind = some kind ∧ ms.get? "kind" = some (.str kind)
  error : ms.Tells "error" done.step.output

namespace Run

variable {cfg : RunConfig} {call : ToolCall} {st : WorkflowState} {n : Nat} {w w' : World}
  {done : Executed} {name : Text}

/-- **The engine is told what is recorded.** The observation of a call that was not cut is read as an
object with the flag of the step, the message of an outcome, and the tool, the kind and the message
of a failure. -/
theorem observation_told (hname : call.name = .str name)
    (hrows : ∀ label rows, input? call = some (.seedDatabase label rows) →
      rows.length < 10 ^ Text.maxDigits)
    (hwhole : ∀ arguments outcome, (performCall cfg call st).run w = (.ok (arguments, outcome), w') →
      (outcome.observation.length : Int) ≤ cfg.maxObservation)
    (h : (executeTool cfg call st n).run w = (.ok done, w')) :
    ∃ ms : Members, Json.read argumentDepth done.observation = .ok (.obj ms) ∧
      ms.get? "success" = some (.bool done.step.ok) ∧
      ((∃ r, (performCall cfg call st).run w = (.ok r, w')) →
        ms.Tells "message" done.step.output) ∧
      ((∃ f, (performCall cfg call st).run w = (.error f, w')) → done.TellsFailure ms) := by
  rcases executeTool_cases h with ⟨arguments, outcome, hrun, hfinished⟩ |
    ⟨f, kind, message, hrun, hanswer, hfailed⟩ | ⟨_, -, -, hnone⟩
  · obtain ⟨_, -, rfl⟩ := finishedCall_ok_iff.mp hfinished
    obtain ⟨tool, hfind, hparse, hhandle⟩ := performCall_ok_iff.mp hrun
    have hshown : Tool.IsShown 5 outcome.data := by
      refine Tool.handle_isShown hhandle fun label rows hinput => hrows label rows ?_
      rw [input?_eq hfind hparse, hinput]
    obtain ⟨ms, hread, hsuccess, hmessage⟩ := outcome.read_observation hshown
    refine ⟨ms, ?_, hsuccess, fun _ => hmessage, ?_⟩
    · dsimp only
      rw [truncateObservation, if_pos (hwhole arguments outcome hrun), hread]
    · rintro ⟨f, hfails⟩
      rw [hrun] at hfails
      cases hfails
  · obtain ⟨_, -, rfl⟩ := failedCall_ok_iff.mp hfailed
    obtain ⟨ms, hread, hsuccess, htool, hkind, herror⟩ := Wording.read_failure name kind message
    refine ⟨ms, ?_, hsuccess, ?_, fun _ => ⟨⟨name, hname, htool⟩, ⟨kind, rfl, ?_⟩, herror⟩⟩
    · rw [← hread, ← hname]
    · rintro ⟨r, hsucceeds⟩
      rw [hrun] at hsucceeds
      cases hsucceeds
    · exact hkind.2.mpr (Failure.isPairless_kind hanswer)
  · cases hnone

/-- A call that lists a directory, with the text of its arguments. -/
def listCall (arguments : Text) : ToolCall :=
  { id := .null, name := .str "list_files", arguments := .str arguments }

/-- A call that lists a directory comes to no sample rows. -/
theorem input?_listCall (arguments label : Text) (rows : List Members) :
    input? (listCall arguments) ≠ some (.seedDatabase label rows) := by
  intro h
  obtain ⟨tool, ms, hfind, -, hinput⟩ := exists_of_input? h
  have htool : findTool (listCall arguments).name = .ok .listFiles := findTool_ok_iff.mpr rfl
  rw [hfind] at htool
  cases htool
  cases hinput

/-- A call had an outcome, and its observation is not longer than a limit. -/
def isWhole (limit : Int) : Except Failure (Members × Outcome) → Bool
  | .ok (_, outcome) => (outcome.observation.length : Int) ≤ limit
  | .error _ => false

/-- What comes of listing an empty project is told. -/
theorem listing_is_told : ∃ done w',
    (executeTool (.single false) (listCall "\x7b\x7d") .empty 1).run .bare = (.ok done, w') ∧
      ∃ ms : Members, Json.read argumentDepth done.observation = .ok (.obj ms) ∧
        ms.get? "success" = some (.bool done.step.ok) ∧ ms.Tells "message" done.step.output := by
  have hwhole : isWhole 1000
      ((performCall (.single false) (listCall "\x7b\x7d") .empty).run .bare).1 = true := by
    decide +kernel
  have hdone : ((executeTool (.single false) (listCall "\x7b\x7d") .empty 1).run .bare).1.isOk
      = true := by
    decide +kernel
  rcases hrun : (executeTool (.single false) (listCall "\x7b\x7d") .empty 1).run .bare
    with ⟨_ | done, w'⟩
  · rw [hrun] at hdone
    cases hdone
  rcases hperform : (performCall (.single false) (listCall "\x7b\x7d") .empty).run .bare
    with ⟨_ | r, w₁⟩
  · rw [hperform] at hwhole
    cases hwhole
  rw [hperform] at hwhole
  -- the call is carried out in the world its outcome leaves
  obtain rfl : w' = w₁ := by
    have hcall := executeTool_run (.single false) (listCall "\x7b\x7d") .empty 1 .bare
    rw [hrun, hperform] at hcall
    exact congrArg Prod.snd hcall
  obtain ⟨ms, hread, hsuccess, hmessage, -⟩ := observation_told rfl
    (fun label rows h => absurd h (input?_listCall _ label rows))
    (fun arguments outcome h => by
      rw [hperform] at h
      cases h
      exact of_decide_eq_true hwhole)
    hrun
  exact ⟨done, w', rfl, ms, hread, hsuccess, hmessage ⟨r, hperform⟩⟩

/-- The two surrogates of a pair, each read on its own. -/
def splitPair : Text := [CodePoint.ofNat 0xD83D, CodePoint.ofNat 0xDE00]

/-- The arguments with a path to a directory that is never listed. The last part of the path are the
two surrogates, the first as it is and the second by its number. -/
def splitPairCall : ToolCall :=
  listCall (Text.ofString "\x7b\"path\":\".git/" ++ CodePoint.ofNat 0xD83D
    :: Text.ofString "\\ude00\"\x7d")

/-- What is said of the path. -/
def splitPairMessage : Text := (Refusal.hiddenDirectory (Text.ofString ".git/" ++ splitPair)).message

/-- A call was carried out and failed with a message, which is what its observation reports. -/
def reports (tool kind message : Text) : Except Failure Executed → Bool
  | .ok done =>
    !done.step.ok && done.step.output = message
      && done.observation = Wording.failure (.str tool) kind message
  | .error _ => false

/-- **A split pair is not told.** A call can fail with a message in which the two surrogates of a pair
stand side by side, and no object that its observation is read as holds this message. -/
theorem split_pair_is_not_told : ∃ done w',
    (executeTool (.single false) splitPairCall .empty 1).run .bare = (.ok done, w') ∧
      done.step.ok = false ∧ done.step.output = splitPairMessage ∧
      ∀ ms : Members, Json.read argumentDepth done.observation = .ok (.obj ms) →
        ms.get? "error" ≠ some (.str done.step.output) := by
  have hreports : reports "list_files" "validation" splitPairMessage
      ((executeTool (.single false) splitPairCall .empty 1).run .bare).1 = true := by
    decide +kernel
  rcases hrun : (executeTool (.single false) splitPairCall .empty 1).run .bare with ⟨_ | done, w'⟩
  · rw [hrun] at hreports
    cases hreports
  rw [hrun] at hreports
  simp only [reports, Bool.and_eq_true, Bool.not_eq_true', decide_eq_true_eq] at hreports
  obtain ⟨⟨hok, houtput⟩, hobservation⟩ := hreports
  refine ⟨done, w', rfl, hok, houtput, fun ms hread herror => ?_⟩
  obtain ⟨told, htold, -, -, -, htells⟩ :=
    Wording.read_failure "list_files" "validation" splitPairMessage
  rw [hobservation, htold] at hread
  cases hread
  rw [houtput] at herror
  have hsplit : ¬ splitPairMessage.IsPairless := by decide +kernel
  exact hsplit (htells.2.mp herror)

end Run

/-! ## The length of an observation -/

/-- What is cut to a length has at most that length and the mark behind it. -/
theorem length_truncateObservation_le {limit : Int} (hlimit : 0 ≤ limit) (t : Text) :
    ((truncateObservation limit t).length : Int) ≤ limit + truncationMark.length := by
  rw [truncateObservation]
  split
  case isTrue hshort => omega
  case isFalse =>
    have hcut : (t.take limit.toNat).length ≤ limit.toNat := List.length_take_le limit.toNat t
    rw [takeUpTo, if_pos hlimit, List.length_append]
    omega

/-- The observation of a call keeps to a limit: it has at most so many code points and the mark
behind them. -/
def Executed.KeepsTo (limit : Int) (done : Executed) : Prop :=
  (done.observation.length : Int) ≤ limit + truncationMark.length

namespace Run

variable {cfg : RunConfig} {call : ToolCall} {st : WorkflowState} {n : Nat} {w w' : World}
  {done : Executed}

/-- **Which observations are bounded.** The observation of a call keeps to the limit of the run
exactly if the call has an outcome or the report of its failure keeps to it uncut. -/
theorem observation_bounded_iff (hlimit : 0 ≤ cfg.maxObservation)
    (h : (executeTool cfg call st n).run w = (.ok done, w')) :
    done.KeepsTo cfg.maxObservation ↔
      ∀ f kind message, (performCall cfg call st).run w = (.error f, w') →
        f.answer? = some (kind, message) →
        ((Wording.failure call.name kind message).length : Int)
          ≤ cfg.maxObservation + truncationMark.length := by
  rcases executeTool_cases h with ⟨arguments, outcome, hrun, hfinished⟩ |
    ⟨f, kind, message, hrun, hanswer, hfailed⟩ | ⟨_, -, -, hnone⟩
  · obtain ⟨_, -, rfl⟩ := finishedCall_ok_iff.mp hfinished
    refine iff_of_true (length_truncateObservation_le hlimit outcome.observation) ?_
    intro f kind message hfails
    rw [hrun] at hfails
    cases hfails
  · obtain ⟨_, -, rfl⟩ := failedCall_ok_iff.mp hfailed
    constructor
    · intro hshort g kind' message' hfails hanswer'
      -- the failure that is reported is the one the call ended in
      rw [hrun] at hfails
      cases hfails
      rw [hanswer] at hanswer'
      cases hanswer'
      exact hshort
    · intro hreports
      exact hreports f kind message hrun hanswer
  · cases hnone

/-- A call of a tool that does not exist. -/
def unknownCall : ToolCall := { id := .null, name := .str "x", arguments := .str "\x7b\x7d" }

/-- A run whose observations are to be so long. -/
def limitedTo (limit : Int) : RunConfig := { RunConfig.single false with maxObservation := limit }

/-- What comes of the call is its report, under any limit. -/
theorem executeTool_unknownCall (limit : Int) :
    ∃ done, (executeTool (limitedTo limit) unknownCall .empty 1).run .bare = (.ok done, .bare) ∧
      done.observation = Wording.failure (.str "x") "validation"
        (Refusal.unknownTool "x" (ToolName.all.map ToolName.label)).message := by
  refine ⟨_, rfl, rfl⟩

/-- Under a limit of three hundred the report of the call keeps to it. -/
theorem unknown_tool_keeps_to_limit : ∃ done,
    (executeTool (limitedTo 300) unknownCall .empty 1).run .bare = (.ok done, .bare) ∧
      (0 : Int) ≤ (limitedTo 300).maxObservation ∧ done.KeepsTo (limitedTo 300).maxObservation := by
  obtain ⟨done, hrun, -⟩ := executeTool_unknownCall 300
  have hlimit : (0 : Int) ≤ (limitedTo 300).maxObservation := by decide
  refine ⟨done, hrun, hlimit, (observation_bounded_iff hlimit hrun).mpr ?_⟩
  intro f kind message hfails hanswer
  have hperform : (performCall (limitedTo 300) unknownCall .empty).run .bare
      = (.error (.refused (.unknownTool "x" (ToolName.all.map ToolName.label))), .bare) := rfl
  rw [hperform] at hfails
  cases hfails
  cases hanswer
  decide +kernel

/-- **A report is not cut.** Under a limit of zero the observation of a call that fails is longer than
the mark. -/
theorem unknown_tool_exceeds_limit : ∃ done,
    (executeTool (limitedTo 0) unknownCall .empty 1).run .bare = (.ok done, .bare) ∧
      ¬ done.KeepsTo (limitedTo 0).maxObservation := by
  obtain ⟨done, hrun, hreport⟩ := executeTool_unknownCall 0
  refine ⟨done, hrun, ?_⟩
  rw [Executed.KeepsTo, hreport]
  decide +kernel

end Run

end Tablewright
