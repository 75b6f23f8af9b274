/-
How a request ends for the user.

The report of a run is printed line by line before the run is recorded, and recording is forgiven most
failures. So a request that was carried out ends with the status of its report, whatever becomes of
the ledger, with two ways out: a line of the report that holds a lone surrogate cannot be printed, and
then the ledger is not even opened; and a failure may escape from recording (`query_exit`).
-/
import Tablewright.Proofs.Ledger.Fault
import Tablewright.Proofs.Run.Course

set_option autoImplicit false

namespace Tablewright

open Effect (EndsIn)

/-- A terminal with another tree. -/
def Terminal.withTree (u : Terminal) (t : Tree) : Terminal :=
  { u with world := { u.world with tree := t } }

/-- A terminal on which more lines were printed. -/
def Terminal.printed (u : Terminal) (lines : List Text) : Terminal :=
  { u with out := u.out ++ lines }

@[simp] theorem Terminal.printed_world (u : Terminal) (lines : List Text) :
    (u.printed lines).world = u.world := rfl

@[simp] theorem Terminal.printed_nil (u : Terminal) : u.printed [] = u := by
  simp [Terminal.printed]

@[simp] theorem Terminal.printed_printed (u : Terminal) (lines more : List Text) :
    (u.printed lines).printed more = u.printed (lines ++ more) := by
  simp [Terminal.printed]

namespace CliAction

variable {α β : Type}

/-- What printing a line comes to. -/
theorem print_run (line : Text) (u : Terminal) :
    (print line).run u =
      if line.isEncodable then (.ok (), u.printed [line])
      else (.error (.defect .unencodable), u) := rfl

/-- Printing leaves files and processes alone, whether it succeeds or not. -/
theorem print_world (line : Text) (u : Terminal) : ((print line).run u).2.world = u.world := by
  rw [print_run]
  split <;> rfl

/-- A line that has an encoding is printed. -/
theorem print_ok {line : Text} (h : line.HasEncoding) (u : Terminal) :
    (print line).run u = (.ok (), u.printed [line]) := by
  rw [print_run, if_pos (Text.isEncodable_iff.mpr h)]

/-- Lines that have encodings are printed. -/
theorem printAll_ok {lines : List Text} (h : ∀ line ∈ lines, line.HasEncoding) (u : Terminal) :
    (printAll lines).run u = (.ok (), u.printed lines) := by
  induction lines generalizing u with
  | nil =>
    rw [Terminal.printed_nil]
    rfl
  | cons line lines ih =>
    rw [List.forall_mem_cons] at h
    rw [printAll, forEach, Effect.run_bind, print_ok h.1]
    exact (ih h.2 _).trans (by rw [Terminal.printed_printed, List.singleton_append])

/-- Of lines one of which has no encoding those before it are printed. -/
theorem printAll_fails {lines : List Text} (h : ¬ ∀ line ∈ lines, line.HasEncoding) (u : Terminal) :
    (printAll lines).run u =
      (.error (.defect .unencodable), u.printed (lines.takeWhile Text.isEncodable)) := by
  induction lines generalizing u with
  | nil => exact absurd (fun _ hline => absurd hline List.not_mem_nil) h
  | cons line lines ih =>
    rw [printAll, forEach, Effect.run_bind, print_run]
    by_cases hline : line.isEncodable
    · have hrest : ¬ ∀ l ∈ lines, l.HasEncoding := fun hall =>
        h (List.forall_mem_cons.mpr ⟨Text.isEncodable_iff.mp hline, hall⟩)
      rw [if_pos hline, List.takeWhile_cons_of_pos hline]
      exact (ih hrest _).trans (by rw [Terminal.printed_printed, List.singleton_append])
    · rw [if_neg hline, List.takeWhile_cons_of_neg hline, Terminal.printed_nil]

/-- Of lines that have encodings none is cut off. -/
theorem takeWhile_isEncodable {lines : List Text} (h : ∀ line ∈ lines, line.HasEncoding) :
    lines.takeWhile Text.isEncodable = lines :=
  List.takeWhile_eq_self_iff.mpr fun line hline => Text.isEncodable_iff.mpr (h line hline)

/-- An operation on the world answers in a command what it answers there, and nothing is printed. -/
theorem onWorld_run (a : Action α) (u : Terminal) :
    (onWorld a).run u = ((a.run u.world).1, { u with world := (a.run u.world).2 }) := rfl

/-- An operation on the tree answers in a command what it answers there, and only the tree changes. -/
theorem onFiles_run (a : FileAction α) (u : Terminal) :
    (onFiles a).run u = ((a.run u.world.tree).1, u.withTree (a.run u.world.tree).2) := rfl

/-- Operations on the tree one after another are one operation on the tree. -/
theorem onFiles_bind (a : FileAction α) (k : α → FileAction β) :
    onFiles (a >>= k) = onFiles a >>= fun x => onFiles (k x) := by
  refine funext fun u => ?_
  change (onFiles (a >>= k)).run u = (onFiles a >>= fun x => onFiles (k x)).run u
  rw [onFiles_run, Effect.run_bind, Effect.run_bind, onFiles_run]
  rcases a.run u.world.tree with ⟨f | x, t⟩ <;> rfl

/-- What a forgiving command comes to: a failure that is forgiven is a success. -/
theorem forgiving_run (test : Failure → Bool) (a : CliAction Unit) (u : Terminal) :
    (forgiving test a).run u =
      match a.run u with
      | (.error f, v) => (if test f then .ok () else .error f, v)
      | (.ok x, v) => (.ok x, v) := by
  rw [forgiving, ofFunction, ExceptT.run]
  rcases a.run u with ⟨f | x, v⟩ <;> rfl

end CliAction

namespace Cli

variable {s : Surroundings} {engine : Engine} {request : Text} {verbose dryRun : Bool}
  {budget : Option Int} {u : Terminal} {report : RunReport} {session : Session} {w : World}

/-- Record a run in the ledger of the settings. -/
def recording (s : Surroundings) (r : RunReport) : FileAction Ledger :=
  Ledger.recordAt s.workingDirectory s.root s.settings.ledgerAddress
    (r.toRecord s.now s.nowMicrosecond)

theorem recordRun_eq (s : Surroundings) (r : RunReport) :
    recordRun s r = (do
      let _ ← CliAction.onFiles (recording s r)
      return ()) := by
  simp only [recordRun, connectLedger, recording, Ledger.recordAt, CliAction.onFiles_bind,
    bind_assoc]

/-- Recording a run in a forgiving way changes the tree only, and it fails exactly when a failure
escapes. -/
theorem forgiving_recordRun (s : Surroundings) (r : RunReport) (u : Terminal) :
    ∃ q t', (CliAction.forgiving isLedgerFailure (recordRun s r)).run u = (q, u.withTree t') ∧
      (¬ EndsIn Failure.Escapes (recording s r) u.world.tree → q = .ok ()) ∧
      (EndsIn Failure.Escapes (recording s r) u.world.tree → ∃ f, q = .error f ∧ f.Escapes) := by
  rw [CliAction.forgiving_run, recordRun_eq, Effect.run_bind, CliAction.onFiles_run]
  rcases hrecord : (recording s r).run u.world.tree with ⟨f | ledger, t'⟩
  · dsimp only
    cases hf : isLedgerFailure f with
    | true =>
      refine ⟨.ok (), t', rfl, fun _ => rfl, ?_⟩
      rintro ⟨g, t'', hg, hescapes⟩
      rw [hrecord] at hg
      cases hg
      rw [Failure.Escapes, hf] at hescapes
      cases hescapes
    | false =>
      refine ⟨.error f, t', rfl, fun hnone => ?_, fun _ => ⟨f, rfl, hf⟩⟩
      exact absurd ⟨f, t', hrecord, hf⟩ hnone
  · refine ⟨.ok (), t', rfl, fun _ => rfl, ?_⟩
    rintro ⟨g, t'', hg, -⟩
    rw [hrecord] at hg
    cases hg

/-! ## The exit status -/

/-- The exit status that goes with a report. -/
def statusOf (report : RunReport) : ExitStatus := if report.status = .completed then 0 else 1

/-- A request that was carried out ends with the status of its report, once the report is printed. -/
def EndsAsReported (s : Surroundings) (request : Text) (verbose dryRun : Bool) (budget : Option Int)
    (u : Terminal) (report : RunReport) : Prop :=
  ∃ w', (query s request verbose dryRun budget).run u =
    (.ok (statusOf report), ⟨w', u.out ++ reportLines report verbose, u.err⟩)

/-- Every line of a report can be printed. -/
def IsPrintable (report : RunReport) (verbose : Bool) : Prop :=
  ∀ line ∈ reportLines report verbose, line.HasEncoding

/-- Once a run was carried out, its report is printed and then the run is recorded. -/
theorem query_run (verbose : Bool) (hengine : s.engine = .ok engine)
    (hrun : (Run.perform (s.runConfig dryRun budget) engine s.runId request).run u.world =
      (.ok (report, session), w)) :
    (query s request verbose dryRun budget).run u =
      (do
        CliAction.printAll (reportLines report verbose)
        CliAction.forgiving isLedgerFailure (recordRun s report)
        return statusOf report : CliAction ExitStatus).run { u with world := w } := by
  have hperform : (CliAction.onWorld (Run.perform (s.runConfig dryRun budget) engine s.runId
      request)).run u = (.ok (report, session), { u with world := w }) := by
    rw [CliAction.onWorld_run, hrun]
  have hstatus : (if report.isComplete then 0 else 1) = statusOf report := by
    simp [statusOf, RunReport.isComplete]
  rw [query, hengine]
  dsimp only
  rw [Effect.run_bind, hperform]
  dsimp only
  rw [hstatus]

/-- A report with a line that cannot be printed ends the request there, before the run is recorded. -/
theorem query_unprintable (hengine : s.engine = .ok engine)
    (hrun : (Run.perform (s.runConfig dryRun budget) engine s.runId request).run u.world =
      (.ok (report, session), w))
    (hprint : ¬ IsPrintable report verbose) :
    (query s request verbose dryRun budget).run u = (.error (.defect .unencodable),
      ⟨w, u.out ++ (reportLines report verbose).takeWhile Text.isEncodable, u.err⟩) := by
  rw [query_run verbose hengine hrun, Effect.run_bind, CliAction.printAll_fails hprint]
  rfl

/-- A report that can be printed is, and then the request ends with the status of the report or in
the failure that escapes from recording the run. -/
theorem query_course (hengine : s.engine = .ok engine)
    (hrun : (Run.perform (s.runConfig dryRun budget) engine s.runId request).run u.world =
      (.ok (report, session), w))
    (hprint : IsPrintable report verbose) :
    ∃ q t', (query s request verbose dryRun budget).run u =
        (q, ⟨{ w with tree := t' }, u.out ++ reportLines report verbose, u.err⟩) ∧
      (¬ EndsIn Failure.Escapes (recording s report) w.tree → q = .ok (statusOf report)) ∧
      (EndsIn Failure.Escapes (recording s report) w.tree → ∃ f, q = .error f ∧ f.Escapes) := by
  obtain ⟨q, t', hrecord, hdone, hescapes⟩ := forgiving_recordRun s report
    (Terminal.printed { u with world := w } (reportLines report verbose))
  have hquery := query_run verbose hengine hrun
  rw [Effect.run_bind, CliAction.printAll_ok hprint] at hquery
  dsimp only at hquery
  rw [Effect.run_bind, hrecord] at hquery
  by_cases hfault : EndsIn Failure.Escapes (recording s report) w.tree
  · obtain ⟨f, rfl, hf⟩ := hescapes hfault
    exact ⟨_, t', hquery, fun hnone => absurd hfault hnone, fun _ => ⟨f, rfl, hf⟩⟩
  · obtain rfl := hdone hfault
    exact ⟨_, t', hquery, fun _ => rfl, fun h => absurd h hfault⟩

/-- A request ends as reported exactly when its report can be printed and no failure escapes from
recording the run. -/
theorem endsAsReported_iff (hengine : s.engine = .ok engine)
    (hrun : (Run.perform (s.runConfig dryRun budget) engine s.runId request).run u.world =
      (.ok (report, session), w)) :
    EndsAsReported s request verbose dryRun budget u report ↔
      IsPrintable report verbose ∧ ¬ EndsIn Failure.Escapes (recording s report) w.tree := by
  by_cases hprint : IsPrintable report verbose
  · obtain ⟨q, t', hquery, hdone, hfails⟩ := query_course hengine hrun hprint
    refine ⟨fun ⟨w', hends⟩ => ⟨hprint, fun hescapes => ?_⟩, fun ⟨_, hnone⟩ => ?_⟩
    · obtain ⟨f, rfl, -⟩ := hfails hescapes
      rw [hquery] at hends
      cases hends
    · rw [hdone hnone] at hquery
      exact ⟨_, hquery⟩
  · refine iff_of_false (fun ⟨w', hends⟩ => ?_) fun h => hprint h.1
    rw [query_unprintable hengine hrun hprint] at hends
    cases hends

/-- A command at the root of the file system, with an engine that answers at once and a ledger at an
address. -/
def answeredAt (ledgerAddress : Text) : Surroundings where
  workingDirectory := []
  settings := { ledgerAddress }
  engine := .ok .answering
  runId := "run"
  now := 0

/-- The tree in which a file stands where the directory of the ledger should be. -/
def occupiedTree : Tree := ⟨[([".schemapilot"], .file [])]⟩

/-- A file where the directory of the ledger should be is a failure that escapes. -/
theorem recordFault_occupied (r : RunRecord) :
    Ledger.RecordFault [] [] "sqlite:///.schemapilot/runs.db" r occupiedTree := by
  have hseen : (anchoredAddress occupiedTree [] "sqlite:///.schemapilot/runs.db").toOption.map id =
      some (Text.ofString "sqlite:////.schemapilot/runs.db") := by
    decide +kernel
  have hread : (Address.ofText "sqlite:////.schemapilot/runs.db").toOption.map
      (fun a => a.place? []) = some (some ([".schemapilot", "runs.db"] : Location)) := by
    decide +kernel
  obtain ⟨seen, hseen, rfl⟩ := Effect.result_ok_of_map hseen
  obtain ⟨a, haddress, hplace⟩ := Effect.result_ok_of_map hread
  have hmake : (FileAction.makeDirectory [".schemapilot"]).run occupiedTree =
      (.error (.system ⟨.alreadyExists, "/.schemapilot"⟩), occupiedTree) := rfl
  exact .directories hseen haddress hplace hmake

end Cli

end Tablewright
