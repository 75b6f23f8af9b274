/-
Configured commands.

A command line is split into words, and a label comes behind them as a word of its own, behind its
flag. No quote, blank or dash in the label can therefore become part of anything else. What is
started is settled before the process does anything: a command that has words is shown in a dry run,
and in a real one it starts one process, unless the system cannot be given one of the words; a command
that has none does neither. A label can hold what the system cannot be given, and then the run has no
answer to the failure (`runMigrationCommand_run_of_flaw`).
-/
import Tablewright.Proofs.Action
import Tablewright.Tool.Handlers

set_option autoImplicit false

namespace Tablewright

/-! ## The words of a command -/

/-- What a label adds to the words of a command: itself, as it is, behind the flag unless that is
empty. No label and an empty one add nothing. -/
def Command.labelWords (flag : Text) : Option Text → List Text
  | none => []
  | some label =>
    if label.isEmpty then [] else (if flag.isEmpty then [] else [flag]) ++ [label]

/-- A command line with a label is built exactly when it can be split into words and there are
some; the label comes behind them. -/
theorem Command.build_line_ok_iff {line : Text} {label flag : Option Text} {words : List Text} :
    (Command.line line).build label flag = .ok words ↔
      ∃ base, CommandLine.words line = .ok base ∧ base ≠ [] ∧
        base ++ labelWords (Text.orEmpty flag) label = words := by
  rw [Command.build, Effect.result_bind_ok_iff]
  cases hsplit : CommandLine.words line with
  | error v => simp
  | ok base =>
    cases base with
    | nil => simp [bind, Except.bind]
    | cons first rest =>
      -- of the label and of the flag it matters whether they are there and whether they are empty
      rcases label with _ | _ | ⟨c, label⟩
      all_goals rcases flag with _ | _ | ⟨d, flag⟩
      all_goals
        simp [labelWords, Text.orEmpty, pure, Except.pure, bind, Except.bind]

/-- A label with blanks, quotes and dashes is one word. -/
example : (Command.line "alembic revision --message 'a b'").build (some "-x \"; c'") (some "-m")
    = .ok ["alembic", "revision", "--message", "a b", "-m", "-x \"; c'"] := rfl

/-! ## Running a command -/

namespace Tool

variable {ctx : ToolContext} {command : Text} {label flag : Option Text}

/-- A command that has no words comes to nothing. -/
theorem runMigrationCommand_run_of_error {f : Failure}
    (hwords : (Command.line command).build label flag = .error f) (w : World) :
    (runMigrationCommand ctx command label flag).run w = (.error f, w) := by
  have hbuild : (Action.ofExcept ((Command.line command).build label flag)).run w = (.error f, w) :=
    Action.ofExcept_iff.mpr ⟨hwords, rfl⟩
  rw [runMigrationCommand]
  split
  · exact Effect.bind_error_iff.mpr (.inl hbuild)
  · exact Effect.bind_error_iff.mpr (.inl (Effect.bind_error_iff.mpr (.inl hbuild)))

/-- What is shown of a command that is not run. -/
def commandPreview (words : List Text) : Members :=
  [("command", .str (Refusal.commandLine words)), ("action", .str preview)]

/-- In a dry run a command that has words is shown. -/
theorem runMigrationCommand_dry_run (hdry : ctx.dryRun = true) {words : List Text}
    (hwords : (Command.line command).build label flag = .ok words) (w : World) :
    (runMigrationCommand ctx command label flag).run w = (.ok (commandPreview words), w) := by
  rw [runMigrationCommand, if_pos hdry]
  exact Effect.bind_ok_iff.mpr ⟨words, w, Action.ofExcept_iff.mpr ⟨hwords, rfl⟩, rfl⟩

/-- The process a tool starts for the words of a command. -/
def process (ctx : ToolContext) (words : List Text) : Spawn :=
  ⟨words, some ctx.root.text, ctx.limit⟩

/-- In a real run a command starts no process when the system cannot be given one of its words. -/
theorem runMigrationCommand_run_of_flaw (hreal : ctx.dryRun = false) {words : List Text}
    (hwords : (Command.line command).build label flag = .ok words) {flaw : HandoverFlaw}
    (hflaw : (process ctx words).flaw? = some flaw) (w : World) :
    (runMigrationCommand ctx command label flag).run w = (.error (.badValue (.badWord flaw)), w) := by
  rw [runMigrationCommand, hreal, if_neg Bool.false_ne_true]
  refine Effect.bind_error_iff.mpr (.inl (Effect.bind_error_iff.mpr (.inr ?_)))
  refine ⟨words, w, Action.ofExcept_iff.mpr ⟨hwords, rfl⟩, Effect.bind_error_iff.mpr (.inl ?_)⟩
  exact Action.spawn_run_of_flaw hflaw w

/-- What comes of a command, by what its process does. Only a process that ends with status zero and
is read comes to something; one that is not read is no failure the run has an answer to. -/
inductive ComesOf : ProcessEvent → Except Failure Members → Prop
  /-- The process ends with status zero. -/
  | done {stdout stderr : Text} {data : Members} : ComesOf (.ended 0 stdout stderr) (.ok data)
  /-- Its outputs are not read. -/
  | unread {status : Option Int} {reason : Text} :
      ComesOf (.unread status reason) (.error (.badValue (.unreadOutput reason)))
  /-- Anything else. -/
  | failed {e : ProcessEvent} {f : Failure} (hend : ∀ stdout stderr, e ≠ .ended 0 stdout stderr)
      (hread : ∀ status reason, e ≠ .unread status reason)
      (hanswer : f.IsAnswered ∨ f = .interrupted ∧ e = .interrupted) : ComesOf e (.error f)

/-- In a real run a command whose words the system can be given starts one process, and what comes of
it is what that process does. -/
theorem runMigrationCommand_run (hreal : ctx.dryRun = false) {words : List Text}
    (hwords : (Command.line command).build label flag = .ok words)
    (hflaw : (process ctx words).flaw? = none) (w : World) :
    ∃ q, (runMigrationCommand ctx command label flag).run w = (q, w.start (process ctx words)) ∧
      ComesOf w.upcoming q := by
  have hspawn := Action.spawn_run hflaw w
  rw [process] at hspawn ⊢
  rw [runMigrationCommand, hreal, if_neg Bool.false_ne_true, Effect.run_bind, Command.run,
    Effect.run_bind, Action.ofExcept_iff.mpr ⟨hwords, rfl⟩]
  dsimp only
  rw [Effect.run_bind, hspawn]
  dsimp only
  cases w.upcoming with
  | ended status stdout stderr =>
    by_cases hzero : status = 0
    · subst hzero
      exact ⟨_, rfl, .done⟩
    · have hfail : ProcessResult.ok ⟨words, status, stdout, stderr⟩ = false :=
        decide_eq_false hzero
      simp only [Effect.pure_ok_iff.mpr ⟨rfl, rfl⟩, hfail]
      exact ⟨_, rfl, .failed (by simp [hzero]) nofun (.inl trivial)⟩
  | unread status reason => exact ⟨_, rfl, .unread⟩
  | timedOut | refused _ => exact ⟨_, rfl, .failed nofun nofun (.inl trivial)⟩
  | interrupted => exact ⟨_, rfl, .failed nofun nofun (.inr ⟨rfl, rfl⟩)⟩

end Tool

end Tablewright
