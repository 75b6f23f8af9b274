/-
Recordings: reports with the time at which they are recorded.

The record of a recording tells what the report tells (`Recording.tells_record`), and its row is read
back as that record (`Recording.record_row`). From the newest back recordings are strictly ordered by
time and id, as long as no id stands twice (`Recording.exists_newestFirst`), and in one way only.
-/
import Tablewright.Cli.Progress
import Tablewright.Ledger.Row
import Tablewright.Proofs.Ledger.Row
import Tablewright.Proofs.Text.Order

set_option autoImplicit false

namespace Tablewright

/-- A report with the time at which it is recorded. -/
structure Recording where
  /-- The report. -/
  report : RunReport
  /-- The second of the recording, counted from the beginning of the year 2024. -/
  createdAt : Int
  /-- The microseconds after that second. -/
  microsecond : Microsecond

namespace Recording

/-- The record of a recording. -/
def record (e : Recording) : RunRecord := e.report.toRecord e.createdAt e.microsecond

/-- A recording that a ledger can take: no text of the report holds a surrogate, and its numbers fit
64 bits. -/
structure Fits (e : Recording) : Prop where
  id : e.report.id.HasEncoding
  request : e.report.request.HasEncoding
  finalAnswer : ∀ answer, e.report.finalAnswer = some answer → answer.HasEncoding
  names : ∀ name ∈ e.report.state.names, name.HasEncoding
  stepsUsed : e.report.steps.length < twoTo 63
  budget : -(twoTo 63 : Int) ≤ e.report.budget ∧ e.report.budget < twoTo 63

end Recording

/-- A record that tells what a recording tells: the parts of the report, for every entity which
stages are completed, and the lines of the progress table. -/
structure RunRecord.Tells (r : RunRecord) (e : Recording) : Prop where
  id : r.id = e.report.id
  createdAt : r.createdAt = e.createdAt
  microsecond : r.microsecond = e.microsecond
  request : r.request = e.report.request
  status : r.status = e.report.status
  dryRun : r.dryRun = e.report.dryRun
  stepsUsed : r.stepsUsed = e.report.steps.length
  budget : r.budget = e.report.budget
  finalAnswer : r.finalAnswer = e.report.finalAnswer
  stages : r.progress = e.report.state.entities.map fun p =>
    (p.entity.name, Stage.all.map fun s => (s, p.has s))
  table : ProgressTable.lines r.progress = ProgressTable.lines e.report.progressRows

namespace Recording

theorem tells_record (e : Recording) : e.record.Tells e where
  id := rfl
  createdAt := rfl
  microsecond := rfl
  request := rfl
  status := rfl
  dryRun := rfl
  stepsUsed := rfl
  budget := rfl
  finalAnswer := rfl
  stages := rfl
  table := rfl

/-! ## Storing -/

/-- The progress of a report tells every stage of every entity once. -/
theorem Fits.readable {e : Recording} (h : e.Fits) :
    ProgressColumn.Readable e.record.progress where
  names row hrow := by
    obtain ⟨p, hp, rfl⟩ := List.mem_map.mp hrow
    exact h.names _ (List.mem_map.mpr ⟨p, hp, rfl⟩)
  stages row hrow := by
    obtain ⟨p, -, rfl⟩ := List.mem_map.mp hrow
    have hstages : (Stage.all.map fun s => (s, p.has s)).map Prod.fst = Stage.all := by
      rw [List.map_map]
      exact List.map_id _
    rw [hstages]
    decide

/-- The row of a recording is read back as its record. -/
theorem Fits.record_row {e : Recording} (h : e.Fits) : e.record.row.record = .ok e.record :=
  LedgerRow.record_row h.readable

/-- Rows of recordings are read back as their records. -/
theorem mapM_record {log : List Recording} (h : ∀ e ∈ log, e.Fits) :
    (log.map fun e => e.record.row).mapM LedgerRow.record = .ok (log.map record) := by
  induction log with
  | nil => rfl
  | cons e log ih =>
    rw [List.forall_mem_cons] at h
    rw [List.map_cons, List.mapM_cons, h.1.record_row, ih h.2]
    rfl

/-- No part of a recording that fits keeps its record from being stored. -/
theorem Fits.fault?_record {e : Recording} (h : e.Fits) : e.record.fault? = none := by
  exact RunRecord.fault?_eq_none_iff.mpr ⟨h.id, h.request, h.stepsUsed, h.budget, h.finalAnswer⟩

/-! ## From the newest back -/

/-- A recording at a later time than another one, or at the same time with the greater id. -/
def Newer (a b : Recording) : Prop :=
  b.createdAt < a.createdAt ∨ a.createdAt = b.createdAt ∧
    (b.microsecond < a.microsecond ∨
      a.microsecond = b.microsecond ∧ Text.Before b.report.id a.report.id)

/-- Recordings with the same time and id. -/
def SameKey (a b : Recording) : Prop :=
  a.createdAt = b.createdAt ∧ a.microsecond = b.microsecond ∧ a.report.id = b.report.id

/-- One record comes before another one when its recording is newer, or has the same time and
id. -/
theorem comesBefore_record {a b : Recording} :
    RunLog.comesBefore a.record b.record = true ↔ a.Newer b ∨ a.SameKey b := by
  change (b.createdAt < a.createdAt || (a.createdAt = b.createdAt && (b.microsecond < a.microsecond ||
    (a.microsecond = b.microsecond && Text.le b.report.id a.report.id)))) = true ↔ _
  simp only [Bool.or_eq_true, Bool.and_eq_true, decide_eq_true_eq, Text.le_iff, Newer, SameKey]
  grind

theorem comesBefore_trans (a b c : Recording) (hab : RunLog.comesBefore a.record b.record = true)
    (hbc : RunLog.comesBefore b.record c.record = true) :
    RunLog.comesBefore a.record c.record = true := by
  rw [comesBefore_record] at hab hbc ⊢
  simp only [Newer, SameKey] at hab hbc ⊢
  grind [Text.Before.trans]

theorem comesBefore_total (a b : Recording) :
    (RunLog.comesBefore a.record b.record || RunLog.comesBefore b.record a.record) = true := by
  rw [Bool.or_eq_true, comesBefore_record, comesBefore_record]
  simp only [Newer, SameKey]
  grind [Text.before_or_before]

/-- The recordings of a log from the newest back: all of them, each newer than those behind it. -/
structure NewestFirst (log order : List Recording) : Prop where
  all : order.Perm log
  descending : order.Pairwise Newer

/-- No recording is newer than one that is newer than it. -/
theorem Newer.asymm {a b : Recording} (h : a.Newer b) : ¬ b.Newer a := by
  have hids : Text.Before b.report.id a.report.id → ¬ Text.Before a.report.id b.report.id :=
    fun hba hab => Text.not_before_self _ (hab.trans hba)
  simp only [Newer] at h ⊢
  grind

/-- A log has only one order from the newest back. -/
theorem NewestFirst.unique {log order order' : List Recording} (h : NewestFirst log order)
    (h' : NewestFirst log order') : order = order' :=
  (h.all.trans h'.all.symm).eq_of_pairwise (fun _ _ _ _ hab hba => absurd hba hab.asymm)
    h.descending h'.descending

/-- **The order of the runs.** When no id stands twice, the runs from the newest back are the records
of the recordings from the newest back. -/
theorem exists_newestFirst {log : List Recording} (hids : (log.map (·.report.id)).Nodup) :
    ∃ order, NewestFirst log order ∧ RunLog.newestFirst (log.map record) = order.map record := by
  let comesBefore (a b : Recording) : Bool := RunLog.comesBefore a.record b.record
  refine ⟨log.mergeSort comesBefore, ⟨List.mergeSort_perm log comesBefore, ?_⟩, ?_⟩
  · have hsorted := List.pairwise_mergeSort comesBefore_trans comesBefore_total log
    have hdifferent : (log.mergeSort comesBefore).Pairwise fun a b => a.report.id ≠ b.report.id :=
      List.pairwise_map.mp ((List.mergeSort_perm log comesBefore).map _ |>.nodup_iff.mpr hids)
    refine (hsorted.and hdifferent).imp ?_
    rintro a b ⟨hbefore, hne⟩
    exact (comesBefore_record.mp hbefore).resolve_right fun hsame => hne hsame.2.2
  · exact (List.map_mergeSort (f := record) fun _ _ _ _ => rfl).symm

end Recording

end Tablewright
