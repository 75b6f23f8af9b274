/-
What the ledger keeps of a run, and its rows: a recorded run column by column, as the file of the
ledger keeps it.

The status is a word. The progress is one column of JSON text: a list with an object for every
entity, which holds its name and an object with a truth value for every stage.

A run is added at most once. The newest run is the one recorded last; of runs recorded at one
time the one with the greater id comes first.
-/
import Tablewright.Failure.Basic
import Tablewright.Json.Reader
import Tablewright.Json.Writer
import Tablewright.Workflow.Report

set_option autoImplicit false

namespace Tablewright

/-! ## Records -/

/-- The microseconds after a second. -/
abbrev Microsecond := Fin 1000000

/-- No microseconds after a second. -/
def Microsecond.zero : Microsecond := 0

/-- A recorded run. -/
structure RunRecord where
  /-- The id of the run. -/
  id : Text
  /-- The second in which the run was recorded, counted from the beginning of the year 2024. -/
  createdAt : Int
  /-- The microseconds after that second. -/
  microsecond : Microsecond
  /-- The request. -/
  request : Text
  /-- How the run ended. -/
  status : RunStatus
  /-- Whether files and processes were left alone. -/
  dryRun : Bool
  /-- How many steps were used. -/
  stepsUsed : Nat
  /-- How many steps were allowed. -/
  budget : Int
  /-- The accepted final answer. -/
  finalAnswer : Option Text
  /-- For every entity, which stages were completed. -/
  progress : List (Text × List (Stage × Bool))
deriving DecidableEq

/-- The record of a report at a time, which is a full second unless microseconds are given. -/
def RunReport.toRecord (r : RunReport) (createdAt : Int) (microsecond : Microsecond := .zero) :
    RunRecord :=
  { id := r.id
    createdAt
    microsecond
    request := r.request
    status := r.status
    dryRun := r.dryRun
    stepsUsed := r.stepsUsed
    budget := r.budget
    finalAnswer := r.finalAnswer
    progress := r.progressRows }

/-! ## Rows -/

/-- A row of a ledger. -/
structure LedgerRow where
  /-- The id of the run. No two rows of a ledger have the same. -/
  id : Text
  /-- The second in which the run was recorded. -/
  createdAt : Int
  /-- The microseconds after that second. -/
  microsecond : Microsecond
  /-- The request. -/
  request : Text
  /-- The word for how the run ended. -/
  status : Text
  /-- Whether files and processes were left alone. -/
  dryRun : Bool
  /-- How many steps were used. -/
  stepsUsed : Nat
  /-- How many steps were allowed. -/
  budget : Int
  /-- The accepted final answer. -/
  finalAnswer : Option Text
  /-- The progress as JSON text. -/
  progress : Text
deriving DecidableEq

/-! ## The column of the progress -/

namespace ProgressColumn

/-- The key of an entity's name. -/
def entityKey : Text := "entity"

/-- The key of an entity's stages. -/
def stagesKey : Text := "stages"

/-- Stages with their truth values as members. -/
def stageMembers (stages : List (Stage × Bool)) : Members :=
  stages.map fun s => (s.1.label, .bool s.2)

/-- An entity with its stages as a value. -/
def ofEntity (row : Text × List (Stage × Bool)) : Json :=
  .obj [(entityKey, .str row.1), (stagesKey, .obj (stageMembers row.2))]

/-- The progress of a run as a value. -/
def ofRows (rows : List (Text × List (Stage × Bool))) : Json := .arr (rows.map ofEntity)

/-- The stages that members tell of; members of other names do not count. -/
def stagesOf (ms : Members) : List (Stage × Bool) :=
  ms.filterMap fun m => (Stage.ofLabel? m.1).map fun s => (s, m.2.isGiven)

/-- The entity a value tells of, with its stages. -/
def entityOf : Json → Except Defect (Text × List (Stage × Bool))
  | .obj ms =>
    match Members.get? entityKey ms, Members.get? stagesKey ms with
    | some (.str name), some (.obj stages) => .ok (name, stagesOf stages)
    | some _, some _ => .error .wrongKind
    | _, _ => .error .noKey
  | _ => .error .wrongKind

/-- The progress a value tells of. -/
def rowsOf : Json → Except Defect (List (Text × List (Stage × Bool)))
  | .arr items => items.mapM entityOf
  | _ => .error .wrongKind

/-- How deep lists and objects of the column may nest. -/
def depth : Nat := 1000

/-- The progress a text tells of. -/
def read (t : Text) : Except Defect (List (Text × List (Stage × Bool))) :=
  match Json.read depth t with
  | .ok v => rowsOf v
  | .error _ => .error .wrongKind

end ProgressColumn

/-! ## Rows of records -/

/-- The row of a record. -/
def RunRecord.row (r : RunRecord) : LedgerRow :=
  { id := r.id
    createdAt := r.createdAt
    microsecond := r.microsecond
    request := r.request
    status := r.status.label
    dryRun := r.dryRun
    stepsUsed := r.stepsUsed
    budget := r.budget
    finalAnswer := r.finalAnswer
    progress := (ProgressColumn.ofRows r.progress).write }

/-- The record a row tells of. -/
def LedgerRow.record (row : LedgerRow) : Except Defect RunRecord := do
  let progress ← ProgressColumn.read row.progress
  match RunStatus.ofLabel? row.status with
  | none => throw .wrongKind
  | some status =>
    return { id := row.id
             createdAt := row.createdAt
             microsecond := row.microsecond
             request := row.request
             status
             dryRun := row.dryRun
             stepsUsed := row.stepsUsed
             budget := row.budget
             finalAnswer := row.finalAnswer
             progress }

/-! ## The log -/

/-- Whether an integer can be stored: it fits 64 bits. -/
def isStorable (n : Int) : Bool := -(twoTo 63 : Int) ≤ n && n < twoTo 63

/-- Why a record cannot be stored; the first part that cannot decides. A text is stored in its
encoding. -/
def RunRecord.fault? (r : RunRecord) : Option Defect :=
  if !r.id.isEncodable || !r.request.isEncodable then some .unencodable
  else if !isStorable r.stepsUsed || !isStorable r.budget then some .overflow
  else if !(Text.orEmpty r.finalAnswer).isEncodable then some .unencodable
  else none

/-- The rows of a ledger with one more run. -/
def LedgerRow.insert (rows : List LedgerRow) (r : RunRecord) : Except Defect (List LedgerRow) :=
  match r.fault? with
  | some d => .error d
  | none => if rows.any fun row => row.id = r.id then .error .duplicateRun else .ok (rows ++ [r.row])

/-- Recorded runs, in the order in which they were added. -/
abbrev RunLog := List RunRecord

namespace RunLog

/-- Whether a run comes before another one, from the newest back. -/
def comesBefore (a b : RunRecord) : Bool :=
  b.createdAt < a.createdAt || (a.createdAt = b.createdAt &&
    (b.microsecond < a.microsecond || (a.microsecond = b.microsecond && Text.le b.id a.id)))

/-- The runs from the newest back. -/
def newestFirst (log : RunLog) : List RunRecord := log.mergeSort comesBefore

/-- The newest runs, up to a limit. A negative limit is none. -/
def recent (log : RunLog) (limit : Option Int) : List RunRecord :=
  match limit with
  | some n => if 0 ≤ n then log.newestFirst.take n.toNat else log.newestFirst
  | none => log.newestFirst

/-- The newest run. -/
def latest? (log : RunLog) : Option RunRecord := log.newestFirst.head?

/-- How many runs a listing shows. -/
def listed : Int := 10

end RunLog

end Tablewright
