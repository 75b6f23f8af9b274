/-
What a row of a ledger tells is what was recorded in it.

The progress of a run is written as JSON text and read back (`ProgressColumn.read_write`): the
entities keep their names and their order, and each stage its truth value, since a stage is known by
its label and no label stands twice. The other columns hold what the record holds. Which records can
be stored at all is told by `RunRecord.fault?_eq_none_iff`.
-/
import Mathlib.Data.List.Nodup
import Tablewright.Ledger.Row
import Tablewright.Json.Basic
import Tablewright.Proofs.Json.RoundTrip
import Tablewright.Proofs.Workflow

set_option autoImplicit false

namespace Tablewright

/-! ## Words for stages and statuses -/

theorem Stage.hasEncoding_label (s : Stage) : s.label.HasEncoding := by
  cases s <;> exact Text.hasEncoding_ofString _

@[simp] theorem RunStatus.ofLabel?_label (s : RunStatus) : RunStatus.ofLabel? s.label = some s := by
  cases s <;> decide

/-! ## The column of the progress -/

namespace ProgressColumn

variable {stages : List (Stage × Bool)} {rows : List (Text × List (Stage × Bool))}

/-- Progress that can be read back: names have an encoding, and no stage is told twice. -/
structure Readable (rows : List (Text × List (Stage × Bool))) : Prop where
  names : ∀ row ∈ rows, row.1.HasEncoding
  stages : ∀ row ∈ rows, (row.2.map Prod.fst).Nodup

/-- Members tell of the stages that were written as members. -/
@[simp] theorem stagesOf_stageMembers (stages : List (Stage × Bool)) :
    stagesOf (stageMembers stages) = stages := by
  have hmember : ((fun m : Text × Json => (Stage.ofLabel? m.1).map fun s => (s, m.2.isGiven)) ∘
      fun s : Stage × Bool => (s.1.label, Json.bool s.2)) = some := by
    funext s
    simp [Json.isGiven]
  rw [stagesOf, stageMembers, List.filterMap_map, hmember, List.filterMap_some]

/-- The two keys of an entity's value are different. -/
theorem keys_nodup : [entityKey, stagesKey].Nodup := by decide

/-- An entity's value tells of the entity and its stages. -/
@[simp] theorem entityOf_ofEntity (row : Text × List (Stage × Bool)) :
    entityOf (ofEntity row) = .ok row := by
  have hkeys : ([(entityKey, Json.str row.1), (stagesKey, .obj (stageMembers row.2))].map
      Prod.fst).Nodup := keys_nodup
  rw [ofEntity, entityOf,
    Members.get?_of_mem hkeys List.mem_cons_self,
    Members.get?_of_mem hkeys (List.mem_cons_of_mem _ List.mem_cons_self)]
  dsimp only
  rw [stagesOf_stageMembers]

/-- The value of a progress tells of it. -/
theorem rowsOf_ofRows (rows : List (Text × List (Stage × Bool))) :
    rowsOf (ofRows rows) = .ok rows := by
  rw [ofRows, rowsOf]
  induction rows with
  | nil => rfl
  | cons row rows ih =>
    rw [List.map_cons, List.mapM_cons, entityOf_ofEntity, ih]
    rfl

/-- The labels of stages that are told once are different. -/
theorem stageMembers_keys (h : (stages.map Prod.fst).Nodup) :
    ((stageMembers stages).map Prod.fst).Nodup := by
  have hmap : (stageMembers stages).map Prod.fst = (stages.map Prod.fst).map Stage.label := by
    rw [stageMembers, List.map_map, List.map_map]
    rfl
  rw [hmap]
  exact h.map Stage.label_injective

/-- The stages of an entity are determined by their text. -/
theorem isDetermined_stages {n : Nat} (h : (stages.map Prod.fst).Nodup) :
    Json.IsDetermined (n + 1) (.obj (stageMembers stages)) := by
  refine .obj (stageMembers_keys h) ?_ ?_
  · intro m hm
    obtain ⟨s, -, rfl⟩ := List.mem_map.mp hm
    exact s.1.hasEncoding_label
  · intro m hm
    obtain ⟨s, -, rfl⟩ := List.mem_map.mp hm
    exact .bool _ _

/-- A progress that can be read back is determined by its text. -/
theorem isDetermined_ofRows {n : Nat} (h : Readable rows) :
    Json.IsDetermined (n + 3) (ofRows rows) := by
  refine .arr fun v hv => ?_
  obtain ⟨row, hrow, rfl⟩ := List.mem_map.mp hv
  refine .obj keys_nodup ?_ ?_
  · rintro m (_ | ⟨_, _ | ⟨_, ⟨⟩⟩⟩) <;> exact Text.hasEncoding_ofString _
  · rintro m (_ | ⟨_, _ | ⟨_, ⟨⟩⟩⟩)
    · exact .str (h.names row hrow)
    · exact isDetermined_stages (h.stages row hrow)

/-- **The column.** What is written as JSON text is read back. -/
theorem read_write (h : Readable rows) : read (ofRows rows).write = .ok rows := by
  have hread : Json.read depth (ofRows rows).write = .ok (ofRows rows) :=
    Json.read_value JsonWriter.isSpaced_oneLine (isDetermined_ofRows h) 0
  rw [read, hread]
  exact rowsOf_ofRows rows

end ProgressColumn

/-! ## What can be stored -/

/-- An integer can be stored exactly when it fits 64 bits. -/
theorem isStorable_iff {n : Int} : isStorable n = true ↔ -(twoTo 63 : Int) ≤ n ∧ n < twoTo 63 := by
  rw [isStorable, Bool.and_eq_true, decide_eq_true_eq, decide_eq_true_eq]

/-- A record can be stored exactly when its texts have encodings and its integers fit 64 bits. -/
theorem RunRecord.fault?_eq_none_iff {r : RunRecord} :
    r.fault? = none ↔ r.id.HasEncoding ∧ r.request.HasEncoding ∧ r.stepsUsed < twoTo 63 ∧
      (-(twoTo 63 : Int) ≤ r.budget ∧ r.budget < twoTo 63) ∧
        ∀ answer, r.finalAnswer = some answer → answer.HasEncoding := by
  have hsteps : isStorable r.stepsUsed = true ↔ r.stepsUsed < twoTo 63 := by
    rw [isStorable_iff]
    omega
  have hanswer : (Text.orEmpty r.finalAnswer).isEncodable = true ↔
      ∀ answer, r.finalAnswer = some answer → answer.HasEncoding := by
    cases r.finalAnswer with
    | none => simp [Text.orEmpty, Text.isEncodable]
    | some answer => simp [Text.orEmpty, Text.isEncodable_iff]
  rw [← hsteps, ← isStorable_iff, ← hanswer, ← Text.isEncodable_iff, ← Text.isEncodable_iff, fault?]
  cases r.id.isEncodable <;> cases r.request.isEncodable <;> cases isStorable r.stepsUsed <;>
    cases isStorable r.budget <;> cases (Text.orEmpty r.finalAnswer).isEncodable <;> simp

/-! ## Rows -/

/-- **The row of a record tells of the record.** -/
theorem LedgerRow.record_row {r : RunRecord} (h : ProgressColumn.Readable r.progress) :
    r.row.record = .ok r := by
  rw [LedgerRow.record]
  dsimp only [RunRecord.row]
  rw [ProgressColumn.read_write h, RunStatus.ofLabel?_label]
  rfl

end Tablewright
