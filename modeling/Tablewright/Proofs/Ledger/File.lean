/-
The file of a ledger: what it holds, and what recording, reading and connecting come to.

A file holds a log of recordings when its rows are theirs (`Tree.HoldsLog`). Loading finds the rows,
and makes a ledger of a file that is missing or empty (`loadRows_run`); from this follows what each
operation answers and which log the file holds then. Connecting only makes the directories above the
file, so connecting again changes nothing (`Ledger.connect_again`).
-/
import Tablewright.Ledger.Store
import Tablewright.Proofs.Files.Directory
import Tablewright.Proofs.Ledger.Recording

set_option autoImplicit false

namespace Tablewright

/-- The rows of recordings. -/
def Recording.rows (log : List Recording) : List LedgerRow := log.map fun e => e.record.row

/-- A location that leads to the file of a ledger with a log. A file that is missing or empty holds
no recording. -/
inductive Tree.HoldsLog (t : Tree) (l : Location) : List Recording → Prop
  | kept {place : Location} {log : List Recording}
      (h : t.walk true l = .ok (.existing place (.ledger (Recording.rows log)))) : HoldsLog t l log
  | empty {place : Location} (h : t.walk true l = .ok (.existing place (.file []))) : HoldsLog t l []
  | missing {place : Location} (h : t.walk true l = .ok (.vacant place)) : HoldsLog t l []

variable {t : Tree} {l : Location} {log : List Recording} {e : Recording}

namespace FileAction

theorem ofExcept_ok_iff {α : Type} {r : Except Failure α} {x : α} {t' : Tree} :
    (ofExcept r).run t = (.ok x, t') ↔ r = .ok x ∧ t' = t := look_iff

theorem ensure_ok_iff {α : Type} {r : Except Defect α} {x : α} {t' : Tree} :
    (ensure r).run t = (.ok x, t') ↔ r = .ok x ∧ t' = t := by
  rw [ensure, ofExcept_ok_iff]
  cases r <;> simp

theorem ensure_error {α : Type} (d : Defect) (t : Tree) :
    (ensure (.error d : Except Defect α)).run t = (.error (.defect d), t) := rfl

end FileAction

/-- **Loading.** The rows that are loaded are those of the log, and the file is one of a ledger
then. -/
theorem loadRows_run (h : t.HoldsLog l log) :
    ∃ place t', (loadRows l).run t = (.ok (place, Recording.rows log), t') ∧ t.Evolves t' ∧
      t'.walk true l = .ok (.existing place (.ledger (Recording.rows log))) := by
  have hnew : ∀ {place : Location}, t.Open l place →
      t.Evolves (t.put place (.ledger [])) ∧
        (t.put place (.ledger [])).walk true l = .ok (.existing place (.ledger [])) :=
    fun hopen => hopen.put rfl
  cases h with
  | @kept place log hwalk =>
    refine ⟨place, t, ?_, (Tree.Extends.refl t).evolves, hwalk⟩
    rw [loadRows, FileAction.run_get_bind]
    rw [hwalk]
    rfl
  | @empty place hwalk =>
    obtain ⟨hlater, hplace⟩ := hnew (.file hwalk rfl)
    refine ⟨place, t.put place (.ledger []), ?_, hlater, hplace⟩
    rw [loadRows, FileAction.run_get_bind]
    rw [hwalk]
    rfl
  | @missing place hwalk =>
    obtain ⟨hlater, hplace⟩ := hnew (.vacant hwalk)
    refine ⟨place, t.put place (.ledger []), ?_, hlater, hplace⟩
    rw [loadRows, FileAction.run_get_bind]
    rw [hwalk]
    rfl

/-! ## Recording -/

/-- Whether a row has an id is whether a recording has it. -/
theorem Recording.any_rows (log : List Recording) (id : Text) :
    ((rows log).any fun row => row.id = id) = true ↔ ∃ e ∈ log, e.report.id = id := by
  rw [rows, List.any_map, List.any_eq_true]
  simp only [Function.comp_apply, decide_eq_true_eq]
  rfl

namespace Ledger

/-- A run whose id is recorded is not recorded again. -/
theorem record_known (h : t.HoldsLog l log) (hfits : e.Fits)
    (hknown : ∃ e' ∈ log, e'.report.id = e.report.id) :
    ∃ t', (record e.record (inFile l)).run t = (.error (.defect .duplicateRun), t') ∧
      t.Evolves t' ∧ t'.HoldsLog l log := by
  obtain ⟨place, t', hload, hlater, hwalk⟩ := loadRows_run h
  have hinsert : LedgerRow.insert (Recording.rows log) e.record = .error .duplicateRun := by
    rw [LedgerRow.insert, hfits.fault?_record]
    exact if_pos ((Recording.any_rows log e.report.id).mpr hknown)
  refine ⟨t', ?_, hlater, .kept hwalk⟩
  rw [record, Effect.run_bind, hload]
  dsimp only
  rw [hinsert, Effect.run_bind, FileAction.ensure_error]

/-- A run whose id is not recorded is added to the log. -/
theorem record_new (h : t.HoldsLog l log) (hfits : e.Fits)
    (hnew : ∀ e' ∈ log, e'.report.id ≠ e.report.id) :
    ∃ t', (record e.record (inFile l)).run t = (.ok (inFile l), t') ∧ t.Evolves t' ∧
      t'.HoldsLog l (log ++ [e]) := by
  obtain ⟨place, t', hload, hlater, hwalk⟩ := loadRows_run h
  have hinsert : LedgerRow.insert (Recording.rows log) e.record
      = .ok (Recording.rows (log ++ [e])) := by
    rw [LedgerRow.insert, hfits.fault?_record]
    refine (if_neg fun hany => ?_).trans ?_
    · obtain ⟨e', he', hid⟩ := (Recording.any_rows log e.report.id).mp hany
      exact hnew e' he' hid
    · rw [Recording.rows, Recording.rows, List.map_append]
      rfl
  have hopen : t'.Open l place := .file hwalk rfl
  obtain ⟨hstored, hkept⟩ := hopen.put (n := .ledger (Recording.rows (log ++ [e]))) rfl
  refine ⟨t'.put place (.ledger (Recording.rows (log ++ [e]))), ?_, hlater.trans hstored, .kept hkept⟩
  rw [record, Effect.run_bind, hload]
  dsimp only
  rw [hinsert, Effect.run_bind, FileAction.ensure_ok_iff.mpr ⟨rfl, rfl⟩]
  rfl

/-! ## Reading -/

/-- The runs of a ledger are the records of its log. -/
theorem runs_run (h : t.HoldsLog l log) (hfits : ∀ e ∈ log, e.Fits) :
    ∃ t', (runs (inFile l)).run t = (.ok (log.map Recording.record), t') ∧ t.Evolves t' ∧
      t'.HoldsLog l log := by
  obtain ⟨place, t', hload, hlater, hwalk⟩ := loadRows_run h
  refine ⟨t', ?_, hlater, .kept hwalk⟩
  rw [runs, Effect.run_bind, hload]
  dsimp only
  rw [Recording.rows, Recording.mapM_record hfits, FileAction.ensure_ok_iff.mpr ⟨rfl, rfl⟩]

/-- The newest run is the first from the newest back, if there is one. -/
theorem latest_run (h : t.HoldsLog l log) (hfits : ∀ e ∈ log, e.Fits)
    (hids : (log.map (·.report.id)).Nodup) :
    ∃ order t', Recording.NewestFirst log order ∧
      (latest (inFile l)).run t = (.ok (order.head?.map Recording.record), t') ∧ t.Evolves t' ∧
      t'.HoldsLog l log := by
  obtain ⟨t', hrun, hlater, hholds⟩ := runs_run h hfits
  obtain ⟨order, horder, hnewest⟩ := Recording.exists_newestFirst hids
  refine ⟨order, t', horder, ?_, hlater, hholds⟩
  rw [latest, Effect.run_bind, hrun]
  dsimp only
  rw [RunLog.latest?, hnewest, List.head?_map]
  rfl

/-- The newest runs up to a limit are the first from the newest back. -/
theorem recent_run (h : t.HoldsLog l log) (hfits : ∀ e ∈ log, e.Fits)
    (hids : (log.map (·.report.id)).Nodup) (limit : Nat) :
    ∃ order t', Recording.NewestFirst log order ∧
      (recent (some limit) (inFile l)).run t = (.ok ((order.take limit).map Recording.record), t') ∧
      t.Evolves t' ∧ t'.HoldsLog l log := by
  obtain ⟨t', hrun, hlater, hholds⟩ := runs_run h hfits
  obtain ⟨order, horder, hnewest⟩ := Recording.exists_newestFirst hids
  refine ⟨order, t', horder, ?_, hlater, hholds⟩
  rw [recent, Effect.run_bind, hrun]
  dsimp only
  rw [RunLog.recent, hnewest, if_pos (Int.natCast_nonneg limit), Int.toNat_natCast, List.map_take]
  rfl

/-! ## Connecting -/

/-- Connecting comes to a file exactly when the address names the file of an embedded database that
can be talked to, and the directories above it can be made. -/
theorem connect_inFile_iff {workingDirectory : Location} {url : Text} {t' : Tree} :
    (connect workingDirectory url).run t = (.ok (inFile l), t') ↔
      ∃ a place, Address.ofText url = .ok a ∧ a.place? workingDirectory = some place ∧
        (FileAction.makeDirectory place.dropLast).run t = (.ok (), t') ∧ a.checkClient = .ok () ∧
        a.checkEmbedded = .ok () ∧ l = place.normalize := by
  constructor
  · intro h
    obtain ⟨a, _, hread, hrest⟩ := Effect.bind_ok_iff.mp h
    obtain ⟨haddress, rfl⟩ := FileAction.ofExcept_ok_iff.mp hread
    cases hplace : a.place? workingDirectory with
    | none =>
      rw [hplace] at hrest
      obtain ⟨_, _, -, hrest⟩ := Effect.bind_ok_iff.mp hrest
      obtain ⟨_, _, -, hrest⟩ := Effect.bind_ok_iff.mp hrest
      cases hrest
    | some place =>
      rw [hplace] at hrest
      obtain ⟨_, _, hmade, hrest⟩ := Effect.bind_ok_iff.mp hrest
      obtain ⟨_, _, hcheck, hopened⟩ := Effect.bind_ok_iff.mp hrest
      obtain ⟨hclient, rfl⟩ := FileAction.ensure_ok_iff.mp hcheck
      obtain ⟨_, _, hcheck', hlast⟩ := Effect.bind_ok_iff.mp hopened
      obtain ⟨hembedded, rfl⟩ := FileAction.ensure_ok_iff.mp hcheck'
      cases hlast
      exact ⟨a, place, haddress, hplace, hmade, hclient, hembedded, rfl⟩
  · rintro ⟨a, place, haddress, hplace, hmade, hclient, hembedded, rfl⟩
    refine Effect.bind_ok_iff.mpr ⟨a, t, FileAction.ofExcept_ok_iff.mpr ⟨haddress, rfl⟩, ?_⟩
    rw [hplace]
    refine Effect.bind_ok_iff.mpr ⟨(), t', hmade, ?_⟩
    refine Effect.bind_ok_iff.mpr ⟨(), t', FileAction.ensure_ok_iff.mpr ⟨hclient, rfl⟩, ?_⟩
    exact Effect.bind_ok_iff.mpr ⟨(), t', FileAction.ensure_ok_iff.mpr ⟨hembedded, rfl⟩, rfl⟩

/-- **Connecting again** in a later tree comes to the same file and changes nothing. -/
theorem connect_again {workingDirectory : Location} {url : Text} {t' t'' : Tree}
    (h : (connect workingDirectory url).run t = (.ok (inFile l), t')) (hlater : t'.Evolves t'') :
    (connect workingDirectory url).run t'' = (.ok (inFile l), t'') := by
  obtain ⟨a, place, haddress, hplace, hmade, hclient, hembedded, rfl⟩ := connect_inFile_iff.mp h
  exact connect_inFile_iff.mpr ⟨a, place, haddress, hplace,
    FileAction.makeDirectory_again hmade hlater, hclient, hembedded, rfl⟩

end Ledger

end Tablewright
