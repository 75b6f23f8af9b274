/-
How recording a run fails.

Most of what can be wrong with a ledger only spoils the recording: a file that is no ledger or cannot
be opened, a malformed address, an unknown kind of database, and a run that is recorded already. The
other failures escape. `RecordFault` lists them by their causes, on the way from the address of the
ledger to the stored row, and `recordAt_escapes_iff` says that a failure escapes exactly then.
-/
import Tablewright.Cli.Commands
import Tablewright.Proofs.Ledger.File

set_option autoImplicit false

namespace Tablewright

open Effect (EndsIn FailsBy)

/-- Failures that do not only spoil the recording of a run. -/
def Failure.Escapes (f : Failure) : Prop := Cli.isLedgerFailure f = false

/-! ## Operations -/

namespace FileAction

variable {α : Type} {t : Tree} {P : Failure → Prop}

theorem endsIn_ofExcept_iff {r : Except Failure α} :
    EndsIn P (ofExcept r) t ↔ ∃ f, r = .error f ∧ P f := endsIn_look_iff

theorem endsIn_ensure_iff {r : Except Defect α} :
    EndsIn P (ensure r) t ↔ ∃ d, r = .error d ∧ P (.defect d) := by
  rw [ensure, endsIn_ofExcept_iff]
  cases r <;> simp

/-- Directories that cannot be made are a failure that escapes. -/
theorem makeDirectory_escapes_iff {l : Location} :
    EndsIn Failure.Escapes (makeDirectory l) t ↔
      ∃ e t', (makeDirectory l).run t = (.error (.system e), t') := by
  constructor
  · rintro ⟨f, t', h, -⟩
    obtain ⟨e, rfl⟩ := failsBy_makeDirectory l h
    exact ⟨e, t', h⟩
  · rintro ⟨e, t', h⟩
    exact ⟨_, t', h, rfl⟩

end FileAction

/-! ## Addresses -/

namespace Address

variable {url : Text} {a : Address} {d : Defect} {f : Failure}

/-- Failures that are about the port of an address. -/
inductive PortFault : Failure → Prop
  /-- The port is empty. -/
  | empty : PortFault (.defect .wrongKind)
  /-- The port is no integer. -/
  | notInteger (port : Text) : PortFault (.badValue (.badPort port))

theorem portOf_error {port : Option Text} (h : portOf port = .error f) : PortFault f := by
  rw [portOf.eq_def] at h
  split at h
  case h_1 => cases h
  case h_2 =>
    cases h
    exact .empty
  case h_3 port _ =>
    split at h
    case h_1 => cases h
    case h_2 =>
      cases h
      exact .notInteger port

/-- What is read as no address is malformed, or its port is. -/
theorem ofText_error (h : ofText url = .error f) : f = .defect .badAddress ∨ PortFault f := by
  rw [ofText] at h
  dsimp only at h
  split at h
  case isTrue =>
    cases h
    exact .inl rfl
  case isFalse =>
    split at h
    case h_1 =>
      cases h
      exact .inl rfl
    case h_2 =>
      rcases Effect.result_bind_error_iff.mp h with hport | ⟨_, -, hlast⟩
      · exact .inr (portOf_error hport)
      · cases hlast

/-- A failure to read an address escapes exactly when it is about the port. -/
theorem escapes_iff_portFault (h : ofText url = .error f) : f.Escapes ↔ PortFault f := by
  constructor
  · intro hf
    rcases ofText_error h with rfl | hport
    · cases hf
    · exact hport
  · intro hf
    cases hf <;> rfl

/-- The path of the file an embedded database lives in, when it is a relative one. -/
def relativeFile? (a : Address) : Option Path :=
  if a.isEmbedded then
    match a.file?.map Path.ofText with
    | some path => if path.isAbsolute then none else some path
    | none => none
  else none

/-- The address of a database whose file is moved into a directory. -/
def movedInto (a : Address) (base : Location) (path : Path) : Address :=
  { a with database := some (Location.text (base ++ path.names)) }

/-- An address of a relative file is moved into the project, and any other one is kept. -/
theorem anchoredAddress_eq (t : Tree) (root : Location) (url : Text) :
    anchoredAddress t root url = (do
      let a ← ofText url
      match a.relativeFile? with
      | none => return url
      | some path =>
        let base ← projectBase t root
        match (a.movedInto base path).text? with
        | some text => return text
        | none => throw (.defect .unencodable)) := rfl

/-- An address is not moved into the project when it is none, when the project is not found, or when
it cannot be written any more. -/
theorem anchoredAddress_error_iff {t : Tree} {root : Location} :
    anchoredAddress t root url = .error f ↔
      ofText url = .error f ∨ ∃ a path, ofText url = .ok a ∧ a.relativeFile? = some path ∧
        (projectBase t root = .error f ∨ ∃ base, projectBase t root = .ok base ∧
          (a.movedInto base path).text? = none ∧ f = .defect .unencodable) := by
  rw [anchoredAddress_eq, Effect.result_bind_error_iff]
  refine or_congr_right ⟨?_, ?_⟩
  · rintro ⟨a, ha, h⟩
    split at h
    case h_1 => cases h
    case h_2 path hpath =>
      refine ⟨a, path, ha, hpath, ?_⟩
      refine (Effect.result_bind_error_iff.mp h).imp_right fun ⟨base, hbase, hlast⟩ => ?_
      split at hlast
      case h_1 => cases hlast
      case h_2 htext =>
        cases hlast
        exact ⟨base, hbase, htext, rfl⟩
  · rintro ⟨a, path, ha, hpath, h⟩
    refine ⟨a, ha, ?_⟩
    rw [hpath]
    refine Effect.result_bind_error_iff.mpr (h.imp_right fun ⟨base, hbase, htext, hf⟩ => ?_)
    refine ⟨base, hbase, ?_⟩
    rw [htext, hf]
    rfl

/-- Of databases without a client, only those of a known kind are a failure that escapes. -/
theorem checkClient_error (h : a.checkClient = .error d) :
    d = .unknownDatabase ∨ d = .noDatabaseClient := by
  rw [checkClient] at h
  split at h
  case h_1 =>
    cases h
    exact .inl rfl
  case h_2 =>
    split at h
    case h_1 =>
      split at h
      case isTrue => cases h
      case isFalse =>
        cases h
        exact .inr rfl
    case h_2 =>
      split at h
      case isTrue => cases h
      case isFalse =>
        split at h
        case isTrue =>
          cases h
          exact .inr rfl
        case isFalse =>
          cases h
          exact .inl rfl

theorem checkEmbedded_error (h : a.checkEmbedded = .error d) : d = .badAddress := by
  rw [checkEmbedded] at h
  split at h
  case isTrue =>
    cases h
    rfl
  case isFalse => cases h

end Address

/-! ## Records -/

/-- What is wrong with a record escapes. -/
theorem RunRecord.escapes_of_fault? {r : RunRecord} {d : Defect} (h : r.fault? = some d) :
    (Failure.defect d).Escapes := by
  rw [fault?] at h
  split at h
  case isTrue =>
    cases h
    rfl
  case isFalse =>
    split at h
    case isTrue =>
      cases h
      rfl
    case isFalse =>
      split at h
      case isTrue =>
        cases h
        rfl
      case isFalse => cases h

/-- A record that cannot be inserted is at fault, or its run is recorded already. -/
theorem LedgerRow.insert_escapes_iff {rows : List LedgerRow} {r : RunRecord} :
    (∃ d, insert rows r = .error d ∧ (Failure.defect d).Escapes) ↔ ∃ d, r.fault? = some d := by
  rw [insert]
  cases hfault : r.fault? with
  | some d =>
    constructor
    · rintro -
      exact ⟨d, rfl⟩
    · rintro -
      exact ⟨d, rfl, RunRecord.escapes_of_fault? hfault⟩
  | none =>
    constructor
    · rintro ⟨d, h, hd⟩
      dsimp only at h
      split at h
      · cases h
        cases hd
      · cases h
    · rintro ⟨d, h⟩
      cases h

/-! ## Recording -/

namespace Ledger

variable {workingDirectory root l : Location} {url seen : Text} {t t' : Tree} {r : RunRecord}
  {ledger : Ledger}

/-- A ledger that can be used: one in memory, or one in a file that is a ledger's, that is empty or
that is not there yet. -/
inductive Usable (t : Tree) : Ledger → Prop
  | inMemory (rows : List LedgerRow) : Usable t (.inMemory rows)
  | kept {l place : Location} {rows : List LedgerRow}
      (h : t.walk true l = .ok (.existing place (.ledger rows))) : Usable t (.inFile l)
  | empty {l place : Location} (h : t.walk true l = .ok (.existing place (.file []))) :
      Usable t (.inFile l)
  | missing {l place : Location} (h : t.walk true l = .ok (.vacant place)) : Usable t (.inFile l)

/-- The rows of a ledger in a file are loaded exactly when it can be used. -/
theorem loadRows_ok_iff :
    (∃ found t', (loadRows l).run t = (.ok found, t')) ↔ Usable t (.inFile l) := by
  constructor
  · rintro ⟨found, t', h⟩
    rw [loadRows, FileAction.run_get_bind] at h
    split at h
    case h_1 hwalk => exact .kept hwalk
    case h_2 hwalk => exact .empty hwalk
    case h_3 hwalk => exact .missing hwalk
    case h_4 | h_5 => cases h
  · intro h
    rw [loadRows, FileAction.run_get_bind]
    cases h with
    | kept hwalk | empty hwalk | missing hwalk =>
      rw [hwalk]
      exact ⟨_, _, rfl⟩

/-- A file whose rows are not loaded only spoils the recording. -/
theorem loadRows_not_escapes : ¬ EndsIn Failure.Escapes (loadRows l) t := by
  rintro ⟨f, t', h, hf⟩
  rw [loadRows, FileAction.run_get_bind] at h
  split at h
  case h_1 | h_2 | h_3 => cases h
  case h_4 | h_5 =>
    cases h
    cases hf

/-- Recording escapes exactly when the ledger can be used and the record is at fault. -/
theorem record_escapes_iff :
    EndsIn Failure.Escapes (record r ledger) t ↔ Usable t ledger ∧ ∃ d, r.fault? = some d := by
  cases ledger with
  | inFile l =>
    rw [record, Effect.endsIn_bind_iff, or_iff_right loadRows_not_escapes, ← loadRows_ok_iff]
    constructor
    · rintro ⟨⟨place, rows⟩, t₁, hload, h⟩
      rcases Effect.endsIn_bind_iff.mp h with hinsert | ⟨_, _, -, hlast⟩
      · exact ⟨⟨_, _, hload⟩,
          LedgerRow.insert_escapes_iff.mp (FileAction.endsIn_ensure_iff.mp hinsert)⟩
      · obtain ⟨_, _, hstored, -⟩ := hlast
        cases hstored
    · rintro ⟨⟨⟨place, rows⟩, t₁, hload⟩, hfault⟩
      refine ⟨_, _, hload, Effect.endsIn_bind_iff.mpr (.inl ?_)⟩
      exact FileAction.endsIn_ensure_iff.mpr (LedgerRow.insert_escapes_iff.mpr hfault)
  | inMemory rows =>
    rw [record, Effect.endsIn_bind_iff, FileAction.endsIn_ensure_iff, LedgerRow.insert_escapes_iff]
    constructor
    · rintro (hfault | ⟨_, _, -, hlast⟩)
      · exact ⟨.inMemory rows, hfault⟩
      · exact absurd hlast (Effect.not_endsIn_pure _)
    · exact fun h => .inl h.2

/-- The directories above the file of a ledger are there, or they are made. -/
def makeAbove (place? : Option Location) : FileAction Unit :=
  match place? with
  | some place => FileAction.makeDirectory place.dropLast
  | none => return ()

/-- The checks of a connection, and the ledger it comes to. -/
def checked (a : Address) (place? : Option Location) : FileAction Ledger := do
  FileAction.ensure a.checkClient
  FileAction.ensure a.checkEmbedded
  match place? with
  | some place => return .inFile place.normalize
  | none => return .inMemory []

/-- Connecting reads the address, makes directories and makes its checks. -/
theorem connect_eq (workingDirectory : Location) (url : Text) :
    connect workingDirectory url = (do
      let a ← FileAction.ofExcept (Address.ofText url)
      makeAbove (a.place? workingDirectory)
      checked a (a.place? workingDirectory)) := by
  rw [connect]
  refine congrArg (FileAction.ofExcept (Address.ofText url) >>= ·) (funext fun a => ?_)
  cases a.place? workingDirectory <;> rfl

/-- The checks escape exactly when the client for a known kind of database is not there. -/
theorem checked_escapes_iff {a : Address} {place? : Option Location} :
    EndsIn Failure.Escapes (checked a place?) t ↔ a.checkClient = .error .noDatabaseClient := by
  rw [checked.eq_def, Effect.endsIn_bind_iff, FileAction.endsIn_ensure_iff]
  constructor
  · rintro (⟨d, hclient, hd⟩ | ⟨_, t₁, -, hrest⟩)
    · rcases Address.checkClient_error hclient with rfl | rfl
      · cases hd
      · exact hclient
    · rcases Effect.endsIn_bind_iff.mp hrest with hembedded | ⟨_, t₂, -, f, t₃, hlast, -⟩
      · obtain ⟨d, hembedded, hd⟩ := FileAction.endsIn_ensure_iff.mp hembedded
        obtain rfl := Address.checkEmbedded_error hembedded
        cases hd
      · cases place? <;> cases hlast
  · intro hclient
    exact .inl ⟨_, hclient, rfl⟩

/-- Directories above the file of a ledger that cannot be made are a failure that escapes. -/
theorem makeAbove_escapes_iff {place? : Option Location} :
    EndsIn Failure.Escapes (makeAbove place?) t ↔ ∃ place e t', place? = some place ∧
      (FileAction.makeDirectory place.dropLast).run t = (.error (.system e), t') := by
  cases place? with
  | none => simp [makeAbove, Effect.not_endsIn_pure]
  | some place => simp [makeAbove, FileAction.makeDirectory_escapes_iff]

/-- Record a run in the ledger at an address, as it is seen from a project. -/
def recordAt (workingDirectory root : Location) (url : Text) (r : RunRecord) :
    FileAction Ledger := do
  let seen ← FileAction.look (anchoredAddress · root url)
  let ledger ← connect workingDirectory seen
  record r ledger

/-- What is wrong with a ledger, or with a run that is to be recorded in it, and does not only spoil
the recording. -/
inductive RecordFault (workingDirectory root : Location) (url : Text) (r : RunRecord) (t : Tree) :
    Prop
  /-- The port of the address is wrong, as it is given or as it is seen from the project. -/
  | port {seen : Text} {f : Failure} (hseen : seen = url ∨ anchoredAddress t root url = .ok seen)
      (h : Address.ofText seen = .error f) (hf : Address.PortFault f) :
      RecordFault workingDirectory root url r t
  /-- The ledger lies inside the project, and the project's own directory is not found. -/
  | project {a : Address} {path : Path} {e : Tree.ResolveError} (haddress : Address.ofText url = .ok a)
      (hfile : a.relativeFile? = some path) (h : t.resolve root = .error e) :
      RecordFault workingDirectory root url r t
  /-- The ledger lies inside the project, and its address there has no encoding. -/
  | encoding {a : Address} {path : Path} {base : Location} (haddress : Address.ofText url = .ok a)
      (hfile : a.relativeFile? = some path) (hbase : t.resolve root = .ok base)
      (h : (a.movedInto base path).text? = none) : RecordFault workingDirectory root url r t
  /-- The directories above the file of the ledger cannot be made. -/
  | directories {seen : Text} {a : Address} {place : Location} {e : SystemError} {t' : Tree}
      (hseen : anchoredAddress t root url = .ok seen) (haddress : Address.ofText seen = .ok a)
      (hplace : a.place? workingDirectory = some place)
      (h : (FileAction.makeDirectory place.dropLast).run t = (.error (.system e), t')) :
      RecordFault workingDirectory root url r t
  /-- The client for the kind of database is not there. -/
  | client {seen : Text} {a : Address} {t' : Tree} (hseen : anchoredAddress t root url = .ok seen)
      (haddress : Address.ofText seen = .ok a)
      (hmade : (makeAbove (a.place? workingDirectory)).run t = (.ok (), t'))
      (h : a.checkClient = .error .noDatabaseClient) : RecordFault workingDirectory root url r t
  /-- The ledger can be used, but the record cannot be stored. -/
  | storing {seen : Text} {ledger : Ledger} {t' : Tree} {d : Defect}
      (hseen : anchoredAddress t root url = .ok seen)
      (hconnect : (connect workingDirectory seen).run t = (.ok ledger, t'))
      (husable : Usable t' ledger) (h : r.fault? = some d) :
      RecordFault workingDirectory root url r t

/-- **Failures that escape.** A failure escapes from recording a run exactly as `RecordFault` says. -/
theorem recordAt_escapes_iff :
    EndsIn Failure.Escapes (recordAt workingDirectory root url r) t ↔
      RecordFault workingDirectory root url r t := by
  rw [recordAt, FileAction.endsIn_look_bind_iff]
  constructor
  · rintro (⟨f, hanchored, hf⟩ | ⟨seen, hseen, h⟩)
    · rcases Address.anchoredAddress_error_iff.mp hanchored with haddress | ⟨a, path, ha, hpath, h⟩
      · exact .port (.inl rfl) haddress ((Address.escapes_iff_portFault haddress).mp hf)
      · rcases h with hbase | ⟨base, hbase, htext, -⟩
        · obtain ⟨-, e, he⟩ := projectBase_error_iff.mp hbase
          exact .project ha hpath he
        · exact .encoding ha hpath (projectBase_ok_iff.mp hbase) htext
    rcases Effect.endsIn_bind_iff.mp h with hconnect | ⟨ledger, t₁, hconnect, hrecord⟩
    · rw [connect_eq] at hconnect
      rcases FileAction.endsIn_look_bind_iff.mp hconnect with ⟨f, hread, hf⟩ | ⟨a, ha, hrest⟩
      · exact .port (.inr hseen) hread ((Address.escapes_iff_portFault hread).mp hf)
      rcases Effect.endsIn_bind_iff.mp hrest with habove | ⟨_, t₁, hmade, hchecks⟩
      · obtain ⟨place, e, t₁, hplace, hfails⟩ := makeAbove_escapes_iff.mp habove
        exact .directories hseen ha hplace hfails
      · exact .client hseen ha hmade (checked_escapes_iff.mp hchecks)
    · obtain ⟨husable, d, hfault⟩ := record_escapes_iff.mp hrecord
      exact .storing hseen hconnect husable hfault
  · intro h
    cases h with
    | @port seen f hseen hread hf =>
      have hescapes := (Address.escapes_iff_portFault hread).mpr hf
      rcases hseen with rfl | hseen
      · exact .inl ⟨f, Address.anchoredAddress_error_iff.mpr (.inl hread), hescapes⟩
      · refine .inr ⟨seen, hseen, Effect.endsIn_bind_iff.mpr (.inl ?_)⟩
        rw [connect_eq]
        exact FileAction.endsIn_look_bind_iff.mpr (.inl ⟨f, hread, hescapes⟩)
    | project ha hpath he =>
      have hbase := projectBase_error_iff.mpr ⟨rfl, _, he⟩
      exact .inl ⟨_, Address.anchoredAddress_error_iff.mpr
        (.inr ⟨_, _, ha, hpath, .inl hbase⟩), rfl⟩
    | encoding ha hpath hbase htext =>
      exact .inl ⟨_, Address.anchoredAddress_error_iff.mpr
        (.inr ⟨_, _, ha, hpath, .inr ⟨_, projectBase_ok_iff.mpr hbase, htext, rfl⟩⟩), rfl⟩
    | directories hseen ha hplace hfails =>
      refine .inr ⟨_, hseen, Effect.endsIn_bind_iff.mpr (.inl ?_)⟩
      rw [connect_eq]
      refine FileAction.endsIn_look_bind_iff.mpr (.inr ⟨_, ha, ?_⟩)
      exact Effect.endsIn_bind_iff.mpr (.inl (makeAbove_escapes_iff.mpr ⟨_, _, _, hplace, hfails⟩))
    | client hseen ha hmade hclient =>
      refine .inr ⟨_, hseen, Effect.endsIn_bind_iff.mpr (.inl ?_)⟩
      rw [connect_eq]
      refine FileAction.endsIn_look_bind_iff.mpr (.inr ⟨_, ha, ?_⟩)
      exact Effect.endsIn_bind_iff.mpr (.inr ⟨_, _, hmade, checked_escapes_iff.mpr hclient⟩)
    | storing hseen hconnect husable hfault =>
      refine .inr ⟨_, hseen, Effect.endsIn_bind_iff.mpr (.inr ⟨_, _, hconnect, ?_⟩)⟩
      exact record_escapes_iff.mpr ⟨husable, _, hfault⟩

/-- A malformed address only spoils the recording. -/
theorem not_recordFault_of_badAddress (h : Address.ofText url = .error (.defect .badAddress)) :
    ¬ RecordFault workingDirectory root url r t := by
  have hunseen : ∀ seen, anchoredAddress t root url ≠ .ok seen := fun seen hseen => by
    rw [Address.anchoredAddress_error_iff.mpr (.inl h)] at hseen
    cases hseen
  intro hfault
  cases hfault with
  | port hseen hread hf =>
    rcases hseen with rfl | hseen
    · rw [h] at hread
      cases hread
      cases hf
    · exact hunseen _ hseen
  | project haddress | encoding haddress =>
    rw [h] at haddress
    cases haddress
  | directories hseen | client hseen | storing hseen => exact hunseen _ hseen

end Ledger

end Tablewright
