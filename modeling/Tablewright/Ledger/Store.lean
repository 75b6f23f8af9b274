/-
Ledgers: where the log of runs is kept, and what can go wrong on the way to it.

A ledger lives in a file or in memory. Connecting to one in a file creates the directories above
the file; the file itself is created when the log is first asked for. A file that holds anything
but a ledger is no ledger, and an address of any other kind of database needs a client that is not
there.
-/
import Tablewright.Files.Action
import Tablewright.Files.Resolve
import Tablewright.Ledger.Address
import Tablewright.Ledger.Row

set_option autoImplicit false

namespace Tablewright

/-! ## Addresses of ledgers -/

/-- The address of a ledger seen from a project: a relative file of an embedded database lies inside
the project, and any other address stays as it is (`anchor_sqlite_url`). -/
def anchoredAddress (t : Tree) (root : Location) (url : Text) : Except Failure Text := do
  let a ← Address.ofText url
  let relative : Option Path :=
    if a.isEmbedded then
      match a.file?.map Path.ofText with
      | some path => if path.isAbsolute then none else some path
      | none => none
    else none
  match relative with
  | none => return url
  | some path =>
    let base ← projectBase t root
    let anchored := { a with database := some (Location.text (base ++ path.names)) }
    match anchored.text? with
    | some text => return text
    | none => throw (.defect .unencodable)

namespace Address

/-- Clients known for a kind of database. -/
def knownClients : List (String × List String) := [
    ("sqlite", ["aiosqlite", "pysqlcipher"]),
    ("postgresql", ["asyncpg", "pg8000", "psycopg", "psycopg2", "psycopg2cffi"]),
    ("mysql", ["aiomysql", "asyncmy", "cymysql", "mariadbconnector", "mysqlconnector", "mysqldb",
      "pymysql", "pyodbc"]),
    ("mariadb", ["aiomysql", "asyncmy", "cymysql", "mariadbconnector", "mysqlconnector", "mysqldb",
      "pymysql", "pyodbc"]),
    ("oracle", ["cx_oracle", "oracledb"]),
    ("mssql", ["aioodbc", "pymssql", "pyodbc"])
  ]

/-- The client named in an address. -/
def client? (a : Address) : Option Text :=
  match Text.cutBefore (fun c => c = '+') a.driver with
  | (_, _ :: client) => some client
  | (_, []) => none

/-- The client of embedded databases that is there. -/
def embeddedClient : Text := "pysqlite"

/-- The clients known for the kind of database of an address, if it is a known kind. -/
def clients? (a : Address) : Option (List String) :=
  (knownClients.find? fun k => Text.ofString k.1 = a.backend).map (·.2)

/-- Whether the database can be talked to: only embedded databases have a client. -/
def checkClient (a : Address) : Except Defect Unit :=
  match a.clients? with
  | none => .error .unknownDatabase
  | some clients =>
    match a.client? with
    | none => if a.isEmbedded then .ok () else .error .noDatabaseClient
    | some client =>
      if a.isEmbedded && client = embeddedClient then .ok ()
      else if clients.any fun k => Text.ofString k = client then .error .noDatabaseClient
      else .error .unknownDatabase

/-- An embedded database has neither user, password, host nor port. -/
def checkEmbedded (a : Address) : Except Defect Unit :=
  let hasPort := a.port.any fun n => n ≠ 0
  if Text.isGiven a.user || Text.isGiven a.password || a.host.isSome || hasPort then
    .error .badAddress
  else .ok ()

/-- Where the file of an embedded database is, seen from a directory; none for any other database
and for one in memory. -/
def place? (a : Address) (directory : Location) : Option Location :=
  if a.isEmbedded then a.file?.map fun file => (Path.ofText file).startingAt directory else none

end Address

/-! ## Connecting -/

/-- A ledger that is in use. -/
inductive Ledger where
  /-- A ledger in a file. -/
  | inFile (location : Location)
  /-- A ledger in memory. -/
  | inMemory (rows : List LedgerRow)

/-- A check that ends in a defect, as an operation. -/
def FileAction.ensure {α : Type} (r : Except Defect α) : FileAction α :=
  FileAction.ofExcept (r.mapError .defect)

/-- The rows in a file, and where the file is. An empty or missing file becomes an empty ledger. -/
def loadRows (l : Location) : FileAction (Location × List LedgerRow) := do
  let t ← get
  match t.walk true l with
  | .ok (.existing place (.ledger rows)) => return (place, rows)
  | .ok (.existing place (.file [])) =>
    set (t.put place (.ledger []))
    return (place, [])
  | .ok (.vacant place) =>
    set (t.put place (.ledger []))
    return (place, [])
  | .ok (.existing _ (.file _)) => throw (.defect .notALedger)
  | _ => throw (.defect .ledgerUnavailable)

namespace Ledger

/-- Connect to the ledger at an address (`RunLedger`). A relative file lies in the working
directory. -/
def connect (workingDirectory : Location) (url : Text) : FileAction Ledger := do
  let a ← FileAction.ofExcept (Address.ofText url)
  let place? := a.place? workingDirectory
  if let some place := place? then FileAction.makeDirectory place.dropLast
  FileAction.ensure a.checkClient
  FileAction.ensure a.checkEmbedded
  match place? with
  | some place => return .inFile place.normalize
  | none => return .inMemory []

/-- The runs recorded in a ledger. -/
def runs : Ledger → FileAction RunLog
  | inFile l => do
    let (_, rows) ← loadRows l
    FileAction.ensure (rows.mapM LedgerRow.record)
  | inMemory rows => FileAction.ensure (rows.mapM LedgerRow.record)

/-- The newest run recorded in a ledger (`RunLedger.latest`). -/
def latest (ledger : Ledger) : FileAction (Option RunRecord) := do
  let log ← ledger.runs
  return log.latest?

/-- The newest runs recorded in a ledger, up to a limit (`RunLedger.recent`). -/
def recent (limit : Option Int) (ledger : Ledger) : FileAction (List RunRecord) := do
  let log ← ledger.runs
  return log.recent limit

/-- Record a run (`RunLedger.record`). A row is only ever added; that no two rows are of one run is
left to the table. -/
def record (r : RunRecord) : Ledger → FileAction Ledger
  | inFile l => do
    let (place, rows) ← loadRows l
    let rows ← FileAction.ensure (LedgerRow.insert rows r)
    modify fun t => t.put place (.ledger rows)
    return inFile l
  | inMemory rows => do
    let rows ← FileAction.ensure (LedgerRow.insert rows r)
    return inMemory rows

end Ledger

end Tablewright
