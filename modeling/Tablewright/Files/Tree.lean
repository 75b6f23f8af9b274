/-
The file system as data: what stands at each location.

The entries are a list from locations to nodes, the names of the locations as the file system keeps
them. The root of the file system is always there and is a directory. An entry is found under its
location however that is spelled; following links is the business of the walk.
-/
import Tablewright.Files.Path
import Tablewright.Ledger.Row

set_option autoImplicit false

namespace Tablewright

/-- What stands at a location. -/
inductive Node where
  /-- A file with its content. -/
  | file (content : Bytes)
  /-- A directory. -/
  | directory
  /-- A link to a path. -/
  | link (target : Text)
  /-- The file of a ledger with the rows in it. -/
  | ledger (rows : List LedgerRow)

/-- Whether a node is a directory. -/
def Node.isDirectory : Node → Bool
  | .directory => true
  | _ => false

/-- Whether a node is a file. -/
def Node.isFile : Node → Bool
  | .file _ => true
  | .ledger _ => true
  | _ => false

/-- A node as the file system keeps it: the target of a link is a text it was given. -/
def Node.stored : Node → Node
  | .link target => .link target.stored
  | n => n

/-- The file system. It is data and no function, so that it can be compared, listed and searched for
links. -/
structure Tree where
  /-- The entries, each stored location once. -/
  entries : List (Location × Node)

namespace Tree

/-- The entry at a stored location. -/
def find : List (Location × Node) → Location → Option Node
  | [], _ => none
  | (l, n) :: r, place => if l = place then some n else find r place

/-- What stands at a location; the root is a directory. -/
def get? (t : Tree) : Location → Option Node
  | [] => some .directory
  | l => find t.entries l.stored

/-- An entry written over the one at its location, or added. -/
def write : List (Location × Node) → Location → Node → List (Location × Node)
  | [], l, n => [(l, n)]
  | (k, m) :: r, l, n => if k = l then (k, n) :: r else (k, m) :: write r l n

/-- The tree with a node at a location. -/
def put (t : Tree) (l : Location) (n : Node) : Tree := ⟨write t.entries l.stored n.stored⟩

/-- The name of an entry directly inside a stored directory. -/
def childName? (directory l : Location) : Option Text :=
  match l.getLast? with
  | some name => if l = directory ++ [name] then some name else none
  | none => none

/-- The names of the entries directly inside a directory. -/
def children (t : Tree) (directory : Location) : List Text :=
  t.entries.filterMap fun e => childName? directory.stored e.1

end Tree

end Tablewright
