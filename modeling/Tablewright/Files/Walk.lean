/-
Walking along names through the tree: directories are entered, links are followed, and the walk
ends at an entry, at a place where an entry is missing, or with the cause why it cannot go on.

This is how the operating system looks a path up (`stat`, `open`, `mkdir`). A place is a stored
location, so two spellings of one name end at one place.
-/
import Tablewright.Failure.Basic
import Tablewright.Files.Tree

set_option autoImplicit false

namespace Tablewright

/-- Where a walk ends. -/
inductive Place where
  /-- At an entry, given by its own stored location. -/
  | existing (location : Location) (node : Node)
  /-- In an existing directory, at a name that has no entry. -/
  | vacant (location : Location)

/-- A place that has to be a directory. -/
def Place.asDirectory : Place → Except SystemCause Place
  | .existing l .directory => .ok (.existing l .directory)
  | .existing _ _ => .error .notDirectory
  | .vacant _ => .error .noEntry

/-- Where a walk stops to follow a link or to end. -/
inductive Halt where
  /-- The walk ends. -/
  | ended (place : Place)
  /-- The walk cannot go on. -/
  | failed (cause : SystemCause)
  /-- The walk comes to a link inside a directory, with names to go after it. -/
  | link (directory : Location) (target : Text) (rest : List Text)

namespace Tree

/-- Walk from a directory along names up to the first link. With `followLast` a link at the last
name is one to follow; otherwise the walk ends at it. -/
def advance (t : Tree) (followLast : Bool) : Location → List Text → Halt
  | here, [] => .ended (.existing here.stored .directory)
  | here, name :: rest =>
    if name = Path.up then advance t followLast here.dropLast rest
    else if maxNameBytes < name.nameBytes then .failed .nameTooLong
    else
      let next := here ++ [name]
      match t.get? next with
      | none => if rest.isEmpty then .ended (.vacant next.stored) else .failed .noEntry
      | some .directory => advance t followLast next rest
      | some (.link target) =>
        if rest.isEmpty && !followLast then .ended (.existing next.stored (.link target))
        else .link here target rest
      | some node =>
        if rest.isEmpty then .ended (.existing next.stored node) else .failed .notDirectory

/-- Walk from a directory along names, following at most `links` links. A link at the last name whose
target asks for a directory leads to nothing else. -/
def walkFrom (t : Tree) (followLast : Bool) : Nat → Location → List Text →
    Except SystemCause Place
  | links, here, names =>
    match advance t followLast here names with
    | .ended place => .ok place
    | .failed cause => .error cause
    | .link directory target rest =>
      match links with
      | 0 => .error .linkLoop
      | links + 1 =>
        let path := Path.ofText target
        let found :=
          walkFrom t followLast links (if path.isAbsolute then [] else directory) (path.names ++ rest)
        if rest.isEmpty && Path.asksDirectory target then found >>= Place.asDirectory else found

/-- How many links one walk follows. -/
def maxLinks : Nat := 40

/-- Walk along a location. -/
def walk (t : Tree) (followLast : Bool) (l : Location) : Except SystemCause Place :=
  if l.isTooLong then .error .nameTooLong else walkFrom t followLast maxLinks [] l

/-- Causes that only mean that nothing is there. -/
def meansNothing : SystemCause → Bool
  | .noEntry | .notDirectory | .linkLoop => true
  | _ => false

/-- What a location leads to, if anything. -/
def status (t : Tree) (l : Location) : Except SystemError (Option Node) :=
  match t.walk true l with
  | .ok (.existing _ node) => .ok (some node)
  | .ok (.vacant _) => .ok none
  | .error cause => if meansNothing cause then .ok none else .error ⟨cause, l.text⟩

/-- Whether a location leads to something. -/
def doesExist (t : Tree) (l : Location) : Except SystemError Bool :=
  (t.status l).map Option.isSome

/-- Whether a location leads to a directory. -/
def isDirectory (t : Tree) (l : Location) : Except SystemError Bool :=
  (t.status l).map fun n => n.any Node.isDirectory

/-- Whether a location leads to a file. -/
def isFile (t : Tree) (l : Location) : Except SystemError Bool :=
  (t.status l).map fun n => n.any Node.isFile

/-- The names of the entries of the directory a location leads to. -/
def listing (t : Tree) (l : Location) : List Text :=
  match t.walk true l with
  | .ok (.existing place .directory) => t.children place
  | _ => []

end Tree

end Tablewright
