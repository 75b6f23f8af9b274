/-
Operations that change the tree. An operation that fails keeps what it changed before it failed,
so the tree is returned with the failure.
-/
import Tablewright.Files.Walk

set_option autoImplicit false

namespace Tablewright

/-- An operation on the tree that may fail. -/
abbrev FileAction (α : Type) := ExceptT Failure (StateM Tree) α

namespace FileAction

/-- An operation by what it does to a tree. -/
def ofFunction {α : Type} (f : Tree → Except Failure α × Tree) : FileAction α := f

/-- An operation that only looks at the tree. -/
def look {α : Type} (f : Tree → Except Failure α) : FileAction α :=
  ofFunction fun t => (f t, t)

/-- A result that does not depend on the tree. -/
def ofExcept {α : Type} (r : Except Failure α) : FileAction α := ofFunction fun t => (r, t)

/-- An answer about the tree that the file system may refuse. -/
def ask {α : Type} (f : Tree → Except SystemError α) : FileAction α :=
  look fun t => (f t).mapError .system

/-- Fail for a cause at a location. -/
def failAt {α : Type} (cause : SystemCause) (l : Location) : FileAction α :=
  throw (.system ⟨cause, l.text⟩)

/-! ## Directories -/

/-- What comes of creating one directory. -/
def createDirectory (t : Tree) (l : Location) : Except SystemCause Tree :=
  match t.walk false l with
  | .ok (.existing _ _) => .error .alreadyExists
  | .ok (.vacant place) => .ok (t.put place .directory)
  | .error cause => .error cause

/-- Deal with a directory that could not be created: it is no matter if it exists. -/
def acceptDirectory (cause : SystemCause) (l : Location) : FileAction Unit := do
  if !(← ask (·.isDirectory l)) then failAt cause l

/-- Create one directory unless it exists. Its parent has to exist. -/
def ensureDirectory (l : Location) : FileAction Unit := do
  match createDirectory (← get) l with
  | .ok t => set t
  | .error .noEntry => failAt .noEntry l
  | .error cause => acceptDirectory cause l

/-- Create a directory and its missing parents. The names are given innermost first. -/
def ensureDirectories : List Text → FileAction Unit
  | [] => acceptDirectory .alreadyExists []
  | name :: above => do
    let l := (name :: above).reverse
    match createDirectory (← get) l with
    | .ok t => set t
    | .error .noEntry => do
      ensureDirectories above
      ensureDirectory l
    | .error cause => acceptDirectory cause l

/-- Create the directory at a location and its missing parents. -/
def makeDirectory (l : Location) : FileAction Unit := ensureDirectories l.reverse

/-! ## Files -/

/-- Empty the file a location leads to, or create it. Answers where the file is. -/
def openForWriting (l : Location) : FileAction Location := do
  let t ← get
  match t.walk true l with
  | .ok (.existing _ .directory) => failAt .isDirectory l
  | .ok (.existing place _) =>
    set (t.put place (.file []))
    return place
  | .ok (.vacant place) =>
    set (t.put place (.file []))
    return place
  | .error cause => failAt cause l

/-- Write a text as the whole content of a file. The file is emptied before the text is encoded, so
a text that has no encoding leaves an empty file. -/
def writeText (l : Location) (content : Text) : FileAction Unit := do
  let place ← openForWriting l
  match content.utf8? with
  | some bytes => modify fun t => t.put place (.file bytes)
  | none => throw (.defect .unencodable)

/-- The content of the file a location leads to; the file of a ledger is no text. -/
def content (t : Tree) (l : Location) : Except SystemError (Option Bytes) :=
  match t.walk true l with
  | .ok (.existing _ (.file bytes)) => .ok (some bytes)
  | .ok (.existing _ (.ledger _)) => .ok none
  | .ok (.existing _ .directory) => .error ⟨.isDirectory, l.text⟩
  | .ok (.existing _ (.link _)) => .error ⟨.linkLoop, l.text⟩
  | .ok (.vacant _) => .error ⟨.noEntry, l.text⟩
  | .error cause => .error ⟨cause, l.text⟩

end FileAction

end Tablewright
