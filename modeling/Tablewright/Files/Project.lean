/-
The files of a project: reading, writing and editing under paths given by a user. Every path is
resolved inside the project first.
-/
import Tablewright.Artifact.Basic
import Tablewright.Files.Action
import Tablewright.Files.Resolve
import Tablewright.Text.Blank

set_option autoImplicit false

namespace Tablewright

/-- What became of a written file. -/
inductive WriteKind where
  /-- Nothing was there before. -/
  | created
  /-- Something was there before. -/
  | overwritten
  /-- A text in it was replaced. -/
  | edited
deriving DecidableEq

/-- The word for what became of a file. -/
def WriteKind.label : WriteKind → Text
  | created => "created"
  | overwritten => "overwritten"
  | edited => "edited"

/-- A written file (`WriteOutcome`). -/
structure Written where
  /-- The path of the file inside the project. -/
  path : Text
  /-- What became of it. -/
  kind : WriteKind
deriving DecidableEq

namespace Project

/-- The text of a file, its line ends made line feeds (`read_text_file`). `shown` is the path in
messages. -/
def readText (t : Tree) (l : Location) (shown : Text) : Except Failure Text := do
  match FileAction.content t l with
  | .error e => throw (.system e)
  | .ok none => throw (.refused (.notText shown))
  | .ok (some bytes) =>
    match bytes.text? with
    | some text => return text.foldNewlines
    | none => throw (.refused (.notText shown))

/-- A location inside the project as a path (`_relative`). -/
def relativePath (base target : Location) : Text :=
  (Text.join "/" (target.drop base.length)).ifEmpty "."

/-- Write a whole file (`write_text`). Missing directories above it are created. Whether it is new
is looked up before they are. -/
def write (root : Location) (path content : Text) : FileAction Written := do
  let target ← FileAction.look (resolveInProject · root path)
  let existed ← FileAction.ask (·.doesExist target)
  FileAction.makeDirectory target.dropLast
  FileAction.writeText target content
  let base ← FileAction.look (projectBase · root)
  return ⟨relativePath base target, if existed then .overwritten else .created⟩

/-- Replace the one occurrence of `old` in a text. -/
def replaceOnce (path contents old new : Text) : Except Refusal Text :=
  match contents.count old with
  | 0 => .error (.noMatch path)
  | 1 => .ok (contents.replaceFirst old new)
  | n => .error (.manyMatches path n)

/-- Replace a text that occurs exactly once in a file (`edit_file`). Without a text to replace, or
without a file, the new text becomes the whole file. -/
def edit (root : Location) (path : Text) (old : Option Text) (new : Text) : FileAction Written := do
  let target ← FileAction.look (resolveInProject · root path)
  let old := Text.orEmpty old
  if old.isEmpty then return ← write root path new
  if !(← FileAction.ask (·.doesExist target)) then return ← write root path new
  if old = new then throw (.refused .sameText)
  if ← FileAction.ask (·.isDirectory target) then throw (.refused (.editsDirectory path))
  let contents ← FileAction.look (readText · target path)
  match replaceOnce path contents old new with
  | .error r => throw (.refused r)
  | .ok text =>
    FileAction.writeText target text
    let base ← FileAction.look (projectBase · root)
    return ⟨relativePath base target, .edited⟩

/-- Write an artifact to its place (`write_artifact`). -/
def writeArtifact (root : Location) (a : Artifact) : FileAction Written :=
  write root a.path a.content

/-- Write artifacts one after another (`write_files`). A failure leaves the files before it written.
-/
def writeAll (root : Location) : List Artifact → FileAction (List Written)
  | [] => return []
  | a :: r => do
    let w ← writeArtifact root a
    let ws ← writeAll root r
    return w :: ws

end Project

end Tablewright
