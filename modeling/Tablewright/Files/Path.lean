/-
Paths as text and as lists of names.

A location is the list of names from the root of the file system. Reading a path drops empty
names and single dots; double dots stay, since what they mean depends on the links before them.

The program keeps a path as it is spelled, and reports it so; the file system knows names by their
bytes. Where it is asked, two spellings of one name are one (`Location.stored`).
-/
import Tablewright.Text.Search
import Tablewright.Text.Utf8

set_option autoImplicit false

namespace Tablewright

/-- Names from the root of the file system down. -/
abbrev Location := List Text

/-- A location as text. -/
def Location.text (l : Location) : Text := "/" ++ Text.join "/" l

/-- A path as it is written. -/
structure Path where
  /-- Whether the path begins at the root of the file system. -/
  isAbsolute : Bool
  /-- The names on the way. -/
  names : List Text
deriving DecidableEq

namespace Path

/-- The parent of a directory, as a name. -/
def up : Text := ".."

/-- Whether a name means the directory it is looked up in. -/
def isSkipped (name : Text) : Bool := name.isEmpty || name = Text.ofString "."

/-- Read a path. -/
def ofText (t : Text) : Path :=
  { isAbsolute := Text.startsWith t "/"
    names := (Text.splitOn '/' t).filter fun name => !isSkipped name }

/-- Whether what is written behind a name begins with a slash of its own, the name being the one that
so many others follow. Reading the path drops that slash, which tells where the rest of a path that
is joined as it is written begins. -/
def restartsIn : List Text → Nat → Bool
  | [], _ => false
  | name :: rest, left =>
    if !isSkipped name && rest.countP (fun n => !isSkipped n) = left then
      rest.head? = some [] && 1 < rest.length
    else restartsIn rest left

/-- Whether what is left of a path when so many of its names are left begins with a slash. -/
def restarts (t : Text) (left : Nat) : Bool := restartsIn (Text.splitOn '/' t) left

/-- Whether a path can only lead to a directory: a slash or a single dot stands behind its last name.
Reading the path drops them, but a link to such a path leads nowhere else. -/
def asksDirectory (t : Text) : Bool := Text.endsWith t "/" || Text.endsWith t "/."

/-- Where a path leads from a location, before links and double dots are followed. -/
def startingAt (p : Path) (base : Location) : Location := if p.isAbsolute then p.names else base ++ p.names

/-- The names with double dots taken back by the name before them. -/
def normalizeNames : List Text → List Text → List Text
  | kept, [] => kept
  | kept, name :: r => normalizeNames (if name = up then kept.dropLast else kept ++ [name]) r

end Path

/-- A location without double dots. -/
def Location.normalize (l : Location) : Location := Path.normalizeNames [] l

/-! ## Names the file system can hold -/

/-- A location with its names as the file system keeps them. -/
def Location.stored (l : Location) : Location := l.map Text.stored

/-- The bytes a code point takes in a name. Surrogates that stand for single bytes take one. -/
def CodePoint.nameBytes (c : CodePoint) : Nat :=
  match c.utf8? with
  | some bytes => bytes.length
  | none => 1

/-- The bytes of a text as a name. -/
def Text.nameBytes (t : Text) : Nat := t.foldr (fun c n => c.nameBytes + n) 0

/-- The length a name may have. -/
def maxNameBytes : Nat := 255

/-- The length a path may have. -/
def maxPathBytes : Nat := 4095

/-- Whether a location is too long for the file system. A single name is measured when it is
reached. -/
def Location.isTooLong (l : Location) : Bool := maxPathBytes < Text.nameBytes l.text

end Tablewright
