/-
Resolving a path (`resolve_path`): the location it comes to when every link on the way is followed.

Names without an entry are kept as they are, and a double dot takes back the location before it.
A link that is met again while it is being followed leads in a circle; what is left of the path
is then only normalised, and a location that still leads into the circle is a fault.

A path given by a user is resolved inside the project; one that leaves it is refused.
-/
import Tablewright.Files.Walk
import Tablewright.Text.Blank

set_option autoImplicit false

namespace Tablewright

/-- How far resolving came. -/
structure Resolution where
  /-- The location, with the names behind a circle as they were written. -/
  location : Location
  /-- Whether no circle was met. -/
  isComplete : Bool

namespace Tree

/-- Where what is left of a path leads if it is joined to a location as it is written. What begins with
a slash leads from the root, wherever it is joined. -/
def joined (restarts : Nat → Bool) (here : Location) (rest : List Text) : Location :=
  if restarts rest.length then rest else here ++ rest

/-- Resolve names from a location. `active` are the links that are being followed, and `restarts` tells
where what is left of the names begins with a slash, which matters once a circle is met. The names are
kept as they are spelled, and a link is known again by its spelling; only the file system is asked
under the stored names. -/
def resolveFrom (t : Tree) :
    Nat → List Location → (Nat → Bool) → Location → List Text → Resolution
  | 0, _, _, here, names => ⟨here ++ names, false⟩
  | _ + 1, _, _, here, [] => ⟨here, true⟩
  | fuel + 1, active, restarts, here, name :: rest =>
    if name = Path.up then resolveFrom t fuel active restarts here.dropLast rest
    else
      let next := here ++ [name]
      match t.get? next with
      | some (.link target) =>
        if active.contains next then ⟨joined restarts next rest, false⟩
        else
          let path := Path.ofText target
          let inner :=
            resolveFrom t fuel (next :: active) (Path.restarts target)
              (if path.isAbsolute then [] else here) path.names
          if inner.isComplete then resolveFrom t fuel active restarts inner.location rest
          else ⟨joined restarts inner.location rest, false⟩
      | _ => resolveFrom t fuel active restarts next rest

/-- The names written in the target of a link, and the link itself. -/
def stepsOf : Node → Nat
  | .link target => (Path.ofText target).names.length + 1
  | _ => 0

/-- What can be met on the way beyond the names of a path: the names written in the targets of all
links, and the links themselves. -/
def linkSteps (t : Tree) : Nat := t.entries.foldr (fun e n => stepsOf e.2 + n) 0

/-- Why a path has no location. -/
inductive ResolveError where
  /-- A name of the path cannot be handed to the system. -/
  | flawed (flaw : HandoverFlaw)
  /-- The path leads into a circle of links. -/
  | linkLoop

/-- More than resolving a location meets: its own names, and the steps of the links. A link is met
under another spelling only behind other names of the location, so at most once for each of them and
once more. -/
def resolveFuel (t : Tree) : Location → Nat
  | [] => t.linkSteps + 1
  | _ :: rest => t.resolveFuel rest + t.linkSteps + 1

/-- How far resolving a location comes from the root of the file system. A location has no slashes of
its own, so its names are never taken up again from the root. -/
def resolution (t : Tree) (l : Location) : Resolution :=
  t.resolveFrom (t.resolveFuel l) [] (fun _ => false) [] l

/-- Where a location comes to, links followed as far as they do not lead in a circle. Behind a circle
the names are only normalised: a link among them stays where it is, unfollowed. -/
def landing (t : Tree) (l : Location) : Location :=
  let r := t.resolution l
  if r.isComplete then r.location else r.location.normalize

/-- What is wrong with the names of a location that cannot be handed to the system, if there are any.
The names are looked up from the root down, each behind the place the ones before it come to, and the
position of the flaw counts from the beginning of what is looked up. Behind a circle no name is looked
up; there the location is asked for as a whole, and a name that a double dot takes back is no matter. -/
def flaw? (t : Tree) (l : Location) : Option HandoverFlaw :=
  match l.dropWhile Text.isSound with
  | [] => none
  | name :: _ =>
    let before := t.resolution (l.takeWhile Text.isSound)
    if before.isComplete then
      name.handoverFlaw? ((before.location ++ [name]).text.length - name.length)
    else (t.landing l).text.handoverFlaw? 0

/-- The location a path comes to. A location that still leads into a circle is a fault, which is
found by asking the system for it once more. -/
def resolve (t : Tree) (l : Location) : Except ResolveError Location :=
  match t.flaw? l with
  | some f => .error (.flawed f)
  | none =>
    let found := t.landing l
    match t.walk true found with
    | .error .linkLoop => .error .linkLoop
    | _ => .ok found

end Tree

/-- The location of the project, all links followed. It is looked up anew for every path. -/
def projectBase (t : Tree) (root : Location) : Except Failure Location :=
  match t.resolve root with
  | .ok l => .ok l
  | .error _ => .error (.defect .linkLoop)

/-- The location a user's path comes to inside the project (`resolve_path`). What is compared is
where the path lands, not how it is written, so a path may lead out and back. -/
def resolveInProject (t : Tree) (root : Location) (path : Text) : Except Failure Location := do
  if Text.isBlank path then throw (.refused .noPath)
  let base ← projectBase t root
  match t.resolve ((Path.ofText (Text.trim path)).startingAt base) with
  | .error (.flawed f) => throw (.refused (.badPath path f))
  | .error .linkLoop => throw (.defect .linkLoop)
  | .ok target =>
    if base.isPrefixOf target then return target
    else throw (.refused (.outsideProject path))

end Tablewright
