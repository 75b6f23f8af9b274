/-
Names of nodes, tags and directives of a table file.
-/
import Tablewright.Text.Utf8
import Tablewright.Yaml.Cursor
import Tablewright.Yaml.Token

set_option autoImplicit false

namespace Tablewright

namespace Yaml

/-- Code points that names are made of. -/
def isNamePart (c : CodePoint) : Bool :=
  c.isAsciiLower || c.isAsciiUpper || c.isAsciiDigit || c = '-' || c = '_'

/-- Code points that tags are made of, apart from escapes. -/
def isTagPart (c : CodePoint) : Bool :=
  c.isAsciiLower || c.isAsciiUpper || c.isAsciiDigit
    || ("-;/?:@&=+$,_.!~*'()[]" : Text).contains c

/-- Whether a text is empty or begins with a space or a line end. -/
def isSpaceOrEnd (t : Text) : Bool := Text.startsWith t " " || isLineEnd t

/-- The name behind the mark of an anchor or an alias. -/
def label (cur : Cursor) : Except TableFault ScalarText :=
  let start := cur.next
  let name := start.rest.takeWhile isNamePart
  let behind := start.forward name.length
  let ends := isGap behind.rest || behind.rest.head?.any ("?:,]\x7d%@\x60" : Text).contains
  if name.isEmpty || !ends then .error .badToken else .ok ⟨name, behind⟩

/-! ## Tags -/

/-- The bytes that escapes at the beginning of a text write, and what comes behind them. -/
def escapedBytes : Text → Except TableFault (Bytes × Text)
  | c :: a :: b :: r =>
    if c = '%' then
      match a.hexValue?, b.hexValue? with
      | some x, some y => do
        let (bytes, rest) ← escapedBytes r
        return (UInt8.ofNat (x * 16 + y) :: bytes, rest)
      | _, _ => .error .badToken
    else .ok ([], c :: a :: b :: r)
  | t => if Text.startsWith t "%" then .error .badToken else .ok ([], t)

/-- The text of a tag, and what comes behind it. The number is a bound on the length. -/
def tagTextFrom : Nat → Text → Except TableFault (Text × Text)
  | 0, t => .ok ([], t)
  | _ + 1, [] => .ok ([], [])
  | bound + 1, c :: r =>
    if c = '%' then do
      let (bytes, rest) ← escapedBytes (c :: r)
      match Bytes.text? bytes with
      | some t =>
        let (more, rest) ← tagTextFrom bound rest
        return (t ++ more, rest)
      | none => throw TableFault.badToken
    else if isTagPart c then do
      let (more, rest) ← tagTextFrom bound r
      return (c :: more, rest)
    else .ok ([], c :: r)

/-- The text of a tag, which may not be empty. -/
def tagText (cur : Cursor) : Except TableFault ScalarText := do
  let (t, rest) ← tagTextFrom cur.rest.length cur.rest
  if t.isEmpty then throw TableFault.badToken
  return ⟨t, cur.before rest⟩

/-- The handle of a tag: a name between exclamation marks, or a single one. -/
def tagHandle (cur : Cursor) : Except TableFault ScalarText :=
  let name := (cur.rest.drop 1).takeWhile isNamePart
  let behind := cur.forward (name.length + 1)
  if !Text.startsWith cur.rest "!" then .error .badToken
  else if Text.startsWith behind.rest "!" then .ok ⟨"!" ++ name ++ "!", behind.next⟩
  else if name.isEmpty && Text.startsWith behind.rest " " then .ok ⟨"!", behind⟩
  else .error .badToken

/-- A tag and the place behind it. -/
def tag (cur : Cursor) : Except TableFault (Token × Cursor) := do
  let start := cur.next
  let (token, behind) ← (do
    if Text.startsWith start.rest "<" then
      let t ← tagText start.next
      if !Text.startsWith t.next.rest ">" then throw TableFault.badToken
      return (Token.tag none t.text, t.next.next)
    else if isGap start.rest then
      return (Token.tag none "!", start)
    else if (start.rest.takeWhile fun c => !isSpaceOrEnd [c]).contains ('!' : CodePoint) then
      let h ← tagHandle cur
      let t ← tagText h.next
      return (Token.tag (some h.text) t.text, t.next)
    else
      let t ← tagText start
      return (Token.tag (some "!") t.text, t.next))
  if !isSpaceOrEnd behind.rest then throw TableFault.badToken
  return (token, behind)

/-! ## Directives -/

/-- A decimal number and the place behind it. -/
def directiveNumber (cur : Cursor) : Except TableFault (Nat × Cursor) :=
  let digits := cur.rest.takeWhile CodePoint.isAsciiDigit
  match Text.toNat? digits with
  | some n => .ok (n, cur.forward digits.length)
  | none => .error .badToken

/-- What a directive of a given name says, from the place behind the name. -/
def directiveOf (name : Text) (cur : Cursor) : Except TableFault (Directive × Cursor) := do
  if name = "YAML" then
    let (major, dot) ← directiveNumber (cur.pass isSpace)
    if !Text.startsWith dot.rest "." then throw TableFault.badToken
    let (minor, behind) ← directiveNumber dot.next
    if !isSpaceOrEnd behind.rest then throw TableFault.badToken
    return (.version major minor, behind)
  else if name = "TAG" then
    let h ← tagHandle (cur.pass isSpace)
    if !Text.startsWith h.next.rest " " then throw TableFault.badToken
    let t ← tagText (h.next.pass isSpace)
    if !isSpaceOrEnd t.next.rest then throw TableFault.badToken
    return (.handle h.text t.text, t.next)
  else return (.other, cur.pass isOnLine)

/-- A directive and the place behind its line. The line end belongs to it, so it does not allow a
key after it as other line ends do. -/
def directive (cur : Cursor) : Except TableFault (Token × Cursor) := do
  let name := cur.next.rest.takeWhile isNamePart
  let behind := cur.next.forward name.length
  if name.isEmpty || !isSpaceOrEnd behind.rest then throw TableFault.badToken
  let (d, behind) ← directiveOf name behind
  let tail := behind.pass isSpace
  if !isLineEnd tail.rest && !Text.startsWith tail.rest "#" then throw TableFault.badToken
  return (.directive d, (tail.pass isOnLine).next)

end Yaml

end Tablewright
