/-
Tokens from the text of a table file.

Two things cannot be told where they begin. That a scalar or a bracket is a key shows only at the
colon behind it, so the lexer remembers for each open bracket the last token that may be a key, and
marks it when the colon comes. That a collection by indentation has ended shows at the next token
further left.
-/
import Tablewright.Yaml.Block
import Tablewright.Yaml.Label
import Tablewright.Yaml.Plain
import Tablewright.Yaml.Quoted

set_option autoImplicit false

namespace Tablewright

namespace Yaml

/-- A token that a colon may turn into a key. -/
structure KeyPlace where
  /-- How many tokens come before it. -/
  position : Nat
  /-- Whether it stands where nothing but a key may. -/
  isRequired : Bool
  /-- How many code points come before it. -/
  index : Nat
  /-- Its line. -/
  line : Nat
  /-- Its column. -/
  column : Nat

/-- A lexer between two tokens. -/
structure Lexer where
  /-- The place it has come to. -/
  cursor : Cursor
  /-- The tokens so far, the last one first. -/
  tokens : List Token
  /-- The columns of the collections that are open by indentation, the innermost first. -/
  columns : List Nat
  /-- The token that may be a key, outside and inside of every open bracket, the innermost
  first. -/
  keys : List (Option KeyPlace)
  /-- Whether a key may begin here. -/
  allowsKey : Bool
  /-- Whether the text has come to its end. -/
  isDone : Bool

namespace Lexer

/-- A lexer at the beginning of a text. -/
def ofText (t : Text) : Lexer := ⟨Cursor.ofText t, [], [], [none], true, false⟩

/-- Whether a bracket is open. -/
def inFlow (lx : Lexer) : Bool := 1 < lx.keys.length

/-- The least column of a scalar inside the innermost collection. -/
def least (lx : Lexer) : Nat :=
  match lx.columns with
  | [] => 0
  | column :: _ => column + 1

/-- A token added. -/
def emit (t : Token) (lx : Lexer) : Lexer := { lx with tokens := t :: lx.tokens }

/-- A token put in behind a number of tokens. -/
def emitAt (position : Nat) (t : Token) (lx : Lexer) : Lexer :=
  let later := lx.tokens.length - position
  { lx with tokens := lx.tokens.take later ++ t :: lx.tokens.drop later }

/-- The same lexer at another place. -/
def moveTo (cursor : Cursor) (lx : Lexer) : Lexer := { lx with cursor }

/-- Whether keys may begin behind the token. -/
def allowKey (allowsKey : Bool) (lx : Lexer) : Lexer := { lx with allowsKey }

/-! ## Keys to be -/

/-- The longest distance between a key and its colon. -/
def keyReach : Nat := 1024

/-- Whether a colon at a place is too far away to make a token a key. -/
def KeyPlace.isStale (cur : Cursor) (k : KeyPlace) : Bool :=
  k.line ≠ cur.line || keyReach < cur.index - k.index

/-- Keys to be that may still become one at a place. One that has to and cannot is a fault. -/
def dropStaleFrom (cur : Cursor) : List (Option KeyPlace) → Except TableFault (List (Option KeyPlace))
  | [] => .ok []
  | none :: r => (dropStaleFrom cur r).map (none :: ·)
  | some k :: r =>
    if !KeyPlace.isStale cur k then (dropStaleFrom cur r).map (some k :: ·)
    else if k.isRequired then .error .badToken
    else (dropStaleFrom cur r).map (none :: ·)

/-- Forget the keys to be that are too far away. -/
def dropStale (lx : Lexer) : Except TableFault Lexer := do
  let keys ← dropStaleFrom lx.cursor lx.keys
  return { lx with keys }

/-- The key to be inside the innermost bracket. -/
def key? (lx : Lexer) : Option KeyPlace := lx.keys.head?.join

/-- The key to be inside the innermost bracket set. -/
def setKey (k : Option KeyPlace) (lx : Lexer) : Lexer := { lx with keys := k :: lx.keys.drop 1 }

/-- Forget the key to be inside the innermost bracket. -/
def dropKey (lx : Lexer) : Except TableFault Lexer :=
  match lx.key? with
  | some k => if k.isRequired then .error .badToken else .ok (lx.setKey none)
  | none => .ok lx

/-- The next token may be a key, if one may begin here. At the column of the innermost collection
it has to be. -/
def noteKey (lx : Lexer) : Except TableFault Lexer := do
  if !lx.allowsKey then return lx
  let lx ← lx.dropKey
  let isRequired := !lx.inFlow && lx.columns.head? = some lx.cursor.column
  return lx.setKey
    (some ⟨lx.tokens.length, isRequired, lx.cursor.index, lx.cursor.line, lx.cursor.column⟩)

/-! ## Indentation -/

/-- Close the collections by indentation that a column lies in front of. -/
def closeTo (column : Nat) : List Nat → List Token → List Nat × List Token
  | [], tokens => ([], tokens)
  | c :: r, tokens => if column < c then closeTo column r (.blockEnd :: tokens) else (c :: r, tokens)

/-- Close what the place lies in front of. Brackets do without indentation. -/
def unwind (lx : Lexer) : Lexer :=
  if lx.inFlow then lx
  else
    let (columns, tokens) := closeTo lx.cursor.column lx.columns lx.tokens
    { lx with columns, tokens }

/-- Close all collections by indentation. -/
def unwindAll (lx : Lexer) : Lexer :=
  if lx.inFlow then lx
  else { lx with
    columns := [], tokens := lx.columns.map (fun _ => Token.blockEnd) ++ lx.tokens }

/-- Whether a column lies behind the innermost collection. -/
def isDeeper (column : Nat) (lx : Lexer) : Bool := lx.columns.head?.all fun c => c < column

/-- Open a collection with a token at the place, if that lies behind the innermost one. -/
def openBlock (t : Token) (lx : Lexer) : Lexer :=
  if lx.isDeeper lx.cursor.column then
    { lx.emit t with columns := lx.cursor.column :: lx.columns }
  else lx

/-! ## One token -/

/-- The next part of the text, with keys allowed again on a new line outside brackets. -/
def skip (lx : Lexer) : Lexer :=
  let cursor := lx.cursor.skip
  { lx with cursor, allowsKey := lx.allowsKey || (!lx.inFlow && lx.cursor.line ≠ cursor.line) }

/-- The end of the text. -/
def finish (lx : Lexer) : Except TableFault Lexer := do
  let lx ← lx.unwindAll.dropKey
  return { lx with isDone := true }

/-- A directive. -/
def takeDirective (lx : Lexer) : Except TableFault Lexer := do
  let lx ← lx.unwindAll.dropKey
  let (token, cursor) ← directive lx.cursor
  return (lx.emit token).moveTo cursor |>.allowKey false

/-- A mark between documents. -/
def takeDocumentMark (t : Token) (lx : Lexer) : Except TableFault Lexer := do
  let lx ← lx.unwindAll.dropKey
  return (lx.emit t).moveTo (lx.cursor.forward 3) |>.allowKey false

/-- An opening bracket. -/
def takeOpening (t : Token) (lx : Lexer) : Except TableFault Lexer := do
  let lx ← lx.noteKey
  return { (lx.emit t).moveTo lx.cursor.next |>.allowKey true with keys := none :: lx.keys }

/-- A closing bracket. One that closes nothing ends the reading, since no structure has a place for
it. -/
def takeClosing (t : Token) (lx : Lexer) : Except TableFault Lexer := do
  let lx ← lx.dropKey
  let lx := (lx.emit t).moveTo lx.cursor.next |>.allowKey false
  return if lx.inFlow then { lx with keys := lx.keys.drop 1 } else { lx with isDone := true }

/-- A comma inside brackets. -/
def takeComma (lx : Lexer) : Except TableFault Lexer := do
  let lx ← lx.dropKey
  return (lx.emit .comma).moveTo lx.cursor.next |>.allowKey true

/-- The hyphen of an entry. -/
def takeEntry (lx : Lexer) : Except TableFault Lexer := do
  if !lx.inFlow && !lx.allowsKey then throw TableFault.badToken
  let lx := if lx.inFlow then lx else lx.openBlock .sequenceStart
  let lx ← lx.dropKey
  return (lx.emit .entry).moveTo lx.cursor.next |>.allowKey true

/-- The question mark of a key. -/
def takeKey (lx : Lexer) : Except TableFault Lexer := do
  if !lx.inFlow && !lx.allowsKey then throw TableFault.badToken
  let lx := if lx.inFlow then lx else lx.openBlock .mappingStart
  let lx ← lx.dropKey
  return (lx.emit .key).moveTo lx.cursor.next |>.allowKey !lx.inFlow

/-- The colon of a value, which makes the key to be a key. -/
def takeValue (lx : Lexer) : Except TableFault Lexer := do
  match lx.key? with
  | some k =>
    let lx := (lx.setKey none).emitAt k.position .key
    let lx :=
      if !lx.inFlow && lx.isDeeper k.column then
        { lx.emitAt k.position .mappingStart with columns := k.column :: lx.columns }
      else lx
    return (lx.emit .value).moveTo lx.cursor.next |>.allowKey false
  | none =>
    if !lx.inFlow && !lx.allowsKey then throw TableFault.badToken
    let lx := if lx.inFlow then lx else lx.openBlock .mappingStart
    return (lx.emit .value).moveTo lx.cursor.next |>.allowKey !lx.inFlow

/-- A token on one line that may be a key. -/
def takeLabel (read : Cursor → Except TableFault (Token × Cursor)) (lx : Lexer) :
    Except TableFault Lexer := do
  let lx ← lx.noteKey
  let (token, cursor) ← read lx.cursor
  return (lx.emit token).moveTo cursor |>.allowKey false

/-- A scalar in quotes. -/
def takeQuoted (isDouble : Bool) (lx : Lexer) : Except TableFault Lexer :=
  lx.takeLabel fun cur => (quoted isDouble cur).map fun s => (.scalar s.text false, s.next)

/-- A scalar as a block. -/
def takeBlock (isFolded : Bool) (lx : Lexer) : Except TableFault Lexer := do
  let lx ← lx.dropKey
  let s ← block isFolded (max 1 lx.least) lx.cursor
  return (lx.emit (.scalar s.text false)).moveTo s.next |>.allowKey true

/-- A plain scalar. -/
def takePlain (lx : Lexer) : Except TableFault Lexer := do
  let lx ← lx.noteKey
  let s := plain lx.inFlow lx.least lx.cursor
  return (lx.emit (.scalar s.text true)).moveTo s.next |>.allowKey s.endsLine

/-- The token for a mark that is always one. -/
def takeMark? (c : CodePoint) : Option (Lexer → Except TableFault Lexer) :=
  if c = '[' then some (takeOpening .openBracket)
  else if c = '\x7b' then some (takeOpening .openBrace)
  else if c = ']' then some (takeClosing .closeBracket)
  else if c = '\x7d' then some (takeClosing .closeBrace)
  else if c = ',' then some takeComma
  else if c = '*' then
    some (takeLabel fun cur => (label cur).map fun s => (.alias s.text, s.next))
  else if c = '&' then
    some (takeLabel fun cur => (label cur).map fun s => (.anchor s.text, s.next))
  else if c = '!' then some (takeLabel tag)
  else if c = '\'' then some (takeQuoted false)
  else if c = '"' then some (takeQuoted true)
  else none

/-- The token at the place, which has something to read. -/
def take (c : CodePoint) (r : Text) (lx : Lexer) : Except TableFault Lexer :=
  let cur := lx.cursor
  if c = '%' && cur.column = 0 then lx.takeDirective
  else if cur.isAtDocumentMark then
    lx.takeDocumentMark (if c = '-' then .documentStart else .documentEnd)
  else
    match takeMark? c with
    | some takeMark => takeMark lx
    | none =>
      if c = '-' && isGap r then lx.takeEntry
      else if c = '?' && (lx.inFlow || isGap r) then lx.takeKey
      else if c = ':' && (lx.inFlow || isGap r) then lx.takeValue
      else if c = '|' && !lx.inFlow then lx.takeBlock false
      else if c = '>' && !lx.inFlow then lx.takeBlock true
      else if beginsPlain lx.inFlow (c :: r) then lx.takePlain
      else .error .badToken

/-- The lexer behind the next token. -/
def step (lx : Lexer) : Except TableFault Lexer := do
  let lx ← lx.skip.dropStale
  let lx := lx.unwind
  match lx.cursor.rest with
  | [] => lx.finish
  | c :: r => do
    let lx ← lx.take c r
    lx.dropStale

/-! ## All tokens -/

/-- The tokens that no colon behind the place can change any more. -/
def settled (lx : Lexer) : List Token :=
  let open? (k : KeyPlace) : Option Nat :=
    if k.isRequired || !KeyPlace.isStale lx.cursor k then some k.position else none
  let positions := lx.keys.filterMap fun k => k.bind open?
  lx.tokens.reverse.take (positions.foldl min lx.tokens.length)

/-- The tokens up to the end or the first fault. A fault is found as soon as it matters whether
the token before it is a key. The number is a bound on how many tokens there are. -/
def run : Nat → Lexer → Tokens
  | 0, lx => ⟨lx.tokens.reverse, none⟩
  | bound + 1, lx =>
    if lx.isDone then ⟨lx.tokens.reverse, none⟩
    else
      match lx.step with
      | .ok lx => run bound lx
      | .error fault => ⟨lx.settled, some fault⟩

end Lexer

/-- The tokens of a text. Every token but the end takes a code point at least. -/
def Tokens.ofText (t : Text) : Tokens := Lexer.run (t.length + 2) (Lexer.ofText t)

end Yaml

end Tablewright
