/-
Percent encoding: bytes that may not stand in an address are written as `%` and two hexadecimal
digits.

Decoding never fails. A percent sign without two digits stands for itself, and bytes that encode
no text become replacement characters, one for every piece that could not be continued.
-/
import Tablewright.Text.Numeral
import Tablewright.Text.Search
import Tablewright.Text.Utf8

set_option autoImplicit false

namespace Tablewright

/-- The code points that never have to be encoded: letters, digits and four signs. -/
def CodePoint.isUnreserved (c : CodePoint) : Bool :=
  c.isAsciiLower || c.isAsciiUpper || c.isAsciiDigit || c = '_' || c = '.' || c = '-' || c = '~'

/-- A small hexadecimal letter made large. -/
def CodePoint.largeHexDigit (c : CodePoint) : CodePoint := c.capital

namespace Percent

/-! ## Encoding -/

/-- A byte in encoded form. -/
def encodeByte (b : UInt8) : Text := "%" ++ (Text.hex 2 b.toNat).map CodePoint.largeHexDigit

/-- A text with every code point encoded except those that are unreserved or to be kept; none
when the text holds a surrogate. -/
def encode? (keep : CodePoint → Bool) : Text → Option Text
  | [] => some []
  | c :: r =>
    match c.utf8?, encode? keep r with
    | some bytes, some rest =>
      some ((if c.isUnreserved || keep c then [c] else bytes.flatMap encodeByte) ++ rest)
    | _, _ => none

/-! ## Decoding -/

/-- A code point of which some bytes are still to come. -/
structure Partial where
  /-- How many bytes are missing. -/
  missing : Nat
  /-- The least next byte that continues it. -/
  low : Nat
  /-- The greatest next byte that continues it. -/
  high : Nat
  /-- The bits read so far. -/
  bits : Nat

/-- What stands where bytes encode nothing. -/
def replacement : CodePoint := CodePoint.ofNat 0xFFFD

/-- What a byte begins: a whole code point, or one with bytes to come. -/
def begins (n : Nat) : Text × Option Partial :=
  if n < 0x80 then ([CodePoint.ofNat n], none)
  else if n < 0xC2 then ([replacement], none)
  else if n < 0xE0 then ([], some ⟨1, 0x80, 0xBF, n - 0xC0⟩)
  else if n < 0xF0 then
    ([], some ⟨2, if n = 0xE0 then 0xA0 else 0x80, if n = 0xED then 0x9F else 0xBF, n - 0xE0⟩)
  else if n < 0xF5 then
    ([], some ⟨3, if n = 0xF0 then 0x90 else 0x80, if n = 0xF4 then 0x8F else 0xBF, n - 0xF0⟩)
  else ([replacement], none)

/-- What a byte makes of a code point that waits for it. -/
def continues (p : Partial) (n : Nat) : Text × Option Partial :=
  if p.low ≤ n && n ≤ p.high then
    let bits := p.bits * 0x40 + (n - 0x80)
    if p.missing ≤ 1 then ([CodePoint.ofNat bits], none)
    else ([], some ⟨p.missing - 1, 0x80, 0xBF, bits⟩)
  else
    let (text, pending) := begins n
    (replacement :: text, pending)

/-- What is left when a code point waits in vain. -/
def abandoned : Option Partial → Text
  | some _ => [replacement]
  | none => []

/-- One piece of an encoded text. -/
inductive Piece where
  /-- A byte. -/
  | byte (n : Nat)
  /-- A code point outside ASCII, which stands for itself. -/
  | code (c : CodePoint)

/-- The pieces of an encoded text. -/
def pieces : Text → List Piece
  | [] => []
  | c :: r =>
    if c = '%' then
      match r with
      | a :: b :: s =>
        match a.hexValue?, b.hexValue? with
        | some x, some y => .byte (x * 16 + y) :: pieces s
        | _, _ => .byte c.val :: pieces (a :: b :: s)
      | [a] => .byte c.val :: pieces [a]
      | [] => [.byte c.val]
    else if c.isAscii then .byte c.val :: pieces r
    else .code c :: pieces r

/-- The text of pieces, given the code point that waits for the next byte. -/
def textFrom : Option Partial → List Piece → Text
  | pending, [] => abandoned pending
  | pending, .code c :: r => abandoned pending ++ c :: textFrom none r
  | pending, .byte n :: r =>
    let (text, next) :=
      match pending with
      | some p => continues p n
      | none => begins n
    text ++ textFrom next r

/-- An encoded text decoded. -/
def decode (t : Text) : Text := textFrom none (pieces t)

/-! ## Form fields -/

/-- A form field encoded: spaces are written as plus signs. -/
def encodeField? (t : Text) : Option Text :=
  (encode? (fun c => c = ' ') t).map (Text.substitute ' ' '+')

/-- A form field decoded. -/
def decodeField (t : Text) : Text := decode (Text.substitute '+' ' ' t)

end Percent

end Tablewright
