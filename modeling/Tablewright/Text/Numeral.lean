/-
Numbers as text: decimal and hexadecimal numerals, and the reading of an integer as a user
writes it, in the digits of any script and with single underscores between digits.
-/
import Tablewright.Text.Alphanumeric
import Tablewright.Text.Blank

set_option autoImplicit false

namespace Tablewright.Text

/-- The decimal numeral of a natural number. -/
def ofNat (n : Nat) : Text := (Nat.toDigits 10 n).map CodePoint.ofChar

/-- The decimal numeral of an integer. -/
def ofInt : Int → Text
  | .ofNat n => ofNat n
  | .negSucc n => '-' :: ofNat (n + 1)

/-- A text filled with zeros on the left up to a width. -/
def zeroPad (width : Nat) (t : Text) : Text := replicate (width - t.length) '0' ++ t

/-- The hexadecimal numeral of a number in small letters, with at least `width` digits. -/
def hex (width n : Nat) : Text := zeroPad width ((Nat.toDigits 16 n).map CodePoint.ofChar)

/-! ## Reading -/

/-- The number that decimal digits write, continuing from the number read so far. -/
def natOfDigits (acc : Nat) : Text → Nat
  | [] => acc
  | c :: r => natOfDigits (acc * 10 + (c.val - '0'.toNat)) r

/-- A text of one or more ASCII digits as a number. -/
def toNat? (t : Text) : Option Nat :=
  if !t.isEmpty && t.all CodePoint.isAsciiDigit then some (natOfDigits 0 t) else none

/-- The ASCII form in which integers are read: digits of any script become ASCII digits, blanks
outside ASCII become spaces, and anything else outside ASCII cannot stand in an integer. -/
def plainDigits (t : Text) : Text :=
  if t.all CodePoint.isAscii then t
  else t.map fun c =>
    if c.val < 127 then c
    else if c.isBlank then ' '
    else match c.digitValue? with
      | some d => CodePoint.ofNat ('0'.toNat + d)
      | none => '?'

/-- The blanks an integer may stand between: the space and the controls from 9 to 13. -/
def isMargin (c : CodePoint) : Bool := c.val = 32 || (9 ≤ c.val && c.val ≤ 13)

/-- The digits of an integer, single underscores between them left out. The flag says whether a
digit comes just before. -/
def digitsBetweenUnderscores : Bool → Text → Option Text
  | afterDigit, [] => if afterDigit then some [] else none
  | afterDigit, c :: r =>
    if c.isAsciiDigit then (digitsBetweenUnderscores true r).map (c :: ·)
    else if c = '_' && afterDigit then digitsBetweenUnderscores false r
    else none

/-- Integers with more digits than this are not read. -/
def maxDigits : Nat := 4300

/-- The integer a text writes: margins, a sign, digits with single underscores between them, and
margins. -/
def toInt? (t : Text) : Option Int :=
  let body := stripWhere isMargin (plainDigits t)
  let (negative, rest) :=
    match body with
    | c :: r => if c = '-' then (true, r) else if c = '+' then (false, r) else (false, body)
    | [] => (false, [])
  match digitsBetweenUnderscores false rest with
  | some digits =>
    if digits.length ≤ maxDigits then
      let n : Int := natOfDigits 0 digits
      some (if negative then -n else n)
    else none
  | none => none

end Tablewright.Text
