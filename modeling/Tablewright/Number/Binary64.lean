/-
Floating-point numbers of 64 bits as exact data: a sign, a mantissa and a power of two.

Two things are done with such a number. It is read from a decimal numeral, rounded to the nearest
representable value with ties to the even mantissa; and it is written with the fewest decimal
digits that read back to it. Both work in exact natural-number arithmetic.
-/
import Tablewright.Text.Numeral

set_option autoImplicit false

namespace Tablewright

/-! ## Powers

They are taken by the power of natural numbers itself. -/

/-- A power of two. -/
def twoTo (n : Nat) : Nat := Nat.pow 2 n

/-- A power of ten. -/
def tenTo (n : Nat) : Nat := Nat.pow 10 n

/-! ## Numbers -/

/-- A floating-point number of 64 bits. -/
inductive Binary64 where
  /-- Not a number. -/
  | nan
  /-- An infinity. -/
  | infinite (negative : Bool)
  /-- The number `± mantissa * 2 ^ exponent`. The mantissa is below `2 ^ 53`, and at least
  `2 ^ 52` unless the exponent is the least one, `-1074`. -/
  | finite (negative : Bool) (mantissa : Nat) (exponent : Int)
deriving DecidableEq

namespace Binary64

/-- Whether a number is zero, of either sign. -/
def isZero : Binary64 → Bool
  | finite _ m _ => m = 0
  | _ => false

/-- Zero with a sign. -/
def zero (negative : Bool) : Binary64 := finite negative 0 (-1074)

/-! ## Reading -/

/-- The quotient rounded to the nearest natural number, a tie to the even one. -/
def divRoundEven (num den : Nat) : Nat :=
  let q := num / den
  let r := num % den
  if 2 * r < den then q
  else if den < 2 * r then q + 1
  else if q % 2 = 0 then q else q + 1

/-- `n * 2 ^ e` as a fraction. -/
def scale2 (n : Nat) (e : Int) : Nat × Nat :=
  if 0 ≤ e then (n * twoTo e.toNat, 1) else (n, twoTo (-e).toNat)

/-- The least exponent at which a positive fraction has a mantissa below `2 ^ 53`, but no less
than `-1074`. -/
def exponentFor (num den : Nat) : Int :=
  let guess : Int := (num.log2 : Int) - (den.log2 : Int) - 52
  -- The quotient has `guess + 52` or `guess + 51` as its binary logarithm.
  let (d, n) := scale2 den guess
  let exact := if num * n < d * twoTo 52 then guess - 1 else guess
  max exact (-1074)

/-- The number nearest to a positive fraction. -/
def ofFraction (negative : Bool) (num den : Nat) : Binary64 :=
  let e := exponentFor num den
  let (d, n) := scale2 den e
  let m := divRoundEven (num * n) d
  let (m, e) := if m = twoTo 53 then (twoTo 52, e + 1) else (m, e)
  if 971 < e then infinite negative else finite negative m e

/-- The number nearest to `± digits * 10 ^ exponent`. Beyond 310 places the value is infinite,
and with 330 zeros after the point it is zero, so the powers of ten stay small. -/
def ofDecimal (negative : Bool) (digits : Nat) (exponent : Int) : Binary64 :=
  if digits = 0 then zero negative
  else
    let places : Int := (Nat.toDigits 10 digits).length + exponent
    if 310 < places then infinite negative
    else if places < -330 then zero negative
    else if 0 ≤ exponent then ofFraction negative (digits * tenTo exponent.toNat) 1
    else ofFraction negative digits (tenTo (-exponent).toNat)

/-! ## Writing -/

/-- The positive decimal number `0.d₁d₂… * 10 ^ point` by its digits and the place of its
point. -/
structure Digits where
  /-- The digits, the first and the last of them not zero. -/
  digits : Text
  /-- How many digits stand before the point. -/
  point : Int

/-- A text without the zeros at its end. -/
def dropTrailingZeros (t : Text) : Text :=
  (t.reverse.dropWhile (· = CodePoint.ofChar '0')).reverse

/-- The candidate with `n` digits, if one lies in the interval of the reals that round to the
number: of the two neighbours of the value on the grid of `n` digits, the nearer one that does.
The value is `4 * value / den`, its interval from `4 * value - below` to `4 * value + above`, all
over `den`, ends included when `closed`. -/
def candidate? (value below above den : Nat) (closed : Bool) (point : Int) (n : Nat) :
    Option Digits :=
  -- The grid step is `10 ^ k`.
  let k : Int := point - n
  let up := tenTo k.toNat
  let down := tenTo (-k).toNat
  -- In units of `1 / (4 * den * down)` the value is `value * down * 4` and the step `step`.
  let v := 4 * value * down
  let step := 4 * den * up
  let low := v - below * down
  let high := v + above * down
  let floor := v / step
  let inside (c : Nat) : Bool :=
    let x := c * step
    if closed then low ≤ x && x ≤ high else low < x && x < high
  let pick : Option Nat :=
    match inside floor && floor ≠ 0, inside (floor + 1) with
    | true, true =>
      let r := v % step
      if 2 * r < step then some floor
      else if step < 2 * r then some (floor + 1)
      else if floor % 2 = 0 then some floor else some (floor + 1)
    | true, false => some floor
    | false, true => some (floor + 1)
    | false, false => none
  pick.map fun c =>
    let t := Text.ofNat c
    ⟨dropTrailingZeros t, point + ((t.length : Int) - n)⟩

/-- The fewest digits that read back to the positive number `m * 2 ^ e`, and of those the
nearest. Seventeen digits always suffice. -/
def shortest (m : Nat) (e : Int) : Digits :=
  let (num, den) := scale2 m e
  let unit := (scale2 1 e).1
  -- Below a power of two the neighbours lie half as far apart.
  let below := if m = twoTo 52 && -1074 < e then unit else 2 * unit
  let above := 2 * unit
  let guess : Int := (Nat.toDigits 10 num).length - (Nat.toDigits 10 den).length
  let point := if num * tenTo (-guess).toNat < den * tenTo guess.toNat then guess else guess + 1
  let found := (List.range 17).findSome? fun i =>
    candidate? num below above den (m % 2 = 0) point (i + 1)
  found.getD ⟨[], 0⟩

/-- Digits with their point: positional from `10 ^ -4` up to below `10 ^ 16`, with at least one
digit on each side of the point; otherwise one digit before the point and a signed exponent of at
least two digits. -/
def Digits.text (d : Digits) : Text :=
  let n : Int := d.digits.length
  if -4 < d.point && d.point ≤ 16 then
    if d.point ≤ 0 then "0." ++ Text.replicate (-d.point).toNat '0' ++ d.digits
    else if n ≤ d.point then d.digits ++ Text.replicate (d.point - n).toNat '0' ++ ".0"
    else d.digits.take d.point.toNat ++ "." ++ d.digits.drop d.point.toNat
  else
    let e := d.point - 1
    let fraction : Text := if n ≤ 1 then [] else '.' :: d.digits.drop 1
    let mark : Text := if e < 0 then "e-" else "e+"
    d.digits.take 1 ++ fraction ++ mark ++ Text.zeroPad 2 (Text.ofNat e.natAbs)

/-- The spellings of what is not a finite number. -/
structure Spelling where
  /-- Not a number. -/
  nan : Text
  /-- Positive infinity. -/
  infinity : Text

/-- A number as text: the fewest digits that read back. -/
def text (spelling : Spelling) : Binary64 → Text
  | nan => spelling.nan
  | infinite negative => if negative then '-' :: spelling.infinity else spelling.infinity
  | finite negative m e =>
    let magnitude : Text := if m = 0 then "0.0" else (shortest m e).text
    if negative then '-' :: magnitude else magnitude

/-- The integer a number is, if it is one. -/
def toInt? : Binary64 → Option Int
  | finite negative m e =>
    let (num, den) := scale2 m e
    if num % den = 0 then
      let n : Int := (num / den : Nat)
      some (if negative then -n else n)
    else none
  | _ => none

end Binary64

end Tablewright
