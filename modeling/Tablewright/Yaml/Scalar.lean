/-
What a plain scalar of a table file stands for: nothing, a truth value, a number or a text.

Integers may be binary, octal, hexadecimal or in base sixty, and digits may be parted by
underscores. A scalar that has none of these forms is a text.
-/
import Tablewright.Json.Basic
import Tablewright.Text.Search

set_option autoImplicit false

namespace Tablewright

namespace Yaml

/-! ## Words -/

/-- The words for nothing. -/
def nullWords : List String := ["", "~", "null", "Null", "NULL"]

/-- The words for yes. -/
def trueWords : List String := ["yes", "Yes", "YES", "true", "True", "TRUE", "on", "On", "ON"]

/-- The words for no. -/
def falseWords : List String := ["no", "No", "NO", "false", "False", "FALSE", "off", "Off", "OFF"]

/-- The words for infinity behind a sign. -/
def infinityWords : List String := [".inf", ".Inf", ".INF"]

/-- The words for no number. -/
def nanWords : List String := [".nan", ".NaN", ".NAN"]

/-- Whether a text is one of a list of words. -/
def isOneOf (words : List String) (t : Text) : Bool := words.any fun w => Text.ofString w = t

/-- The truth value that a word stands for. -/
def truth? (t : Text) : Option Bool :=
  if isOneOf trueWords t then some true else if isOneOf falseWords t then some false else none

/-! ## Digits -/

/-- Whether the sign of a number is negative, and the number without its sign. -/
def unsigned : Text → Bool × Text
  | [] => (false, [])
  | c :: r => if c = '-' then (true, r) else if c = '+' then (false, r) else (false, c :: r)

/-- The value of a digit in a base up to sixteen. -/
def digit? (base : Nat) (c : CodePoint) : Option Nat := c.hexValue?.filter fun d => d < base

/-- The number that digits write in a base, continuing from the number read so far. -/
def digitsFrom (base : Nat) (read : Nat) : Text → Option Nat
  | [] => some read
  | c :: r => (digit? base c).bind fun d => digitsFrom base (read * base + d) r

/-- Whether a code point is a decimal digit or an underscore. -/
def isDigitOrBar (c : CodePoint) : Bool := c.isAsciiDigit || c = '_'

/-- A text without underscores. -/
def withoutBars (t : Text) : Text := t.filter fun (c : CodePoint) => c ≠ '_'

/-- The number that digits with underscores write in a base; no digits write zero. -/
def digits? (base : Nat) (t : Text) : Option Nat := digitsFrom base 0 (withoutBars t)

/-- Whether a text begins with a decimal digit. -/
def beginsWithDigit (t : Text) : Bool := t.head?.any CodePoint.isAsciiDigit

/-- One place of a number in base sixty, written with one or two decimal digits. -/
def sixtieth? (t : Text) : Option Nat :=
  if t.isEmpty || 2 < t.length then none else (digitsFrom 10 0 t).filter fun n => n < 60

/-- The number that places in base sixty write, continuing from the number read so far. -/
def placesFrom (read : Nat) : List Text → Option Nat
  | [] => some read
  | t :: r => (sixtieth? t).bind fun n => placesFrom (read * 60 + n) r

/-- The number that decimal digits write, or places in base sixty between colons. -/
def placed? (t : Text) : Option Nat :=
  match Text.splitOn ':' t with
  | [] => none
  | first :: places => (digits? 10 first).bind fun n => placesFrom n places

/-! ## Numbers -/

/-- An integer without a sign. A leading zero makes it octal. -/
def natural? (t : Text) : Option Nat :=
  match Text.dropStart? "0b" t, Text.dropStart? "0x" t with
  | some r, _ => if (withoutBars r).isEmpty then none else digits? 2 r
  | none, some r => if (withoutBars r).isEmpty then none else digits? 16 r
  | none, none =>
    if Text.startsWith t "0" then digits? 8 t
    else if beginsWithDigit t then placed? t
    else none

/-- An integer. -/
def integer? (t : Text) : Option Int :=
  let (negative, rest) := unsigned t
  (natural? rest).map fun n => if negative then -(n : Int) else n

/-- An exponent, which needs its sign. -/
def exponent? : Text → Option Int
  | [] => some 0
  | [_] => none
  | e :: s :: r =>
    if (e = 'e' || e = 'E') && (s = '+' || s = '-') && !r.isEmpty then
      (digitsFrom 10 0 r).map fun n => if s = '-' then -(n : Int) else n
    else none

/-- The number of places behind a point and a whole number in front of it. -/
def pointed (negative : Bool) (whole : Nat) (fraction : Text) (exponent : Int) : Option Binary64 :=
  (digitsFrom 10 whole (withoutBars fraction)).map fun n =>
    Binary64.ofDecimal negative n (exponent - (withoutBars fraction).length)

/-- A number with a point. Without a digit in front of the point it has no sign, and has to have
one behind it; in base sixty it has no exponent. -/
def decimal? (hasSign negative : Bool) (t : Text) : Option Binary64 :=
  match Text.cutAtFirst? "." t with
  | none => none
  | some (whole, rest) =>
    let fraction := rest.takeWhile isDigitOrBar
    let tail := rest.dropWhile isDigitOrBar
    if beginsWithDigit whole then
      if whole.all isDigitOrBar then
        (exponent? tail).bind fun e =>
          (digits? 10 whole).bind fun n => pointed negative n fraction e
      else if tail.isEmpty then (placed? whole).bind fun n => pointed negative n fraction 0
      else none
    else if whole.isEmpty && !hasSign && beginsWithDigit fraction then
      (exponent? tail).bind fun e => pointed negative 0 fraction e
    else none

/-- A floating-point number. -/
def number? (t : Text) : Option Binary64 :=
  let (negative, rest) := unsigned t
  if isOneOf infinityWords rest then some (.infinite negative)
  else if isOneOf nanWords t then some .nan
  else decimal? (rest.length < t.length) negative rest

/-- What a plain scalar stands for. -/
def resolve (t : Text) : Json :=
  if isOneOf nullWords t then .null
  else
    match truth? t, number? t, integer? t with
    | some b, _, _ => .bool b
    | none, some x, _ => .float x
    | none, none, some n => .int n
    | none, none, none => .str t

end Yaml

end Tablewright
