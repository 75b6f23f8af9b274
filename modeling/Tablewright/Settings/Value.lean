/-
Values of settings: a text, an integer or a number, read from what a source gives.

Most sources give text, so a number may be written as one. An integer may have a sign, leading
zeros, single underscores between digits and a fraction of zeros; a number is written as a decimal
with an optional exponent, or as a word for infinity or for no number.
-/
import Tablewright.Json.Reader
import Tablewright.Text.Search

set_option autoImplicit false

namespace Tablewright

/-- What is wrong with the value of a setting. -/
inductive SettingFlaw where
  /-- A text is required. -/
  | notText
  /-- The text holds a code point that cannot be encoded. -/
  | notUnicode
  /-- An integer is required. -/
  | notInteger
  /-- The text writes no integer. -/
  | unreadableInteger
  /-- The text writes an integer with too many digits. -/
  | integerTooLong
  /-- The number has a fraction, or is too large to be taken for an integer. -/
  | notWhole
  /-- The number is not finite. -/
  | notFinite
  /-- The integer is too small. -/
  | below (least : Int)
  /-- A number is required. -/
  | notNumber
  /-- The text writes no number. -/
  | unreadableNumber
deriving DecidableEq

/-- The wording of a setting's flaw. -/
def SettingFlaw.message : SettingFlaw → Text
  | notText => "Input should be a valid string"
  | notUnicode => "Input should be a valid string, unable to parse raw data as a unicode string"
  | notInteger => "Input should be a valid integer"
  | unreadableInteger => "Input should be a valid integer, unable to parse string as an integer"
  | integerTooLong => "Unable to parse input string as an integer, exceeded maximum size"
  | notWhole => "Input should be a valid integer, got a number with a fractional part"
  | notFinite => "Input should be a finite number"
  | below least => "Input should be greater than or equal to " ++ Text.ofInt least
  | notNumber => "Input should be a valid number"
  | unreadableNumber => "Input should be a valid number, unable to parse string as a number"

namespace SettingValue

/-! ## Texts -/

/-- A text that has an encoding. -/
def encodable (t : Text) : Except SettingFlaw Text :=
  if t.any CodePoint.isSurrogate then .error .notUnicode else .ok t

/-- A text setting. -/
def text : Json → Except SettingFlaw Text
  | .str t => encodable t
  | _ => .error .notText

/-- A text setting that may be null. -/
def optionalText : Json → Except SettingFlaw (Option Text)
  | .null => .ok none
  | v => (text v).map some

/-! ## Integers -/

/-- Blanks around a number: the white space of the standard. -/
def isMargin (c : CodePoint) : Bool := c.isBlank && !(0x1C ≤ c.val && c.val ≤ 0x1F)

/-- Whether a text has an underscore inside, none at its ends and no two next to each other. -/
def hasSingleUnderscores (t : Text) : Bool :=
  t.contains (CodePoint.ofChar '_') && !Text.startsWith t "_" && !Text.endsWith t "_"
    && !Text.includes t "__"

/-- A text without its underscores, when they stand one by one between other code points. -/
def withoutUnderscores? (t : Text) : Option Text :=
  if hasSingleUnderscores t then some (t.filter fun c => c ≠ '_') else none

/-- A text without a plus sign before it; a second sign is kept and spoils the number. -/
def dropPlus (t : Text) : Text :=
  match t with
  | c :: d :: r => if c = '+' && d ≠ '-' then d :: r else t
  | _ => t

/-- A number behind zeros and underscores: a last zero is kept where no other digit follows. -/
def afterZeros : Text → Option Text
  | [] => some "0"
  | c :: r =>
    if c = '0' then afterZeros r
    else if c = '_' then if r.isEmpty then none else afterZeros r
    else if c = '.' then some ("0" ++ [c] ++ r)
    else if c.isAsciiDigit then some (c :: r)
    else none

/-- A number without its leading zeros. Behind a minus sign they stay and spoil the number. -/
def dropZeros (t : Text) : Option Text :=
  match t with
  | c :: r =>
    if c = '0' then afterZeros r
    else if c.isAsciiDigit || c = '-' then some t
    else none
  | [] => none

/-- A number without a fraction of zeros. Any other fraction stays and spoils the integer. -/
def dropFraction (t : Text) : Text :=
  match Text.cutAtFirst? "." t with
  | some (whole, fraction) => if fraction.all (fun c => c = '0') then whole else t
  | none => t

/-- Whether digits are a numeral: at least one, and no zero before others. -/
def isNumeral (digits : Text) : Bool :=
  match digits with
  | [] => false
  | c :: r => digits.all CodePoint.isAsciiDigit && (c ≠ '0' || r.isEmpty)

/-- A numeral with an optional minus sign. -/
def signedNumeral (t : Text) : Except SettingFlaw Int :=
  let (negative, digits) :=
    match t with
    | c :: r => if c = '-' then (true, r) else (false, t)
    | [] => (false, t)
  if !isNumeral digits then .error .unreadableInteger
  else if Text.maxDigits < digits.length then .error .integerTooLong
  else
    let n : Int := Text.natOfDigits 0 digits
    .ok (if negative then -n else n)

/-- The integer a text writes. -/
def integerOfText (t : Text) : Except SettingFlaw Int :=
  match dropZeros (dropPlus (Text.stripWhere isMargin t)) with
  | none => .error .unreadableInteger
  | some t =>
    let whole := dropFraction t
    signedNumeral ((withoutUnderscores? whole).getD whole)

/-- The integer a floating-point number is, if it fits 64 bits. -/
def integerOfFloat (x : Binary64) : Except SettingFlaw Int :=
  match x with
  | .finite .. =>
    match x.toInt? with
    | some n => if -(twoTo 63 : Int) < n && n < twoTo 63 then .ok n else .error .notWhole
    | none => .error .notWhole
  | _ => .error .notFinite

/-- An integer setting. -/
def integer : Json → Except SettingFlaw Int
  | .int n => .ok n
  | .bool b => .ok (if b then 1 else 0)
  | .float x => integerOfFloat x
  | .str t => do integerOfText (← encodable t)
  | _ => .error .notInteger

/-- An integer setting with a least value. -/
def integerFrom (least : Int) (v : Json) : Except SettingFlaw Int := do
  let n ← integer v
  if n < least then throw (.below least) else return n

/-! ## Numbers -/

/-- An exponent with its mark, which has to be followed by digits up to the end. -/
def exponent? : Text → Option Int
  | [] => some 0
  | t =>
    match JsonReader.exponent? t with
    | some (e, []) => some e
    | _ => none

/-- A decimal: digits before or behind a point, and an exponent. -/
def decimal? (negative : Bool) (t : Text) : Option Binary64 :=
  let whole := t.takeWhile CodePoint.isAsciiDigit
  let rest := t.dropWhile CodePoint.isAsciiDigit
  let (fraction, rest) :=
    match Text.after? '.' rest with
    | some r => (r.takeWhile CodePoint.isAsciiDigit, r.dropWhile CodePoint.isAsciiDigit)
    | none => ([], rest)
  if whole.isEmpty && fraction.isEmpty then none
  else
    (exponent? rest).map fun e =>
      Binary64.ofDecimal negative (Text.natOfDigits 0 (whole ++ fraction)) (e - fraction.length)

/-- A letter of a word for a number, made small. -/
def smallLetter (c : CodePoint) : CodePoint :=
  if c.isAsciiUpper then CodePoint.ofNat (c.val + 32) else c

/-- A number written as a word. -/
def word? (negative : Bool) (t : Text) : Option Binary64 :=
  let small := t.map smallLetter
  if small = Text.ofString "inf" || small = Text.ofString "infinity" then some (.infinite negative)
  else if small = Text.ofString "nan" then some .nan
  else none

/-- The number a text writes. -/
def number? (t : Text) : Option Binary64 :=
  let (negative, unsigned) :=
    match t with
    | c :: r => if c = '-' then (true, r) else if c = '+' then (false, r) else (false, t)
    | [] => (false, t)
  match word? negative unsigned with
  | some x => some x
  | none => decimal? negative unsigned

/-- The number a text writes between blanks, or without blanks but with underscores. -/
def numberOfText (t : Text) : Except SettingFlaw Binary64 :=
  match number? (Text.stripWhere isMargin t) with
  | some x => .ok x
  | none =>
    match (withoutUnderscores? t).bind number? with
    | some x => .ok x
    | none => .error .unreadableNumber

/-- The floating-point number nearest to an integer, if it is finite. -/
def numberOfInt (n : Int) : Except SettingFlaw Binary64 :=
  match Binary64.ofDecimal (n < 0) n.natAbs 0 with
  | .finite s m e => .ok (.finite s m e)
  | _ => .error .notNumber

/-- A number setting. -/
def number : Json → Except SettingFlaw Binary64
  | .int n => numberOfInt n
  | .bool b => numberOfInt (if b then 1 else 0)
  | .float x => .ok x
  | .str t => do numberOfText (← encodable t)
  | _ => .error .notNumber

end SettingValue

end Tablewright
