/-
Reading JSON text.

The reader walks over what is left of the text. An error carries how much was left, from which
its position in the whole text is computed at the end. Recursion is bounded by a fuel that the
wrapper takes from the length of the text: every call that does not end consumes a code point or
steps from a list to its first element, so the fuel is never used up.

Beyond the grammar of the standard the reader accepts the three words `NaN`, `Infinity` and
`-Infinity`. The last of several members with one key counts.
-/
import Tablewright.Json.Basic

set_option autoImplicit false

namespace Tablewright

/-- What can be wrong with JSON text. -/
inductive JsonFlaw where
  /-- A value has to stand here. -/
  | value
  /-- The quoted name of a member has to stand here. -/
  | memberName
  /-- A colon has to stand here. -/
  | colon
  /-- A comma has to stand here. -/
  | comma
  /-- Text after the value. -/
  | extra
  /-- A control character inside a text. -/
  | control
  /-- A text without its closing quote. -/
  | unterminated
  /-- A backslash before a code point that it does not escape. -/
  | escape
  /-- An escape by number without its four hexadecimal digits. -/
  | numberEscape
  /-- A byte order mark before the value. -/
  | byteOrderMark
deriving DecidableEq

/-- The wording of a flaw. -/
def JsonFlaw.message : JsonFlaw → Text
  | value => "Expecting value"
  | memberName => "Expecting property name enclosed in double quotes"
  | colon => "Expecting ':' delimiter"
  | comma => "Expecting ',' delimiter"
  | extra => "Extra data"
  | control => "Invalid control character at"
  | unterminated => "Unterminated string starting at"
  | escape => "Invalid \\escape"
  | numberEscape => "Invalid \\uXXXX escape"
  | byteOrderMark => "Unexpected UTF-8 BOM (decode using utf-8-sig)"

/-- Why a text is not read as JSON. -/
inductive JsonError where
  /-- The text breaks the grammar at a position. -/
  | flaw (what : JsonFlaw) (before : Text)
  /-- An integer with more digits than are read. -/
  | tooManyDigits (digits : Nat)
  /-- Lists and objects nested deeper than is followed. -/
  | tooDeep
deriving DecidableEq

/-- The wording of an error: the flaw with its line, column and position. -/
def JsonError.message : JsonError → Text
  | flaw what before =>
    let line := before.count (CodePoint.ofChar '\n') + 1
    let column := (before.reverse.takeWhile (· ≠ CodePoint.ofChar '\n')).length + 1
    what.message ++ ": line " ++ Text.ofNat line ++ " column " ++ Text.ofNat column
      ++ " (char " ++ Text.ofNat before.length ++ ")"
  | tooManyDigits n =>
    "Exceeds the limit (" ++ Text.ofNat Text.maxDigits ++ " digits) for integer string conversion: value has "
      ++ Text.ofNat n ++ " digits; use sys.set_int_max_str_digits() to increase the limit"
  | tooDeep => "nested too deeply"

namespace JsonReader

/-- An error before the whole text is known: a flaw with how much text was left at it. -/
inductive Stop where
  /-- The grammar is broken with `left` code points to go. -/
  | flaw (what : JsonFlaw) (left : Nat)
  /-- An integer with too many digits. -/
  | tooManyDigits (digits : Nat)
  /-- Nested too deeply. -/
  | tooDeep

/-- A flaw at what is left of the text. -/
def flawAt {α : Type} (what : JsonFlaw) (left : Text) : Except Stop α :=
  .error (.flaw what left.length)

/-- The blanks JSON allows between tokens. -/
def isSpace (c : CodePoint) : Bool := c = ' ' || c = '\t' || c = '\n' || c = '\r'

/-- A text without the blanks at its beginning. -/
def skipSpace (t : Text) : Text := t.dropWhile isSpace

/-! ## Texts -/

/-- The code point that a backslash and one letter stand for. -/
def simpleEscape? (c : CodePoint) : Option CodePoint :=
  if c = '"' || c = '\\' || c = '/' then some c
  else if c = 'b' then some (CodePoint.ofNat 8)
  else if c = 'f' then some (CodePoint.ofNat 12)
  else if c = 'n' then some '\n'
  else if c = 'r' then some '\r'
  else if c = 't' then some '\t'
  else none

/-- The number of four hexadecimal digits and what follows them. -/
def hex4? : Text → Option (Nat × Text)
  | a :: b :: c :: d :: r => do
    let a ← a.hexValue?
    let b ← b.hexValue?
    let c ← c.hexValue?
    let d ← d.hexValue?
    return (((a * 16 + b) * 16 + c) * 16 + d, r)
  | _ => none

/-- The code point of a surrogate pair. -/
def joinSurrogates (high low : Nat) : Nat := 0x10000 + (high - 0xD800) * 0x400 + (low - 0xDC00)

/-- The code point written by an escape with a number, given what follows the letter of the
escape. Two escapes that make a surrogate pair are one code point; an escape is only complete
when the text goes on after its digits. -/
def numberEscape (afterLetter : Text) : Except Stop (CodePoint × Text) :=
  match hex4? afterLetter with
  | some (n, c :: r) =>
    let single : Except Stop (CodePoint × Text) := .ok (CodePoint.ofNat n, c :: r)
    if 0xD800 ≤ n && n < 0xDC00 then
      match c :: r with
      | a :: b :: s =>
        if a = '\\' && b = 'u' && 4 < s.length then
          match hex4? s with
          | some (m, s') =>
            if 0xDC00 ≤ m && m < 0xE000 then .ok (CodePoint.ofNat (joinSurrogates n m), s')
            else single
          | none => .error (.flaw .numberEscape (s.length + 1))
        else single
      | _ => single
    else single
  | _ => .error (.flaw .numberEscape (afterLetter.length + 1))

/-- The rest of a text after its opening quote. `opening` is how much was left at that quote. -/
def textRest (opening : Nat) : Nat → Text → Except Stop (Text × Text)
  | 0, _ => .error (.flaw .unterminated opening)
  | _ + 1, [] => .error (.flaw .unterminated opening)
  | fuel + 1, c :: r =>
    if c = '"' then .ok ([], r)
    else if c = '\\' then
      match r with
      | [] => .error (.flaw .unterminated opening)
      | e :: s =>
        if e = 'u' then do
          let (x, s') ← numberEscape s
          let (t, left) ← textRest opening fuel s'
          return (x :: t, left)
        else
          match simpleEscape? e with
          | some x => do
            let (t, left) ← textRest opening fuel s
            return (x :: t, left)
          | none => flawAt .escape (c :: r)
    else if c.val < 0x20 then flawAt .control (c :: r)
    else do
      let (t, left) ← textRest opening fuel r
      return (c :: t, left)

/-- A text, given what follows its opening quote. -/
def text (afterQuote : Text) : Except Stop (Text × Text) :=
  textRest (afterQuote.length + 1) (afterQuote.length + 1) afterQuote

/-! ## Numbers -/

/-- The digits of a fraction after its point, when there is at least one. -/
def fraction? : Text → Option (Text × Text)
  | p :: d :: r =>
    if p = '.' && d.isAsciiDigit then
      let digits := (d :: r).takeWhile CodePoint.isAsciiDigit
      some (digits, (d :: r).dropWhile CodePoint.isAsciiDigit)
    else none
  | _ => none

/-- A decimal exponent with its mark, when it has at least one digit. -/
def exponent? : Text → Option (Int × Text)
  | e :: r =>
    if e = 'e' || e = 'E' then
      let (negative, s) :=
        match r with
        | c :: s => if c = '-' then (true, s) else if c = '+' then (false, s) else (false, r)
        | [] => (false, r)
      let digits := s.takeWhile CodePoint.isAsciiDigit
      if digits.isEmpty then none
      else
        let n : Int := Text.natOfDigits 0 digits
        some (if negative then -n else n, s.dropWhile CodePoint.isAsciiDigit)
    else none
  | [] => none

/-- The digits before the point: a single zero, or digits that begin with another one. -/
def integerDigits? (t : Text) : Option (Text × Text) :=
  match t with
  | c :: r =>
    if c = '0' then some ([c], r)
    else if c.isAsciiDigit then
      some (t.takeWhile CodePoint.isAsciiDigit, t.dropWhile CodePoint.isAsciiDigit)
    else none
  | [] => none

/-- A number. With neither fraction nor exponent it is an integer. -/
def number (t : Text) : Except Stop (Json × Text) :=
  let (negative, unsigned) :=
    match t with
    | c :: r => if c = '-' then (true, r) else (false, t)
    | [] => (false, t)
  match integerDigits? unsigned with
  | none => flawAt .value t
  | some (digits, afterDigits) =>
    let (fraction, afterFraction) := (fraction? afterDigits).getD ([], afterDigits)
    let exponent := exponent? afterFraction
    if fraction.isEmpty && exponent.isNone then
      if Text.maxDigits < digits.length then .error (.tooManyDigits digits.length)
      else
        let n : Int := Text.natOfDigits 0 digits
        .ok (.int (if negative then -n else n), afterDigits)
    else
      let (e, left) := exponent.getD (0, afterFraction)
      let value := Binary64.ofDecimal negative (Text.natOfDigits 0 (digits ++ fraction))
        (e - fraction.length)
      .ok (.float value, left)

/-- The values written as words. -/
def constants : List (String × Json) :=
  [("null", .null), ("true", .bool true), ("false", .bool false), ("NaN", .float .nan),
    ("Infinity", .float (.infinite false)), ("-Infinity", .float (.infinite true))]

/-- A value that is a word, if one stands here. -/
def constant? (t : Text) : Option (Json × Text) :=
  constants.findSome? fun (word, value) =>
    (Text.dropStart? (Text.ofString word) t).map fun left => (value, left)

/-! ## Lists, objects and values -/

mutual

/-- A value. `depth` is how many lists and objects may still be opened. -/
def value (depth : Nat) : Nat → Text → Except Stop (Json × Text)
  | 0, t => flawAt .value t
  | fuel + 1, t =>
    match t with
    | [] => flawAt .value t
    | c :: r =>
      if c = '"' then do
        let (s, left) ← text r
        return (.str s, left)
      else if c = '[' then
        match depth with
        | 0 => .error .tooDeep
        | depth + 1 =>
          match skipSpace r with
          | d :: s =>
            if d = ']' then .ok (.arr [], s)
            else do
              let (items, left) ← items depth fuel (d :: s)
              return (.arr items, left)
          | [] => flawAt .value []
      else if c = '\x7b' then
        match depth with
        | 0 => .error .tooDeep
        | depth + 1 =>
          match skipSpace r with
          | d :: s =>
            if d = '\x7d' then .ok (.obj [], s)
            else do
              let (members, left) ← members depth fuel [] (d :: s)
              return (.obj members, left)
          | [] => flawAt .memberName []
      else
        match constant? t with
        | some result => .ok result
        | none => number t

/-- The items of a list up to its closing bracket. -/
def items (depth : Nat) : Nat → Text → Except Stop (List Json × Text)
  | 0, t => flawAt .value t
  | fuel + 1, t => do
    let (v, left) ← value depth fuel t
    match skipSpace left with
    | c :: r =>
      if c = ']' then return ([v], r)
      else if c = ',' then do
        let (vs, left) ← items depth fuel (skipSpace r)
        return (v :: vs, left)
      else flawAt .comma (c :: r)
    | [] => flawAt .comma []

/-- The members of an object up to its closing brace, written into those read before. -/
def members (depth : Nat) : Nat → Members → Text → Except Stop (Members × Text)
  | 0, _, t => flawAt .memberName t
  | fuel + 1, acc, t =>
    match t with
    | [] => flawAt .memberName t
    | q :: r =>
      if q = '"' then do
        let (key, left) ← text r
        match skipSpace left with
        | c :: s =>
          if c = ':' then do
            let (v, left) ← value depth fuel (skipSpace s)
            let acc := acc.put key v
            match skipSpace left with
            | d :: s =>
              if d = '\x7d' then return (acc, s)
              else if d = ',' then members depth fuel acc (skipSpace s)
              else flawAt .comma (d :: s)
            | [] => flawAt .comma []
          else flawAt .colon (c :: s)
        | [] => flawAt .colon []
      else flawAt .memberName t

end

end JsonReader

open JsonReader in
/-- The value of a text that holds one JSON value between blanks. `depth` is how deep lists and
objects may nest. -/
def Json.read (depth : Nat) (t : Text) : Except JsonError Json :=
  let inContext : Stop → JsonError
    | .flaw what left => .flaw what (t.take (t.length - left))
    | .tooManyDigits n => .tooManyDigits n
    | .tooDeep => .tooDeep
  if Text.startsWith t [CodePoint.ofNat 0xFEFF] then .error (inContext (.flaw .byteOrderMark t.length))
  else
    match value depth (2 * t.length + 2) (skipSpace t) with
    | .error stop => .error (inContext stop)
    | .ok (v, left) =>
      match skipSpace left with
      | [] => .ok v
      | c :: r => .error (inContext (.flaw .extra (c :: r).length))

end Tablewright
