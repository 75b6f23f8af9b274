/-
Log lines: the levels of messages, and layouts with fields of the form `%(name)s`.

Libraries that write a line for every request are kept to warnings, unless everything is to be
logged. Between the name and the form of a field there may be flags, a width and a precision. A
record that belongs to no run or no stage shows a dash for it.
-/
import Tablewright.Failure.Basic
import Tablewright.Text.Alphanumeric
import Tablewright.Text.Numeral
import Tablewright.Text.Search

set_option autoImplicit false

namespace Tablewright

/-! ## Levels -/

/-- A level of log messages; the greater, the more important. -/
abbrev LogLevel := Int

namespace LogLevel

/-- Everything, down to details. -/
def debug : LogLevel := 10

/-- What the program is doing. -/
def info : LogLevel := 20

/-- What may be wrong. -/
def warning : LogLevel := 30

/-- The levels that have a name. -/
def named : List (Int × String) :=
  [(0, "NOTSET"), (10, "DEBUG"), (20, "INFO"), (30, "WARNING"), (40, "ERROR"), (50, "CRITICAL")]

/-- The name of a level. -/
def label (level : LogLevel) : Text :=
  match named.find? fun n => n.1 = level with
  | some n => n.2
  | none => "Level " ++ Text.ofInt level

/-- The loggers of libraries that write a line for every request. -/
def chatty : List Text := ["httpx", "httpcore", "openai"]

/-- The level of chatty loggers when the program logs from a level on. -/
def forChatty (level : LogLevel) : LogLevel := if level ≤ debug then debug else warning

end LogLevel

/-! ## Layouts -/

/-- A message to be logged. -/
structure LogRecord where
  /-- The logger. -/
  logger : Text
  /-- How important the message is. -/
  level : LogLevel
  /-- The message. -/
  message : Text
  /-- The run it belongs to, if any. -/
  run : Option Json
  /-- The stage it belongs to, if any. -/
  stage : Option Json

namespace LogRecord

/-- What stands for a run or a stage a record does not belong to. -/
def nowhere : Json := .str "-"

/-- The fields of a record. -/
def fields (r : LogRecord) : Members :=
  Members.one "name" (.str r.logger) ++ Members.one "levelno" (.int r.level)
    ++ Members.one "levelname" (.str (LogLevel.label r.level)) ++ Members.one "msg" (.str r.message)
    ++ Members.one "message" (.str r.message) ++ Members.one "exc_info" .null
    ++ Members.one "exc_text" .null ++ Members.one "stack_info" .null
    ++ Members.one "run_id" (r.run.getD nowhere) ++ Members.one "stage" (r.stage.getD nowhere)

end LogRecord

namespace LogLayout

/-- How a field is to be shown. -/
structure Field where
  /-- The name of the field; without one nothing can be shown. -/
  name : Option Text
  /-- The flags. -/
  flags : Text
  /-- The least width. -/
  width : Nat
  /-- The precision. -/
  precision : Option Nat
  /-- The form. -/
  form : CodePoint
  /-- Where the form stands in the layout. -/
  position : Nat

/-- A piece of a layout. -/
inductive Piece where
  /-- A code point that stands for itself. -/
  | literal (c : CodePoint)
  /-- A field. -/
  | field (f : Field)
  /-- The place from which the layout cannot be read. -/
  | broken (why : BadValue)

/-! ## Reading layouts -/

/-- Flags of a field. -/
def isFlag (c : CodePoint) : Bool := c = '#' || c = '0' || c = '+' || c = ' ' || c = '-'

/-- The marks of a length, which mean nothing. -/
def isLength (c : CodePoint) : Bool := c = 'h' || c = 'l' || c = 'L'

/-- The name of a field up to its closing bracket; brackets inside are counted. -/
def nameRest? : Nat → Text → Option (Text × Text)
  | _, [] => none
  | depth, c :: r =>
    if c = '(' then (nameRest? (depth + 1) r).map fun p => (c :: p.1, p.2)
    else if c = ')' then
      match depth with
      | 0 => some ([], r)
      | depth + 1 => (nameRest? depth r).map fun p => (c :: p.1, p.2)
    else (nameRest? depth r).map fun p => (c :: p.1, p.2)

/-- The name of a field, if it has one. -/
def name (t : Text) : Except BadValue (Option Text × Text) :=
  match Text.after? '(' t with
  | none => .ok (none, t)
  | some r =>
    match nameRest? 0 r with
    | some (name, rest) => .ok (some name, rest)
    | none => .error .openLogName

/-- A number, if one stands here. -/
def number (t : Text) : Text × Text := Text.cutBefore (fun c => !c.isAsciiDigit) t

/-- The precision behind a point, if one stands here. A point alone means zero. -/
def precision (t : Text) : Option Nat × Text :=
  match Text.after? '.' t with
  | none => (none, t)
  | some r => let (digits, rest) := number r; (some (Text.natOfDigits 0 digits), rest)

/-- A field behind its percent sign, and what comes after it. `total` is the length of the whole
layout. -/
def field (total : Nat) (t : Text) : Except BadValue (Field × Text) := do
  let (name, rest) ← name t
  let (flags, rest) := Text.cutBefore (fun c => !isFlag c) rest
  let (width, rest) := number rest
  let (precision, rest) := precision rest
  match Text.cutBefore (fun c => !isLength c) rest with
  | (_, []) => throw BadValue.openLogField
  | (_, form :: rest) =>
    return ({ name, flags, precision, form
              width := Text.natOfDigits 0 width
              position := total - rest.length - 1 }, rest)

/-- The pieces of a layout; a doubled percent sign stands for one. The numbers are the length of
the layout and a bound on the length of what is left. -/
def piecesFrom (total : Nat) : Nat → Text → List Piece
  | 0, _ => []
  | _ + 1, [] => []
  | fuel + 1, c :: r =>
    if c = '%' then
      match Text.after? '%' r with
      | some rest => .literal c :: piecesFrom total fuel rest
      | none =>
        match field total r with
        | .ok (f, rest) => .field f :: piecesFrom total fuel rest
        | .error why => [.broken why]
    else .literal c :: piecesFrom total fuel r

/-- The pieces of a layout. -/
def pieces (layout : Text) : List Piece :=
  piecesFrom layout.length (layout.length + 1) layout

/-! ## Which layouts are accepted -/

/-- Forms a field may have. -/
def isForm (c : CodePoint) : Bool :=
  ("diouxefgcrsaDIOUXEFGCRSA%" : Text).contains c

/-- Digits, or a star in their place. -/
def skipAmount (t : Text) : Text :=
  match Text.after? '*' t with
  | some r => r
  | none => (number t).2

/-- Whether a field stands at the beginning of a text. -/
def beginsWithField (t : Text) : Bool :=
  match Text.dropStart? "%(" t with
  | none => false
  | some r =>
    match Text.cutBefore (fun c => !c.isWordCharacter) r with
    | (_ :: _, c :: rest) =>
      let behind := skipAmount (rest.dropWhile isFlag)
      let last :=
        match Text.after? '.' behind with
        | some r => skipAmount r
        | none => behind
      c = ')' && last.head?.any isForm
    | _ => false

/-- Whether a layout has a field. -/
def hasField : Text → Bool
  | [] => false
  | c :: r => beginsWithField (c :: r) || hasField r

/-! ## Showing records -/

/-- A text filled up to the width of a field. -/
def pad (f : Field) (t : Text) : Text :=
  if f.flags.contains (CodePoint.ofChar '-') then t.padRight f.width else t.padLeft f.width

/-- A text with every code point outside ASCII escaped. -/
def asciiOnly (t : Text) : Text :=
  t.flatMap fun c =>
    if c.isAscii then [c]
    else if c.val < 0x100 then "\\x" ++ Text.hex 2 c.val
    else if c.val < 0x10000 then "\\u" ++ Text.hex 4 c.val
    else "\\U" ++ Text.hex 8 c.val

/-- A text as a field shows it. -/
def shown (f : Field) (t : Text) : Text :=
  pad f (match f.precision with | some n => t.take n | none => t)

/-- The sign before a number. -/
def sign (f : Field) (negative : Bool) : Text :=
  if negative then "-"
  else if f.flags.contains (CodePoint.ofChar '+') then "+"
  else if f.flags.contains (CodePoint.ofChar ' ') then " "
  else []

/-- The digits of a number with their sign. -/
def numeral (f : Field) (negative : Bool) (digits : Text) : Text :=
  let sign := sign f negative
  let digits := Text.zeroPad (f.precision.getD 1) digits
  if f.flags.contains (CodePoint.ofChar '0') && !f.flags.contains (CodePoint.ofChar '-') then
    sign ++ Text.zeroPad (f.width - sign.length) digits
  else pad f (sign ++ digits)

/-- The integer a value is taken for. -/
def integer? : Json → Option Int
  | .int n => some n
  | .bool b => some (if b then 1 else 0)
  | .float x => x.toInt?
  | _ => none

/-- A value in the form of its field. -/
def formatted (f : Field) (v : Json) : Except Failure Text :=
  if f.form = 's' then .ok (shown f v.display)
  else if f.form = 'r' then .ok (shown f v.displayQuoted)
  else if f.form = 'a' then .ok (shown f (asciiOnly v.displayQuoted))
  else if f.form = 'd' || f.form = 'i' || f.form = 'u' then
    match integer? v with
    | some n => .ok (numeral f (n < 0) (Text.ofNat n.natAbs))
    | none => .error (.defect .wrongKind)
  else if f.form = 'x' then
    match integer? v with
    | some n => .ok (numeral f (n < 0) (Text.hex 1 n.natAbs))
    | none => .error (.defect .wrongKind)
  else if ("oXeEfFgGc*" : Text).contains f.form then .error (.defect .wrongKind)
  else .error (.badValue (.unknownLogForm f.form f.position))

/-- One piece of a layout for a record. -/
def piece (fields : Members) : Piece → Except Failure Text
  | .literal c => .ok [c]
  | .broken why => .error (.badValue why)
  | .field f =>
    match f.name with
    | none => .error (.defect .wrongKind)
    | some name =>
      match Members.get? name fields with
      | some v => formatted f v
      | none => .error (.badValue (.noLogField name))

/-- The layout in place of an empty one. -/
def plain : Text := "%(message)s"

/-- A record in a layout. -/
def format (layout : Text) (r : LogRecord) : Except Failure Text := do
  let layout := layout.ifEmpty plain
  if !hasField layout then throw (.badValue (.badLogLayout layout))
  let texts ← (pieces layout).mapM (piece r.fields)
  return texts.flatten

end LogLayout

end Tablewright
