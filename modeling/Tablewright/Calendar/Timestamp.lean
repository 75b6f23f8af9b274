/-
Which texts are timestamps: a date, and after one separating code point of any kind a time of day
with an optional offset from universal time.

Dates are written by month and day or by week and weekday, with hyphens or without. Times have
two digits to a unit, with colons or without, and a fraction of the last unit of any length. A
null code point ends the text for most purposes; it is what a reader meets past the end.
-/
import Tablewright.Text.Basic

set_option autoImplicit false

namespace Tablewright.Timestamp

/-! ## The calendar -/

/-- Whether a year has a leap day. -/
def isLeap (year : Nat) : Bool := year % 4 = 0 && (year % 100 ≠ 0 || year % 400 = 0)

/-- How many days a month has. -/
def daysInMonth (year month : Nat) : Nat :=
  if month = 2 then (if isLeap year then 29 else 28)
  else if month = 4 || month = 6 || month = 9 || month = 11 then 30
  else 31

/-- The days before the first of January, counted from the year 1. -/
def daysBeforeYear (year : Nat) : Nat :=
  let y := year - 1
  y * 365 + y / 4 - y / 100 + y / 400

/-- The weekday of the first of January; Monday is 0. -/
def firstWeekday (year : Nat) : Nat := daysBeforeYear year % 7

/-- A calendar date exists: the year has at most four digits and is not zero. -/
def isDate (year month day : Nat) : Bool :=
  1 ≤ year && year ≤ 9999 && 1 ≤ month && month ≤ 12 && 1 ≤ day && day ≤ daysInMonth year month

/-- A year has a week 53 when it begins on a Thursday, or on a Wednesday before a leap day. -/
def hasLongYear (year : Nat) : Bool :=
  firstWeekday year = 3 || (firstWeekday year = 2 && isLeap year)

/-- The number of days from the first of January of the year 1 to the Monday of a year's first
week, the week with the first Thursday. -/
def firstMonday (year : Nat) : Int :=
  let monday : Int := daysBeforeYear year - firstWeekday year
  if 3 < firstWeekday year then monday + 7 else monday

/-- A date by week and weekday exists and lies in the years 1 to 9999. -/
def isWeekDate (year week day : Nat) : Bool :=
  let ordinal : Int := firstMonday year + (((week : Int) - 1) * 7 + day - 1)
  1 ≤ year && year ≤ 9999 && 1 ≤ week && (week ≤ 52 || (week = 53 && hasLongYear year))
    && 1 ≤ day && day ≤ 7 && 0 ≤ ordinal && ordinal < daysBeforeYear 10000

/-! ## Digits -/

/-- What is met past the end of a text. -/
def terminator : CodePoint := CodePoint.ofNat 0

/-- The code point at a position, or the terminator past the end. -/
def codeAt (t : Text) (i : Nat) : CodePoint := t.getD i terminator

/-- A number of exactly `n` digits at the beginning of a text, and what follows it. -/
def digits? (n : Nat) (t : Text) : Option (Nat × Text) :=
  let d := t.take n
  if d.length = n && d.all CodePoint.isAsciiDigit then
    some (d.foldl (fun acc c => acc * 10 + (c.val - '0'.toNat)) 0, t.drop n)
  else none

/-! ## Dates -/

/-- Where the code point between date and time stands, told from the forms a date can have. After
a week without a weekday a hyphen separates the time, unless a weekday can be meant. -/
def separatorPosition (t : Text) : Nat :=
  let n := t.length
  if n = 7 then 7
  else if codeAt t 4 = '-' then
    if codeAt t 5 = 'W' then
      if 8 < n && codeAt t 8 = '-' then
        if 10 < n && (codeAt t 10).isAsciiDigit then 8 else 10
      else 8
    else 10
  else if codeAt t 4 = 'W' then
    let p := 7 + ((t.drop 7).takeWhile CodePoint.isAsciiDigit).length
    if p < 9 then p else if p % 2 = 0 then 7 else 8
  else 8

/-- Whether a text is a date. -/
def isDateText (t : Text) : Bool :=
  match digits? 4 t with
  | none => false
  | some (year, r) =>
    let hyphens := codeAt r 0 = '-'
    let r := if hyphens then r.drop 1 else r
    if codeAt r 0 = 'W' then
      match digits? 2 (r.drop 1) with
      | none => false
      | some (week, r) =>
        if r.isEmpty then isWeekDate year week 1
        else if hyphens && codeAt r 0 ≠ '-' then false
        else
          match digits? 1 (if hyphens then r.drop 1 else r) with
          | some (day, _) => isWeekDate year week day
          | none => false
    else
      match digits? 2 r with
      | none => false
      | some (month, r) =>
        if hyphens && codeAt r 0 ≠ '-' then false
        else
          match digits? 2 (if hyphens then r.drop 1 else r) with
          | some (day, []) => isDate year month day
          | _ => false

/-! ## Times of day -/

/-- A time as its digits say, and whether something that is no part of it follows. -/
structure Clock where
  /-- Hours. -/
  hour : Nat
  /-- Minutes. -/
  minute : Nat
  /-- Seconds. -/
  second : Nat
  /-- Something follows that is no part of the time. -/
  hasRest : Bool

/-- Whether a text is a fraction, and if so, whether something follows it. Up to six digits
count; the digits after them are passed over. -/
def fraction? (t : Text) (follow : CodePoint) : Option Bool :=
  match digits? (min 6 t.length) t with
  | some (_, r) =>
    match r.dropWhile CodePoint.isAsciiDigit with
    | c :: _ => some (c ≠ terminator)
    | [] => some (follow ≠ terminator)
  | none => none

/-- The units after those read so far, `count` of them at most, then the fraction. `colon` says
whether colons stand between units; it is settled after the first. A single ASCII code point
after a unit is no part of the time, but it does not spoil it before an offset. -/
def units? (colon : Option Bool) (follow : CodePoint) : Nat → Text → Option (List Nat × Bool)
  | 0, t => (fraction? t follow).map fun rest => ([], rest)
  | count + 1, t =>
    match digits? 2 t with
    | none => none
    | some (n, r) =>
      let c := r.headD follow
      let colon := colon.getD (c = ':')
      if r.length ≤ 1 && c.isAscii then some ([n], c ≠ terminator)
      else if colon && c = ':' then
        (units? (some colon) follow count (r.drop 1)).map fun p => (n :: p.1, p.2)
      else if c = '.' || c = ',' then (fraction? (r.drop 1) follow).map fun rest => ([n], rest)
      else if !colon then (units? (some colon) follow count r).map fun p => (n :: p.1, p.2)
      else none

/-- A time at the beginning of a text that `follow` comes after. -/
def clock? (t : Text) (follow : CodePoint) : Option Clock :=
  (units? none follow 3 t).map fun p => ⟨p.1.getD 0 0, p.1.getD 1 0, p.1.getD 2 0, p.2⟩

/-- A time of day exists. -/
def Clock.isTimeOfDay (c : Clock) : Bool := c.hour < 24 && c.minute < 60 && c.second < 60

/-- An offset stays below a day. -/
def Clock.isOffset (c : Clock) : Bool :=
  !c.hasRest && c.hour * 3600 + c.minute * 60 + c.second < 86400

/-- Whether an offset from universal time begins here. -/
def beginsOffset (c : CodePoint) : Bool := c = '+' || c = '-' || c = 'Z'

/-- Whether a text is a time of day with an optional offset. -/
def isTimeText (t : Text) : Bool :=
  let body := t.takeWhile fun c => !beginsOffset c
  match t.dropWhile fun c => !beginsOffset c with
  | [] =>
    match clock? body terminator with
    | some c => c.isTimeOfDay && !c.hasRest
    | none => false
  | mark :: zone =>
    match clock? body mark with
    | none => false
    | some c =>
      c.isTimeOfDay &&
        if mark = 'Z' then codeAt zone 0 = terminator
        else
          match clock? zone terminator with
          | some offset => offset.isOffset
          | none => false

/-- Whether a text is a timestamp. A surrogate may stand only between date and time. -/
def isTimestamp (t : Text) : Bool :=
  let p := separatorPosition t
  (t.eraseIdx p).all (fun c => !c.isSurrogate) && isDateText (t.take p)
    && (t.length ≤ p || isTimeText (t.drop (p + 1)))

/-- A timestamp as sample rows write it: a final `Z` stands for a zero offset. -/
def isRowTimestamp (t : Text) : Bool :=
  match t.reverse with
  | c :: r => isTimestamp (if c = 'Z' then r.reverse ++ "+00:00" else t)
  | [] => isTimestamp t

end Tablewright.Timestamp
