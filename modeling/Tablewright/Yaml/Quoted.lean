/-
Scalars in quotes.

Between single quotes a doubled quote is one quote. Between double quotes a backslash escapes a
code point, a number, or a line end, which is then dropped with the indentation behind it.
-/
import Tablewright.Failure.Basic
import Tablewright.Yaml.Cursor

set_option autoImplicit false

namespace Tablewright

namespace Yaml

/-- What a code point behind a backslash stands for. -/
def escape? (c : CodePoint) : Option CodePoint :=
  match c.val with
  | 0x30 => some (CodePoint.ofNat 0)
  | 0x61 => some (CodePoint.ofNat 7)
  | 0x62 => some (CodePoint.ofNat 8)
  | 0x74 | 0x9 => some '\t'
  | 0x6E => some '\n'
  | 0x76 => some (CodePoint.ofNat 0xB)
  | 0x66 => some (CodePoint.ofNat 0xC)
  | 0x72 => some '\r'
  | 0x65 => some (CodePoint.ofNat 0x1B)
  | 0x20 | 0x22 | 0x2F | 0x5C => some c
  | 0x4E => some (CodePoint.ofNat 0x85)
  | 0x5F => some (CodePoint.ofNat 0xA0)
  | 0x4C => some (CodePoint.ofNat 0x2028)
  | 0x50 => some (CodePoint.ofNat 0x2029)
  | _ => none

/-- How many hexadecimal digits follow a code point behind a backslash. -/
def escapeDigits? (c : CodePoint) : Option Nat :=
  if c = 'x' then some 2 else if c = 'u' then some 4 else if c = 'U' then some 8 else none

/-- The number that hexadecimal digits write. -/
def hexNumber? (t : Text) : Option Nat :=
  t.foldl (fun acc c => acc.bind fun n => c.hexValue?.map fun d => n * 16 + d) (some 0)

/-- The code point that a number of digits at the beginning of a text write, and what comes behind
them. -/
def numberEscape (digits : Nat) (t : Text) : Except TableFault (CodePoint × Text) :=
  if t.length < digits then .error .badToken
  else
    match hexNumber? (t.take digits) with
    | none => .error .badToken
    | some n =>
      if h : n < 0x110000 then .ok (⟨n, h⟩, t.drop digits) else .error (.noCodePoint n)

/-- The text up to the closing quote, and what comes behind that quote. The number is a bound on
the length. -/
def quotedFrom (isDouble : Bool) : Nat → Text → Except TableFault (Text × Text)
  | 0, _ => .error .badToken
  | _ + 1, [] => .error .badToken
  | bound + 1, c :: r =>
    if isDouble && c = '"' then .ok ([], r)
    else if !isDouble && c = '\'' then
      match Text.after? '\'' r with
      | some s => do
        let (more, rest) ← quotedFrom isDouble bound s
        return (c :: more, rest)
      | none => .ok ([], r)
    else if isDouble && c = '\\' then
      match r with
      | [] => .error .badToken
      | d :: s =>
        match escapeDigits? d, escape? d with
        | some digits, _ => do
          let (e, s) ← numberEscape digits s
          let (more, rest) ← quotedFrom isDouble bound s
          return (e :: more, rest)
        | none, some e => do
          let (more, rest) ← quotedFrom isDouble bound s
          return (e :: more, rest)
        | none, none =>
          let g := gapOf isBlank (d :: s)
          if !isBreak d || g.hitsMark then .error .badToken
          else do
            let (more, rest) ← quotedFrom isDouble bound ((d :: s).drop g.length)
            return (g.breaks.drop 1 ++ more, rest)
    else if isGap (c :: r) then
      let blanks := (c :: r).takeWhile isBlank
      let behind := (c :: r).dropWhile isBlank
      let g := gapOf isBlank behind
      if g.hitsMark then .error .badToken
      else if g.breaks.isEmpty then do
        let (more, rest) ← quotedFrom isDouble bound behind
        return (blanks ++ more, rest)
      else do
        let (more, rest) ← quotedFrom isDouble bound (behind.drop g.length)
        return (folded g.breaks ++ more, rest)
    else do
      let (more, rest) ← quotedFrom isDouble bound r
      return (c :: more, rest)

/-- A scalar in quotes, from its opening quote. -/
def quoted (isDouble : Bool) (cur : Cursor) : Except TableFault ScalarText := do
  let (text, rest) ← quotedFrom isDouble (cur.rest.length + 1) (cur.rest.drop 1)
  return ⟨text, cur.before rest⟩

end Yaml

end Tablewright
