/-
Files of settings: one `NAME=value` on a line, with quotes, comments and references.

A value may stand in single or double quotes, and may then run over several lines; without quotes
it ends at a blank and a number sign. A line that is none of this is passed over. A value may
refer to another setting as `${NAME}` or `${NAME:-default}`.
-/
import Tablewright.Text.Blank
import Tablewright.Text.Search

set_option autoImplicit false

namespace Tablewright

namespace EnvFile

/-! ## One line -/

/-- Blanks that do not end a line. -/
def isGap (c : CodePoint) : Bool := c.isBlank && c ≠ '\n' && c ≠ '\r'

/-- Code points that end a line. -/
def isLineEnd (c : CodePoint) : Bool := c = '\n' || c = '\r'

/-- What follows a word of export, if one stands here with a gap behind it. -/
def skipExport (t : Text) : Text :=
  match Text.dropStart? "export" t with
  | some (c :: r) => if isGap c then r.dropWhile isGap else t
  | _ => t

/-- A name without quotes. -/
def plainName? (t : Text) : Option (Text × Text) :=
  match Text.cutBefore (fun c => c = '=' || c = '#' || c.isBlank) t with
  | ([], _) => none
  | found => some found

/-- A name in single quotes, behind the first of them. -/
def quotedName? (t : Text) : Option (Text × Text) :=
  match Text.cutBefore (fun c => c = '\'') t with
  | (c :: name, _ :: rest) => some (c :: name, rest)
  | _ => none

/-- A name; none before a comment. The outer option tells whether the line can be read. -/
def name? (t : Text) : Option (Option Text × Text) :=
  match t with
  | c :: r =>
    if c = '#' then some (none, t)
    else if c = '\'' then (quotedName? r).map fun p => (some p.1, p.2)
    else (plainName? t).map fun p => (some p.1, p.2)
  | [] => none

/-- What stands in quotes, behind the first of them, still escaped. An escaped quote closes the
value only where no other quote does. -/
def quotedBody? (quote : CodePoint) : Text → Option (Text × Text)
  | [] => none
  | c :: r =>
    if c = quote then some ([], r)
    else if c = '\\' then
      match r with
      | d :: s =>
        if d = quote then
          match quotedBody? quote s with
          | some (body, rest) => some (c :: d :: body, rest)
          | none => some ([c], s)
        else (quotedBody? quote (d :: s)).map fun p => (c :: p.1, p.2)
      | [] => none
    else (quotedBody? quote r).map fun p => (c :: p.1, p.2)

/-- What a backslash and a code point stand for in double quotes. -/
def doubleEscape? (c : CodePoint) : Option CodePoint :=
  if c = '\\' || c = '\'' || c = '"' then some c
  else if c = 'a' then some (CodePoint.ofNat 7)
  else if c = 'b' then some (CodePoint.ofNat 8)
  else if c = 'f' then some (CodePoint.ofNat 12)
  else if c = 'n' then some '\n'
  else if c = 'r' then some '\r'
  else if c = 't' then some '\t'
  else if c = 'v' then some (CodePoint.ofNat 11)
  else none

/-- What a backslash and a code point stand for in single quotes. -/
def singleEscape? (c : CodePoint) : Option CodePoint :=
  if c = '\\' || c = '\'' then some c else none

/-- A text with its escapes replaced; a backslash before anything else stays. -/
def unescape (meaning : CodePoint → Option CodePoint) : Text → Text
  | [] => []
  | [c] => [c]
  | c :: d :: r =>
    if c = '\\' then
      match meaning d with
      | some e => e :: unescape meaning r
      | none => c :: unescape meaning (d :: r)
    else c :: unescape meaning (d :: r)

/-- What stands before a comment, which begins at a blank before a number sign. -/
def beforeComment : Text → Text
  | [] => []
  | c :: r =>
    if c.isBlank && (r.dropWhile CodePoint.isBlank).head? = some (CodePoint.ofChar '#') then []
    else c :: beforeComment r

/-- A text without the blanks at its end. -/
def trimEnd (t : Text) : Text := (t.reverse.dropWhile CodePoint.isBlank).reverse

/-- A value, and what comes after it. -/
def value? (t : Text) : Option (Text × Text) :=
  match t with
  | [] => some ([], [])
  | c :: r =>
    if c = '\'' then (quotedBody? c r).map fun p => (unescape singleEscape? p.1, p.2)
    else if c = '"' then (quotedBody? c r).map fun p => (unescape doubleEscape? p.1, p.2)
    else
      let (part, rest) := Text.cutBefore isLineEnd t
      some (trimEnd (beforeComment part), rest)

/-- What follows a comment, if one stands here. -/
def skipComment (t : Text) : Text :=
  let rest := t.dropWhile isGap
  match rest with
  | c :: r => if c = '#' then r.dropWhile fun d => !isLineEnd d else t
  | [] => t

/-- What follows the end of a line, if nothing else stands here. -/
def lineEnd? (t : Text) : Option Text :=
  match t.dropWhile isGap with
  | [] => some []
  | c :: r =>
    if c = '\n' then some r
    else if c = '\r' then some (match r with | d :: s => if d = '\n' then s else r | [] => r)
    else none

/-- A name and its value, if it has one. -/
abbrev Binding := Text × Option Text

/-- A found part, or the place where the line can no longer be read. -/
def orStopAt {α : Type} (place : Text) : Option α → Except Text α
  | some found => .ok found
  | none => .error place

/-- The value behind a name, if it has one. -/
def assigned (t : Text) : Except Text (Option Text × Text) :=
  match Text.after? '=' t with
  | none => .ok (none, t)
  | some r =>
    let place := r.dropWhile isGap
    orStopAt place ((value? place).map fun p => (some p.1, p.2))

/-- The binding on a line, if there is one, and what comes after the line; or the place where the
line can no longer be read. -/
def binding (t : Text) : Except Text (Option Binding × Text) := do
  let start := skipExport t
  let (name, rest) ← orStopAt start (name? start)
  let (value, rest) ← assigned (rest.dropWhile isGap)
  let place := skipComment rest
  let rest ← orStopAt place (lineEnd? place)
  return (name.map fun n => (n, value), rest)

/-- What comes after the line a place lies on. -/
def skipLine (t : Text) : Text :=
  match t.dropWhile fun c => !isLineEnd c with
  | _ :: r => r
  | [] => []

/-! ## The whole file -/

/-- The bindings of a text. The first argument is a bound on the number of lines. -/
def bindingsFrom : Nat → Text → List Binding
  | 0, _ => []
  | fuel + 1, t =>
    match t.dropWhile CodePoint.isBlank with
    | [] => []
    | c :: r =>
      match binding (c :: r) with
      | .ok (some b, rest) => b :: bindingsFrom fuel rest
      | .ok (none, rest) => bindingsFrom fuel rest
      | .error place => bindingsFrom fuel (skipLine place)

/-- The bindings of a file in their order. -/
def bindings (t : Text) : List Binding :=
  let t := t.foldNewlines
  bindingsFrom (t.length + 1) t

/-! ## References -/

/-- A reference at the beginning of a text, behind its `${`: the name, the default, and what comes
after it. -/
def reference? (t : Text) : Option (Text × Text × Text) :=
  match Text.cutBefore (fun c => c = '\x7d' || c = ':') t with
  | (name, c :: r) =>
    if c = '\x7d' then some (name, [], r)
    else
      match r with
      | d :: s =>
        if d = '-' then
          match Text.cutBefore (fun e => e = '\x7d') s with
          | (default, _ :: rest) => some (name, default, rest)
          | (_, []) => none
        else none
      | [] => none
  | (_, []) => none

/-- A value with its references replaced. A name without a value stands for nothing, an unknown
name for the default. The first argument is a bound on the length. -/
def expandFrom (known : Text → Option (Option Text)) : Nat → Text → Text
  | 0, t => t
  | _ + 1, [] => []
  | fuel + 1, c :: r =>
    match (Text.dropStart? "$\x7b" (c :: r)).bind reference? with
    | some (name, default, rest) =>
      let value := (known name).getD (some default)
      Text.orEmpty value ++ expandFrom known fuel rest
    | none => c :: expandFrom known fuel r

/-- A value with its references replaced. -/
def expand (known : Text → Option (Option Text)) (t : Text) : Text :=
  expandFrom known (t.length + 1) t

/-- A binding written over the one of its name, or added. -/
def bind : List Binding → Binding → List Binding
  | [], b => [b]
  | (k, v) :: r, b => if k = b.1 then (k, b.2) :: r else (k, v) :: bind r b

/-- The value of a name in a list of bindings. -/
def lookup (name : Text) : List Binding → Option (Option Text)
  | [] => none
  | (k, v) :: r => if k = name then some v else lookup name r

/-- The settings of a file, their references replaced. A reference is looked up among the settings
before it first, then in the environment. -/
def settings (environment : List (Text × Text)) (t : Text) : List Binding :=
  (bindings t).foldl (fun done b =>
    let known (name : Text) : Option (Option Text) :=
      match lookup name done with
      | some v => some v
      | none => lookup name (environment.map fun e => (e.1, some e.2))
    bind done (b.1, b.2.map (expand known))) []

end EnvFile

end Tablewright
