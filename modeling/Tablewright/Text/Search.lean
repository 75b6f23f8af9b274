/-
Finding one text inside another: whether it occurs, how often without overlaps, where it occurs
first, and what comes of a text when it is replaced.
-/
import Tablewright.Text.Basic

set_option autoImplicit false

namespace Tablewright.Text

/-- Whether `needle` occurs in a text. -/
def includes : Text → Text → Bool
  | [], needle => needle.isEmpty
  | c :: r, needle => startsWith (c :: r) needle || includes r needle

/-- The occurrences of `needle` that do not overlap, read from the left. The first argument
counts the code points of the last occurrence still to be passed. -/
def countAux (needle : Text) : Nat → Text → Nat
  | _, [] => 0
  | k + 1, _ :: r => countAux needle k r
  | 0, c :: r =>
    if startsWith (c :: r) needle then countAux needle (needle.length - 1) r + 1
    else countAux needle 0 r

/-- How often a non-empty `needle` occurs in a text, occurrences taken from the left and none
overlapping the one before. -/
def count (t needle : Text) : Nat := countAux needle 0 t

/-- What stands before and after the first occurrence of `needle`. -/
def cutAtFirst? (needle : Text) : Text → Option (Text × Text)
  | [] => if needle.isEmpty then some ([], []) else none
  | c :: r =>
    match dropStart? needle (c :: r) with
    | some rest => some ([], rest)
    | none => (cutAtFirst? needle r).map fun parts => (c :: parts.1, parts.2)

/-- A text with the first occurrence of `needle` replaced; without an occurrence, the text. -/
def replaceFirst (t needle replacement : Text) : Text :=
  match cutAtFirst? needle t with
  | some (before, after) => before ++ replacement ++ after
  | none => t

/-- A text with words replaced in one pass from the left: where one of them stands its value is put,
and reading goes on behind the word. The first argument counts the code points of the last word
still to be passed. -/
def replaceAux (values : List (Text × Text)) : Nat → Text → Text
  | _, [] => []
  | k + 1, _ :: r => replaceAux values k r
  | 0, c :: r =>
    match values.find? fun v => startsWith (c :: r) v.1 with
    | some v => v.2 ++ replaceAux values (v.1.length - 1) r
    | none => c :: replaceAux values 0 r

/-- A text with non-empty words replaced by their values, all of them at once. -/
def replaceTogether (t : Text) (values : List (Text × Text)) : Text := replaceAux values 0 t

/-- A text with every occurrence of a non-empty `needle` replaced, occurrences taken from the left
and none overlapping the one before. -/
def replaceAll (t needle replacement : Text) : Text := t.replaceTogether [(needle, replacement)]

/-- A text cut before the first code point that satisfies `ends`. -/
def cutBefore (ends : CodePoint → Bool) (t : Text) : Text × Text :=
  (t.takeWhile fun c => !ends c, t.dropWhile fun c => !ends c)

/-- A text cut at the last of the code points that equal `mark`, which is left out. -/
def cutAtLast? (mark : CodePoint) (t : Text) : Option (Text × Text) :=
  match cutBefore (fun c => c = mark) t.reverse with
  | (tail, _ :: start) => some (start.reverse, tail.reverse)
  | (_, []) => none

/-- What comes after a code point, if a text begins with it. -/
def after? (mark : CodePoint) : Text → Option Text
  | [] => none
  | c :: r => if c = mark then some r else none

/-- The pieces between the occurrences of one code point, empty pieces kept. -/
def splitOn (sep : CodePoint) : Text → List Text
  | [] => [[]]
  | c :: r =>
    if c = sep then [] :: splitOn sep r
    else
      match splitOn sep r with
      | [] => [[c]]
      | p :: ps => (c :: p) :: ps

end Tablewright.Text
