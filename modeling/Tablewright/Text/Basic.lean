/-
Text as the program sees it: a list of code points, surrogates included.

A request or a tool argument may carry a lone surrogate (a JSON escape can write one), so the
character type of core, which leaves surrogates out, is too small. A `CodePoint` is any number
below `0x110000`; what can be stored in a file is decided where text is encoded, not here.
-/
set_option autoImplicit false

namespace Tablewright

/-! ## Code points -/

/-- A Unicode code point, surrogates included. -/
structure CodePoint where
  /-- The number of the code point. -/
  val : Nat
  /-- Code points end at `0x10FFFF`. -/
  val_lt : val < 0x110000
deriving DecidableEq

namespace CodePoint

/-- Every character of core is a code point. -/
theorem char_lt (c : Char) : c.toNat < 0x110000 := by
  have h := c.valid
  unfold Char.toNat
  rcases h with h | ⟨_, h⟩ <;> omega

/-- The code point of a character. -/
def ofChar (c : Char) : CodePoint := ⟨c.toNat, char_lt c⟩

instance : Coe Char CodePoint := ⟨ofChar⟩

instance : Inhabited CodePoint := ⟨ofChar ' '⟩

/-- The code point with a given number; numbers beyond the last one give the replacement
character. -/
def ofNat (n : Nat) : CodePoint :=
  if h : n < 0x110000 then ⟨n, h⟩ else ofChar '\uFFFD'

/-- Surrogates are the code points that have no encoding of their own. -/
def isSurrogate (c : CodePoint) : Bool := 0xD800 ≤ c.val && c.val < 0xE000

/-- Whether a code point lies in a closed range of characters. -/
def between (lo hi : Char) (c : CodePoint) : Bool := lo.toNat ≤ c.val && c.val ≤ hi.toNat

/-- Code points below 128. -/
def isAscii (c : CodePoint) : Bool := c.val < 128

/-- The letters `a` to `z`. -/
def isAsciiLower (c : CodePoint) : Bool := c.between 'a' 'z'

/-- The letters `A` to `Z`. -/
def isAsciiUpper (c : CodePoint) : Bool := c.between 'A' 'Z'

/-- The digits `0` to `9`. -/
def isAsciiDigit (c : CodePoint) : Bool := c.between '0' '9'

/-- The letters and digits names are made of: `a` to `z` and `0` to `9`. -/
def isNameLetter (c : CodePoint) : Bool := c.isAsciiLower || c.isAsciiDigit

/-- The capital of an ASCII letter; every other code point is its own capital. -/
def capital (c : CodePoint) : CodePoint :=
  if c.isAsciiLower then ofNat (c.val - 32) else c

/-- The value of a hexadecimal digit. -/
def hexValue? (c : CodePoint) : Option Nat :=
  if c.isAsciiDigit then some (c.val - '0'.toNat)
  else if c.between 'a' 'f' then some (c.val - 'a'.toNat + 10)
  else if c.between 'A' 'F' then some (c.val - 'A'.toNat + 10)
  else none

end CodePoint

/-! ## Ranges

Sets of code points are given as closed ranges of numbers, the form in which the standard lists a
property. A table is searched only for code points outside ASCII, which each property decides by a
rule of its own. -/

/-- Closed ranges of numbers, in increasing order. -/
abbrev Ranges := List (Nat × Nat)

/-- Whether a number lies in one of the ranges. -/
def Ranges.contains (ranges : Ranges) (n : Nat) : Bool :=
  ranges.any fun r => r.1 ≤ n && n ≤ r.2

/-! ## Text -/

/-- Text is a list of code points. -/
abbrev Text := List CodePoint

namespace Text

/-- The text of a string of core. -/
def ofString (s : String) : Text := s.toList.map CodePoint.ofChar

instance : Coe String Text := ⟨ofString⟩

/-- One code point as text. -/
def singleton (c : CodePoint) : Text := [c]

/-- Whether text is present and not empty, as an optional setting has to be to count. -/
def isGiven : Option Text → Bool
  | some t => !t.isEmpty
  | none => false

/-- The text of an option, empty when there is none. -/
def orEmpty : Option Text → Text
  | some t => t
  | none => []

/-- A text, or another one in place of an empty text. -/
def ifEmpty (t other : Text) : Text := if t.isEmpty then other else t

/-- Lexicographic order by code point: the order in which every listing is printed. -/
def le : Text → Text → Bool
  | [], _ => true
  | _ :: _, [] => false
  | a :: s, b :: t => if a.val < b.val then true else if b.val < a.val then false else le s t

/-- The elements of a list of texts in increasing order, equal ones in their given order. -/
def sort (ts : List Text) : List Text := ts.mergeSort le

/-- Texts one after another with `sep` between neighbours. -/
def join (sep : Text) : List Text → Text
  | [] => []
  | [t] => t
  | t :: u :: r => t ++ sep ++ join sep (u :: r)

/-- Lines joined by line feeds. -/
def unlines (lines : List Text) : Text := join "\n" lines

/-- What remains of a text after a given beginning, if it begins so. -/
def dropStart? : Text → Text → Option Text
  | [], t => some t
  | _ :: _, [] => none
  | a :: s, b :: t => if a = b then dropStart? s t else none

/-- Whether a text begins with another. -/
def startsWith (t start : Text) : Bool := (dropStart? start t).isSome

/-- Whether a text ends with another. -/
def endsWith (t tail : Text) : Bool := (dropStart? tail.reverse t.reverse).isSome

/-- A text with every occurrence of one code point replaced by another. -/
def substitute (old new : CodePoint) (t : Text) : Text := t.map fun c => if c = old then new else c

/-- `n` copies of a code point. -/
def replicate (n : Nat) (c : CodePoint) : Text := List.replicate n c

/-- `n` blanks. -/
def spaces (n : Nat) : Text := replicate n ' '

/-- A text filled with blanks on the right up to a width. -/
def padRight (width : Nat) (t : Text) : Text := t ++ spaces (width - t.length)

/-- A text filled with blanks on the left up to a width. -/
def padLeft (width : Nat) (t : Text) : Text := spaces (width - t.length) ++ t

/-- A text in the middle of a width. An odd number of blanks has one more on the right, unless the
width is odd too; then one more on the left. -/
def center (width : Nat) (t : Text) : Text :=
  let blanks := width - t.length
  let left := blanks / 2 + (if blanks % 2 = 1 && width % 2 = 1 then 1 else 0)
  spaces left ++ t ++ spaces (blanks - left)

/-- Strip from both ends the code points that satisfy a test. -/
def stripWhere (p : CodePoint → Bool) (t : Text) : Text :=
  ((t.dropWhile p).reverse.dropWhile p).reverse

/-- The first code point made a capital, if it is an ASCII letter. -/
def capitalize : Text → Text
  | [] => []
  | c :: r => c.capital :: r

/-- A text as a string of core, for printing; surrogates become the replacement character. -/
def toDisplayString (t : Text) : String :=
  String.ofList (t.map fun c => if h : c.val.isValidChar then Char.ofNatAux c.val h else '\uFFFD')

end Text

end Tablewright
