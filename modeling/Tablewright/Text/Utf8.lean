/-
UTF-8: the bytes of a text and the text of bytes.

A lone surrogate has no encoding. Reading accepts exactly the encodings: a sequence that is too
long for its code point, that stands for a surrogate or that goes beyond the last code point is
refused.

Names of files go the same way with one exception: a byte that is part of no encoding is read as a
surrogate of its own, and such a surrogate is written as its byte. So a name can be written in several
ways, and the system keeps it in one of them (`Text.stored`).
-/
import Tablewright.Text.Basic

set_option autoImplicit false

namespace Tablewright

/-- A file's content. -/
abbrev Bytes := List UInt8

/-- The continuation byte that carries the lowest six bits of a number. -/
def continuation (n : Nat) : UInt8 := UInt8.ofNat (0x80 + n % 0x40)

/-- The encoding of one code point. -/
def CodePoint.utf8? (c : CodePoint) : Option Bytes :=
  let n := c.val
  if n < 0x80 then some [UInt8.ofNat n]
  else if n < 0x800 then some [UInt8.ofNat (0xC0 + n / 0x40), continuation n]
  else if c.isSurrogate then none
  else if n < 0x10000 then
    some [UInt8.ofNat (0xE0 + n / 0x1000), continuation (n / 0x40), continuation n]
  else
    some [UInt8.ofNat (0xF0 + n / 0x40000), continuation (n / 0x1000), continuation (n / 0x40),
      continuation n]

namespace Text

/-- The encoding of a text; none when it holds a surrogate. -/
def utf8? : Text → Option Bytes
  | [] => some []
  | c :: r =>
    match c.utf8?, utf8? r with
    | some b, some bs => some (b ++ bs)
    | _, _ => none

/-- Whether a text has an encoding, told without building it: what is printed, stored in a database
or checked against a contract is refused for its lone surrogates alone. -/
def isEncodable (t : Text) : Bool := t.all fun c => !c.isSurrogate

end Text

/-! ## Bytes the system is given -/

/-- Surrogates that stand for single bytes: a byte of a name that is no text is read as one. -/
def CodePoint.isByteSurrogate (c : CodePoint) : Bool := 0xDC80 ≤ c.val && c.val < 0xDD00

/-- Whether a code point has bytes in what the system is given, that is in paths and in the words of
commands: all have but the surrogates that stand for no byte. -/
def CodePoint.hasSystemBytes (c : CodePoint) : Bool := !c.isSurrogate || c.isByteSurrogate

/-- The bytes of a code point in what the system is given. -/
def CodePoint.systemBytes? (c : CodePoint) : Option Bytes :=
  if c.isByteSurrogate then some [UInt8.ofNat (c.val - 0xDC00)] else c.utf8?

/-- The bytes the system is given for a text; none when some code point has none. -/
def Text.systemBytes? : Text → Option Bytes
  | [] => some []
  | c :: r =>
    match c.systemBytes?, systemBytes? r with
    | some b, some bs => some (b ++ bs)
    | _, _ => none

/-! ## Reading -/

/-- The six bits a continuation byte carries. -/
def continuationBits? (b : UInt8) : Option Nat :=
  if 0x80 ≤ b.toNat && b.toNat < 0xC0 then some (b.toNat - 0x80) else none

namespace Bytes

/-- The text that bytes encode; none when they encode no text. -/
def text? : Bytes → Option Text
  | [] => some []
  | b :: r =>
    let n := b.toNat
    if n < 0x80 then (text? r).map (CodePoint.ofNat n :: ·)
    else if n < 0xC2 then none
    else if n < 0xE0 then
      match r with
      | b₁ :: s => do
        let x ← continuationBits? b₁
        let rest ← text? s
        return CodePoint.ofNat ((n - 0xC0) * 0x40 + x) :: rest
      | [] => none
    else if n < 0xF0 then
      match r with
      | b₁ :: b₂ :: s => do
        let x ← continuationBits? b₁
        let y ← continuationBits? b₂
        let c := CodePoint.ofNat ((n - 0xE0) * 0x1000 + x * 0x40 + y)
        if c.val < 0x800 || c.isSurrogate then none
        let rest ← text? s
        return c :: rest
      | _ => none
    else if n < 0xF5 then
      match r with
      | b₁ :: b₂ :: b₃ :: s => do
        let x ← continuationBits? b₁
        let y ← continuationBits? b₂
        let z ← continuationBits? b₃
        let m := (n - 0xF0) * 0x40000 + x * 0x1000 + y * 0x40 + z
        if m < 0x10000 || 0x10FFFF < m then none
        let rest ← text? s
        return CodePoint.ofNat m :: rest
      | _ => none
    else none

/-! ## Names as the system keeps them -/

/-- The code point whose encoding stands first. -/
def first? (b : Bytes) : Option CodePoint :=
  [1, 2, 3, 4].findSome? fun n =>
    match text? (b.take n) with
    | some [c] => some c
    | _ => none

/-- The text of bytes behind some that are passed over. -/
def systemTextFrom : Nat → Bytes → Text
  | _, [] => []
  | skipped + 1, _ :: r => systemTextFrom skipped r
  | 0, b :: r =>
    match first? (b :: r) with
    | some c => c :: systemTextFrom ((c.utf8?.getD []).length - 1) r
    | none => CodePoint.ofNat (0xDC00 + b.toNat) :: systemTextFrom 0 r

/-- The text as which the system gives back bytes: a byte that is part of no encoding is a
surrogate. -/
def systemText (b : Bytes) : Text := systemTextFrom 0 b

end Bytes

/-- A text as the system gives it back once it was given it. Only surrogates that stand for bytes can
come back as something else, where the bytes of some of them make up an encoding. -/
def Text.stored (t : Text) : Text :=
  if t.any CodePoint.isByteSurrogate then
    match t.systemBytes? with
    | some b => b.systemText
    | none => t
  else t

end Tablewright
