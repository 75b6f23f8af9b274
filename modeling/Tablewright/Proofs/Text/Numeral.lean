/-
Numerals are read back.

A decimal numeral is made of digits, of which the first is no zero unless it is the only one, and its
digits give the number again. A hexadecimal numeral is filled with zeros up to its width, so in front
of it one digit is split off after the other (`hex_succ`).
-/
import Mathlib.Algebra.Group.Nat.Defs
import Tablewright.Proofs.Text.Literal
import Tablewright.Text.Numeral

set_option autoImplicit false

namespace Tablewright.Text

variable {n : Nat}

/-! ## Decimal numerals -/

theorem isAsciiDigit_of_mem_ofNat {c : CodePoint} (h : c ∈ ofNat n) : c.isAsciiDigit = true := by
  obtain ⟨d, hd, rfl⟩ := List.mem_map.mp h
  have hdigit : d.isDigit = true := Nat.isDigit_of_mem_toDigits (by decide) (by decide) hd
  simp only [Char.isDigit, ge_iff_le, Bool.and_eq_true, decide_eq_true_eq, UInt32.le_iff_toNat_le]
    at hdigit
  rw [CodePoint.isAsciiDigit, CodePoint.between, Bool.and_eq_true, decide_eq_true_eq,
    decide_eq_true_eq]
  exact hdigit

theorem ofNat_ne_nil : ofNat n ≠ [] := by
  rw [ofNat, ne_eq, List.map_eq_nil_iff]
  exact List.length_pos_iff.mp Nat.length_toDigits_pos

/-- A numeral has at most so many digits exactly if the number is small enough. -/
theorem length_ofNat_le_iff {k : Nat} (hk : 0 < k) : (ofNat n).length ≤ k ↔ n < 10 ^ k := by
  rw [ofNat, List.length_map, Nat.length_toDigits_le_iff (by decide) hk]

/-- No numeral begins with a zero but that of zero. -/
theorem head_toDigits_ne_zero (hn : 0 < n) : (Nat.toDigits 10 n).head? ≠ some '0' := by
  induction n using Nat.strongRecOn with
  | ind n ih =>
    by_cases hsmall : n < 10
    · rw [Nat.toDigits_of_lt_base hsmall]
      have hdigits : ∀ d < 10, 0 < d → ([Nat.digitChar d]).head? ≠ some '0' := by decide
      exact hdigits n hsmall hn
    · have hlarge := Nat.le_of_not_lt hsmall
      have hfirst := ih (n / 10) (Nat.div_lt_self hn (by decide)) (Nat.div_pos hlarge (by decide))
      rw [Nat.toDigits_of_base_le (by decide) hlarge]
      -- the last digit does not come first
      cases hdigits : Nat.toDigits 10 (n / 10) with
      | nil => exact absurd hdigits (List.length_pos_iff.mp Nat.length_toDigits_pos)
      | cons d ds =>
        rw [hdigits] at hfirst
        exact hfirst

theorem exists_head_ofNat (hn : 0 < n) : ∃ c r, ofNat n = c :: r ∧ c ≠ '0' := by
  have hhead := head_toDigits_ne_zero hn
  rw [ofNat]
  cases hdigits : Nat.toDigits 10 n with
  | nil => exact absurd hdigits (List.length_pos_iff.mp Nat.length_toDigits_pos)
  | cons d ds =>
    rw [hdigits] at hhead
    exact ⟨d, ds.map CodePoint.ofChar, rfl,
      fun hd => hhead (congrArg some (CodePoint.ofChar_inj.mp hd))⟩

-- by its recursor, as Lean is slow to state the equations of a definition that names a character
theorem natOfDigits_nil (acc : Nat) : natOfDigits acc [] = acc := by
  delta natOfDigits
  rfl

theorem natOfDigits_cons (c : CodePoint) (t : Text) (acc : Nat) :
    natOfDigits acc (c :: t) = natOfDigits (acc * 10 + (c.val - 48)) t := by
  delta natOfDigits
  rfl

theorem natOfDigits_map (ds : List Char) (acc : Nat) :
    natOfDigits acc (ds.map CodePoint.ofChar) = Nat.ofDigitChars 10 ds acc := by
  induction ds generalizing acc with
  | nil => rw [List.map_nil, natOfDigits_nil, Nat.ofDigitChars_nil]
  | cons d ds ih =>
    have hvalue : (CodePoint.ofChar d).val = d.toNat := rfl
    have hzero : '0'.toNat = 48 := rfl
    rw [List.map_cons, natOfDigits_cons, ih, Nat.ofDigitChars_cons, hvalue, hzero, Nat.mul_comm]

/-- The digits of a numeral give the number. -/
theorem natOfDigits_ofNat (n : Nat) : natOfDigits 0 (ofNat n) = n := by
  rw [ofNat, natOfDigits_map, Nat.ofDigitChars_toDigits (by decide) (by decide)]

/-- A numeral ends where no digit follows. -/
theorem span_ofNat {r : Text} (hr : ∀ c ∈ r.head?, c.isAsciiDigit = false) :
    (ofNat n ++ r).takeWhile CodePoint.isAsciiDigit = ofNat n ∧
      (ofNat n ++ r).dropWhile CodePoint.isAsciiDigit = r := by
  have hdigits : ∀ c ∈ ofNat n, c.isAsciiDigit = true := fun c hc => isAsciiDigit_of_mem_ofNat hc
  rw [List.takeWhile_append_of_pos hdigits, List.dropWhile_append_of_pos hdigits]
  cases r with
  | nil => simp
  | cons c r =>
    have hc := Bool.eq_false_iff.mp (hr c rfl)
    rw [List.takeWhile_cons_of_neg hc, List.dropWhile_cons_of_neg hc, List.append_nil]
    exact ⟨rfl, rfl⟩

/-! ## Hexadecimal numerals -/

/-- A digit of a hexadecimal numeral. -/
def hexDigit (d : Nat) : CodePoint := Nat.digitChar d

/-- A digit is read as its value. -/
theorem hexValue?_hexDigit : ∀ d < 16, (hexDigit d).hexValue? = some d := by decide

theorem hex_one (h : n < 16) : hex 1 n = [hexDigit n] := by
  rw [hex, Nat.toDigits_of_lt_base h]
  rfl

/-- A wider numeral is the numeral of a sixteenth and one more digit. -/
theorem hex_succ (width n : Nat) :
    hex (width + 2) n = hex (width + 1) (n / 16) ++ [hexDigit (n % 16)] := by
  by_cases hn : n < 16
  · rw [Nat.div_eq_of_lt hn, Nat.mod_eq_of_lt hn, hex, hex, Nat.toDigits_of_lt_base hn,
      Nat.toDigits_of_lt_base (by decide : 0 < 16), zeroPad, zeroPad, replicate, replicate]
    -- the zero of the narrower numeral is one more of the zeros that fill it
    have hzeros : List.replicate (width + 1) (CodePoint.ofChar '0')
        = List.replicate width (CodePoint.ofChar '0') ++ [CodePoint.ofChar '0'] :=
      List.replicate_succ'
    exact congrArg (· ++ [hexDigit n]) hzeros
  · rw [hex, hex, Nat.toDigits_of_base_le (by decide) (Nat.le_of_not_lt hn), List.map_append,
      zeroPad, zeroPad, List.length_append, List.append_assoc]
    have hwidth : width + 2 - (((Nat.toDigits 16 (n / 16)).map CodePoint.ofChar).length
        + ([(n % 16).digitChar].map CodePoint.ofChar).length)
        = width + 1 - ((Nat.toDigits 16 (n / 16)).map CodePoint.ofChar).length := by
      simp only [List.length_map, List.length_singleton]
      omega
    rw [hwidth]
    rfl

/-- The numeral of a number of 16 bits has four digits. -/
theorem hex_four (h : n < 0x10000) :
    hex 4 n = [hexDigit (n / 16 / 16 / 16), hexDigit (n / 16 / 16 % 16), hexDigit (n / 16 % 16),
      hexDigit (n % 16)] := by
  rw [hex_succ, hex_succ, hex_succ, hex_one (by omega)]
  rfl

end Tablewright.Text
