/-
Texts that are written out.

A text given by a string of core has the characters of the string (`Text.ofString_eq`), so what it
holds and how it begins are decided on its list of characters: which line feeds it holds, and whether
it can begin with another written text (`Text.not_prefix_of_clash`).
-/
import Tablewright.Text.Basic

set_option autoImplicit false

namespace Tablewright

/-- Characters with the same code point are the same. -/
theorem CodePoint.ofChar_inj {a b : Char} : ofChar a = ofChar b ↔ a = b := by
  constructor
  · intro h
    have hval : a.toNat = b.toNat := congrArg val h
    exact Char.ext (UInt32.toNat_inj.mp hval)
  · intro h
    rw [h]

namespace Text

/-! ## Beginnings -/

theorem dropStart?_append (start t : Text) : dropStart? start (start ++ t) = some t := by
  induction start with
  | nil => rw [List.nil_append, dropStart?]
  | cons c r ih => rw [List.cons_append, dropStart?, if_pos rfl, ih]

theorem dropStart?_eq_some_iff {start t rest : Text} :
    dropStart? start t = some rest ↔ t = start ++ rest := by
  constructor
  · intro h
    induction start generalizing t with
    | nil => exact Option.some.inj h
    | cons a s ih =>
      cases t with
      | nil => cases h
      | cons b t =>
        rw [dropStart?] at h
        split at h
        case isTrue hab => rw [hab, ih h, List.cons_append]
        case isFalse => cases h
  · rintro rfl
    exact dropStart?_append start rest

theorem startsWith_iff {t start : Text} : startsWith t start = true ↔ start <+: t := by
  rw [startsWith, Option.isSome_iff_exists]
  constructor
  · rintro ⟨rest, h⟩
    exact ⟨rest, (dropStart?_eq_some_iff.mp h).symm⟩
  · rintro ⟨rest, rfl⟩
    exact ⟨rest, dropStart?_append start rest⟩

/-! ## Characters -/

/-- A text given by its characters. -/
theorem ofString_eq {s : String} {l : List Char} (h : s = String.ofList l) :
    ofString s = l.map CodePoint.ofChar := by
  rw [h, ofString, String.toList_ofList]

/-- A character that is not written does not stand in the text. -/
theorem not_mem_ofString {s : String} {l : List Char} (h : s = String.ofList l) {c : Char}
    (hl : l.contains c = false) : CodePoint.ofChar c ∉ ofString s := by
  rw [ofString_eq h]
  intro hmem
  obtain ⟨d, hd, heq⟩ := List.mem_map.mp hmem
  obtain rfl := CodePoint.ofChar_inj.mp heq
  rw [List.contains_iff_mem.mpr hd] at hl
  cases hl

/-- Two lists of characters differ before one of them ends. -/
def clash : List Char → List Char → Bool
  | a :: s, b :: t => a != b || clash s t
  | _, _ => false

/-- A text does not begin with another one from which it differs, whatever follows. -/
theorem not_prefix_of_clash {s l : List Char} (h : clash s l = true) (t : Text) :
    ¬ s.map CodePoint.ofChar <+: l.map CodePoint.ofChar ++ t := by
  induction s generalizing l with
  | nil => cases l <;> cases h
  | cons a s ih =>
    cases l with
    | nil => cases h
    | cons b l =>
      intro hprefix
      obtain ⟨heq, hrest⟩ := List.cons_prefix_cons.mp hprefix
      rw [CodePoint.ofChar_inj] at heq
      rw [clash, heq, bne_self_eq_false, Bool.false_or] at h
      exact ih h hrest

end Text

end Tablewright
