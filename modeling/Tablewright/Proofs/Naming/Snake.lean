/-
When a label has a snake-case form.

`Text.isSnakeCase` recognizes words of small ASCII letters and digits, joined by single underscores.
The snake-case form of a label is such a text exactly when there is a word in the label, and there
is one exactly when some code point of the label comes to a letter or a digit of ASCII when it is
lowered (`Naming.isSnakeCase_snake_iff`). Outside ASCII there are two of these,
`CodePoint.givesLetter` names them. From every other label the empty text is left.
-/
import Tablewright.Proofs.Naming.Canonical
import Tablewright.Proofs.Text.Utf8

set_option autoImplicit false

namespace Tablewright

/-! ## Lowering -/

namespace CodePoint

/-- Whether a code point comes to a letter or a digit of a name: those of ASCII do, the capital I
with a dot comes to a small i and the dot, and the kelvin sign comes to a small k. -/
def givesLetter (c : CodePoint) : Bool :=
  c.isNameLetter || c.isAsciiUpper || c.val = 0x130 || c.val = 0x212A

theorem isNameLetter_of_not_ascii {c : CodePoint} (h : c.isAscii = false) :
    c.isNameLetter = false :=
  Bool.eq_false_iff.mpr fun hletter => by
    rw [isAscii_of_isNameLetter hletter] at h
    cases h

/-- Numbers beyond ASCII give no name letter. -/
theorem isNameLetter_ofNat {n : Nat} (h : 128 ≤ n) : (ofNat n).isNameLetter = false := by
  by_cases hlast : n < 0x110000
  · rw [Bool.eq_false_iff, ne_eq, isNameLetter_iff, val_ofNat hlast]
    omega
  · rw [ofNat, dif_neg hlast]
    decide

/-- The small letters of the table lie beyond ASCII, but for that of the kelvin sign. -/
theorem shift_of_mem_caseRuns : ∀ run ∈ caseRuns,
    128 ≤ run.first + run.shift ∨ run.first = 0x212A ∧ run.last = 0x212A := by
  decide +kernel

/-- What has a single small letter comes to a name letter exactly if it gives one. -/
theorem isNameLetter_lower {c : CodePoint} (h : c.val ≠ 0x130) :
    c.lower.isNameLetter = c.givesLetter := by
  rw [givesLetter, decide_eq_false h, Bool.or_false, lower]
  by_cases hascii : c.isAscii = true
  · have hlt := isAscii_iff.mp hascii
    rw [if_pos hascii, decide_eq_false (by omega), Bool.or_false]
    by_cases hupper : c.isAsciiUpper = true
    · have hrange := isAsciiUpper_iff.mp hupper
      rw [if_pos hupper, hupper, Bool.or_true, isNameLetter_iff, val_ofNat (by omega)]
      omega
    · rw [if_neg hupper, Bool.eq_false_iff.mpr hupper, Bool.or_false]
  · have hge : ¬ c.val < 128 := mt isAscii_iff.mpr hascii
    have hletter := isNameLetter_of_not_ascii (Bool.eq_false_iff.mpr hascii)
    have hupper : c.isAsciiUpper = false :=
      Bool.eq_false_iff.mpr fun hupper => hascii (isAscii_of_isAsciiUpper hupper)
    rw [if_neg hascii, hletter, hupper, Bool.false_or, Bool.false_or]
    by_cases hkelvin : c.val = 0x212A
    · obtain rfl : c = ofNat 0x212A := by rw [← hkelvin, ofNat_val]
      decide +kernel
    · rw [decide_eq_false hkelvin]
      split
      case h_1 run hfound =>
        have hcontains := List.find?_some hfound
        simp only [CaseRun.contains, Bool.and_eq_true, decide_eq_true_eq] at hcontains
        rcases shift_of_mem_caseRuns run (List.mem_of_find?_eq_some hfound) with hshift | hshift
        · exact isNameLetter_ofNat (by omega)
        · omega
      case h_2 => exact hletter

end CodePoint

namespace Text

/-- Whether a code point, lowered where it stands, comes to a name letter. -/
theorem exists_letter_lowerAt (before : Text) (c : CodePoint) (after : Text) :
    (∃ d ∈ lowerAt before c after, d.isNameLetter = true) ↔ c.givesLetter = true := by
  rw [lowerAt]
  split
  case isTrue hdotted =>
    refine iff_of_true ⟨'i', List.mem_cons_self, by decide⟩ ?_
    rw [CodePoint.givesLetter, decide_eq_true hdotted, Bool.or_true, Bool.true_or]
  case isFalse hdotted =>
    split
    case isTrue hsigma =>
      have hgives : c.givesLetter = false := by
        rw [← CodePoint.isNameLetter_lower hdotted, ← CodePoint.ofNat_val c, hsigma]
        decide +kernel
      rw [hgives]
      refine iff_of_false ?_ Bool.false_ne_true
      rintro ⟨d, hd, hletter⟩
      obtain rfl := List.mem_singleton.mp hd
      rw [CodePoint.isNameLetter_ofNat (by split <;> omega)] at hletter
      cases hletter
    case isFalse =>
      rw [← CodePoint.isNameLetter_lower hdotted]
      simp only [List.mem_singleton, exists_eq_left]

/-- A lowered text holds a name letter exactly if the text holds what gives one. -/
theorem exists_letter_lower (t : Text) :
    (∃ d ∈ lower t, d.isNameLetter = true) ↔ ∃ c ∈ t, c.givesLetter = true := by
  suffices hafter : ∀ before, (∃ d ∈ lowerAfter before t, d.isNameLetter = true) ↔
      ∃ c ∈ t, c.givesLetter = true from hafter []
  induction t with
  | nil => exact fun _ => iff_of_false (by simp [lowerAfter]) (by simp)
  | cons c r ih =>
    intro before
    rw [lowerAfter, List.exists_mem_cons_iff, ← exists_letter_lowerAt before c r,
      ← ih (c :: before)]
    simp only [List.mem_append, or_and_right, exists_or]

/-- There are pieces exactly if something does not separate. -/
theorem pieces_ne_nil_iff {sep : CodePoint → Bool} {t : Text} :
    pieces sep t ≠ [] ↔ ∃ c ∈ t, sep c = false := by
  have haux (acc : Text) : piecesAux sep acc t ≠ [] ↔ acc ≠ [] ∨ ∃ c ∈ t, sep c = false := by
    induction t generalizing acc with
    | nil => cases acc <;> simp [piecesAux]
    | cons c r ih =>
      rw [piecesAux, List.exists_mem_cons_iff]
      by_cases hc : sep c = true
      · cases acc <;> simp [hc, ih]
      · simp [hc, ih]
  rw [pieces, haux, or_iff_right (not_not_intro rfl)]

/-- Whether a text is words of small letters and digits, joined by single underscores. -/
def isSnakeCase (t : Text) : Bool :=
  (splitOn '_' t).all fun word => !word.isEmpty && word.all CodePoint.isNameLetter

end Text

namespace Naming

/-- What marks the beginning of words gives no letter. -/
theorem exists_letter_markWords (before : CodePoint) (t : Text) :
    (∃ c ∈ markWords before t, c.givesLetter = true) ↔ ∃ c ∈ t, c.givesLetter = true := by
  have hmark : CodePoint.givesLetter '_' = false := by decide
  induction t generalizing before with
  | nil => rfl
  | cons c r ih =>
    rw [markWords, List.exists_mem_cons_iff]
    split
    case isTrue =>
      rw [List.exists_mem_cons_iff, List.exists_mem_cons_iff, hmark,
        or_iff_right Bool.false_ne_true]
      exact or_congr_right (ih c)
    case isFalse =>
      rw [List.exists_mem_cons_iff]
      exact or_congr_right (ih c)

/-- There are words in a label exactly if something in it gives a letter. -/
theorem words_ne_nil_iff (label : Text) :
    words label ≠ [] ↔ ∃ c ∈ label, c.givesLetter = true := by
  rw [words, Text.pieces_ne_nil_iff, ← exists_letter_markWords '_', ← Text.exists_letter_lower]
  simp only [Bool.not_eq_false']

/-- Without words nothing is left. -/
theorem snake_eq_nil {label : Text} (h : words label = []) : snake label = [] := by
  rw [snake, h]
  rfl

/-- **Snake case.** The snake-case form of a label is words joined by underscores exactly if
something in the label gives a letter. -/
theorem isSnakeCase_snake_iff (label : Text) :
    Text.isSnakeCase (snake label) = true ↔ ∃ c ∈ label, c.givesLetter = true := by
  rw [← words_ne_nil_iff]
  constructor
  · intro hsnake hwords
    rw [snake_eq_nil hwords] at hsnake
    exact absurd hsnake (by decide)
  · intro hwords
    have hword : ∀ w ∈ words label, IsWord w := fun w hw => isWord_of_mem_words hw
    have hmark : ∀ w ∈ words label, ('_' : CodePoint) ∉ w := fun w hw hmem =>
      absurd ((hword w hw).2 _ hmem) (by decide)
    have hsplit : Text.splitOn '_' (snake label) = words label := Text.splitOn_join hwords hmark
    rw [Text.isSnakeCase, hsplit, List.all_eq_true]
    intro w hw
    obtain ⟨hne, hletters⟩ := hword w hw
    rw [Bool.and_eq_true, List.all_eq_true, Bool.not_eq_true', List.isEmpty_eq_false_iff]
    exact ⟨hne, hletters⟩

end Naming

end Tablewright
