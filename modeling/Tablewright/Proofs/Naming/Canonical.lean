/-
Canonical names name themselves.

A canonical name is a sequence of words joined by underscores, the first of which begins with a
small letter. Cutting such a name into words gives the same words again: it holds no capital at
which a word could begin, lowering leaves it alone, and its words hold none of the underscores
between them. So the canonical name of a canonical name is that name.
-/
import Tablewright.Proofs.Text.Lowering
import Tablewright.Proofs.Text.Split

set_option autoImplicit false

namespace Tablewright

/-! ## Texts without capitals -/

/-- A name letter is an ASCII code point and no capital. -/
theorem CodePoint.small_of_isNameLetter {c : CodePoint} (h : c.isNameLetter = true) :
    c.isAscii = true ∧ c.isAsciiUpper = false :=
  ⟨isAscii_of_isNameLetter h, isAsciiUpper_of_isNameLetter h⟩

/-- A code point that can join words: it lies in ASCII and is no capital and no name letter. -/
structure CodePoint.IsJoint (c : CodePoint) : Prop where
  small : c.isAscii = true ∧ c.isAsciiUpper = false
  not_letter : c.isNameLetter = false

theorem CodePoint.isJoint_underscore : IsJoint '_' := ⟨by decide, rfl⟩

theorem CodePoint.isJoint_hyphen : IsJoint '-' := ⟨by decide, rfl⟩

/-- No word begins at a capital where there is none. -/
theorem Naming.markWords_append_of_no_capital {t : Text} (h : ∀ c ∈ t, c.isAsciiUpper = false)
    (before : CodePoint) (rest : Text) :
    markWords before (t ++ rest) = t ++ markWords (t.getLastD before) rest := by
  induction t generalizing before with
  | nil => rfl
  | cons c r ih =>
    rw [List.cons_append, markWords, h c List.mem_cons_self, Bool.false_and,
      if_neg Bool.false_ne_true, ih fun d hd => h d (List.mem_cons_of_mem c hd), List.getLastD_cons,
      List.cons_append]

theorem Naming.markWords_of_no_capital {t : Text} (h : ∀ c ∈ t, c.isAsciiUpper = false)
    (before : CodePoint) : markWords before t = t := by
  have happend := markWords_append_of_no_capital h before []
  rwa [List.append_nil, markWords, List.append_nil] at happend

/-- Lowering leaves small ASCII code points alone. -/
theorem Text.lower_of_small {t : Text} (h : ∀ c ∈ t, c.isAscii = true ∧ c.isAsciiUpper = false) :
    lower t = t :=
  lower_of_not_capital fun c hc => CodePoint.isCapital_of_isAscii (h c hc).1 (h c hc).2

/-! ## Pieces of what was joined -/

namespace Text

variable {sep : CodePoint → Bool}

/-- No piece is empty. -/
theorem ne_nil_of_mem_piecesAux {acc t piece : Text} (h : piece ∈ piecesAux sep acc t) :
    piece ≠ [] := by
  induction t generalizing acc with
  | nil =>
    rw [piecesAux] at h
    split at h
    case isTrue => cases h
    case isFalse hacc =>
      obtain rfl := List.mem_singleton.mp h
      simpa using hacc
  | cons c r ih =>
    rw [piecesAux] at h
    split at h
    case isTrue =>
      split at h
      case isTrue => exact ih h
      case isFalse hacc =>
        rcases List.mem_cons.mp h with rfl | hrest
        · simpa using hacc
        · exact ih hrest
    case isFalse => exact ih h

/-- A piece is read to its end. -/
theorem piecesAux_append {acc w : Text} (hw : ∀ c ∈ w, sep c = false) (t : Text) :
    piecesAux sep acc (w ++ t) = piecesAux sep (w.reverse ++ acc) t := by
  induction w generalizing acc with
  | nil => rfl
  | cons c r ih =>
    rw [List.cons_append, piecesAux, hw c List.mem_cons_self, if_neg Bool.false_ne_true,
      ih fun d hd => hw d (List.mem_cons_of_mem c hd), List.reverse_cons, List.append_assoc]
    rfl

/-- A text without separators is one piece. -/
theorem pieces_of_not_sep {w : Text} (hne : w ≠ []) (hw : ∀ c ∈ w, sep c = false) :
    pieces sep w = [w] := by
  have hread : piecesAux sep [] (w ++ []) = piecesAux sep (w.reverse ++ []) [] :=
    piecesAux_append hw []
  rw [List.append_nil] at hread
  rw [pieces, hread, piecesAux, if_neg (by simpa using hne), List.append_nil, List.reverse_reverse]

/-- **Pieces.** A text is cut at a separator in it as its two parts are. -/
theorem pieces_append_cons (t : Text) {s : CodePoint} (hs : sep s = true) (u : Text) :
    pieces sep (t ++ s :: u) = pieces sep t ++ pieces sep u := by
  have haux (acc : Text) :
      piecesAux sep acc (t ++ s :: u) = piecesAux sep acc t ++ piecesAux sep [] u := by
    induction t generalizing acc with
    | nil =>
      simp only [List.nil_append, piecesAux, hs, if_true]
      split <;> rfl
    | cons c r ih =>
      rw [List.cons_append, piecesAux, piecesAux, ih, ih]
      split
      case isTrue => split <;> rfl
      case isFalse => rfl
  exact haux []

/-- A piece ends at a separator. -/
theorem pieces_append_sep {w : Text} (hne : w ≠ []) (hw : ∀ c ∈ w, sep c = false) {s : CodePoint}
    (hs : sep s = true) (t : Text) : pieces sep (w ++ s :: t) = w :: pieces sep t := by
  rw [pieces_append_cons w hs, pieces_of_not_sep hne hw, List.singleton_append]

/-- The pieces of joined texts are these texts, if what joins them separates and they hold nothing
that does. -/
theorem pieces_join {s : CodePoint} (hs : sep s = true) {ws : List Text}
    (hws : ∀ w ∈ ws, w ≠ [] ∧ ∀ c ∈ w, sep c = false) : pieces sep (join [s] ws) = ws := by
  induction ws with
  | nil => rfl
  | cons w ws ih =>
    obtain ⟨hne, hw⟩ := hws w List.mem_cons_self
    cases ws with
    | nil => exact pieces_of_not_sep hne hw
    | cons v vs =>
      rw [join_cons_cons, pieces_append_sep hne hw hs,
        ih fun x hx => hws x (List.mem_cons_of_mem w hx)]

end Text

/-! ## Words -/

namespace Naming

/-- A word: name letters, and at least one. -/
def IsWord (w : Text) : Prop := w ≠ [] ∧ ∀ c ∈ w, c.isNameLetter = true

/-- The words of a label are words. -/
theorem isWord_of_mem_words {label w : Text} (h : w ∈ words label) : IsWord w :=
  ⟨Text.ne_nil_of_mem_piecesAux h, fun _ hc => isNameLetter_of_mem_words h hc⟩

theorem isWord_fallback : IsWord fallback := ⟨by decide, fun _ hc => mem_fallback hc⟩

/-- The words of joined words are these words. -/
theorem words_join {s : CodePoint} (hs : s.IsJoint) {ws : List Text} (hws : ∀ w ∈ ws, IsWord w) :
    words (Text.join [s] ws) = ws := by
  have hsmall : ∀ c ∈ Text.join [s] ws, c.isAscii = true ∧ c.isAsciiUpper = false := fun c hc => by
    rcases Text.mem_join hc with hsep | ⟨w, hw, hcw⟩
    · exact List.mem_singleton.mp hsep ▸ hs.small
    · exact CodePoint.small_of_isNameLetter ((hws w hw).2 c hcw)
  rw [words, markWords_of_no_capital fun c hc => (hsmall c hc).2, Text.lower_of_small hsmall]
  refine Text.pieces_join ?_ fun w hw => ⟨(hws w hw).1, fun c hc => ?_⟩
  · rw [hs.not_letter, Bool.not_false]
  · rw [(hws w hw).2 c hc, Bool.not_true]

/-- The words of the snake-case form of a label are those of the label. -/
theorem words_snake (label : Text) : words (snake label) = words label :=
  words_join CodePoint.isJoint_underscore fun _ hw => isWord_of_mem_words hw

/-- The words of the kebab-case form of a label are those of the label. -/
theorem words_kebab (label : Text) : words (kebab label) = words label :=
  words_join CodePoint.isJoint_hyphen fun _ hw => isWord_of_mem_words hw

/-! ## Canonical names -/

/-- The words of a canonical name: words, the first of which begins with a small letter. -/
structure Spells (ws : List Text) (name : Text) : Prop where
  /-- The name is these words, joined. -/
  eq_join : name = Text.join "_" ws
  /-- They are words. -/
  isWord : ∀ w ∈ ws, IsWord w
  /-- The first one begins with a small letter. -/
  startsLower : startsLower name = true

/-- A word that does not begin with a digit begins with a small letter. -/
theorem isAsciiLower_of_not_digit {c : CodePoint} (hletter : c.isNameLetter = true)
    (hdigit : c.isAsciiDigit = false) : c.isAsciiLower = true := by
  simpa [CodePoint.isNameLetter, hdigit] using hletter

/-- Every canonical name is spelled by words. -/
theorem exists_spells_canonical (label : Text) : ∃ ws, Spells ws (canonical label) := by
  have hwords : ∀ w ∈ words label, IsWord w := fun w hw => isWord_of_mem_words hw
  have hall : ∀ w ∈ fallback :: words label, IsWord w := fun w hw => by
    rcases List.mem_cons.mp hw with rfl | hw
    · exact isWord_fallback
    · exact hwords w hw
  rw [canonical]
  split
  case h_1 =>
    refine ⟨[fallback], rfl, fun w hw => ?_, rfl⟩
    obtain rfl := List.mem_singleton.mp hw
    exact isWord_fallback
  case h_2 c r hsnake =>
    -- the label has a word, and it begins with the first letter of the name
    obtain ⟨w, ws, hws⟩ : ∃ w ws, words label = w :: ws := by
      cases h : words label with
      | nil =>
        rw [snake, h] at hsnake
        cases hsnake
      | cons w ws => exact ⟨w, ws, rfl⟩
    have hjoin : c :: r = Text.join "_" (w :: ws) := by rw [← hsnake, snake, hws]
    split
    case isTrue =>
      refine ⟨fallback :: words label, ?_, hall, rfl⟩
      rw [hjoin, hws]
      rfl
    case isFalse hdigit =>
      refine ⟨words label, by rw [hjoin, hws], hwords, ?_⟩
      have hletter : c.isNameLetter = true := by
        have hw := hwords w (hws ▸ List.mem_cons_self)
        obtain ⟨d, v, rfl⟩ := List.exists_cons_of_ne_nil hw.1
        have hhead : c = d := by
          cases ws <;> exact (List.cons.inj hjoin).1
        exact hhead ▸ hw.2 d List.mem_cons_self
      exact isAsciiLower_of_not_digit hletter (Bool.eq_false_iff.mpr hdigit)

/-- The words that spell a name are the words of the name. -/
theorem Spells.words_eq {ws : List Text} {name : Text} (h : Spells ws name) : words name = ws := by
  rw [h.eq_join]
  exact words_join CodePoint.isJoint_underscore h.isWord

/-- What words spell is its own snake-case form. -/
theorem Spells.snake_eq {ws : List Text} {name : Text} (h : Spells ws name) :
    snake name = name := by
  rw [snake, h.words_eq, h.eq_join]

/-- What words spell is its own canonical name. -/
theorem Spells.canonical_eq {ws : List Text} {name : Text} (h : Spells ws name) :
    canonical name = name := by
  have hlower := h.startsLower
  rw [canonical, h.snake_eq]
  cases name with
  | nil => cases hlower
  | cons c r =>
    -- a small letter is no digit, so the name stays as it is
    have hdigit : c.isAsciiDigit = false := CodePoint.isAsciiDigit_of_isAsciiLower hlower
    exact if_neg (Bool.eq_false_iff.mp hdigit)

/-- A canonical name is its own snake-case form. -/
@[simp] theorem snake_canonical (label : Text) : snake (canonical label) = canonical label := by
  obtain ⟨_, h⟩ := exists_spells_canonical label
  exact h.snake_eq

/-- The canonical name of a canonical name is that name. -/
@[simp] theorem canonical_canonical (label : Text) :
    canonical (canonical label) = canonical label := by
  obtain ⟨_, h⟩ := exists_spells_canonical label
  exact h.canonical_eq

end Naming

/-- The canonical name of a label gives the same names as the label. -/
@[simp] theorem Names.ofLabel_canonical (label : Text) :
    Names.ofLabel (Naming.canonical label) = Names.ofLabel label := by
  rw [ofLabel, ofLabel, Naming.canonical_canonical]

end Tablewright
