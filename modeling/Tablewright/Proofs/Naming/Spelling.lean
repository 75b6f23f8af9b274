/-
Spellings that come to one name.

Where the words of a label are cut is decided by what stands next to a capital, and how a code point
is lowered can depend on the text around it. Neither matters much in the end: a capital sigma comes
to one of two small letters and both only separate (`words_eq`), and the mark before a word adds one
more separator to those that stand there. So words that are written with separators between them, in
small letters, with a capital or in capitals, are read as these words (`Spelled.words_eq`). Without
separators a capital still shows where a word begins, if something that is no capital stands before
it, which words of two letters give (`words_pascalCase`).
-/
import Tablewright.Proofs.Naming.Normal
import Tablewright.Proofs.Naming.Snake

set_option autoImplicit false

namespace Tablewright

/-! ## Pieces behind separators -/

namespace Text

variable {sep : CodePoint → Bool} {w gap : Text}

/-- Separators before the first piece are passed over. -/
theorem pieces_append_of_sep (hgap : ∀ c ∈ gap, sep c = true) (t : Text) :
    pieces sep (gap ++ t) = pieces sep t := by
  induction gap with
  | nil => rfl
  | cons c r ih =>
    have hcut := pieces_append_cons [] (hgap c List.mem_cons_self) (r ++ t)
    rw [List.cons_append]
    exact hcut.trans (ih fun d hd => hgap d (List.mem_cons_of_mem c hd))

/-- A piece with separators behind it is the first. -/
theorem pieces_append_gap (hne : w ≠ []) (hw : ∀ c ∈ w, sep c = false) (hgap : gap ≠ [])
    (hsep : ∀ c ∈ gap, sep c = true) (t : Text) :
    pieces sep (w ++ (gap ++ t)) = w :: pieces sep t := by
  obtain ⟨s, r, rfl⟩ := List.exists_cons_of_ne_nil hgap
  obtain ⟨hs, hr⟩ := List.forall_mem_cons.mp hsep
  rw [List.cons_append, pieces_append_sep hne hw hs, pieces_append_of_sep hr]

/-- A piece with nothing but separators behind it is the only one. -/
theorem pieces_append_seps (hne : w ≠ []) (hw : ∀ c ∈ w, sep c = false)
    (hsep : ∀ c ∈ gap, sep c = true) : pieces sep (w ++ gap) = [w] := by
  by_cases hgap : gap = []
  · rw [hgap, List.append_nil, pieces_of_not_sep hne hw]
  · have happend := pieces_append_gap hne hw hgap hsep []
    rwa [List.append_nil] at happend

/-- What stands before two texts does not tell them apart. -/
theorem piecesAux_append_congr {t u : Text} (h : ∀ acc, piecesAux sep acc t = piecesAux sep acc u)
    (x acc : Text) : piecesAux sep acc (x ++ t) = piecesAux sep acc (x ++ u) := by
  induction x generalizing acc with
  | nil => exact h acc
  | cons c r ih =>
    rw [List.cons_append, List.cons_append, piecesAux, piecesAux, ih, ih]

end Text

/-! ## Lowering one code point -/

namespace CodePoint

/-- The lower-case form of a code point that stands alone. -/
def lowered (c : CodePoint) : Text := Text.lower [c]

/-- A code point from which lowering makes no letter and no digit of a name. In particular it is no
letter and no digit of ASCII itself. -/
def Separates (c : CodePoint) : Prop := ∀ d ∈ c.lowered, d.isNameLetter = false

instance (c : CodePoint) : Decidable c.Separates :=
  inferInstanceAs (Decidable (∀ d ∈ c.lowered, d.isNameLetter = false))

variable {c : CodePoint}

theorem separates_iff : c.Separates ↔ c.givesLetter = false := by
  have hgives := Text.exists_letter_lower [c]
  simp only [List.mem_singleton, exists_eq_left] at hgives
  rw [← Bool.not_eq_true, ← hgives]
  simp only [not_exists, not_and, Bool.not_eq_true]
  rfl

/-- What separates is neither a letter nor a digit of a name, nor a capital. -/
theorem Separates.plain (h : c.Separates) : c.isNameLetter = false ∧ c.isAsciiUpper = false := by
  have hgives := separates_iff.mp h
  simp only [givesLetter, Bool.or_eq_false_iff] at hgives
  exact hgives.1.1

theorem lowered_of_isNameLetter (h : c.isNameLetter = true) : c.lowered = [c] :=
  Text.lower_of_small fun _ hd => List.mem_singleton.mp hd ▸ small_of_isNameLetter h

theorem lowered_capital (h : c.isAsciiLower = true) : c.capital.lowered = [c] := by
  have hrange := isAsciiUpper_iff.mp (Naming.isAsciiUpper_capital h)
  have halone : c.capital.lowered = Text.lowerAt [] c.capital [] := List.append_nil _
  rw [halone, Text.lowerAt, if_neg (by omega), if_neg (by omega), Naming.lower_capital h]

/-- Nothing is lowered to nothing. -/
theorem lowered_ne_nil (c : CodePoint) : c.lowered ≠ [] := by
  have halone : c.lowered = Text.lowerAt [] c [] := List.append_nil _
  rw [halone]
  exact Text.lowerAt_ne_nil [] c []

/-- A capital sigma separates, wherever it stands. -/
theorem not_isNameLetter_lowerAt_sigma (h : c.val = 0x3A3) (before after : Text) :
    ∃ d : CodePoint, Text.lowerAt before c after = [d] ∧ d.isNameLetter = false := by
  rw [Text.lowerAt, if_neg (by omega), if_pos h]
  exact ⟨_, rfl, isNameLetter_ofNat (by split <;> omega)⟩

/-- Every other code point is lowered alike wherever it stands. -/
theorem lowerAt_eq_lowered (h : c.val ≠ 0x3A3) (before after : Text) :
    Text.lowerAt before c after = c.lowered := by
  have halone : c.lowered = Text.lowerAt [] c [] := List.append_nil _
  rw [halone, Text.lowerAt, Text.lowerAt, if_neg h, if_neg h]

end CodePoint

namespace Naming

/-- What separates words once a label is lowered. -/
def isBreak (c : CodePoint) : Bool := !c.isNameLetter

/-- The words of a text do not depend on how a sigma is lowered. -/
theorem piecesAux_lowerAfter (before acc t : Text) :
    Text.piecesAux isBreak acc (Text.lowerAfter before t)
      = Text.piecesAux isBreak acc (t.flatMap CodePoint.lowered) := by
  induction t generalizing before acc with
  | nil => rfl
  | cons c r ih =>
    rw [Text.lowerAfter, List.flatMap_cons]
    by_cases hsigma : c.val = 0x3A3
    · obtain ⟨d, hd, hbreak⟩ := c.not_isNameLetter_lowerAt_sigma hsigma before r
      obtain ⟨e, he, hbreak'⟩ := c.not_isNameLetter_lowerAt_sigma hsigma [] []
      have halone : c.lowered = [e] := (List.append_nil _).trans he
      have hsep : isBreak d = true ∧ isBreak e = true := by
        rw [isBreak, isBreak, hbreak, hbreak']
        exact ⟨rfl, rfl⟩
      rw [hd, halone, List.singleton_append, List.singleton_append, Text.piecesAux, Text.piecesAux,
        if_pos hsep.1, if_pos hsep.2, ih]
    · rw [CodePoint.lowerAt_eq_lowered hsigma]
      exact Text.piecesAux_append_congr (fun acc => ih (c :: before) acc) _ acc

/-- **Words.** The words of a label are read off its code points, each lowered on its own. -/
theorem words_eq (label : Text) :
    words label = Text.pieces isBreak ((markWords '_' label).flatMap CodePoint.lowered) :=
  piecesAux_lowerAfter [] [] _

/-! ## Casings -/

/-- A word of small letters. -/
def IsLetters (w : Text) : Prop := w ≠ [] ∧ ∀ c ∈ w, c.isAsciiLower = true

theorem IsLetters.isWord {w : Text} (h : IsLetters w) : IsWord w :=
  ⟨h.1, fun c hc => Bool.or_eq_true_iff.mpr (.inl (h.2 c hc))⟩

/-- The ways to write a word. -/
inductive Casing where
  /-- In small letters. -/
  | small
  /-- With a capital for its first letter. -/
  | capitalized
  /-- In capitals. -/
  | capitals
deriving DecidableEq

/-- A word as it is written. -/
def Casing.write : Casing → Text → Text
  | small, w => w
  | capitalized, w => Text.capitalize w
  | capitals, w => w.map CodePoint.capital

theorem lowered_word {w : Text} (hw : ∀ c ∈ w, c.isNameLetter = true) :
    w.flatMap CodePoint.lowered = w := by
  rw [List.flatMap_congr fun c hc => CodePoint.lowered_of_isNameLetter (hw c hc)]
  exact List.flatMap_singleton' w

theorem lowered_capitalize {w : Text} (hw : IsWord w) (hlower : startsLower w = true) :
    (Text.capitalize w).flatMap CodePoint.lowered = w := by
  obtain ⟨c, r, rfl⟩ := List.exists_cons_of_ne_nil hw.1
  rw [Text.capitalize, List.flatMap_cons, CodePoint.lowered_capital hlower,
    lowered_word (List.forall_mem_cons.mp hw.2).2, List.singleton_append]

/-- Every casing of a word is lowered to the word. -/
theorem Casing.lowered_write (k : Casing) {w : Text} (hw : IsLetters w) :
    (k.write w).flatMap CodePoint.lowered = w := by
  cases k with
  | small => exact lowered_word hw.isWord.2
  | capitalized =>
    refine lowered_capitalize hw.isWord ?_
    obtain ⟨c, r, rfl⟩ := List.exists_cons_of_ne_nil hw.1
    exact hw.2 c List.mem_cons_self
  | capitals =>
    rw [Casing.write, List.flatMap_map,
      List.flatMap_congr fun c hc => CodePoint.lowered_capital (hw.2 c hc)]
    exact List.flatMap_singleton' w

/-! ## Where words are marked -/

/-- At most one mark. -/
def IsMark (t : Text) : Prop := t = [] ∨ t = [('_' : CodePoint)]

theorem IsMark.isBreak {t : Text} (h : IsMark t) : ∀ c ∈ t, isBreak c = true := by
  rcases h with rfl | rfl
  · exact List.forall_mem_nil _
  · decide

/-- A mark stays as it is when it is lowered. -/
theorem IsMark.lowered_eq {t : Text} (h : IsMark t) : t.flatMap CodePoint.lowered = t := by
  rcases h with rfl | rfl <;> rfl

/-- A code point is read with a mark before it or without. A capital behind a small letter or digit
has one. -/
theorem exists_mark (before c : CodePoint) (r : Text) :
    ∃ mark, IsMark mark ∧ (c.isAsciiUpper = true → before.isNameLetter = true →
        mark = [('_' : CodePoint)]) ∧
      markWords before (c :: r) = mark ++ c :: markWords c r := by
  rw [markWords]
  split
  case isTrue => exact ⟨[('_' : CodePoint)], .inr rfl, fun _ _ => rfl, rfl⟩
  case isFalse hnone =>
    refine ⟨[], .inl rfl, fun hc hbefore => absurd ?_ hnone, rfl⟩
    rw [hc, hbefore, Bool.true_or, Bool.and_true]

/-- Behind a capital no word begins at another one, unless a small letter follows that. -/
theorem markWords_capitals {w : Text} (hw : ∀ c ∈ w, c.isAsciiUpper = true) {before : CodePoint}
    (hbefore : before.isAsciiUpper = true) {t : Text} (ht : startsLower t = false) :
    markWords before (w ++ t) = w ++ markWords (w.getLastD before) t := by
  have hplain {c : CodePoint} (hc : c.isAsciiUpper = true) :
      c.isNameLetter = false ∧ c.isAsciiLower = false := by
    have hrange := CodePoint.isAsciiUpper_iff.mp hc
    rw [Bool.eq_false_iff, Bool.eq_false_iff, ne_eq, ne_eq, CodePoint.isNameLetter_iff,
      CodePoint.isAsciiLower_iff]
    omega
  induction w generalizing before with
  | nil => rfl
  | cons c r ih =>
    obtain ⟨hc, hr⟩ := List.forall_mem_cons.mp hw
    have hnext : startsLower (r ++ t) = false := by
      cases r with
      | nil => exact ht
      | cons d s => exact (hplain (hr d List.mem_cons_self)).2
    rw [List.cons_append, markWords, (hplain hbefore).1, hnext, Bool.or_self, Bool.and_false,
      if_neg Bool.false_ne_true, ih hr hc, List.getLastD_cons, List.cons_append]

/-- A written word is marked at its beginning or not at all. -/
theorem Casing.markWords_write (k : Casing) {w : Text} (hw : IsLetters w) (before : CodePoint)
    {t : Text} (ht : startsLower t = false) :
    ∃ mark next, IsMark mark ∧ markWords before (k.write w ++ t)
      = mark ++ (k.write w ++ markWords next t) := by
  have hsmall {x : Text} (hx : ∀ c ∈ x, c.isAsciiLower = true) : ∀ c ∈ x, c.isAsciiUpper = false :=
    fun c hc => CodePoint.isAsciiUpper_of_isNameLetter (Bool.or_eq_true_iff.mpr (.inl (hx c hc)))
  obtain ⟨c, r, rfl⟩ := List.exists_cons_of_ne_nil hw.1
  obtain ⟨hc, hr⟩ := List.forall_mem_cons.mp hw.2
  cases k with
  | small =>
    exact ⟨[], _, .inl rfl, markWords_append_of_no_capital (hsmall hw.2) before t⟩
  | capitalized =>
    obtain ⟨mark, hmark, -, hread⟩ :=
      exists_mark before c.capital (r ++ t)
    rw [markWords_append_of_no_capital (hsmall hr)] at hread
    exact ⟨mark, _, hmark, hread⟩
  | capitals =>
    have hcapitals : ∀ d ∈ r.map CodePoint.capital, d.isAsciiUpper = true := fun d hd => by
      obtain ⟨e, he, rfl⟩ := List.mem_map.mp hd
      exact isAsciiUpper_capital (hr e he)
    obtain ⟨mark, hmark, -, hread⟩ :=
      exists_mark before c.capital (r.map CodePoint.capital ++ t)
    rw [markWords_capitals hcapitals (isAsciiUpper_capital hc) ht] at hread
    exact ⟨mark, _, hmark, hread⟩

/-! ## Words with separators between them -/

/-- A label that spells words: each of them is written in some casing, there are separators between
them, and there may be separators before the first and behind the last. -/
inductive Spelled : List Text → Text → Prop where
  /-- The last word. -/
  | last (casing : Casing) {w before after : Text} (hbefore : ∀ c ∈ before, c.Separates)
      (hafter : ∀ c ∈ after, c.Separates) : Spelled [w] (before ++ (casing.write w ++ after))
  /-- A word with others behind it. -/
  | more (casing : Casing) {w before gap rest : Text} {ws : List Text}
      (hbefore : ∀ c ∈ before, c.Separates) (hgap : ∀ c ∈ gap, c.Separates) (hne : gap ≠ [])
      (hrest : Spelled ws rest) : Spelled (w :: ws) (before ++ (casing.write w ++ (gap ++ rest)))

section

variable {gap : Text}

theorem isBreak_lowered (hgap : ∀ c ∈ gap, c.Separates) :
    ∀ c ∈ gap.flatMap CodePoint.lowered, isBreak c = true := fun c hc => by
  obtain ⟨d, hd, hmem⟩ := List.mem_flatMap.mp hc
  rw [isBreak, hgap d hd c hmem, Bool.not_false]

theorem lowered_ne_nil (hne : gap ≠ []) : gap.flatMap CodePoint.lowered ≠ [] := by
  obtain ⟨c, r, rfl⟩ := List.exists_cons_of_ne_nil hne
  exact List.append_ne_nil_of_left_ne_nil c.lowered_ne_nil _

theorem markWords_separators (hgap : ∀ c ∈ gap, c.Separates) (before : CodePoint) (t : Text) :
    markWords before (gap ++ t) = gap ++ markWords (gap.getLastD before) t :=
  markWords_append_of_no_capital (fun c hc => (hgap c hc).plain.2) before t

theorem startsLower_separators (hgap : ∀ c ∈ gap, c.Separates) (hne : gap ≠ []) (t : Text) :
    startsLower (gap ++ t) = false := by
  obtain ⟨c, r, rfl⟩ := List.exists_cons_of_ne_nil hne
  have hletter := (hgap c List.mem_cons_self).plain.1
  exact (Bool.or_eq_false_iff.mp hletter).1

/-- The first word of a label is read, and what stands behind it is still to be read. -/
theorem Casing.pieces_write (k : Casing) {w before t : Text} (hw : IsLetters w)
    (hbefore : ∀ c ∈ before, c.Separates) (ht : startsLower t = false) (p : CodePoint) :
    ∃ next, Text.pieces isBreak
        ((markWords p (before ++ (k.write w ++ t))).flatMap CodePoint.lowered)
      = Text.pieces isBreak (w ++ (markWords next t).flatMap CodePoint.lowered) := by
  obtain ⟨mark, next, hmark, hread⟩ := k.markWords_write hw (before.getLastD p) ht
  refine ⟨next, ?_⟩
  rw [markWords_separators hbefore, hread, List.flatMap_append, List.flatMap_append,
    List.flatMap_append, k.lowered_write hw, Text.pieces_append_of_sep (isBreak_lowered hbefore),
    hmark.lowered_eq, Text.pieces_append_of_sep hmark.isBreak]

end

/-- The words of a label are the words it spells, whatever stands before it. -/
theorem Spelled.pieces_eq {ws : List Text} {label : Text} (h : Spelled ws label)
    (hws : ∀ w ∈ ws, IsLetters w) (p : CodePoint) :
    Text.pieces isBreak ((markWords p label).flatMap CodePoint.lowered) = ws := by
  have hletters {w : Text} (hw : IsLetters w) : ∀ c ∈ w, isBreak c = false := fun c hc => by
    rw [isBreak, hw.isWord.2 c hc, Bool.not_true]
  induction h generalizing p with
  | @last k w before after hbefore hafter =>
    have hw := hws w List.mem_cons_self
    have hstart : startsLower after = false := by
      by_cases hne : after = []
      · rw [hne]
        rfl
      · have happend := startsLower_separators hafter hne []
        rwa [List.append_nil] at happend
    obtain ⟨next, hread⟩ := k.pieces_write hw hbefore hstart p
    rw [hread, markWords_of_no_capital fun c hc => (hafter c hc).plain.2,
      Text.pieces_append_seps hw.1 (hletters hw) (isBreak_lowered hafter)]
  | @more k w before gap rest ws hbefore hgap hne _ ih =>
    obtain ⟨hw, hws⟩ := List.forall_mem_cons.mp hws
    obtain ⟨next, hread⟩ :=
      k.pieces_write hw hbefore (startsLower_separators hgap hne rest) p
    rw [hread, markWords_separators hgap, List.flatMap_append, Text.pieces_append_gap hw.1
      (hletters hw) (lowered_ne_nil hne) (isBreak_lowered hgap), ih hws]

theorem Spelled.words_eq {ws : List Text} {label : Text} (h : Spelled ws label)
    (hws : ∀ w ∈ ws, IsLetters w) : words label = ws :=
  (Naming.words_eq label).trans (h.pieces_eq hws '_')

/-! ## Words with nothing between them -/

/-- Words with a capital each, one after another. -/
def pascalCase (ws : List Text) : Text := ws.flatMap Text.capitalize

/-- The same, with a small letter at the beginning. -/
def camelCase : List Text → Text
  | [] => []
  | w :: ws => w ++ pascalCase ws

/-- A word that shows where it ends: it begins with a small letter, and there is more to it. -/
structure IsLong (w : Text) : Prop where
  isWord : IsWord w
  startsLower : startsLower w = true
  two_le : 2 ≤ w.length

/-- The last code point of a long word is no first one. -/
theorem IsLong.last {c : CodePoint} {r : Text} (h : IsLong (c :: r)) (before : CodePoint) :
    (r.getLastD before).isNameLetter = true := by
  have hne : r ≠ [] := by
    rintro rfl
    exact absurd h.two_le (Nat.not_le.mpr Nat.one_lt_two)
  have hmem : r.getLastD before ∈ r := by
    obtain ⟨d, s, rfl⟩ := List.exists_cons_of_ne_nil hne
    rw [List.getLastD_cons]
    exact List.getLastD_mem_cons
  exact h.isWord.2 _ (List.mem_cons_of_mem c hmem)

/-- A long word with a capital is read as the word, with a mark before it or without. Behind a small
letter or a digit there is one, and the next word stands behind such a code point. -/
theorem IsLong.markWords_capitalize {w : Text} (hw : IsLong w) (before : CodePoint) (t : Text) :
    ∃ mark next, IsMark mark ∧ (before.isNameLetter = true → mark = [('_' : CodePoint)]) ∧
      next.isNameLetter = true ∧
      (markWords before (Text.capitalize w ++ t)).flatMap CodePoint.lowered
        = mark ++ (w ++ (markWords next t).flatMap CodePoint.lowered) := by
  have hlowered := lowered_capitalize hw.isWord hw.startsLower
  obtain ⟨c, r, rfl⟩ := List.exists_cons_of_ne_nil hw.isWord.1
  have hrest : ∀ d ∈ r, d.isAsciiUpper = false := fun d hd =>
    CodePoint.isAsciiUpper_of_isNameLetter (hw.isWord.2 d (List.mem_cons_of_mem c hd))
  obtain ⟨mark, hmark, hfirst, hread⟩ := exists_mark before c.capital (r ++ t)
  refine ⟨mark, r.getLastD c.capital, hmark,
    fun hletter => hfirst (isAsciiUpper_capital hw.startsLower) hletter, hw.last _, ?_⟩
  have hwhole : markWords before (Text.capitalize (c :: r) ++ t)
      = mark ++ (Text.capitalize (c :: r) ++ markWords (r.getLastD c.capital) t) := by
    rw [Text.capitalize, List.cons_append, hread, markWords_append_of_no_capital hrest]
    rfl
  rw [hwhole, List.flatMap_append, List.flatMap_append, hlowered, hmark.lowered_eq]

/-- Behind a small letter or a digit, all words with a capital are marked. -/
theorem markWords_pascalCase {ws : List Text} (hws : ∀ w ∈ ws, IsLong w) {before : CodePoint}
    (hbefore : before.isNameLetter = true) :
    (markWords before (pascalCase ws)).flatMap CodePoint.lowered = ws.flatMap marked := by
  induction ws generalizing before with
  | nil => rfl
  | cons w ws ih =>
    obtain ⟨hw, hothers⟩ := List.forall_mem_cons.mp hws
    obtain ⟨mark, next, -, hmark, hnext, hread⟩ :=
      hw.markWords_capitalize before (pascalCase ws)
    rw [pascalCase, List.flatMap_cons, List.flatMap_cons, ← ih hothers hnext]
    exact hread.trans (by rw [hmark hbefore]; rfl)

/-- The first word and the others behind underscores are cut at the underscores. -/
theorem pieces_marked {w : Text} {ws : List Text} (h : ∀ v ∈ w :: ws, IsWord v) :
    Text.pieces isBreak (w ++ ws.flatMap marked) = w :: ws := by
  have hname : Text.join "_" (w :: ws) = w ++ ws.flatMap marked :=
    (List.cons.inj (cons_join.trans (List.flatMap_cons ..))).2
  rw [← hname]
  exact Text.pieces_join rfl fun v hv => ⟨(h v hv).1, fun c hc => by
    rw [isBreak, (h v hv).2 c hc, Bool.not_true]⟩

section

variable {ws : List Text}

/-- Words with a capital each are read as these words. -/
theorem words_pascalCase (hws : ∀ w ∈ ws, IsLong w) : words (pascalCase ws) = ws := by
  cases ws with
  | nil => rfl
  | cons w ws =>
    obtain ⟨hw, hothers⟩ := List.forall_mem_cons.mp hws
    obtain ⟨mark, next, hmark, -, hnext, hread⟩ := hw.markWords_capitalize '_' (pascalCase ws)
    rw [words_eq, pascalCase, List.flatMap_cons]
    rw [markWords_pascalCase hothers hnext] at hread
    refine (congrArg (Text.pieces isBreak) hread).trans ?_
    rw [Text.pieces_append_of_sep hmark.isBreak, pieces_marked fun v hv => (hws v hv).isWord]

/-- So are words of which the first has a small letter. -/
theorem words_camelCase (hws : ∀ w ∈ ws, IsLong w) : words (camelCase ws) = ws := by
  cases ws with
  | nil => rfl
  | cons w ws =>
    obtain ⟨hw, hothers⟩ := List.forall_mem_cons.mp hws
    have hsmall : ∀ c ∈ w, c.isAsciiUpper = false := fun c hc =>
      CodePoint.isAsciiUpper_of_isNameLetter (hw.isWord.2 c hc)
    have hlast : (w.getLastD '_').isNameLetter = true := by
      obtain ⟨c, r, rfl⟩ := List.exists_cons_of_ne_nil hw.isWord.1
      rw [List.getLastD_cons]
      exact hw.last c
    rw [words_eq, camelCase, markWords_append_of_no_capital hsmall, List.flatMap_append,
      lowered_word hw.isWord.2, markWords_pascalCase hothers hlast,
      pieces_marked fun v hv => (hws v hv).isWord]

/-! ## One name -/

/-- A label with the words of a name has that name. -/
theorem canonical_of_words {label : Text} (hwords : words label = ws) (hne : ws ≠ [])
    (hlower : ∀ w ∈ ws, startsLower w = true) : canonical label = Text.join "_" ws := by
  have hsnake : snake label = Text.join "_" ws := by rw [snake, hwords]
  have hspells : Spells ws (snake label) := {
    eq_join := hsnake
    isWord := fun w hw => isWord_of_mem_words (hwords ▸ hw)
    startsLower := by
      obtain ⟨w, vs, rfl⟩ := List.exists_cons_of_ne_nil hne
      have hw := hlower w List.mem_cons_self
      rw [hsnake]
      cases w with
      | nil => cases hw
      | cons c r => cases vs <;> exact hw }
  have hsame : canonical (snake label) = canonical label := by
    rw [canonical, snake_snake]
    rfl
  rw [← hsame, hspells.canonical_eq, hsnake]

theorem IsLetters.startsLower {w : Text} (h : IsLetters w) : startsLower w = true := by
  obtain ⟨c, r, rfl⟩ := List.exists_cons_of_ne_nil h.1
  exact h.2 c List.mem_cons_self

/-- **Spellings.** Words of small letters are the canonical name of each label that spells them with
separators, in any casing. Of two letters and more, they are also that of the label that puts a
capital to each of them, or to each but the first, and nothing between them. So the type name of a
label comes back to its canonical name, if the words in this are long and none begins with a
digit. -/
theorem spellings_share_name (hne : ws ≠ []) (hws : ∀ w ∈ ws, IsLetters w) :
    (∀ label, Spelled ws label → canonical label = Text.join "_" ws) ∧
      ((∀ w ∈ ws, 2 ≤ w.length) → canonical (pascalCase ws) = Text.join "_" ws ∧
        canonical (camelCase ws) = Text.join "_" ws) ∧
      ∀ label, (∀ w ∈ words (canonical label), startsLower w = true ∧ 2 ≤ w.length) →
        snake (pascal (canonical label)) = canonical label := by
  have hlower : ∀ w ∈ ws, startsLower w = true := fun w hw => (hws w hw).startsLower
  refine ⟨fun label h => canonical_of_words (h.words_eq hws) hne hlower, fun htwo => ?_,
    fun label hlong => ?_⟩
  · have hlong : ∀ w ∈ ws, IsLong w := fun w hw => ⟨(hws w hw).isWord, hlower w hw, htwo w hw⟩
    exact ⟨canonical_of_words (words_pascalCase hlong) hne hlower,
      canonical_of_words (words_camelCase hlong) hne hlower⟩
  · have hwords : words (pascal (canonical label)) = words (canonical label) :=
      words_pascalCase fun w hw => ⟨isWord_of_mem_words hw, (hlong w hw).1, (hlong w hw).2⟩
    have hsnake := snake_canonical label
    rw [snake] at hsnake
    rw [snake, hwords, hsnake]

end

/-- Two words with signs around them, in capitals and with a capital, and with nothing between
them. -/
theorem spellings_share_name_of_signs :
    canonical "--HTTP · Server!" = Text.ofString "http_server" ∧
      canonical "HttpServer" = Text.ofString "http_server" ∧
      canonical "httpServer" = Text.ofString "http_server" ∧
      snake (pascal "http_server") = Text.ofString "http_server" := by
  have hws : ∀ w ∈ [Text.ofString "http", Text.ofString "server"], IsLetters w := by
    unfold IsLetters
    decide
  obtain ⟨hspelled, htogether, hback⟩ := spellings_share_name (List.cons_ne_nil _ _) hws
  have hserver : Spelled [Text.ofString "server"]
      (Text.ofString "" ++ (Casing.capitalized.write "server" ++ Text.ofString "!")) :=
    .last .capitalized (by decide) (by decide)
  have hlabel : Spelled [Text.ofString "http", Text.ofString "server"]
      (Text.ofString "--" ++ (Casing.capitals.write "http" ++ (Text.ofString " · " ++ _))) :=
    .more .capitals (by decide) (by decide +kernel) (by decide) hserver
  have hname : canonical "http_server" = Text.ofString "http_server" := by decide
  obtain ⟨hpascal, hcamel⟩ := htogether (by decide)
  have hlong := hback "http_server" (by decide)
  rw [hname] at hlong
  exact ⟨hspelled _ hlabel, hpascal, hcamel, hlong⟩

end Naming

end Tablewright
