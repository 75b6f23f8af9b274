/-
When two names have one type name.

The name of a type puts a capital where the canonical name puts an underscore. A digit has no
capital, so the underscore before a word that begins with a digit leaves nothing behind: `a_1` and
`a1` are both called `A1`. That is all that gets lost. `closeDigits` takes the same underscores out
of a name, `spread` puts one before every capital of a type name, and the two come to one text
(`spread_pascal`).
-/
import Tablewright.Proofs.Naming.Canonical

set_option autoImplicit false

namespace Tablewright

namespace Naming

/-! ## Definitions -/

/-- Whether a text begins with a digit. -/
def startsDigit : Text → Bool
  | c :: _ => c.isAsciiDigit
  | [] => false

/-- A text behind an underscore. -/
def marked (t : Text) : Text := '_' :: t

/-- A name without the underscores before digits. -/
def closeDigits : Text → Text
  | [] => []
  | c :: r => if c = '_' && startsDigit r then closeDigits r else c :: closeDigits r

/-- A capital as a small letter behind an underscore; every other code point as it is. -/
def spreadPoint (c : CodePoint) : Text :=
  if c.isAsciiUpper then [('_' : CodePoint), c.lower] else [c]

/-- A text with an underscore before every capital, and the capitals lowered. -/
def spread (t : Text) : Text := t.flatMap spreadPoint

/-- A text with a capital in place of every underscore and the letter after it. -/
def gather : Text → Text
  | [] => []
  | [c] => [c]
  | c :: d :: r => if c = '_' then d.capital :: gather r else c :: gather (d :: r)

/-! ## Closing digits -/

/-- A word is left as it is. -/
theorem closeDigits_append {w : Text} (hw : ∀ c ∈ w, c.isNameLetter = true) (t : Text) :
    closeDigits (w ++ t) = w ++ closeDigits t := by
  induction w with
  | nil => rfl
  | cons c r ih =>
    have hmark : c ≠ '_' := by
      rintro rfl
      exact absurd (hw _ List.mem_cons_self) (by decide)
    rw [List.cons_append, closeDigits, if_neg (by simp [hmark]),
      ih fun d hd => hw d (List.mem_cons_of_mem c hd), List.cons_append]

/-- A name without digits keeps all its underscores. -/
theorem closeDigits_of_no_digit {t : Text} (h : ∀ c ∈ t, c.isAsciiDigit = false) :
    closeDigits t = t := by
  induction t with
  | nil => rfl
  | cons c r ih =>
    have hrest : ∀ d ∈ r, d.isAsciiDigit = false := fun d hd => h d (List.mem_cons_of_mem c hd)
    have hdigit : startsDigit r = false := by
      cases r with
      | nil => rfl
      | cons d s => exact hrest d List.mem_cons_self
    rw [closeDigits, hdigit, Bool.and_false, if_neg Bool.false_ne_true, ih hrest]

/-- Only underscores are taken out. -/
theorem mem_closeDigits_iff {t : Text} {c : CodePoint} (hc : c ≠ '_') : c ∈ closeDigits t ↔ c ∈ t := by
  induction t with
  | nil => rfl
  | cons d r ih =>
    rw [closeDigits]
    split
    case isTrue hopen =>
      obtain ⟨hmark, -⟩ := Bool.and_eq_true_iff.mp hopen
      rw [ih, List.mem_cons, of_decide_eq_true hmark]
      exact (or_iff_right hc).symm
    case isFalse => rw [List.mem_cons, List.mem_cons, ih]

/-- A name that has no digits without these underscores has none of them. -/
theorem closeDigits_eq_self {t : Text} (h : ∀ c ∈ closeDigits t, c.isAsciiDigit = false) :
    closeDigits t = t :=
  closeDigits_of_no_digit fun c hc => by
    by_cases hmark : c = '_'
    · rw [hmark]
      rfl
    · exact h c ((mem_closeDigits_iff hmark).mpr hc)

/-- The underscore before a word stays unless the word begins with a digit. -/
theorem closeDigits_mark {w : Text} (hw : IsWord w) (t : Text) :
    closeDigits (marked (w ++ t))
      = (if startsDigit w then w else marked w) ++ closeDigits t := by
  have hstart : startsDigit (w ++ t) = startsDigit w := by
    obtain ⟨c, r, rfl⟩ := List.exists_cons_of_ne_nil hw.1
    rfl
  rw [marked, closeDigits, hstart, closeDigits_append hw.2]
  cases startsDigit w with
  | true => rfl
  | false => rfl

/-! ## Type names spread out -/

/-- Lowering undoes the capital of a small letter. -/
theorem lower_capital {c : CodePoint} (h : c.isAsciiLower = true) : c.capital.lower = c := by
  have hrange := CodePoint.isAsciiLower_iff.mp h
  have hupper := isAsciiUpper_capital h
  have hval : c.capital.val = c.val - 32 := by
    rw [CodePoint.capital, if_pos h, CodePoint.ofNat, dif_pos (by omega)]
  rw [CodePoint.lower, if_pos (CodePoint.isAscii_of_isAsciiUpper hupper), if_pos hupper, hval,
    CodePoint.ofNat, dif_pos (by omega)]
  have hsum : c.val - 32 + 32 = c.val := Nat.sub_add_cancel (by omega)
  simp only [hsum]

/-- A lowered capital lies so much further on. -/
theorem val_lower {c : CodePoint} (h : c.isAsciiUpper = true) : c.lower.val = c.val + 32 := by
  have hrange := CodePoint.isAsciiUpper_iff.mp h
  rw [CodePoint.lower, if_pos (CodePoint.isAscii_of_isAsciiUpper h), if_pos h, CodePoint.ofNat,
    dif_pos (by omega)]

/-- A lowered capital is a small letter. -/
theorem isAsciiLower_lower {c : CodePoint} (h : c.isAsciiUpper = true) :
    c.lower.isAsciiLower = true := by
  have hrange := CodePoint.isAsciiUpper_iff.mp h
  rw [CodePoint.isAsciiLower_iff, val_lower h]
  omega

/-- A lowered capital has itself for its capital. -/
theorem capital_lower {c : CodePoint} (h : c.isAsciiUpper = true) : c.lower.capital = c := by
  have hrange := CodePoint.isAsciiUpper_iff.mp h
  rw [CodePoint.capital, if_pos (isAsciiLower_lower h), val_lower h, CodePoint.ofNat,
    dif_pos (by omega)]
  simp only [Nat.add_sub_cancel]

theorem spread_cons (c : CodePoint) (r : Text) : spread (c :: r) = spreadPoint c ++ spread r :=
  List.flatMap_cons ..

/-- Nothing is put into a text without capitals. -/
theorem spread_of_no_capital {t : Text} (h : ∀ c ∈ t, c.isAsciiUpper = false) : spread t = t := by
  induction t with
  | nil => rfl
  | cons c r ih =>
    rw [spread_cons, spreadPoint, h c List.mem_cons_self, if_neg Bool.false_ne_true,
      ih fun d hd => h d (List.mem_cons_of_mem c hd), List.singleton_append]

/-- A word with a capital comes to the word behind an underscore. One that begins with a digit has
no capital. -/
theorem spread_capitalize {w : Text} (hw : IsWord w) :
    spread (Text.capitalize w) = if startsDigit w then w else marked w := by
  obtain ⟨c, r, rfl⟩ := List.exists_cons_of_ne_nil hw.1
  have hletter : c.isNameLetter = true := hw.2 c List.mem_cons_self
  have hrest : spread r = r := spread_of_no_capital fun d hd =>
    CodePoint.isAsciiUpper_of_isNameLetter (hw.2 d (List.mem_cons_of_mem c hd))
  rw [Text.capitalize, spread_cons, spreadPoint, hrest]
  by_cases hlower : c.isAsciiLower = true
  · have hdigit : startsDigit (c :: r) = false := CodePoint.isAsciiDigit_of_isAsciiLower hlower
    rw [if_pos (isAsciiUpper_capital hlower), lower_capital hlower, hdigit,
      if_neg Bool.false_ne_true]
    rfl
  · have hfirst : c.isAsciiDigit = true := by
      simpa [CodePoint.isNameLetter, hlower] using hletter
    have hdigit : startsDigit (c :: r) = true := hfirst
    have hcapital : c.capital = c := by rw [CodePoint.capital, if_neg hlower]
    rw [hcapital, CodePoint.isAsciiUpper_of_isNameLetter hletter, if_neg Bool.false_ne_true, hdigit,
      if_pos rfl]
    rfl

/-- Words behind underscores, with those before digits left out, are the type name of the words
spread out. -/
theorem closeDigits_marked {ws : List Text} (hws : ∀ w ∈ ws, IsWord w) :
    closeDigits (ws.flatMap marked) = spread (ws.flatMap Text.capitalize) := by
  induction ws with
  | nil => rfl
  | cons w ws ih =>
    have hw := hws w List.mem_cons_self
    have hmarked : marked w ++ ws.flatMap marked = marked (w ++ ws.flatMap marked) := rfl
    rw [List.flatMap_cons, List.flatMap_cons, hmarked, closeDigits_mark hw,
      ih fun v hv => hws v (List.mem_cons_of_mem w hv), ← spread_capitalize hw]
    exact (List.flatMap_append ..).symm

/-- Joined words stand behind underscores once there is one before the first, too. -/
theorem cons_join {w : Text} {ws : List Text} :
    marked (Text.join "_" (w :: ws)) = (w :: ws).flatMap marked :=
  Text.cons_join_cons '_' w ws

/-- **Spreading a type name out.** What comes of the type name of a label is the canonical name
without the underscores before digits, behind an underscore of its own. -/
theorem spread_pascal (label : Text) :
    spread (pascal (canonical label)) = marked (closeDigits (canonical label)) := by
  obtain ⟨ws, h⟩ := exists_spells_canonical label
  have hlower := h.startsLower
  obtain ⟨w, ws, rfl⟩ : ∃ v vs, ws = v :: vs := by
    refine List.exists_cons_of_ne_nil ?_
    rintro rfl
    rw [h.eq_join] at hlower
    cases hlower
  -- the name begins with a small letter, so an underscore put before it stays
  have hdigit : startsDigit (canonical label) = false := by
    cases hname : canonical label with
    | nil => rfl
    | cons c r =>
      rw [hname] at hlower
      exact CodePoint.isAsciiDigit_of_isAsciiLower hlower
  have hmarked : closeDigits (marked (canonical label))
      = marked (closeDigits (canonical label)) := by
    rw [marked, closeDigits, hdigit, Bool.and_false, if_neg Bool.false_ne_true, marked]
  rw [← hmarked, h.eq_join, cons_join, closeDigits_marked h.isWord, ← h.eq_join, pascal, h.words_eq]

/-! ## Type names of two labels -/

/-- Gathering undoes spreading. -/
theorem gather_spread {t : Text} (h : ∀ c ∈ t, c ≠ '_') : gather (spread t) = t := by
  induction t with
  | nil => rfl
  | cons c r ih =>
    have hrest := ih fun d hd => h d (List.mem_cons_of_mem c hd)
    rw [spread_cons, spreadPoint]
    by_cases hupper : c.isAsciiUpper = true
    · rw [if_pos hupper]
      change c.lower.capital :: gather (spread r) = c :: r
      rw [capital_lower hupper, hrest]
    · rw [if_neg hupper, List.singleton_append]
      cases hr : spread r with
      | nil =>
        rw [hr] at hrest
        rw [gather, ← hrest]
        rfl
      | cons d s => rw [gather, if_neg (h c List.mem_cons_self), ← hr, hrest]

/-- A type name holds no underscore. -/
theorem ne_mark_of_mem_pascal {label : Text} {c : CodePoint} (h : c ∈ pascal label) : c ≠ '_' := by
  rintro rfl
  rcases mem_pascal h with hletter | hupper
  · exact absurd hletter (by decide)
  · exact absurd hupper (by decide)

/-- **Type names.** Two labels have one type name exactly when their canonical names differ in
nothing but underscores before digits. -/
theorem pascal_canonical_eq_iff (a b : Text) :
    pascal (canonical a) = pascal (canonical b) ↔
      closeDigits (canonical a) = closeDigits (canonical b) := by
  constructor
  · intro h
    have hspread := congrArg spread h
    rw [spread_pascal, spread_pascal] at hspread
    exact (List.cons.inj hspread).2
  · intro h
    have hspread : spread (pascal (canonical a)) = spread (pascal (canonical b)) := by
      rw [spread_pascal, spread_pascal, h]
    have hgather (label : Text) : gather (spread (pascal label)) = pascal label :=
      gather_spread fun c hc => ne_mark_of_mem_pascal hc
    rw [← hgather (canonical a), hspread, hgather]

end Naming

end Tablewright
