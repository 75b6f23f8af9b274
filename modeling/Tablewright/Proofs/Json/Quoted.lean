/-
Quoted texts are read back.

Inside quotes the writer gives every code point a form of its own, of one of four kinds (`IsForm`),
and the reader makes of each form the code point again and goes on behind it (`textRest_form`). Two
things can only be read with what stands around them: an escape by number is complete when the text
goes on behind its digits, which the closing quote sees to, and two escapes that make a surrogate
pair are one code point. So a quoted text is read as the text with its surrogate pairs joined
(`text_quotedTail`), which is the text itself unless it holds such a pair (`joined_eq_self_iff`).
-/
import Mathlib.Data.List.Chain
import Mathlib.Tactic.SplitIfs
import Tablewright.Json.Reader
import Tablewright.Json.Writer
import Tablewright.Proofs.Action
import Tablewright.Proofs.Text.Numeral
import Tablewright.Proofs.Text.Utf8

set_option autoImplicit false

namespace Tablewright

/-! ## Surrogate pairs -/

/-- The surrogates that come first in a pair. -/
def CodePoint.isHighSurrogate (c : CodePoint) : Bool := 0xD800 ≤ c.val && c.val < 0xDC00

/-- The surrogates that come second in a pair. -/
def CodePoint.isLowSurrogate (c : CodePoint) : Bool := 0xDC00 ≤ c.val && c.val < 0xE000

theorem CodePoint.isHighSurrogate_iff {c : CodePoint} :
    c.isHighSurrogate = true ↔ 0xD800 ≤ c.val ∧ c.val < 0xDC00 := by
  rw [isHighSurrogate, Bool.and_eq_true, decide_eq_true_eq, decide_eq_true_eq]

theorem CodePoint.isLowSurrogate_iff {c : CodePoint} :
    c.isLowSurrogate = true ↔ 0xDC00 ≤ c.val ∧ c.val < 0xE000 := by
  rw [isLowSurrogate, Bool.and_eq_true, decide_eq_true_eq, decide_eq_true_eq]

namespace Text

/-- A text with each surrogate pair joined to the code point it stands for. -/
def joined : Text → Text
  | [] => []
  | [c] => [c]
  | c :: e :: t =>
    if c.isHighSurrogate && e.isLowSurrogate then
      CodePoint.ofNat (JsonReader.joinSurrogates c.val e.val) :: joined t
    else c :: joined (e :: t)

/-- A text in which no surrogate pair stands. -/
def IsPairless (t : Text) : Prop :=
  t.IsChain fun c e => (c.isHighSurrogate && e.isLowSurrogate) = false

instance (t : Text) : Decidable t.IsPairless :=
  inferInstanceAs (Decidable (List.IsChain _ t))

theorem length_joined_le (t : Text) : t.joined.length ≤ t.length := by
  fun_induction joined t with
  | case1 => exact Nat.le_refl 0
  | case2 => exact Nat.le_refl 1
  | case3 c e t hpair ih =>
    rw [List.length_cons, List.length_cons, List.length_cons]
    omega
  | case4 c e t hpair ih => exact Nat.succ_le_succ ih

/-- Joining leaves exactly those texts alone that hold no pair. -/
theorem joined_eq_self_iff {t : Text} : t.joined = t ↔ t.IsPairless := by
  fun_induction joined t with
  | case1 => exact iff_of_true rfl .nil
  | case2 c => exact iff_of_true rfl (.singleton c)
  | case3 c e t hpair ih =>
    -- a joined pair makes the text shorter
    refine iff_of_false (fun heq => ?_) fun h => ?_
    · have hlength := congrArg List.length heq
      have hle := length_joined_le t
      rw [List.length_cons, List.length_cons, List.length_cons] at hlength
      omega
    · rw [IsPairless, List.isChain_cons_cons, hpair] at h
      exact Bool.noConfusion h.1
  | case4 c e t hpair ih =>
    rw [List.cons_inj_right, ih, IsPairless, IsPairless, List.isChain_cons_cons]
    exact ⟨fun h => ⟨Bool.eq_false_iff.mpr hpair, h⟩, fun h => h.2⟩

/-- A text that has an encoding holds no surrogate, and so no pair. -/
theorem HasEncoding.isPairless {t : Text} (ht : t.HasEncoding) : t.IsPairless := by
  rw [hasEncoding_iff] at ht
  refine List.isChain_iff_forall_rel_of_append_cons_cons.mpr fun c e before after heq => ?_
  subst heq
  have hc := ht c (by simp)
  cases hhigh : c.isHighSurrogate with
  | false => rfl
  | true =>
    rw [CodePoint.isHighSurrogate_iff] at hhigh
    simp [CodePoint.isSurrogate] at hc
    omega

theorem HasEncoding.joined_eq {t : Text} (ht : t.HasEncoding) : t.joined = t :=
  joined_eq_self_iff.mpr ht.isPairless

end Text

namespace JsonReader

open JsonWriter (escaped unitEscape quoted)

variable {opening fuel n : Nat} {t r s left : Text} {c e : CodePoint}

/-! ## Escapes by number -/

/-- The digits of a number of 16 bits are read as the number. -/
theorem hex4?_hex (h : n < 0x10000) (r : Text) :
    hex4? (Text.hex 4 n ++ r) = some (n, r) := by
  rw [Text.hex_four h]
  simp only [List.cons_append, List.nil_append, hex4?]
  rw [Text.hexValue?_hexDigit _ (by omega), Text.hexValue?_hexDigit _ (by omega),
    Text.hexValue?_hexDigit _ (by omega), Text.hexValue?_hexDigit _ (by omega)]
  have hn : ((n / 16 / 16 / 16 * 16 + n / 16 / 16 % 16) * 16 + n / 16 % 16) * 16 + n % 16 = n := by
    omega
  simp only [Option.pure_def, Option.bind_eq_bind, Option.bind_some, hn]

/-- What follows is no second half of a pair: either it is no escape by number, or one whose number
is no low surrogate. -/
def StandsApart (r : Text) : Prop :=
  ∀ s, r = CodePoint.ofChar '\\' :: CodePoint.ofChar 'u' :: s →
    ∃ m left, hex4? s = some (m, left) ∧ ¬ (0xDC00 ≤ m ∧ m < 0xE000)

/-- The number of a code point is read as the code point, unless it is a high surrogate and what
follows makes a pair with it. -/
theorem numberEscape_hex (h : n < 0x10000) (hhigh : 0xD800 ≤ n ∧ n < 0xDC00 → StandsApart r)
    (hr : r ≠ []) : numberEscape (Text.hex 4 n ++ r) = .ok (CodePoint.ofNat n, r) := by
  obtain ⟨c, r, rfl⟩ := List.exists_cons_of_ne_nil hr
  rw [numberEscape, hex4?_hex h]
  simp only [Bool.and_eq_true, decide_eq_true_eq]
  split
  case isFalse => rfl
  case isTrue hn =>
    cases r with
    | nil => rfl
    | cons e s =>
      dsimp only
      split
      case isFalse => rfl
      case isTrue hescape =>
        obtain ⟨⟨rfl, rfl⟩, -⟩ := hescape
        obtain ⟨m, left, hread, hm⟩ := hhigh hn s rfl
        rw [hread]
        dsimp only
        rw [if_neg hm]

/-- An escape by number is a backslash, a letter and the digits. -/
theorem unitEscape_append (n : Nat) (r : Text) :
    unitEscape n ++ r
      = CodePoint.ofChar '\\' :: CodePoint.ofChar 'u' :: (Text.hex 4 n ++ r) := rfl

/-- The numbers of a surrogate pair are read as the code point they stand for. -/
theorem numberEscape_pair (high low : Nat) (hhigh : 0xD800 ≤ high ∧ high < 0xDC00)
    (hlow : 0xDC00 ≤ low ∧ low < 0xE000) (hr : r ≠ []) :
    numberEscape (Text.hex 4 high ++ (unitEscape low ++ r))
      = .ok (CodePoint.ofNat (joinSurrogates high low), r) := by
  have hdigits : 4 < (Text.hex 4 low ++ r).length := by
    have hlength := List.length_pos_iff.mpr hr
    rw [Text.hex_four (by omega), List.length_append]
    simp only [List.length_cons, List.length_nil]
    omega
  rw [unitEscape_append, numberEscape, hex4?_hex (by omega)]
  simp only [Bool.and_eq_true, decide_eq_true_eq, if_pos hhigh, hdigits, hex4?_hex
    (show low < 0x10000 by omega), if_pos hlow, and_self, if_true]

/-- The pair of a code point beyond 16 bits stands for the code point. -/
theorem joinSurrogates_split (h : 0x10000 ≤ n) :
    joinSurrogates (0xD800 + (n - 0x10000) / 0x400) (0xDC00 + (n - 0x10000) % 0x400) = n := by
  obtain ⟨m, rfl⟩ := Nat.exists_eq_add_of_le h
  unfold joinSurrogates
  omega

/-! ## Forms -/

/-- The four kinds of form a code point is written in. -/
inductive IsForm (c : CodePoint) : Text → Prop
  /-- A letter behind a backslash that stands for it. -/
  | letter {e : CodePoint} (he : e ≠ 'u') (hc : simpleEscape? e = some c) :
      IsForm c [CodePoint.ofChar '\\', e]
  /-- The code point itself. -/
  | plain (hquote : c ≠ '"') (hslash : c ≠ '\\') (hcontrol : 32 ≤ c.val) : IsForm c [c]
  /-- Its number. -/
  | unit (hunit : c.val < 0x10000) : IsForm c (unitEscape c.val)
  /-- The numbers of a surrogate pair. -/
  | pair (hunit : 0x10000 ≤ c.val) :
      IsForm c (unitEscape (0xD800 + (c.val - 0x10000) / 0x400)
        ++ unitEscape (0xDC00 + (c.val - 0x10000) % 0x400))

/-- Every code point is written in one of its forms. -/
theorem isForm_escaped (c : CodePoint) : IsForm c (escaped c) := by
  have hsmall : ∀ n, c.val = n → CodePoint.ofNat n = c := by
    rintro n rfl
    exact c.ofNat_val
  rw [escaped]
  split_ifs with hquote hslash hline hreturn htab hfeed hback hprintable hunit
  · exact .letter (e := '"') (by decide) (hquote.symm ▸ rfl)
  · exact .letter (e := '\\') (by decide) (hslash.symm ▸ rfl)
  · exact .letter (e := 'n') (by decide) (hline.symm ▸ rfl)
  · exact .letter (e := 'r') (by decide) (hreturn.symm ▸ rfl)
  · exact .letter (e := 't') (by decide) (htab.symm ▸ rfl)
  · exact .letter (e := 'f') (by decide) (congrArg some (hsmall 12 hfeed))
  · exact .letter (e := 'b') (by decide) (congrArg some (hsmall 8 hback))
  · exact .plain hquote hslash (of_decide_eq_true (Bool.and_eq_true_iff.mp hprintable).1)
  · exact .unit hunit
  · exact .pair (Nat.le_of_not_lt hunit)

/-- No form is empty. -/
theorem IsForm.ne_nil {form : Text} (h : IsForm c form) : form ≠ [] := by
  cases h <;> exact List.cons_ne_nil _ _

/-- The form of a code point that is no low surrogate completes no pair. -/
theorem IsForm.standsApart {form : Text} (h : IsForm c form) (hc : c.isLowSurrogate = false) :
    StandsApart (form ++ r) := by
  have hlow : ¬ (0xDC00 ≤ c.val ∧ c.val < 0xE000) := by
    rw [← CodePoint.isLowSurrogate_iff, hc]
    exact Bool.false_ne_true
  intro s hs
  cases h with
  | letter he _ =>
    injection hs with _ hs
    injection hs with hletter _
    exact absurd hletter he
  | plain _ hslash _ =>
    injection hs with hfirst _
    exact absurd hfirst hslash
  | unit hunit =>
    rw [unitEscape_append] at hs
    injection hs with _ hs
    injection hs with _ hs
    exact ⟨c.val, r, hs ▸ hex4?_hex hunit r, hlow⟩
  | pair hunit =>
    -- what comes first is a high surrogate
    have hlt := c.val_lt
    rw [List.append_assoc, unitEscape_append] at hs
    injection hs with _ hs
    injection hs with _ hs
    exact ⟨_, _, hs ▸ hex4?_hex (by omega) _, by omega⟩

/-- The closing quote completes no pair. -/
theorem standsApart_quote : StandsApart (CodePoint.ofChar '"' :: r) := by
  intro s hs
  injection hs with hquote _
  exact absurd hquote (by decide)

/-! ## Texts -/

/-- A letter behind a backslash is read as what it stands for. -/
theorem textRest_letter (he : e ≠ 'u') (hc : simpleEscape? e = some c)
    (h : textRest opening fuel r = .ok (s, left)) :
    textRest opening (fuel + 1) ('\\' :: e :: r) = .ok (c :: s, left) := by
  rw [textRest, if_neg (by decide), if_pos rfl]
  dsimp only
  rw [if_neg he, hc]
  dsimp only
  rw [h]
  rfl

/-- An escape by number is read as what its numbers stand for. -/
theorem textRest_number {digits : Text} (hc : numberEscape digits = .ok (c, r))
    (h : textRest opening fuel r = .ok (s, left)) :
    textRest opening (fuel + 1) ('\\' :: 'u' :: digits) = .ok (c :: s, left) := by
  rw [textRest, if_neg (by decide), if_pos rfl]
  dsimp only
  rw [if_pos rfl, hc]
  simp only [bind, Except.bind]
  rw [h]
  rfl

/-- What is neither a quote nor a backslash nor a control character stands for itself. -/
theorem textRest_plain (hquote : c ≠ '"') (hslash : c ≠ '\\') (hcontrol : 32 ≤ c.val)
    (h : textRest opening fuel r = .ok (s, left)) :
    textRest opening (fuel + 1) (c :: r) = .ok (c :: s, left) := by
  rw [textRest.eq_def]
  dsimp only
  rw [if_neg hquote, if_neg hslash, if_neg (Nat.not_lt.mpr hcontrol), h]
  rfl

/-- A form of a code point that makes no pair with what follows is read as the code point, and
reading goes on behind it. -/
theorem textRest_form {form : Text} (hform : IsForm c form)
    (hc : c.isHighSurrogate = true → StandsApart r) (hr : r ≠ [])
    (h : textRest opening fuel r = .ok (s, left)) :
    textRest opening (fuel + 1) (form ++ r) = .ok (c :: s, left) := by
  cases hform with
  | letter he hc => exact textRest_letter he hc h
  | plain hquote hslash hcontrol => exact textRest_plain hquote hslash hcontrol h
  | unit hunit =>
    have hnumber := numberEscape_hex hunit (fun hn => hc (CodePoint.isHighSurrogate_iff.mpr hn)) hr
    rw [c.ofNat_val] at hnumber
    rw [unitEscape_append]
    exact textRest_number hnumber h
  | pair hunit =>
    have hlt := c.val_lt
    have hpair := numberEscape_pair (0xD800 + (c.val - 0x10000) / 0x400)
      (0xDC00 + (c.val - 0x10000) % 0x400) (by omega) (by omega) hr
    rw [joinSurrogates_split hunit, c.ofNat_val] at hpair
    rw [List.append_assoc, unitEscape_append]
    exact textRest_number hpair h

/-- Surrogates are written by their numbers. -/
theorem escaped_of_surrogate (h : 0xD800 ≤ c.val ∧ c.val < 0xE000) :
    escaped c = unitEscape c.val := by
  have hne : ∀ a : Char, a.toNat < 128 → ¬ c = a := by
    rintro a ha rfl
    have hval : (CodePoint.ofChar a).val = a.toNat := rfl
    omega
  rw [escaped, if_neg (hne _ (by decide)), if_neg (hne _ (by decide)), if_neg (hne _ (by decide)),
    if_neg (hne _ (by decide)), if_neg (hne _ (by decide)), if_neg (by omega), if_neg (by omega),
    if_neg (by simp; omega), if_pos (by omega)]

/-- What is written of a text, up to the closing quote and beyond. -/
def quotedTail (t r : Text) : Text := t.flatMap escaped ++ CodePoint.ofChar '"' :: r

theorem quotedTail_cons (c : CodePoint) (t r : Text) :
    quotedTail (c :: t) r = escaped c ++ quotedTail t r := by
  rw [quotedTail, List.flatMap_cons, List.append_assoc, quotedTail]

theorem quotedTail_ne_nil (t r : Text) : quotedTail t r ≠ [] :=
  List.append_ne_nil_of_right_ne_nil _ (List.cons_ne_nil _ _)

/-- The forms of the code points of a text, up to the closing quote, are read as the text with its
pairs joined. -/
theorem textRest_quotedTail (hfuel : t.length < fuel) (r : Text) :
    textRest opening fuel (quotedTail t r) = .ok (t.joined, r) := by
  fun_induction Text.joined t generalizing fuel with
  | case1 =>
    obtain ⟨fuel, rfl⟩ := Nat.exists_eq_add_one.mpr hfuel
    rw [quotedTail, List.flatMap_nil, List.nil_append, textRest.eq_def]
    exact if_pos rfl
  | case2 c =>
    obtain ⟨fuel, rfl⟩ := Nat.exists_eq_add_one.mpr (Nat.zero_lt_of_lt hfuel)
    have hend : textRest opening fuel (quotedTail [] r) = .ok ([], r) := by
      obtain ⟨fuel, rfl⟩ := Nat.exists_eq_add_one.mpr (Nat.lt_of_succ_lt_succ hfuel)
      rw [quotedTail, List.flatMap_nil, List.nil_append, textRest.eq_def]
      exact if_pos rfl
    rw [quotedTail_cons]
    exact textRest_form (isForm_escaped c) (fun _ => standsApart_quote) (quotedTail_ne_nil [] r) hend
  | case3 c e t hpair ih =>
    obtain ⟨fuel, rfl⟩ := Nat.exists_eq_add_one.mpr (Nat.zero_lt_of_lt hfuel)
    obtain ⟨hhigh, hlow⟩ := Bool.and_eq_true_iff.mp hpair
    rw [CodePoint.isHighSurrogate_iff] at hhigh
    rw [CodePoint.isLowSurrogate_iff] at hlow
    have hrest := ih (Nat.lt_of_succ_lt (Nat.lt_of_succ_lt_succ hfuel))
    rw [quotedTail_cons, quotedTail_cons, escaped_of_surrogate (by omega),
      escaped_of_surrogate (by omega), unitEscape_append]
    exact textRest_number (numberEscape_pair c.val e.val hhigh hlow (quotedTail_ne_nil t r)) hrest
  | case4 c e t hpair ih =>
    obtain ⟨fuel, rfl⟩ := Nat.exists_eq_add_one.mpr (Nat.zero_lt_of_lt hfuel)
    have hrest := ih (Nat.lt_of_succ_lt_succ hfuel)
    rw [quotedTail_cons]
    refine textRest_form (isForm_escaped c) (fun hhigh => ?_) (quotedTail_ne_nil _ r) hrest
    rw [quotedTail_cons]
    refine (isForm_escaped e).standsApart (Bool.eq_false_iff.mpr fun hlow => hpair ?_)
    rw [hhigh, hlow]
    rfl

/-- The forms of a text are at least as long as the text. -/
theorem length_le_flatMap_escaped (t : Text) : t.length ≤ (t.flatMap escaped).length := by
  induction t with
  | nil => exact Nat.le_refl 0
  | cons c t ih =>
    have hform := List.length_pos_iff.mpr (isForm_escaped c).ne_nil
    rw [List.flatMap_cons, List.length_append, List.length_cons]
    omega

/-- **Quoted texts.** Behind its opening quote a quoted text is read as the text with its surrogate
pairs joined. -/
theorem text_quotedTail (t r : Text) : text (quotedTail t r) = .ok (t.joined, r) := by
  have hlength := length_le_flatMap_escaped t
  refine textRest_quotedTail ?_ r
  rw [quotedTail, List.length_append, List.length_cons]
  omega

/-- A quoted text begins with a quote. -/
theorem quoted_append (t r : Text) :
    quoted t ++ r = CodePoint.ofChar '"' :: quotedTail t r := by
  rw [quoted, List.append_assoc, List.append_assoc]
  rfl

end JsonReader

end Tablewright
