/-
What is encoded is read back.

Encoding a text and reading the bytes gives the text again (`Bytes.text?_of_utf8?`), so a file that
was written holds exactly one text. The other way round a text that was read has the bytes it was
read from as its encoding (`Bytes.utf8?_of_text?`), since reading accepts encodings only. A text
without an encoding holds a surrogate, and a text that is made of characters holds none.

The system is given texts in its own way: a surrogate may stand for a single byte, and a null byte has
no place. `Text.IsPassable` says which texts it can be given. As names it keeps them by their bytes, so
two texts with the same bytes are one name (`Text.stored_eq_stored_iff`), and a name that was given back
is given back again (`Text.stored_stored`).
-/
import Mathlib.Data.List.TakeWhile
import Tablewright.Failure.Refusal

set_option autoImplicit false

namespace Tablewright

/-! ## Texts without an encoding -/

/-- A code point has no encoding exactly when it is a surrogate. -/
theorem CodePoint.utf8?_eq_none_iff (c : CodePoint) : c.utf8? = none ↔ c.isSurrogate = true := by
  rw [utf8?]
  -- the two short forms end below the surrogates
  split
  case isTrue hsmall =>
    simp [isSurrogate]
    omega
  case isFalse =>
    split
    case isTrue hsmall =>
      simp [isSurrogate]
      omega
    case isFalse =>
      split
      case isTrue hs => simp [hs]
      case isFalse hs => split <;> simp [hs]

/-- A text has no encoding exactly when it holds a surrogate. -/
theorem Text.utf8?_eq_none_iff (t : Text) :
    t.utf8? = none ↔ ∃ c ∈ t, c.isSurrogate = true := by
  induction t with
  | nil => simp [utf8?]
  | cons c r ih =>
    simp only [List.mem_cons, exists_eq_or_imp]
    rw [utf8?, ← ih, ← c.utf8?_eq_none_iff]
    cases c.utf8? with
    | none => simp
    | some b =>
      cases utf8? r with
      | none => simp
      | some bs => simp

/-- A text that has an encoding. -/
def Text.HasEncoding (t : Text) : Prop := t.utf8?.isSome = true

instance (t : Text) : Decidable t.HasEncoding := inferInstanceAs (Decidable (_ = true))

namespace Text

/-- A text has an encoding exactly when it holds no surrogate. -/
theorem hasEncoding_iff {t : Text} : t.HasEncoding ↔ ∀ c ∈ t, c.isSurrogate = false := by
  rw [HasEncoding, Option.isSome_iff_ne_none, ne_eq, utf8?_eq_none_iff]
  simp

/-- The test for surrogates tells whether a text has an encoding. -/
theorem isEncodable_iff {t : Text} : t.isEncodable = true ↔ t.HasEncoding := by
  rw [hasEncoding_iff, isEncodable, List.all_eq_true]
  simp only [Bool.not_eq_true']

@[simp] theorem hasEncoding_nil : HasEncoding [] := rfl

@[simp] theorem hasEncoding_append {t u : Text} :
    (t ++ u).HasEncoding ↔ t.HasEncoding ∧ u.HasEncoding := by
  rw [hasEncoding_iff, hasEncoding_iff, hasEncoding_iff, List.forall_mem_append]

/-- No character of core is a surrogate. -/
@[simp] theorem hasEncoding_ofString (s : String) : HasEncoding (ofString s) := by
  rw [hasEncoding_iff]
  intro c hc
  obtain ⟨a, -, rfl⟩ := List.mem_map.mp hc
  have hvalid : a.toNat < 0xD800 ∨ 0xDFFF < a.toNat ∧ a.toNat < 0x110000 := a.valid
  rw [Bool.eq_false_iff]
  intro hs
  obtain ⟨hlow, hhigh⟩ := Bool.and_eq_true_iff.mp hs
  have hfrom : 0xD800 ≤ a.toNat := of_decide_eq_true hlow
  have hto : a.toNat < 0xE000 := of_decide_eq_true hhigh
  omega

/-- What is joined has an encoding when the parts and what joins them have one. -/
theorem HasEncoding.join {sep : Text} {ts : List Text} (hsep : sep.HasEncoding)
    (hts : ∀ t ∈ ts, t.HasEncoding) : (join sep ts).HasEncoding := by
  induction ts with
  | nil => exact hasEncoding_nil
  | cons t ts ih =>
    have ht := hts t List.mem_cons_self
    cases ts with
    | nil => exact ht
    | cons u r =>
      rw [Text.join, hasEncoding_append, hasEncoding_append]
      exact ⟨⟨ht, hsep⟩, ih fun x hx => hts x (List.mem_cons_of_mem t hx)⟩

/-- Lines that have encodings have one together. -/
theorem HasEncoding.unlines {lines : List Text} (h : ∀ line ∈ lines, line.HasEncoding) :
    (unlines lines).HasEncoding :=
  HasEncoding.join (hasEncoding_ofString "\n") h

end Text

/-! ## Texts that are handed to the system -/

/-- A text the system can be given: every code point has bytes there, and none is the null byte. -/
def Text.IsPassable (t : Text) : Prop := ∀ c ∈ t, c.val ≠ 0 ∧ c.hasSystemBytes = true

instance (t : Text) : Decidable t.IsPassable := by
  unfold Text.IsPassable
  infer_instance

/-- Nothing is wrong with a text exactly when the system can be given it, wherever it begins. -/
theorem Text.handoverFlaw?_eq_none_iff {offset : Nat} {t : Text} :
    t.handoverFlaw? offset = none ↔ t.IsPassable := by
  rw [handoverFlaw?, IsPassable]
  cases hbad : t.dropWhile CodePoint.hasSystemBytes with
  | nil =>
    have hbytes : ∀ c ∈ t, c.hasSystemBytes = true := List.dropWhile_eq_nil_iff.mp hbad
    simp only [List.any_eq_true, decide_eq_true_eq, ite_eq_right_iff, reduceCtorEq, imp_false,
      not_exists, not_and]
    exact forall₂_congr fun c hc => (and_iff_left (hbytes c hc)).symm
  | cons c r =>
    refine iff_of_false (by simp) fun h => ?_
    have hmem : c ∈ t := (List.dropWhile_suffix _).subset (hbad ▸ List.mem_cons_self)
    have hhead := @List.head_dropWhile_not _ CodePoint.hasSystemBytes t (by simp [hbad])
    simp only [hbad, List.head_cons] at hhead
    rw [(h c hmem).2] at hhead
    cases hhead

/-- The system can be given what is joined exactly when it can be given the parts. -/
theorem Text.isPassable_join_iff {sep : Text} {ts : List Text} (hsep : sep.IsPassable) :
    (join sep ts).IsPassable ↔ ∀ t ∈ ts, t.IsPassable := by
  induction ts with
  | nil => exact iff_of_true (List.forall_mem_nil _) (List.forall_mem_nil _)
  | cons t ts ih =>
    rw [List.forall_mem_cons]
    cases ts with
    | nil => exact (and_iff_left (List.forall_mem_nil _)).symm
    | cons u r =>
      rw [← ih, join, IsPassable, List.forall_mem_append, List.forall_mem_append]
      exact and_congr_left fun _ => and_iff_left hsep

theorem Text.isSound_iff {t : Text} : t.isSound = true ↔ t.IsPassable := by
  rw [isSound, Option.isNone_iff_eq_none, handoverFlaw?_eq_none_iff]

/-! ## Reading back -/

/-- A code point is the one with its number. -/
theorem CodePoint.ofNat_val (c : CodePoint) : ofNat c.val = c := by
  rw [ofNat, dif_pos c.val_lt]

/-- A byte made of a number below 256 is that number. -/
theorem toNat_byte {n : Nat} (h : n < 0x100) : (UInt8.ofNat n).toNat = n := by
  rw [UInt8.toNat_ofNat']
  omega

/-- A continuation byte carries the lowest six bits of its number. -/
theorem continuationBits?_continuation (n : Nat) :
    continuationBits? (continuation n) = some (n % 0x40) := by
  have hbyte : (continuation n).toNat = 0x80 + n % 0x40 := toNat_byte (by omega)
  rw [continuationBits?, hbyte]
  have hrange : (decide (0x80 ≤ 0x80 + n % 0x40) && decide (0x80 + n % 0x40 < 0xC0)) = true := by
    simp
    omega
  rw [if_pos hrange, Nat.add_sub_cancel_left]

/-- Four bytes of which the last three carry six bits each are read as one code point. -/
theorem Bytes.text?_four {b b₁ b₂ b₃ : UInt8} {x y z n : Nat} (hb : 0xF0 ≤ b.toNat)
    (hlast : b.toNat < 0xF5) (h₁ : continuationBits? b₁ = some x)
    (h₂ : continuationBits? b₂ = some y) (h₃ : continuationBits? b₃ = some z)
    (hval : (b.toNat - 0xF0) * 0x40000 + x * 0x1000 + y * 0x40 + z = n) (hlong : 0x10000 ≤ n)
    (hlt : n < 0x110000) (s : Bytes) :
    Bytes.text? (b :: b₁ :: b₂ :: b₃ :: s) = (Bytes.text? s).map (CodePoint.ofNat n :: ·) := by
  rw [text?, if_neg (by omega), if_neg (by omega), if_neg (by omega), if_neg (by omega),
    if_pos (by omega)]
  dsimp only
  rw [h₁, h₂, h₃, Option.bind_eq_bind, Option.bind_some, Option.bind_eq_bind, Option.bind_some,
    Option.bind_eq_bind, Option.bind_some]
  have hfits : ¬ (decide (n < 0x10000) || decide (0x10FFFF < n)) = true := by
    simp
    omega
  subst hval
  rw [if_neg hfits]
  cases Bytes.text? s <;> rfl

/-- Reading begins with the code point whose encoding stands first. -/
theorem Bytes.text?_append {c : CodePoint} {b : Bytes} (h : c.utf8? = some b) (s : Bytes) :
    Bytes.text? (b ++ s) = (Bytes.text? s).map (c :: ·) := by
  have hlt := c.val_lt
  rw [CodePoint.utf8?] at h
  split at h
  case isTrue hone =>
    obtain rfl := Option.some.inj h
    have hbyte : (UInt8.ofNat c.val).toNat = c.val := toNat_byte (by omega)
    rw [List.cons_append, List.nil_append, text?.eq_def]
    simp only [hbyte, if_pos hone, CodePoint.ofNat_val]
  case isFalse hone =>
    split at h
    case isTrue htwo =>
      obtain rfl := Option.some.inj h
      have hbyte : (UInt8.ofNat (0xC0 + c.val / 0x40)).toNat = 0xC0 + c.val / 0x40 :=
        toNat_byte (by omega)
      have hval : (0xC0 + c.val / 0x40 - 0xC0) * 0x40 + c.val % 0x40 = c.val := by omega
      rw [List.cons_append, List.cons_append, List.nil_append, text?]
      simp only [hbyte]
      rw [if_neg (by omega), if_neg (by omega), if_pos (by omega)]
      simp only [continuationBits?_continuation, Option.bind_eq_bind, Option.bind_some, hval,
        CodePoint.ofNat_val]
      cases Bytes.text? s <;> rfl
    case isFalse htwo =>
      split at h
      case isTrue => cases h
      case isFalse hsurrogate =>
        split at h
        case isTrue hthree =>
          obtain rfl := Option.some.inj h
          have hbyte : (UInt8.ofNat (0xE0 + c.val / 0x1000)).toNat = 0xE0 + c.val / 0x1000 :=
            toNat_byte (by omega)
          have hval : (0xE0 + c.val / 0x1000 - 0xE0) * 0x1000 + c.val / 0x40 % 0x40 * 0x40
              + c.val % 0x40 = c.val := by omega
          rw [List.cons_append, List.cons_append, List.cons_append, List.nil_append, text?]
          simp only [hbyte]
          rw [if_neg (by omega), if_neg (by omega), if_neg (by omega), if_pos (by omega)]
          simp only [continuationBits?_continuation, Option.bind_eq_bind, Option.bind_some, hval,
            CodePoint.ofNat_val]
          rw [if_neg (by simp [hsurrogate]; omega)]
          cases Bytes.text? s <;> rfl
        case isFalse hthree =>
          obtain rfl := Option.some.inj h
          have hbyte : (UInt8.ofNat (0xF0 + c.val / 0x40000)).toNat = 0xF0 + c.val / 0x40000 :=
            toNat_byte (by omega)
          have hval : (0xF0 + c.val / 0x40000 - 0xF0) * 0x40000 + c.val / 0x1000 % 0x40 * 0x1000
              + c.val / 0x40 % 0x40 * 0x40 + c.val % 0x40 = c.val := by omega
          rw [← hbyte] at hval
          have hread := text?_four (by omega) (by omega) (continuationBits?_continuation _)
            (continuationBits?_continuation _) (continuationBits?_continuation c.val) hval
            (Nat.le_of_not_lt hthree) hlt s
          rw [List.cons_append, List.cons_append, List.cons_append, List.cons_append,
            List.nil_append, hread, CodePoint.ofNat_val]

/-- **Reading back.** The encoding of a text is read as that text. -/
theorem Bytes.text?_of_utf8? {t : Text} {b : Bytes} (h : t.utf8? = some b) :
    Bytes.text? b = some t := by
  induction t generalizing b with
  | nil =>
    obtain rfl := Option.some.inj h
    rfl
  | cons c r ih =>
    rw [Text.utf8?] at h
    split at h
    case h_1 first rest hc hr =>
      obtain rfl := Option.some.inj h
      rw [Bytes.text?_append hc, ih hr]
      rfl
    case h_2 => cases h

/-! ## Writing back -/

/-- A number below the last code point is that of its code point. -/
theorem CodePoint.val_ofNat {n : Nat} (h : n < 0x110000) : (ofNat n).val = n := by
  rw [ofNat, dif_pos h]

/-- A byte is the one made of its number. -/
theorem byte_eq {b : UInt8} {n : Nat} (h : n = b.toNat) : UInt8.ofNat n = b := by
  subst h
  exact UInt8.toNat_inj.mp (toNat_byte b.toNat_lt)

/-- What a continuation byte carries are six bits, and the byte is the one for every number that
ends with them. -/
theorem continuation_of_bits {b : UInt8} {x : Nat} (h : continuationBits? b = some x) :
    x < 0x40 ∧ ∀ n, n % 0x40 = x → continuation n = b := by
  rw [continuationBits?] at h
  split at h
  case isTrue hrange =>
    obtain rfl := Option.some.inj h
    simp only [Bool.and_eq_true, decide_eq_true_eq] at hrange
    exact ⟨by omega, fun n hn => byte_eq (by omega)⟩
  case isFalse => cases h

namespace CodePoint

variable {b b₁ b₂ b₃ : UInt8} {x y z n : Nat}

theorem utf8?_of_one (h : b.toNat < 0x80) : (ofNat b.toNat).utf8? = some [b] := by
  have hval := val_ofNat (show b.toNat < 0x110000 by omega)
  rw [utf8?, hval, if_pos h, byte_eq rfl]

theorem utf8?_of_two (hlow : 0xC2 ≤ b.toNat) (hhigh : b.toNat < 0xE0)
    (h₁ : continuationBits? b₁ = some x) :
    (ofNat ((b.toNat - 0xC0) * 0x40 + x)).utf8? = some [b, b₁] := by
  obtain ⟨hx, hb₁⟩ := continuation_of_bits h₁
  have hval := val_ofNat (show (b.toNat - 0xC0) * 0x40 + x < 0x110000 by omega)
  have hb : UInt8.ofNat (0xC0 + ((b.toNat - 0xC0) * 0x40 + x) / 0x40) = b := byte_eq (by omega)
  rw [utf8?, hval, if_neg (by omega), if_pos (by omega), hb₁ _ (by omega), hb]

theorem utf8?_of_three (hlow : 0xE0 ≤ b.toNat) (hhigh : b.toNat < 0xF0)
    (h₁ : continuationBits? b₁ = some x) (h₂ : continuationBits? b₂ = some y)
    (hn : n = (b.toNat - 0xE0) * 0x1000 + x * 0x40 + y) (hlong : 0x800 ≤ (ofNat n).val)
    (hpaired : (ofNat n).isSurrogate = false) : (ofNat n).utf8? = some [b, b₁, b₂] := by
  obtain ⟨hx, hb₁⟩ := continuation_of_bits h₁
  obtain ⟨hy, hb₂⟩ := continuation_of_bits h₂
  have hval := val_ofNat (show n < 0x110000 by omega)
  have hb : UInt8.ofNat (0xE0 + n / 0x1000) = b := byte_eq (by omega)
  rw [hval] at hlong
  rw [utf8?, hval, if_neg (by omega), if_neg (by omega), if_neg (Bool.eq_false_iff.mp hpaired),
    if_pos (by omega), hb₁ _ (by omega), hb₂ _ (by omega), hb]

theorem utf8?_of_four (hlow : 0xF0 ≤ b.toNat) (h₁ : continuationBits? b₁ = some x)
    (h₂ : continuationBits? b₂ = some y) (h₃ : continuationBits? b₃ = some z)
    (hn : n = (b.toNat - 0xF0) * 0x40000 + x * 0x1000 + y * 0x40 + z) (hlong : 0x10000 ≤ n)
    (hlast : n < 0x110000) : (ofNat n).utf8? = some [b, b₁, b₂, b₃] := by
  obtain ⟨hx, hb₁⟩ := continuation_of_bits h₁
  obtain ⟨hy, hb₂⟩ := continuation_of_bits h₂
  obtain ⟨hz, hb₃⟩ := continuation_of_bits h₃
  have hval := val_ofNat hlast
  have hpaired : (ofNat n).isSurrogate = false := by
    rw [isSurrogate, hval]
    simp
    omega
  have hb : UInt8.ofNat (0xF0 + n / 0x40000) = b := byte_eq (by omega)
  rw [utf8?, hval, if_neg (by omega), if_neg (by omega), if_neg (Bool.eq_false_iff.mp hpaired),
    if_neg (by omega), hb₁ _ (by omega), hb₂ _ (by omega), hb₃ _ (by omega), hb]

end CodePoint

theorem Text.utf8?_cons {c : CodePoint} {r : Text} {b bs : Bytes} (hc : c.utf8? = some b)
    (hr : r.utf8? = some bs) : utf8? (c :: r) = some (b ++ bs) := by
  rw [utf8?, hc, hr]

/-- **Writing back.** The text of bytes has these bytes as its encoding. -/
theorem Bytes.utf8?_of_text? {b : Bytes} {t : Text} (h : Bytes.text? b = some t) :
    t.utf8? = some b := by
  fun_induction Bytes.text? b generalizing t
  case case1 =>
    cases h
    rfl
  case case2 b r n hone ih =>
    obtain ⟨rest, hrest, rfl⟩ := Option.map_eq_some_iff.mp h
    exact Text.utf8?_cons (CodePoint.utf8?_of_one hone) (ih hrest)
  case case4 b n hone hlow htwo b₁ s ih =>
    obtain ⟨x, hx, h⟩ := Option.bind_eq_some_iff.mp h
    obtain ⟨rest, hrest, h⟩ := Option.bind_eq_some_iff.mp h
    cases h
    exact Text.utf8?_cons (CodePoint.utf8?_of_two (Nat.le_of_not_lt hlow) htwo hx) (ih hrest)
  case case6 b n hone hlow htwo hthree b₁ b₂ s ih =>
    obtain ⟨x, hx, h⟩ := Option.bind_eq_some_iff.mp h
    obtain ⟨y, hy, h⟩ := Option.bind_eq_some_iff.mp h
    dsimp only at h
    split at h
    case isTrue => cases h
    case isFalse hvalid =>
      rw [Bool.or_eq_true, decide_eq_true_eq, not_or] at hvalid
      obtain ⟨rest, hrest, h⟩ := Option.bind_eq_some_iff.mp h
      cases h
      exact Text.utf8?_cons (CodePoint.utf8?_of_three (Nat.le_of_not_lt htwo) hthree hx hy rfl
        (Nat.le_of_not_lt hvalid.1) (Bool.eq_false_iff.mpr hvalid.2)) (ih hrest)
  case case8 b n hone hlow htwo hthree hfour b₁ b₂ b₃ s ih =>
    obtain ⟨x, hx, h⟩ := Option.bind_eq_some_iff.mp h
    obtain ⟨y, hy, h⟩ := Option.bind_eq_some_iff.mp h
    obtain ⟨z, hz, h⟩ := Option.bind_eq_some_iff.mp h
    dsimp only at h
    split at h
    case isTrue => cases h
    case isFalse hvalid =>
      rw [Bool.or_eq_true, decide_eq_true_eq, decide_eq_true_eq, not_or] at hvalid
      obtain ⟨rest, hrest, h⟩ := Option.bind_eq_some_iff.mp h
      cases h
      exact Text.utf8?_cons (CodePoint.utf8?_of_four (Nat.le_of_not_lt hthree) hx hy hz rfl
        (Nat.le_of_not_lt hvalid.1) (by omega)) (ih hrest)
  case case3 | case5 | case7 | case9 | case10 => cases h

/-- The encoding of two texts one after the other. -/
theorem Text.utf8?_append {t u : Text} {b c : Bytes} (ht : t.utf8? = some b)
    (hu : u.utf8? = some c) : (t ++ u).utf8? = some (b ++ c) := by
  induction t generalizing b with
  | nil =>
    obtain rfl := Option.some.inj ht
    exact hu
  | cons d r ih =>
    rw [Text.utf8?] at ht
    split at ht
    case h_1 first rest hd hr =>
      obtain rfl := Option.some.inj ht
      rw [List.cons_append, Text.utf8?, hd, ih hr, List.append_assoc]
    case h_2 => cases ht

/-! ## Bytes of one code point -/

/-- A continuation byte is none that stands for itself. -/
theorem le_continuation (n : Nat) : 0x80 ≤ (continuation n).toNat := by
  have hbyte : (continuation n).toNat = 0x80 + n % 0x40 := toNat_byte (by omega)
  omega

/-- Bytes with a leading one from 0x80 on are from 0x80 on when those behind it are. -/
theorem forall_le_of_lead {n : Nat} {bs : Bytes} (hlow : 0x80 ≤ n) (hhigh : n < 0x100)
    (h : ∀ b ∈ bs, 0x80 ≤ b.toNat) : ∀ b ∈ UInt8.ofNat n :: bs, 0x80 ≤ b.toNat := by
  rw [List.forall_mem_cons, toNat_byte hhigh]
  exact ⟨hlow, h⟩

/-- A code point below 0x80 is encoded as itself, and any other one by bytes from 0x80 on. -/
theorem CodePoint.utf8?_cases {c : CodePoint} {bs : Bytes} (h : c.utf8? = some bs) :
    (c.val < 0x80 ∧ bs = [UInt8.ofNat c.val]) ∨ (0x80 ≤ c.val ∧ ∀ b ∈ bs, 0x80 ≤ b.toNat) := by
  have hlt := c.val_lt
  rw [utf8?] at h
  split at h
  case isTrue hone =>
    exact .inl ⟨hone, (Option.some.inj h).symm⟩
  case isFalse hone =>
    refine .inr ⟨Nat.le_of_not_lt hone, ?_⟩
    split at h
    case isTrue htwo =>
      obtain rfl := Option.some.inj h
      exact forall_le_of_lead (by omega) (by omega) (by simp [le_continuation])
    case isFalse =>
      split at h
      case isTrue => cases h
      case isFalse =>
        split at h
        case isTrue hthree =>
          obtain rfl := Option.some.inj h
          exact forall_le_of_lead (by omega) (by omega) (by simp [le_continuation])
        case isFalse =>
          obtain rfl := Option.some.inj h
          exact forall_le_of_lead (by omega) (by omega) (by simp [le_continuation])

/-- A byte below 0x80 stands for itself only: it is in the encoding of no other code point. -/
theorem CodePoint.mem_utf8?_iff {c : CodePoint} {bs : Bytes} (h : c.utf8? = some bs) {b : UInt8}
    (hb : b.toNat < 0x80) : b ∈ bs ↔ c.val = b.toNat := by
  rcases utf8?_cases h with ⟨hc, rfl⟩ | ⟨hc, hall⟩
  · rw [List.mem_singleton, ← UInt8.toNat_inj, toNat_byte (by omega), eq_comm]
  · constructor
    · intro hmem
      have := hall b hmem
      omega
    · omega

/-- A byte below 0x80 stands in an encoding exactly when what it stands for is in the text. -/
theorem Text.mem_utf8?_iff {t : Text} {bs : Bytes} (h : t.utf8? = some bs) {b : UInt8}
    (hb : b.toNat < 0x80) : b ∈ bs ↔ ∃ c ∈ t, c.val = b.toNat := by
  induction t generalizing bs with
  | nil =>
    obtain rfl := Option.some.inj h
    simp
  | cons c r ih =>
    rw [Text.utf8?] at h
    split at h
    case h_1 first rest hc hr =>
      obtain rfl := Option.some.inj h
      rw [List.mem_append, CodePoint.mem_utf8?_iff hc hb, ih hr]
      simp
    case h_2 => cases h

/-! ## Names as the system keeps them -/

/-- An encoding is one to four bytes long. -/
theorem CodePoint.length_mem_of_utf8? {c : CodePoint} {b : Bytes} (h : c.utf8? = some b) :
    b.length ∈ [1, 2, 3, 4] := by
  rw [utf8?] at h
  repeat' split at h
  all_goals cases h
  all_goals simp

/-- The encoding of a text of one code point is that of the code point. -/
theorem Text.utf8?_singleton {c : CodePoint} {b : Bytes} :
    Text.utf8? [c] = some b ↔ c.utf8? = some b := by
  rw [Text.utf8?, Text.utf8?]
  cases c.utf8? with
  | none => simp
  | some bs => simp

namespace Bytes

variable {b s : Bytes} {c : CodePoint} {t : Text}

/-- The code point whose encoding stands first is found. -/
theorem first?_append (h : c.utf8? = some b) (s : Bytes) : first? (b ++ s) = some c := by
  have hb : text? b = some [c] := text?_of_utf8? (Text.utf8?_singleton.mpr h)
  -- a beginning that is read as one code point is part of the encoding or goes on behind it
  have hread : ∀ n d, text? ((b ++ s).take n) = some [d] → d = c := by
    intro n d hd
    rcases Nat.le_total n b.length with hn | hn
    · rw [List.take_append_of_le_length hn] at hd
      have hfirst := Text.utf8?_singleton.mp (utf8?_of_text? hd)
      rw [← List.take_append_drop n b, text?_append hfirst] at hb
      obtain ⟨rest, -, hrest⟩ := Option.map_eq_some_iff.mp hb
      exact (List.cons.inj hrest).1
    · rw [List.take_append, List.take_of_length_le hn, text?_append h] at hd
      obtain ⟨rest, -, hrest⟩ := Option.map_eq_some_iff.mp hd
      exact (List.cons.inj hrest).1.symm
  have hwhole : text? ((b ++ s).take b.length) = some [c] := by
    rw [List.take_left, hb]
  rw [first?]
  cases hfound : List.findSome? _ [1, 2, 3, 4] with
  | none =>
    have hnone := List.findSome?_eq_none_iff.mp hfound _ (CodePoint.length_mem_of_utf8? h)
    rw [hwhole] at hnone
    cases hnone
  | some d =>
    obtain ⟨n, -, hn⟩ := List.exists_of_findSome?_eq_some hfound
    split at hn
    case h_1 e he =>
      cases hn
      rw [hread n d he]
    case h_2 => cases hn

/-- What is found first has its encoding there. -/
theorem exists_of_first? (h : first? b = some c) : ∃ first s, c.utf8? = some first ∧ b = first ++ s := by
  obtain ⟨n, -, hn⟩ := List.exists_of_findSome?_eq_some h
  split at hn
  case h_1 e he =>
    cases hn
    exact ⟨b.take n, b.drop n, Text.utf8?_singleton.mp (utf8?_of_text? he),
      (List.take_append_drop n b).symm⟩
  case h_2 => cases hn

/-- A byte that stands for itself is found first. -/
theorem first?_of_lt {first : UInt8} (h : first.toNat < 0x80) (s : Bytes) :
    first? (first :: s) = some (CodePoint.ofNat first.toNat) :=
  first?_append (CodePoint.utf8?_of_one h) s

/-- The bytes behind those that are passed over give their text. -/
theorem systemTextFrom_append (skipped s : Bytes) :
    systemTextFrom skipped.length (skipped ++ s) = systemText s := by
  induction skipped with
  | nil => rfl
  | cons b skipped ih => exact ih

/-- An encoding at the beginning gives its code point. -/
theorem systemText_append (h : c.utf8? = some b) (s : Bytes) :
    systemText (b ++ s) = c :: systemText s := by
  have hfound := first?_append h s
  have hlength := CodePoint.length_mem_of_utf8? h
  cases b with
  | nil => simp at hlength
  | cons first b =>
    rw [List.cons_append] at hfound ⊢
    rw [systemText, systemTextFrom, hfound]
    dsimp only
    rw [h, Option.getD_some, List.length_cons, Nat.add_sub_cancel, systemTextFrom_append]

/-- The encoding of a text gives the text. -/
theorem systemText_of_utf8? (h : t.utf8? = some b) : systemText b = t := by
  induction t generalizing b with
  | nil =>
    obtain rfl := Option.some.inj h
    rfl
  | cons c r ih =>
    rw [Text.utf8?] at h
    split at h
    case h_1 first rest hc hr =>
      obtain rfl := Option.some.inj h
      rw [systemText_append hc, ih hr]
    case h_2 => cases h

end Bytes

/-- A surrogate for a byte from 0x80 on is one, and it has this byte. -/
theorem CodePoint.systemBytes?_ofByte {b : UInt8} (h : 0x80 ≤ b.toNat) :
    (ofNat (0xDC00 + b.toNat)).systemBytes? = some [b] := by
  have hlt := b.toNat_lt
  have hval := val_ofNat (show 0xDC00 + b.toNat < 0x110000 by omega)
  have hbyte : (ofNat (0xDC00 + b.toNat)).isByteSurrogate = true := by
    rw [isByteSurrogate, hval]
    simp
    omega
  rw [systemBytes?, if_pos hbyte, hval, Nat.add_sub_cancel_left, byte_eq rfl]

/-- A surrogate for a byte has no encoding. -/
theorem CodePoint.utf8?_of_isByteSurrogate {c : CodePoint} (h : c.isByteSurrogate = true) :
    c.utf8? = none := by
  rw [utf8?_eq_none_iff]
  rw [isByteSurrogate] at h
  rw [isSurrogate]
  simp only [Bool.and_eq_true, decide_eq_true_eq] at h ⊢
  omega

/-- A code point that has an encoding has it as its bytes. -/
theorem CodePoint.systemBytes?_of_utf8? {c : CodePoint} {b : Bytes} (h : c.utf8? = some b) :
    c.systemBytes? = some b := by
  have hbyte : ¬ c.isByteSurrogate = true := fun hbyte => by
    rw [utf8?_of_isByteSurrogate hbyte] at h
    cases h
  rw [systemBytes?, if_neg hbyte, h]

/-- The bytes of a code point are all below 0x80 exactly when the code point is. -/
theorem CodePoint.isAscii_iff_bytes {c : CodePoint} {b : Bytes} (h : c.systemBytes? = some b) :
    c.isAscii = true ↔ ∀ x ∈ b, x.toNat < 0x80 := by
  rw [isAscii, decide_eq_true_eq]
  rw [systemBytes?] at h
  split at h
  case isTrue hbyte =>
    cases h
    simp only [isByteSurrogate, Bool.and_eq_true, decide_eq_true_eq] at hbyte
    rw [List.forall_mem_singleton, toNat_byte (by omega)]
    omega
  case isFalse =>
    rcases utf8?_cases h with ⟨hlow, rfl⟩ | ⟨hhigh, hall⟩
    · rw [List.forall_mem_singleton, toNat_byte (by omega)]
    · obtain ⟨x, hx⟩ := List.exists_mem_of_ne_nil b fun hnil => by
        have hlength := length_mem_of_utf8? h
        simp [hnil] at hlength
      have hbyte := hall x hx
      exact iff_of_false (by omega) fun hlow => by
        have := hlow x hx
        omega

namespace Text

variable {t u : Text} {b c : Bytes}

theorem systemBytes?_cons {d : CodePoint} (hd : d.systemBytes? = some b)
    (ht : t.systemBytes? = some c) : systemBytes? (d :: t) = some (b ++ c) := by
  rw [systemBytes?, hd, ht]

/-- A text that has an encoding has it as its bytes. -/
theorem systemBytes?_of_utf8? (h : t.utf8? = some b) : t.systemBytes? = some b := by
  induction t generalizing b with
  | nil => exact h
  | cons d r ih =>
    rw [utf8?] at h
    split at h
    case h_1 first rest hd hr =>
      obtain rfl := Option.some.inj h
      exact systemBytes?_cons (CodePoint.systemBytes?_of_utf8? hd) (ih hr)
    case h_2 => cases h

/-- **Writing names back.** The text of bytes has these bytes. -/
theorem systemBytes?_systemText (b : Bytes) : b.systemText.systemBytes? = some b := by
  -- what is passed over is part of an encoding that was written before
  induction hn : b.length using Nat.strong_induction_on generalizing b with
  | _ n ih =>
    subst hn
    cases b with
    | nil => rfl
    | cons first rest =>
      cases hfound : Bytes.first? (first :: rest) with
      | none =>
        have hhigh : 0x80 ≤ first.toNat := by
          by_contra hlow
          rw [Bytes.first?_of_lt (Nat.lt_of_not_le hlow)] at hfound
          cases hfound
        rw [Bytes.systemText, Bytes.systemTextFrom, hfound]
        exact systemBytes?_cons (CodePoint.systemBytes?_ofByte hhigh)
          (ih rest.length (Nat.lt_succ_self _) rest rfl)
      | some d =>
        obtain ⟨encoding, s, hd, hall⟩ := Bytes.exists_of_first? hfound
        have hlength := CodePoint.length_mem_of_utf8? hd
        rw [hall, Bytes.systemText_append hd]
        refine systemBytes?_cons (CodePoint.systemBytes?_of_utf8? hd) (ih s.length ?_ s rfl)
        have hsum := congrArg List.length hall
        rw [List.length_append] at hsum
        simp only [List.mem_cons, List.not_mem_nil, or_false] at hlength
        omega

/-- A text in which no surrogate stands for a byte is kept as it is. -/
theorem stored_of_not_any (h : t.any CodePoint.isByteSurrogate = false) : t.stored = t := by
  rw [stored, if_neg (by simp [h])]

/-- Where no surrogate stands for a byte, the bytes are the encoding. -/
theorem systemBytes?_of_not_any (h : t.any CodePoint.isByteSurrogate = false) :
    t.systemBytes? = t.utf8? := by
  induction t with
  | nil => rfl
  | cons d r ih =>
    rw [List.any_cons, Bool.or_eq_false_iff] at h
    rw [systemBytes?, utf8?, ih h.2, CodePoint.systemBytes?, if_neg (by simp [h.1])]

/-- **What the system keeps.** A text that has bytes is kept as the text of these bytes. -/
theorem stored_of_systemBytes? (h : t.systemBytes? = some b) : t.stored = b.systemText := by
  cases hany : t.any CodePoint.isByteSurrogate with
  | true => rw [stored, if_pos hany, h]
  | false =>
    rw [systemBytes?_of_not_any hany] at h
    rw [stored_of_not_any hany, Bytes.systemText_of_utf8? h]

/-- **One name.** Two texts are one name to the system exactly when they have the same bytes. -/
theorem stored_eq_stored_iff (ht : t.systemBytes? = some b) (hu : u.systemBytes? = some c) :
    t.stored = u.stored ↔ b = c := by
  rw [stored_of_systemBytes? ht, stored_of_systemBytes? hu]
  refine ⟨fun h => ?_, congrArg _⟩
  have hbytes := systemBytes?_systemText b
  rw [h, systemBytes?_systemText c] at hbytes
  exact (Option.some.inj hbytes).symm

/-- A text that has an encoding is kept as it is. -/
theorem HasEncoding.stored (h : t.HasEncoding) : t.stored = t := by
  obtain ⟨b, hb⟩ := Option.isSome_iff_exists.mp h
  rw [stored_of_systemBytes? (systemBytes?_of_utf8? hb), Bytes.systemText_of_utf8? hb]

/-- A text that has no bytes is kept as it is. -/
theorem stored_of_systemBytes?_eq_none (h : t.systemBytes? = none) : t.stored = t := by
  rw [stored, h]
  exact ite_self t

/-- What the system gives back it keeps. -/
@[simp] theorem stored_stored (t : Text) : t.stored.stored = t.stored := by
  cases ht : t.systemBytes? with
  | some b => rw [stored_of_systemBytes? ht, stored_of_systemBytes? (systemBytes?_systemText b)]
  | none => rw [stored_of_systemBytes?_eq_none ht, stored_of_systemBytes?_eq_none ht]

/-- The bytes of a text are all below 0x80 exactly when its code points are. -/
theorem isAscii_iff_bytes (h : t.systemBytes? = some b) :
    t.all CodePoint.isAscii = true ↔ ∀ x ∈ b, x.toNat < 0x80 := by
  induction t generalizing b with
  | nil =>
    cases h
    simp
  | cons d r ih =>
    rw [systemBytes?] at h
    split at h
    case h_1 first rest hd hr =>
      cases h
      rw [List.all_cons, Bool.and_eq_true, CodePoint.isAscii_iff_bytes hd, ih hr,
        List.forall_mem_append]
    case h_2 => cases h

/-- An ASCII text is kept as it is. -/
theorem stored_of_isAscii (h : t.all CodePoint.isAscii = true) : t.stored = t := by
  refine stored_of_not_any (List.any_eq_false.mpr fun d hd => ?_)
  have hlow := List.all_eq_true.mp h d hd
  simp only [CodePoint.isAscii, CodePoint.isByteSurrogate, decide_eq_true_eq, Bool.and_eq_true]
    at hlow ⊢
  omega

/-- A text is kept as an ASCII text only if it is that text. -/
theorem stored_eq_iff (hu : u.all CodePoint.isAscii = true) : t.stored = u ↔ t = u := by
  constructor
  · rintro rfl
    cases ht : t.systemBytes? with
    | some b =>
      rw [stored_of_systemBytes? ht, isAscii_iff_bytes (systemBytes?_systemText b),
        ← isAscii_iff_bytes ht] at hu
      exact (stored_of_isAscii hu).symm
    | none => exact (stored_of_systemBytes?_eq_none ht).symm
  · rintro rfl
    exact stored_of_isAscii hu

end Text

end Tablewright
