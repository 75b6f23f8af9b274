/-
Of which code points names are made.

The words of a label are made of name letters, so are its names, but for what joins the words: an
underscore in the canonical name, a hyphen in the segment of a route, and capitals in the name of
the type. A route adds slashes. None of these is a quote or ends a line, so a name can stand in
generated text without being quoted.
-/
import Tablewright.Artifact.Basic

set_option autoImplicit false

namespace Tablewright

/-! ## Pieces and joints -/

namespace Text

/-- Pieces hold none of the code points that separate them. -/
theorem not_sep_of_mem_piecesAux {sep : CodePoint → Bool} {acc t : Text}
    (hacc : ∀ c ∈ acc, sep c = false) {piece : Text} (hpiece : piece ∈ piecesAux sep acc t)
    {c : CodePoint} (hc : c ∈ piece) : sep c = false := by
  induction t generalizing acc with
  | nil =>
    rw [piecesAux] at hpiece
    split at hpiece
    · cases hpiece
    · obtain rfl := List.mem_singleton.mp hpiece
      exact hacc c (List.mem_reverse.mp hc)
  | cons d r ih =>
    rw [piecesAux] at hpiece
    split at hpiece
    case isTrue =>
      split at hpiece
      · exact ih (List.forall_mem_nil _) hpiece
      · rcases List.mem_cons.mp hpiece with rfl | hrest
        · exact hacc c (List.mem_reverse.mp hc)
        · exact ih (List.forall_mem_nil _) hrest
    case isFalse hd =>
      refine ih (fun x hx => ?_) hpiece
      rcases List.mem_cons.mp hx with rfl | hx
      · exact Bool.eq_false_iff.mpr hd
      · exact hacc x hx

theorem not_sep_of_mem_pieces {sep : CodePoint → Bool} {t piece : Text}
    (hpiece : piece ∈ pieces sep t) {c : CodePoint} (hc : c ∈ piece) : sep c = false :=
  not_sep_of_mem_piecesAux (List.forall_mem_nil _) hpiece hc

/-- Pieces are made of what they are pieces of. -/
theorem mem_of_mem_piecesAux {sep : CodePoint → Bool} {acc t piece : Text}
    (hpiece : piece ∈ piecesAux sep acc t) {c : CodePoint} (hc : c ∈ piece) : c ∈ acc ∨ c ∈ t := by
  induction t generalizing acc with
  | nil =>
    rw [piecesAux] at hpiece
    split at hpiece
    · cases hpiece
    · obtain rfl := List.mem_singleton.mp hpiece
      exact .inl (List.mem_reverse.mp hc)
  | cons d r ih =>
    rw [piecesAux] at hpiece
    split at hpiece
    · split at hpiece
      · exact .inr (List.mem_cons_of_mem d ((ih hpiece).resolve_left List.not_mem_nil))
      · rcases List.mem_cons.mp hpiece with rfl | hrest
        · exact .inl (List.mem_reverse.mp hc)
        · exact .inr (List.mem_cons_of_mem d ((ih hrest).resolve_left List.not_mem_nil))
    · rcases ih hpiece with hacc | hr
      · rcases List.mem_cons.mp hacc with rfl | hacc
        · exact .inr List.mem_cons_self
        · exact .inl hacc
      · exact .inr (List.mem_cons_of_mem d hr)

theorem mem_of_mem_pieces {sep : CodePoint → Bool} {t piece : Text} (hpiece : piece ∈ pieces sep t)
    {c : CodePoint} (hc : c ∈ piece) : c ∈ t :=
  (mem_of_mem_piecesAux hpiece hc).resolve_left List.not_mem_nil

/-- What is joined is made of the parts and of what joins them. -/
theorem mem_join {sep : Text} {ts : List Text} {c : CodePoint} (h : c ∈ join sep ts) :
    c ∈ sep ∨ ∃ t ∈ ts, c ∈ t := by
  induction ts with
  | nil => cases h
  | cons t ts ih =>
    cases ts with
    | nil => exact .inr ⟨t, List.mem_cons_self, h⟩
    | cons u r =>
      rw [join] at h
      rcases List.mem_append.mp h with hhead | hrest
      · rcases List.mem_append.mp hhead with ht | hsep
        · exact .inr ⟨t, List.mem_cons_self, ht⟩
        · exact .inl hsep
      · rcases ih hrest with hsep | ⟨x, hx, hc⟩
        · exact .inl hsep
        · exact .inr ⟨x, List.mem_cons_of_mem t hx, hc⟩

theorem substitute_of_not_mem {old new : CodePoint} {t : Text} (h : old ∉ t) :
    substitute old new t = t :=
  (List.map_congr_left fun _ hc => if_neg (ne_of_mem_of_not_mem hc h)).trans (List.map_id t)

/-- Other joints join the same parts, if these do not hold the old one. -/
theorem substitute_join {old : CodePoint} (new : CodePoint) {ts : List Text}
    (h : ∀ t ∈ ts, old ∉ t) : substitute old new (join [old] ts) = join [new] ts := by
  induction ts with
  | nil => rfl
  | cons t ts ih =>
    have ht : substitute old new t = t := substitute_of_not_mem (h t List.mem_cons_self)
    cases ts with
    | nil => exact ht
    | cons u us =>
      have hjoint : substitute old new [old] = [new] := by
        rw [substitute, List.map_singleton, if_pos rfl]
      rw [join, join, substitute, List.map_append, List.map_append, ← substitute, ← substitute,
        ← substitute, ht, hjoint, ih fun v hv => h v (List.mem_cons_of_mem t hv)]

end Text

/-! ## Code points of names -/

namespace CodePoint

variable {c : CodePoint}

theorem isAscii_iff : c.isAscii = true ↔ c.val < 128 := by simp [isAscii]

theorem isAsciiLower_iff : c.isAsciiLower = true ↔ 97 ≤ c.val ∧ c.val ≤ 122 := by
  simp [isAsciiLower, between]

theorem isAsciiUpper_iff : c.isAsciiUpper = true ↔ 65 ≤ c.val ∧ c.val ≤ 90 := by
  simp [isAsciiUpper, between]

theorem isAsciiDigit_iff : c.isAsciiDigit = true ↔ 48 ≤ c.val ∧ c.val ≤ 57 := by
  simp [isAsciiDigit, between]

theorem isNameLetter_iff :
    c.isNameLetter = true ↔ (97 ≤ c.val ∧ c.val ≤ 122) ∨ (48 ≤ c.val ∧ c.val ≤ 57) := by
  rw [isNameLetter, Bool.or_eq_true, isAsciiLower_iff, isAsciiDigit_iff]

/-- Name letters are ASCII code points. -/
theorem isAscii_of_isNameLetter (h : c.isNameLetter = true) : c.isAscii = true := by
  rw [isNameLetter_iff] at h
  rw [isAscii_iff]
  omega

/-- A name letter is no capital. -/
theorem isAsciiUpper_of_isNameLetter (h : c.isNameLetter = true) : c.isAsciiUpper = false := by
  rw [isNameLetter_iff] at h
  rw [Bool.eq_false_iff, ne_eq, isAsciiUpper_iff]
  omega

/-- A small letter is no digit. -/
theorem isAsciiDigit_of_isAsciiLower (h : c.isAsciiLower = true) : c.isAsciiDigit = false := by
  rw [isAsciiLower_iff] at h
  rw [Bool.eq_false_iff, ne_eq, isAsciiDigit_iff]
  omega

/-- Capitals are ASCII code points. -/
theorem isAscii_of_isAsciiUpper (h : c.isAsciiUpper = true) : c.isAscii = true := by
  rw [isAsciiUpper_iff] at h
  rw [isAscii_iff]
  omega

end CodePoint

/-! ## Names -/

namespace Naming

/-- Words are made of name letters. -/
theorem isNameLetter_of_mem_words {label word : Text} (hword : word ∈ words label) {c : CodePoint}
    (hc : c ∈ word) : c.isNameLetter = true := by
  have hsep := Text.not_sep_of_mem_pieces hword hc
  simpa using hsep

/-- A name is made of name letters and of what joins its words. -/
theorem mem_join_words {sep label : Text} {c : CodePoint} (h : c ∈ Text.join sep (words label)) :
    c ∈ sep ∨ c.isNameLetter = true := by
  rcases Text.mem_join h with hsep | ⟨word, hword, hc⟩
  · exact .inl hsep
  · exact .inr (isNameLetter_of_mem_words hword hc)

theorem mem_snake {label : Text} {c : CodePoint} (h : c ∈ snake label) :
    c.isNameLetter = true ∨ c = '_' := by
  rcases mem_join_words h with hsep | hletter
  · exact .inr (List.mem_singleton.mp hsep)
  · exact .inl hletter

theorem mem_kebab {label : Text} {c : CodePoint} (h : c ∈ kebab label) :
    c.isNameLetter = true ∨ c = '-' := by
  rcases mem_join_words h with hsep | hletter
  · exact .inr (List.mem_singleton.mp hsep)
  · exact .inl hletter

/-- The name of an entity without a usable label is made of name letters. -/
theorem mem_fallback {c : CodePoint} (h : c ∈ fallback) : c.isNameLetter = true := by
  have hall : ∀ c ∈ fallback, c.isNameLetter = true := by decide
  exact hall c h

/-- A canonical name is made of name letters and underscores. -/
theorem mem_canonical {label : Text} {c : CodePoint} (h : c ∈ canonical label) :
    c.isNameLetter = true ∨ c = '_' := by
  rw [canonical] at h
  split at h
  case h_1 => exact .inl (mem_fallback h)
  case h_2 d r hsnake =>
    split at h
    case isTrue =>
      rcases List.mem_append.mp h with hstart | hrest
      · rcases List.mem_append.mp hstart with hfallback | hsep
        · exact .inl (mem_fallback hfallback)
        · exact .inr (List.mem_singleton.mp hsep)
      · exact mem_snake (hsnake ▸ hrest)
    case isFalse => exact mem_snake (hsnake ▸ h)

/-- The capital of a small letter is a capital. -/
theorem isAsciiUpper_capital {c : CodePoint} (h : c.isAsciiLower = true) :
    c.capital.isAsciiUpper = true := by
  have hrange := CodePoint.isAsciiLower_iff.mp h
  have hval : c.capital.val = c.val - 32 := by
    rw [CodePoint.capital, if_pos h, CodePoint.ofNat, dif_pos (by omega)]
  rw [CodePoint.isAsciiUpper_iff, hval]
  omega

/-- The name of a type is made of name letters and capitals. -/
theorem mem_pascal {label : Text} {c : CodePoint} (h : c ∈ pascal label) :
    c.isNameLetter = true ∨ c.isAsciiUpper = true := by
  obtain ⟨word, hword, hc⟩ := List.mem_flatMap.mp h
  cases word with
  | nil => cases hc
  | cons d r =>
    rcases List.mem_cons.mp hc with rfl | hr
    · have hletter := isNameLetter_of_mem_words hword List.mem_cons_self
      by_cases hlower : d.isAsciiLower = true
      · exact .inr (isAsciiUpper_capital hlower)
      · rw [CodePoint.capital, if_neg hlower]
        exact .inl hletter
    · exact .inl (isNameLetter_of_mem_words hword (List.mem_cons_of_mem d hr))

end Naming

/-! ## Routes -/

/-- A route is made of name letters, hyphens and slashes. -/
theorem Route.mem_path {entity : Text} {route : Option Text} {c : CodePoint}
    (h : c ∈ Route.path entity route) : c.isNameLetter = true ∨ c = '-' ∨ c = '/' := by
  have hstart : ∀ c ∈ Text.ofString "/api/", c.isNameLetter = true ∨ c = '-' ∨ c = '/' := by decide
  rcases List.mem_append.mp h with hfixed | hsegment
  · exact hstart c hfixed
  · rw [Text.ifEmpty] at hsegment
    split at hsegment
    · exact (Naming.mem_kebab hsegment).imp_right .inl
    · exact (Naming.mem_kebab hsegment).imp_right .inl

end Tablewright
