/-
The normal form of names.

`Naming.canonicalNames` and `Naming.typeNames` are the two languages names are taken from, written
as regular expressions. A canonical name is a word that begins with a small letter and further
words, each behind an underscore, and such a text is its own canonical name: the language holds the
fixed points of `canonical` and nothing else (`canonical_eq_self_iff`). The other names of an entity
follow its canonical name, and so does their shape.
-/
import Mathlib.Computability.Language
import Tablewright.Proofs.Naming.TypeName

set_option autoImplicit false

namespace Tablewright

open scoped Computability

namespace Naming

/-! ## The languages of names -/

/-- The texts of a single code point out of a class. -/
def oneOf (p : CodePoint → Bool) : Language CodePoint := {t | ∃ c, p c = true ∧ t = [c]}

/-- Words, `[a-z0-9]+`. -/
def wordTexts : Language CodePoint :=
  oneOf CodePoint.isNameLetter * (oneOf CodePoint.isNameLetter)∗

/-- Canonical names, `[a-z][a-z0-9]*(_[a-z0-9]+)*`. -/
def canonicalNames : Language CodePoint :=
  oneOf CodePoint.isAsciiLower * (oneOf CodePoint.isNameLetter)∗
    * (oneOf (fun c => c = '_') * wordTexts)∗

/-- Names of types, `[A-Z][A-Za-z0-9]*`. -/
def typeNames : Language CodePoint :=
  oneOf CodePoint.isAsciiUpper * (oneOf fun c => c.isAsciiUpper || c.isNameLetter)∗

theorem mem_oneOf_mul {p : CodePoint → Bool} {l : Language CodePoint} {t : Text} :
    t ∈ oneOf p * l ↔ ∃ c r, p c = true ∧ r ∈ l ∧ t = c :: r := by
  rw [Language.mem_mul]
  constructor
  · rintro ⟨_, ⟨c, hc, rfl⟩, r, hr, rfl⟩
    exact ⟨c, r, hc, hr, rfl⟩
  · rintro ⟨c, r, hc, hr, rfl⟩
    exact ⟨[c], ⟨c, hc, rfl⟩, r, hr, rfl⟩

theorem mem_star_oneOf {p : CodePoint → Bool} {t : Text} :
    t ∈ (oneOf p)∗ ↔ ∀ c ∈ t, p c = true := by
  rw [Language.mem_kstar]
  constructor
  · rintro ⟨parts, rfl, hparts⟩ c hc
    obtain ⟨part, hpart, hmem⟩ := List.mem_flatten.mp hc
    obtain ⟨d, hd, rfl⟩ := hparts part hpart
    exact List.mem_singleton.mp hmem ▸ hd
  · intro h
    refine ⟨t.map ([·]), (List.flatMap_singleton' t).symm, fun part hpart => ?_⟩
    obtain ⟨c, hc, rfl⟩ := List.mem_map.mp hpart
    exact ⟨c, h c hc, rfl⟩

theorem mem_wordTexts_iff {t : Text} : t ∈ wordTexts ↔ IsWord t := by
  rw [wordTexts, mem_oneOf_mul]
  simp only [mem_star_oneOf]
  constructor
  · rintro ⟨c, r, hc, hr, rfl⟩
    exact ⟨List.cons_ne_nil c r, List.forall_mem_cons.mpr ⟨hc, hr⟩⟩
  · rintro ⟨hne, hletters⟩
    obtain ⟨c, r, rfl⟩ := List.exists_cons_of_ne_nil hne
    exact ⟨c, r, hletters c List.mem_cons_self, (List.forall_mem_cons.mp hletters).2, rfl⟩

/-- Repeated words behind joints are words, each put behind a joint. -/
theorem mem_star_behind_iff {s : CodePoint} {t : Text} :
    t ∈ (oneOf (fun c => c = s) * wordTexts)∗ ↔
      ∃ ws : List Text, (∀ w ∈ ws, IsWord w) ∧ t = ws.flatMap (s :: ·) := by
  have hpart (part : Text) :
      part ∈ oneOf (fun c => c = s) * wordTexts ↔ ∃ w, IsWord w ∧ part = s :: w := by
    rw [mem_oneOf_mul]
    simp only [mem_wordTexts_iff, decide_eq_true_eq]
    constructor
    · rintro ⟨c, w, rfl, hw, rfl⟩
      exact ⟨w, hw, rfl⟩
    · rintro ⟨w, hw, rfl⟩
      exact ⟨s, w, rfl, hw, rfl⟩
  rw [Language.mem_kstar]
  constructor
  · rintro ⟨parts, rfl, hparts⟩
    induction parts with
    | nil => exact ⟨[], List.forall_mem_nil _, rfl⟩
    | cons part parts ih =>
      obtain ⟨w, hw, rfl⟩ := (hpart part).mp (hparts part List.mem_cons_self)
      obtain ⟨ws, hws, hflat⟩ := ih fun y hy => hparts y (List.mem_cons_of_mem _ hy)
      refine ⟨w :: ws, List.forall_mem_cons.mpr ⟨hw, hws⟩, ?_⟩
      rw [List.flatten_cons, hflat, List.flatMap_cons]
  · rintro ⟨ws, hws, rfl⟩
    refine ⟨ws.map (s :: ·), rfl, fun part hmem => ?_⟩
    obtain ⟨w, hw, rfl⟩ := List.mem_map.mp hmem
    exact (hpart _).mpr ⟨w, hws w hw, rfl⟩

/-- A word and further words behind joints are joined words. -/
theorem mem_joined_iff {s : CodePoint} {t : Text} :
    t ∈ wordTexts * (oneOf (fun c => c = s) * wordTexts)∗ ↔
      ∃ ws : List Text, ws ≠ [] ∧ (∀ w ∈ ws, IsWord w) ∧ t = Text.join [s] ws := by
  have hjoin (w : Text) (ws : List Text) :
      w ++ ws.flatMap (s :: ·) = Text.join [s] (w :: ws) := by
    have hcons := Text.cons_join_cons s w ws
    rw [List.flatMap_cons] at hcons
    exact (List.cons.inj hcons).2.symm
  rw [Language.mem_mul]
  simp only [mem_star_behind_iff, mem_wordTexts_iff]
  constructor
  · rintro ⟨w, hw, _, ⟨ws, hws, rfl⟩, rfl⟩
    exact ⟨w :: ws, List.cons_ne_nil w ws, List.forall_mem_cons.mpr ⟨hw, hws⟩, hjoin w ws⟩
  · rintro ⟨ws, hne, hws, rfl⟩
    obtain ⟨w, ws, rfl⟩ := List.exists_cons_of_ne_nil hne
    obtain ⟨hw, hrest⟩ := List.forall_mem_cons.mp hws
    exact ⟨w, hw, _, ⟨ws, hrest, rfl⟩, hjoin w ws⟩

/-! ## Canonical names -/

/-- A name that words spell is the first word and the others behind underscores. -/
theorem Spells.exists_cons {ws : List Text} {name : Text} (h : Spells ws name) :
    ∃ w vs, ws = w :: vs ∧ name = w ++ vs.flatMap marked := by
  obtain ⟨w, vs, rfl⟩ : ∃ w vs, ws = w :: vs := by
    refine List.exists_cons_of_ne_nil ?_
    rintro rfl
    have hlower := h.startsLower
    rw [h.eq_join] at hlower
    cases hlower
  have hmarked : marked (Text.join "_" (w :: vs)) = (w :: vs).flatMap marked := cons_join
  rw [← h.eq_join, List.flatMap_cons] at hmarked
  exact ⟨w, vs, rfl, (List.cons.inj hmarked).2⟩

/-- The language of canonical names holds what words spell. -/
theorem mem_canonicalNames_iff {t : Text} : t ∈ canonicalNames ↔ ∃ ws, Spells ws t := by
  rw [canonicalNames, Language.mem_mul]
  simp only [mem_star_behind_iff, mem_oneOf_mul, mem_star_oneOf]
  constructor
  · rintro ⟨_, ⟨c, r, hc, hr, rfl⟩, _, ⟨ws, hws, rfl⟩, rfl⟩
    have hfirst : IsWord (c :: r) :=
      ⟨List.cons_ne_nil c r, List.forall_mem_cons.mpr ⟨Bool.or_eq_true_iff.mpr (.inl hc), hr⟩⟩
    have hmarked : marked (Text.join "_" ((c :: r) :: ws)) = ((c :: r) :: ws).flatMap marked :=
      cons_join
    rw [List.flatMap_cons] at hmarked
    exact ⟨(c :: r) :: ws, {
      eq_join := (List.cons.inj hmarked).2.symm
      isWord := List.forall_mem_cons.mpr ⟨hfirst, hws⟩
      startsLower := hc }⟩
  · rintro ⟨ws, h⟩
    obtain ⟨w, vs, rfl, rfl⟩ := h.exists_cons
    obtain ⟨hw, hvs⟩ := List.forall_mem_cons.mp h.isWord
    obtain ⟨c, r, rfl⟩ := List.exists_cons_of_ne_nil hw.1
    exact ⟨c :: r, ⟨c, r, h.startsLower, (List.forall_mem_cons.mp hw.2).2, rfl⟩, _,
      ⟨vs, hvs, rfl⟩, rfl⟩

/-- **Normal form.** The texts that are their own canonical names are those of the language of
canonical names. -/
theorem canonical_eq_self_iff {t : Text} : canonical t = t ↔ t ∈ canonicalNames := by
  rw [mem_canonicalNames_iff]
  constructor
  · intro h
    rw [← h]
    exact exists_spells_canonical t
  · rintro ⟨ws, h⟩
    exact h.canonical_eq

/-! ## The names that follow it -/

/-- The type name of a label begins with a capital. -/
theorem exists_pascal_canonical (label : Text) :
    ∃ c r, pascal (canonical label) = c :: r ∧ c.isAsciiUpper = true := by
  obtain ⟨ws, h⟩ := exists_spells_canonical label
  have hwords := h.words_eq
  have hlower := h.startsLower
  obtain ⟨w, vs, rfl, hname⟩ := h.exists_cons
  obtain ⟨c, r, rfl⟩ := List.exists_cons_of_ne_nil (h.isWord w List.mem_cons_self).1
  rw [hname] at hlower
  rw [pascal, hwords]
  exact ⟨c.capital, _, rfl, isAsciiUpper_capital hlower⟩

theorem pascal_canonical_mem_typeNames (label : Text) : pascal (canonical label) ∈ typeNames := by
  obtain ⟨c, r, hname, hc⟩ := exists_pascal_canonical label
  rw [typeNames, mem_oneOf_mul]
  refine ⟨c, r, hc, mem_star_oneOf.mpr fun d hd => ?_, hname⟩
  have hmem : d ∈ pascal (canonical label) := hname ▸ List.mem_cons_of_mem c hd
  rw [Bool.or_eq_true, or_comm]
  exact mem_pascal hmem

/-- The kebab-case form of a label is its snake-case form with other joints. -/
theorem substitute_snake (label : Text) :
    Text.substitute '_' '-' (snake label) = kebab label := by
  refine Text.substitute_join '-' fun w hw hmem => ?_
  exact absurd (isNameLetter_of_mem_words hw hmem) (by decide)

theorem snake_snake (label : Text) : snake (snake label) = snake label := by
  rw [snake, words_snake]
  rfl

theorem kebab_kebab (label : Text) : kebab (kebab label) = kebab label := by
  rw [kebab, words_kebab]
  rfl

end Naming

/-- Names in normal form. -/
structure Names.IsNormal (n : Names) : Prop where
  /-- The canonical name is of its language. -/
  canonical : n.canonical ∈ Naming.canonicalNames
  /-- So is the name of the type. -/
  typeName : n.typeName ∈ Naming.typeNames
  /-- The hook is named after the type. -/
  hookName : n.hookName = "use" ++ n.typeName
  /-- The segment of the route has hyphens for the underscores of the canonical name. -/
  routeSegment : n.routeSegment = n.canonical.substitute '_' '-'

/-- **Names.** The names of every label are in normal form, the canonical name has the same names as
the label, and making snake case or kebab case of a text a second time changes nothing. -/
theorem Naming.normal_form (label : Text) :
    (Names.ofLabel label).IsNormal ∧
      Names.ofLabel (Names.ofLabel label).canonical = Names.ofLabel label ∧
      snake (snake label) = snake label ∧ kebab (kebab label) = kebab label := by
  refine ⟨?_, Names.ofLabel_canonical label, snake_snake label, kebab_kebab label⟩
  exact {
    canonical := canonical_eq_self_iff.mp (canonical_canonical label)
    typeName := pascal_canonical_mem_typeNames label
    hookName := rfl
    routeSegment := by
      have hkebab := substitute_snake (canonical label)
      rw [snake_canonical] at hkebab
      exact hkebab.symm }

end Tablewright
