/-
What lowering leaves of a text.

Two things about it are used elsewhere. First, nothing is left to lower: the small letters of the
table are no capitals of the table, and neither are the letters that the two rules for single capitals
give, so lowering a second time changes nothing (`lower_lower`). Both are read off the table once, by
comparing where its runs begin and end.

Second, the only capital that is lowered by what stands around it, the sigma, looks no further than
the next code point that is not passed over. A code point that is not passed over and is no cased
letter answers it in either direction like the end of the text does, so a text is lowered at such a
code point as its two parts are (`lower_append_cons`).
-/
import Tablewright.Proofs.Naming.Words
import Tablewright.Proofs.Text.Utf8

set_option autoImplicit false

namespace Tablewright

/-! ## The table -/

namespace CaseRun

/-- The number of the small letter that a run has for a number. -/
def small (run : CaseRun) (n : Nat) : Nat := (n + run.shift).toNat

/-- Whether the small letters of a run lie beside a range of numbers. -/
def misses (run : CaseRun) (range : Nat × Nat) : Bool :=
  Nat.blt (run.small run.last) range.1 || Nat.blt range.2 (run.small run.first)

/-- Whether the small letters of a run lie beside the capitals of another one, or between them. -/
def avoids (run other : CaseRun) : Bool :=
  run.misses (other.first, other.last) ||
    other.step = 2 && (run.step = 2 || run.first = run.last) &&
      (run.small run.first + other.first) % 2 = 1

/-- No small letter of the table is a capital of the table. -/
theorem avoids_of_mem {run other : CaseRun} (hrun : run ∈ caseRuns) (hother : other ∈ caseRuns) :
    run.avoids other = true := by
  have htable : (caseRuns.all fun run => caseRuns.all run.avoids) = true := by decide +kernel
  exact List.all_eq_true.mp (List.all_eq_true.mp htable run hrun) other hother

/-- The small letters of the table are code points beyond the capitals of ASCII, and none of them is
the capital I with a dot, a curly quote or a blank. -/
theorem misses_of_mem : ∀ run ∈ caseRuns,
    90 < run.small run.first ∧ run.small run.last < 0x110000 ∧
      ∀ range ∈ (0x130, 0x130) :: (0x2018, 0x201D) :: blankRanges, run.misses range = true := by
  decide +kernel

/-- The capitals of the table lie beyond ASCII, and none of them is a blank. -/
theorem beside_of_mem : ∀ run ∈ caseRuns, 128 ≤ run.first ∧
    ∀ range ∈ blankRanges, run.last < range.1 ∨ range.2 < run.first := by
  decide +kernel

variable {run other : CaseRun} {range : Nat × Nat} {n : Nat}

theorem misses_iff : run.misses range = true ↔
    run.small run.last < range.1 ∨ range.2 < run.small run.first := by
  rw [misses, Bool.or_eq_true, Nat.blt, Nat.blt, Nat.ble_eq, Nat.ble_eq]
  exact Iff.rfl

theorem contains_iff : run.contains n = true ↔
    run.first ≤ n ∧ n ≤ run.last ∧ (n - run.first) % run.step = 0 := by
  simp [contains, and_assoc]

/-- No run of the table holds a number of ASCII. -/
theorem not_contains_of_lt (hrun : run ∈ caseRuns) (h : n < 128) : run.contains n = false := by
  have hbeyond := (beside_of_mem run hrun).1
  rw [Bool.eq_false_iff, ne_eq, contains_iff]
  omega

/-- The small letters of a run lie as far apart as its capitals. -/
theorem small_eq (hrun : run ∈ caseRuns) (hn : run.first ≤ n) :
    run.small n = run.small run.first + (n - run.first) := by
  have hlow := (misses_of_mem run hrun).1
  unfold small at hlow ⊢
  omega

/-- The small letters of a run lie between those of its first capital and of its last. -/
theorem small_mem_Icc (hrun : run ∈ caseRuns) (hn : run.contains n = true) :
    run.small run.first ≤ run.small n ∧ run.small n ≤ run.small run.last := by
  obtain ⟨hfirst, hlast, -⟩ := contains_iff.mp hn
  rw [small_eq hrun hfirst, small_eq hrun (Nat.le_trans hfirst hlast)]
  omega

/-- A small letter of the table is no capital of it. -/
theorem not_contains_small (hrun : run ∈ caseRuns) (hn : run.contains n = true)
    (hother : other ∈ caseRuns) : other.contains (run.small n) = false := by
  have hinside := small_mem_Icc hrun hn
  obtain ⟨hfirst, hlast, hstep⟩ := contains_iff.mp hn
  have hsmall := small_eq hrun hfirst
  rw [Bool.eq_false_iff, ne_eq, contains_iff]
  have havoids := avoids_of_mem hrun hother
  simp only [avoids, Bool.or_eq_true, Bool.and_eq_true, decide_eq_true_eq, misses_iff] at havoids
  rcases havoids with hbeside | ⟨⟨htwo, hwidth⟩, hodd⟩
  · omega
  · -- every second number from the first capital on is a capital, and the others are small letters
    rw [htwo]
    rcases hwidth with hwidth | hwidth
    · rw [hwidth] at hstep
      omega
    · omega

end CaseRun

/-! ## Lowering a code point -/

namespace CodePoint

/-- Whether lowering changes a code point that stands alone. -/
def isCapital (c : CodePoint) : Bool :=
  c.isAsciiUpper || c.val = 0x130 || caseRuns.any fun run => run.contains c.val

variable {c : CodePoint}

theorem isCapital_eq_false_iff : c.isCapital = false ↔
    c.isAsciiUpper = false ∧ c.val ≠ 0x130 ∧ ∀ run ∈ caseRuns, run.contains c.val = false := by
  simp [isCapital, and_assoc]

/-- What lies in ASCII and is none of the letters `A` to `Z` is no capital. -/
theorem isCapital_of_isAscii (h : c.isAscii = true) (hupper : c.isAsciiUpper = false) :
    c.isCapital = false := by
  have hlt := isAscii_iff.mp h
  exact isCapital_eq_false_iff.mpr
    ⟨hupper, by omega, fun run hrun => CaseRun.not_contains_of_lt hrun hlt⟩

theorem isBlank_iff : c.isBlank = true ↔ ∃ range ∈ blankRanges, range.1 ≤ c.val ∧ c.val ≤ range.2 := by
  simp [isBlank, Ranges.contains]

/-- A code point is left alone, or it is a capital of ASCII or of a run of the table and comes to its
small letter. -/
theorem lower_cases (c : CodePoint) :
    (c.lower = c ∧ c.isAsciiUpper = false ∧ ∀ run ∈ caseRuns, run.contains c.val = false) ∨
    (c.isAsciiUpper = true ∧ c.lower.val = c.val + 32) ∨
    ∃ run ∈ caseRuns, run.contains c.val = true ∧ c.lower.val = run.small c.val := by
  by_cases hascii : c.isAscii = true
  · have hlt := isAscii_iff.mp hascii
    by_cases hupper : c.isAsciiUpper = true
    · refine .inr (.inl ⟨hupper, ?_⟩)
      rw [lower, if_pos hascii, if_pos hupper, val_ofNat (by omega)]
    · exact .inl ⟨by rw [lower, if_pos hascii, if_neg hupper], by simpa using hupper,
        fun run hrun => CaseRun.not_contains_of_lt hrun hlt⟩
  · have hupper : c.isAsciiUpper = false := by
      rw [Bool.eq_false_iff]
      exact mt isAscii_of_isAsciiUpper hascii
    rw [lower, if_neg hascii]
    cases hfind : caseRuns.find? (·.contains c.val) with
    | none => exact .inl ⟨rfl, hupper, by simpa using hfind⟩
    | some run =>
      have hrun := List.mem_of_find?_eq_some hfind
      have hcontains : run.contains c.val = true := by simpa using List.find?_some hfind
      have hinside := CaseRun.small_mem_Icc hrun hcontains
      have hlast := (CaseRun.misses_of_mem run hrun).2.1
      exact .inr (.inr ⟨run, hrun, hcontains, val_ofNat (Nat.lt_of_le_of_lt hinside.2 hlast)⟩)

/-- Nothing is left to lower of what was lowered. -/
theorem isCapital_lower (hdotted : c.val ≠ 0x130) : c.lower.isCapital = false := by
  rw [isCapital_eq_false_iff]
  rcases c.lower_cases with ⟨hsame, hupper, hruns⟩ | ⟨hupper, hval⟩ | ⟨run, hrun, hcontains, hval⟩
  · rw [hsame]
    exact ⟨hupper, hdotted, hruns⟩
  · have hrange := isAsciiUpper_iff.mp hupper
    refine ⟨?_, by omega, fun other hother => CaseRun.not_contains_of_lt hother (by omega)⟩
    rw [Bool.eq_false_iff, ne_eq, isAsciiUpper_iff]
    omega
  · have hinside := CaseRun.small_mem_Icc hrun hcontains
    obtain ⟨hlow, -, hmisses⟩ := CaseRun.misses_of_mem run hrun
    have hdotted' := CaseRun.misses_iff.mp (hmisses (0x130, 0x130) (by simp))
    refine ⟨?_, by omega, ?_⟩
    · rw [Bool.eq_false_iff, ne_eq, isAsciiUpper_iff]
      omega
    · intro other hother
      rw [hval]
      exact CaseRun.not_contains_small hrun hcontains hother

/-- Blanks are left alone, and nothing else comes to one. -/
theorem isBlank_lower (c : CodePoint) : c.lower.isBlank = c.isBlank := by
  rw [Bool.eq_iff_iff, isBlank_iff, isBlank_iff]
  rcases c.lower_cases with ⟨hsame, -⟩ | ⟨hupper, hval⟩ | ⟨run, hrun, hcontains, hval⟩
  · rw [hsame]
  · have hrange := isAsciiUpper_iff.mp hupper
    have hblanks : ∀ range ∈ blankRanges, range.2 < 65 ∨ 122 < range.1 := by decide
    constructor
    · rintro ⟨range, hmem, hin⟩
      have := hblanks range hmem
      omega
    · rintro ⟨range, hmem, hin⟩
      have := hblanks range hmem
      omega
  · have hrange := CaseRun.contains_iff.mp hcontains
    have hinside := CaseRun.small_mem_Icc hrun hcontains
    constructor
    · rintro ⟨range, hmem, hin⟩
      have hmisses := CaseRun.misses_iff.mp
        ((CaseRun.misses_of_mem run hrun).2.2 range (by simp [hmem]))
      omega
    · rintro ⟨range, hmem, hin⟩
      have hbeside := (CaseRun.beside_of_mem run hrun).2 range hmem
      omega

/-- Only what is left alone comes to a curly quote. -/
theorem lower_eq_self_of_curly (hlow : 0x2018 ≤ c.lower.val) (hhigh : c.lower.val ≤ 0x201D) :
    c.lower = c := by
  rcases c.lower_cases with ⟨hsame, -⟩ | ⟨hupper, hval⟩ | ⟨run, hrun, hcontains, hval⟩
  · exact hsame
  · have hrange := isAsciiUpper_iff.mp hupper
    omega
  · have hinside := CaseRun.small_mem_Icc hrun hcontains
    have hmisses := CaseRun.misses_iff.mp
      ((CaseRun.misses_of_mem run hrun).2.2 (0x2018, 0x201D) (by simp))
    omega

end CodePoint

/-! ## Lowering a text -/

namespace Text

/-- Nothing but a capital is changed, wherever it stands. -/
theorem lowerAt_of_not_capital {c : CodePoint} (h : c.isCapital = false) (before after : Text) :
    lowerAt before c after = [c] := by
  obtain ⟨hupper, hdotted, hruns⟩ := CodePoint.isCapital_eq_false_iff.mp h
  have hsigma : c.val ≠ 0x3A3 := by
    intro hval
    have hcapital : (CodePoint.ofNat 0x3A3).isCapital = true := by decide +kernel
    rw [← hval, CodePoint.ofNat_val, h] at hcapital
    cases hcapital
  rw [lowerAt, if_neg hdotted, if_neg hsigma]
  rcases c.lower_cases with ⟨hsame, -⟩ | ⟨hcapital, -⟩ | ⟨run, hrun, hcontains, -⟩
  · rw [hsame]
  · rw [hupper] at hcapital
    cases hcapital
  · rw [hruns run hrun] at hcontains
    cases hcontains

/-- Nothing is lowered to nothing. -/
theorem lowerAt_ne_nil (before : Text) (c : CodePoint) (after : Text) :
    lowerAt before c after ≠ [] := by
  unfold lowerAt
  split
  · exact List.cons_ne_nil _ _
  · split <;> exact List.cons_ne_nil _ _

/-- What a code point comes to where it stands: no capital, a blank only from a blank, and a curly
quote only from itself. -/
theorem of_mem_lowerAt {before after : Text} {c d : CodePoint} (h : d ∈ lowerAt before c after) :
    d.isCapital = false ∧ d.isBlank = c.isBlank ∧
      (0x2018 ≤ d.val → d.val ≤ 0x201D → d = c) := by
  unfold lowerAt at h
  by_cases hdotted : c.val = 0x130
  · have hc : c.isBlank = false := by
      rw [← CodePoint.ofNat_val c, hdotted]
      decide +kernel
    rw [if_pos hdotted] at h
    rw [hc]
    have hall : ∀ d ∈ [CodePoint.ofChar 'i', CodePoint.ofNat 0x307],
        d.isCapital = false ∧ d.isBlank = false ∧ d.val < 0x2018 := by decide +kernel
    obtain ⟨hcapital, hblank, hlow⟩ := hall d h
    exact ⟨hcapital, hblank, fun hge => absurd hlow (by omega)⟩
  · rw [if_neg hdotted] at h
    by_cases hsigma : c.val = 0x3A3
    · have hc : c.isBlank = false := by
        rw [← CodePoint.ofNat_val c, hsigma]
        decide +kernel
      rw [if_pos hsigma] at h
      rw [hc]
      have hall : ∀ n ∈ [0x3C2, 0x3C3], (CodePoint.ofNat n).isCapital = false ∧
          (CodePoint.ofNat n).isBlank = false ∧ (CodePoint.ofNat n).val < 0x2018 := by
        decide +kernel
      obtain rfl := List.mem_singleton.mp h
      obtain ⟨hcapital, hblank, hlow⟩ := hall (if sigmaIsFinal before after then 0x3C2 else 0x3C3)
        (by split <;> simp)
      exact ⟨hcapital, hblank, fun hge => absurd hlow (by omega)⟩
    · rw [if_neg hsigma] at h
      obtain rfl := List.mem_singleton.mp h
      exact ⟨CodePoint.isCapital_lower hdotted, c.isBlank_lower, CodePoint.lower_eq_self_of_curly⟩

/-- What stands in a lowered text came from a code point of the text. -/
theorem of_mem_lower {t : Text} {d : CodePoint} (h : d ∈ lower t) :
    d.isCapital = false ∧ ∃ c ∈ t, d.isBlank = c.isBlank ∧
      (0x2018 ≤ d.val → d.val ≤ 0x201D → d = c) := by
  suffices hafter : ∀ before, d ∈ lowerAfter before t → d.isCapital = false ∧
      ∃ c ∈ t, d.isBlank = c.isBlank ∧ (0x2018 ≤ d.val → d.val ≤ 0x201D → d = c) from hafter [] h
  clear h
  induction t with
  | nil =>
    intro before h
    cases h
  | cons c r ih =>
    intro before h
    rcases List.mem_append.mp h with hhere | hrest
    · obtain ⟨hcapital, hcomes⟩ := of_mem_lowerAt hhere
      exact ⟨hcapital, c, List.mem_cons_self, hcomes⟩
    · obtain ⟨hcapital, e, he, hcomes⟩ := ih (c :: before) hrest
      exact ⟨hcapital, e, List.mem_cons_of_mem c he, hcomes⟩

/-- A text without capitals is left alone. -/
theorem lower_of_not_capital {t : Text} (h : ∀ c ∈ t, c.isCapital = false) : lower t = t := by
  suffices hafter : ∀ before, lowerAfter before t = t from hafter []
  induction t with
  | nil =>
    intro before
    rfl
  | cons c r ih =>
    intro before
    obtain ⟨hc, hr⟩ := List.forall_mem_cons.mp h
    rw [lowerAfter, lowerAt_of_not_capital hc, ih hr, List.singleton_append]

/-- Lowering a second time changes nothing. -/
@[simp] theorem lower_lower (t : Text) : lower (lower t) = lower t :=
  lower_of_not_capital fun _ hd => (of_mem_lower hd).1

/-- A lowered text is blank exactly when the text is. -/
theorem isBlank_lower (t : Text) : isBlank (lower t) = isBlank t := by
  suffices hafter : ∀ before, isBlank (lowerAfter before t) = isBlank t from hafter []
  induction t with
  | nil =>
    intro before
    rfl
  | cons c r ih =>
    intro before
    have hhere : isBlank (lowerAt before c r) = c.isBlank := by
      obtain ⟨d, l, hcons⟩ := List.exists_cons_of_ne_nil (lowerAt_ne_nil before c r)
      rw [Bool.eq_iff_iff, isBlank, List.all_eq_true]
      constructor
      · intro hall
        rw [← (of_mem_lowerAt (hcons ▸ List.mem_cons_self)).2.1]
        exact hall d (hcons ▸ List.mem_cons_self)
      · intro hc e he
        rw [(of_mem_lowerAt he).2.1, hc]
    have hsplit (t u : Text) : isBlank (t ++ u) = (isBlank t && isBlank u) := List.all_append
    rw [lowerAfter, hsplit, hhere, ih (c :: before)]
    rfl

/-! ## Texts that do not see each other -/

end Text

/-- A code point at which a look for a cased letter ends without one. -/
structure CodePoint.IsNeutral (c : CodePoint) : Prop where
  /-- It is no cased letter. -/
  not_cased : c.isCased = false
  /-- It is not passed over. -/
  not_ignorable : c.isCaseIgnorable = false

theorem CodePoint.isNeutral_space : IsNeutral ' ' := ⟨by decide +kernel, by decide +kernel⟩

namespace Text

section Neutral

variable {c : CodePoint} (hc : c.IsNeutral)
include hc

/-- A look for a cased letter does not go beyond a neutral code point. -/
theorem nextIsCased_append_cons (t u : Text) : nextIsCased (t ++ c :: u) = nextIsCased t := by
  induction t with
  | nil =>
    unfold nextIsCased
    simp [hc.not_ignorable, hc.not_cased]
  | cons d r ih =>
    unfold nextIsCased at ih ⊢
    by_cases hd : d.isCaseIgnorable = true
    · rw [List.cons_append, List.dropWhile_cons_of_pos hd, List.dropWhile_cons_of_pos hd, ih]
    · rw [List.cons_append, List.dropWhile_cons_of_neg hd, List.dropWhile_cons_of_neg hd]

/-- What stands before a neutral code point does not matter behind it. -/
theorem lowerAt_before (before u : Text) (d : CodePoint) (after : Text) :
    lowerAt (before ++ c :: u) d after = lowerAt before d after := by
  unfold lowerAt sigmaIsFinal
  rw [nextIsCased_append_cons hc]

/-- What stands behind a neutral code point does not matter before it. -/
theorem lowerAt_after (before : Text) (d : CodePoint) (after u : Text) :
    lowerAt before d (after ++ c :: u) = lowerAt before d after := by
  unfold lowerAt sigmaIsFinal
  rw [nextIsCased_append_cons hc]

theorem lowerAfter_neutral (before u t : Text) :
    lowerAfter (before ++ c :: u) t = lowerAfter before t := by
  induction t generalizing before with
  | nil => rfl
  | cons d r ih =>
    rw [lowerAfter, lowerAfter, lowerAt_before hc, ← List.cons_append, ih]

/-- **Lowering in two parts.** A text is lowered at a neutral code point as its two parts are. -/
theorem lower_append_cons (hcapital : c.isCapital = false) (t u : Text) :
    lower (t ++ c :: u) = lower t ++ c :: lower u := by
  suffices hafter : ∀ before,
      lowerAfter before (t ++ c :: u) = lowerAfter before t ++ c :: lower u from hafter []
  induction t with
  | nil =>
    intro before
    have hrest : lowerAfter (c :: before) u = lower u := lowerAfter_neutral hc [] before u
    rw [List.nil_append, lowerAfter, lowerAfter, lowerAt_of_not_capital hcapital, hrest]
    rfl
  | cons d r ih =>
    intro before
    rw [List.cons_append, lowerAfter, lowerAfter, lowerAt_after hc, ih, List.append_assoc]

end Neutral

end Text

end Tablewright
