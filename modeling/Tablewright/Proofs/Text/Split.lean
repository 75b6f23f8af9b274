/-
Cutting a text at a separator, and trimming it.

A text without the separator is its own and only piece, what stands before the first separator is
the first piece, and so cutting what was joined gives the parts back. A trimmed text has no blank at
either end, so trimming it again changes nothing, and it is blank only when nothing is left of it.
-/
import Mathlib.Data.List.DropRight
import Tablewright.Text.Blank
import Tablewright.Text.Search

set_option autoImplicit false

namespace Tablewright.Text

/-- What stands before the first separator is the first piece. -/
theorem splitOn_cons_of_not_mem {sep : CodePoint} {line : Text} (h : sep ∉ line) (t : Text) :
    splitOn sep (line ++ sep :: t) = line :: splitOn sep t := by
  induction line with
  | nil => rw [List.nil_append, splitOn, if_pos rfl]
  | cons c r ih =>
    have hc : c ≠ sep := fun hc => h (hc ▸ List.mem_cons_self)
    have hr : sep ∉ r := fun hr => h (List.mem_cons_of_mem c hr)
    rw [List.cons_append, splitOn, if_neg hc, ih hr]

/-- The first piece begins with whatever the text begins with that does not separate. -/
theorem splitOn_of_not_mem {sep : CodePoint} {start : Text} (h : sep ∉ start) (t : Text) :
    ∃ rest more, splitOn sep (start ++ t) = (start ++ rest) :: more := by
  induction start with
  | nil =>
    cases t with
    | nil => exact ⟨[], [], rfl⟩
    | cons c r =>
      rw [List.nil_append, splitOn]
      split
      · exact ⟨[], _, rfl⟩
      · split
        · exact ⟨[c], [], rfl⟩
        · exact ⟨_, _, rfl⟩
  | cons c r ih =>
    have hc : c ≠ sep := fun hc => h (hc ▸ List.mem_cons_self)
    obtain ⟨rest, more, hsplit⟩ := ih fun hr => h (List.mem_cons_of_mem c hr)
    refine ⟨rest, more, ?_⟩
    rw [List.cons_append, splitOn, if_neg hc, hsplit]
    rfl

/-- Cutting a text without the separator gives the text. -/
theorem splitOn_eq_singleton {sep : CodePoint} {t : Text} (h : sep ∉ t) : splitOn sep t = [t] := by
  induction t with
  | nil => rfl
  | cons c r ih =>
    rw [splitOn, if_neg (List.ne_of_not_mem_cons h).symm, ih (List.not_mem_of_not_mem_cons h)]

theorem join_cons_cons (sep : CodePoint) (t u : Text) (us : List Text) :
    join [sep] (t :: u :: us) = t ++ sep :: join [sep] (u :: us) := by
  rw [join, List.append_assoc]
  rfl

/-- What is joined begins with the first part. -/
theorem exists_join_cons (sep t : Text) (ts : List Text) : ∃ u, join sep (t :: ts) = t ++ u := by
  cases ts with
  | nil => exact ⟨[], (List.append_nil t).symm⟩
  | cons u us => exact ⟨sep ++ join sep (u :: us), List.append_assoc t sep _⟩

/-- Joining what is left of two lists is joining both, and then the two. -/
theorem join_append (sep : Text) {ts us : List Text} (hts : ts ≠ []) (hus : us ≠ []) :
    join sep (ts ++ us) = join sep ts ++ sep ++ join sep us := by
  induction ts with
  | nil => exact absurd rfl hts
  | cons t ts ih =>
    cases ts with
    | nil =>
      obtain ⟨u, us, rfl⟩ := List.exists_cons_of_ne_nil hus
      rfl
    | cons v vs =>
      have hrest := ih (List.cons_ne_nil v vs)
      rw [List.cons_append] at hrest ⊢
      rw [List.cons_append, join, join, hrest]
      simp

/-- Joined parts stand behind separators once there is one before the first, too. -/
theorem cons_join_cons (sep : CodePoint) (t : Text) (ts : List Text) :
    sep :: join [sep] (t :: ts) = (t :: ts).flatMap (sep :: ·) := by
  induction ts generalizing t with
  | nil => exact (List.append_nil _).symm
  | cons u us ih =>
    rw [List.flatMap_cons, ← ih, join_cons_cons]
    rfl

theorem unlines_cons (line next : Text) (rest : List Text) :
    unlines (line :: next :: rest) = line ++ CodePoint.ofChar '\n' :: unlines (next :: rest) :=
  join_cons_cons '\n' line next rest

/-- A cut text is not cut into nothing. -/
theorem splitOn_ne_nil (sep : CodePoint) (t : Text) : splitOn sep t ≠ [] := by
  obtain ⟨rest, more, h⟩ := @splitOn_of_not_mem sep [] List.not_mem_nil t
  rw [List.nil_append] at h
  rw [h]
  exact List.cons_ne_nil _ _

/-- A text is cut at a separator in it as its two parts are. -/
theorem splitOn_append_cons (sep : CodePoint) (a b : Text) :
    splitOn sep (a ++ sep :: b) = splitOn sep a ++ splitOn sep b := by
  induction a with
  | nil => exact if_pos rfl
  | cons c r ih =>
    rw [List.cons_append, splitOn, splitOn]
    split
    case isTrue => rw [ih]; rfl
    case isFalse =>
      rw [ih]
      cases hr : splitOn sep r with
      | nil => exact absurd hr (splitOn_ne_nil sep r)
      | cons piece pieces => rfl

/-- What was joined is cut as its parts are. -/
theorem splitOn_join_flatMap {sep : CodePoint} {ts : List Text} (hne : ts ≠ []) :
    splitOn sep (join [sep] ts) = ts.flatMap (splitOn sep) := by
  induction ts with
  | nil => exact absurd rfl hne
  | cons t ts ih =>
    cases ts with
    | nil => rw [join, List.flatMap_singleton]
    | cons u us =>
      rw [join_cons_cons, splitOn_append_cons, ih (List.cons_ne_nil u us)]
      rfl

/-- Every piece but the first begins behind a separator. -/
theorem mem_tail_splitOn {sep : CodePoint} {t piece : Text} (h : piece ∈ (splitOn sep t).tail) :
    ∃ a b, t = a ++ sep :: b ∧ (splitOn sep b).head? = some piece := by
  induction t with
  | nil => cases h
  | cons c r ih =>
    have hcons {a b : Text} (hr : r = a ++ sep :: b) : c :: r = (c :: a) ++ sep :: b := by
      rw [hr, List.cons_append]
    rw [splitOn] at h
    split at h
    case isTrue hc =>
      -- the first piece is empty, and the others are those of what follows
      cases hr : splitOn sep r with
      | nil => exact absurd hr (splitOn_ne_nil sep r)
      | cons first others =>
        rw [hr, List.tail_cons] at h
        rcases List.mem_cons.mp h with rfl | h
        · exact ⟨[], r, by rw [hc, List.nil_append], by rw [hr, List.head?_cons]⟩
        · obtain ⟨a, b, hab, hfirst⟩ := ih (by rw [hr]; exact h)
          exact ⟨c :: a, b, hcons hab, hfirst⟩
    case isFalse hc =>
      cases hr : splitOn sep r with
      | nil => exact absurd hr (splitOn_ne_nil sep r)
      | cons first others =>
        rw [hr] at h
        obtain ⟨a, b, hab, hfirst⟩ := ih (by rw [hr]; exact h)
        exact ⟨c :: a, b, hcons hab, hfirst⟩

/-- What a text is cut into holds nothing but the text does. -/
theorem mem_of_mem_splitOn {sep c : CodePoint} {t piece : Text} (hpiece : piece ∈ splitOn sep t)
    (hc : c ∈ piece) : c ∈ t := by
  induction t generalizing piece with
  | nil =>
    obtain rfl := List.mem_singleton.mp hpiece
    cases hc
  | cons d r ih =>
    rw [splitOn] at hpiece
    split at hpiece
    case isTrue =>
      rcases List.mem_cons.mp hpiece with rfl | hrest
      · cases hc
      · exact List.mem_cons_of_mem d (ih hrest hc)
    case isFalse =>
      cases hr : splitOn sep r with
      | nil => exact absurd hr (splitOn_ne_nil sep r)
      | cons first others =>
        rw [hr] at hpiece ih
        rcases List.mem_cons.mp hpiece with rfl | hrest
        · rcases List.mem_cons.mp hc with rfl | hfirst
          · exact List.mem_cons_self
          · exact List.mem_cons_of_mem d (ih List.mem_cons_self hfirst)
        · exact List.mem_cons_of_mem d (ih (List.mem_cons_of_mem first hrest) hc)

/-- Cutting what was joined gives the parts back. -/
theorem splitOn_join {sep : CodePoint} {ts : List Text} (hne : ts ≠ []) (h : ∀ t ∈ ts, sep ∉ t) :
    splitOn sep (join [sep] ts) = ts := by
  rw [splitOn_join_flatMap hne, List.flatMap_congr fun t ht => splitOn_eq_singleton (h t ht)]
  exact List.flatMap_singleton' ts

/-- Joining what a text was cut into gives the text back. -/
theorem join_splitOn (sep : CodePoint) (t : Text) : join [sep] (splitOn sep t) = t := by
  induction t with
  | nil => rfl
  | cons c r ih =>
    obtain ⟨first, others, hr⟩ := List.exists_cons_of_ne_nil (splitOn_ne_nil sep r)
    rw [hr] at ih
    rw [splitOn, hr]
    split
    case isTrue hc => rw [join_cons_cons, ih, hc, List.nil_append]
    case isFalse =>
      dsimp only
      rw [← ih]
      cases others with
      | nil => rfl
      | cons u us => rw [join_cons_cons, join_cons_cons, List.cons_append]

/-- Where two code points separate, the second one belongs to the part behind it once it stands
before the first part, too. -/
theorem cons_join_pair (a b : CodePoint) {ts : List Text} (hne : ts ≠ []) :
    b :: join [a, b] ts = join [a] (ts.map (b :: ·)) := by
  induction ts with
  | nil => exact absurd rfl hne
  | cons t us ih =>
    cases us with
    | nil => rfl
    | cons u us =>
      have hrest := ih (List.cons_ne_nil u us)
      rw [List.map_cons] at hrest
      rw [List.map_cons, List.map_cons, join_cons_cons, ← hrest, join, List.append_assoc]
      rfl

/-- Parts between two code points are cut at the first of them. -/
theorem splitOn_cons_join_pair {a b : CodePoint} (hb : b ≠ a) {ts : List Text} (hne : ts ≠ [])
    (h : ∀ t ∈ ts, a ∉ t) : splitOn a (b :: join [a, b] ts) = ts.map (b :: ·) := by
  rw [cons_join_pair a b hne]
  refine splitOn_join (fun hnil => hne (List.map_eq_nil_iff.mp hnil)) fun piece hpiece => ?_
  obtain ⟨t, ht, rfl⟩ := List.mem_map.mp hpiece
  intro hmem
  rcases List.mem_cons.mp hmem with heq | hin
  · exact hb heq.symm
  · exact h t ht hin

/-- What comes after a code point that a text begins with. -/
theorem after?_eq_some_iff {mark : CodePoint} {t rest : Text} :
    after? mark t = some rest ↔ t = mark :: rest := by
  cases t with
  | nil => exact ⟨nofun, nofun⟩
  | cons c r =>
    rw [after?, List.cons.injEq]
    split
    case isTrue hc => rw [Option.some.injEq, and_iff_right hc]
    case isFalse hc => exact ⟨nofun, fun h => absurd h.1 hc⟩

/-- A text is cut before the first one of a code point. -/
theorem cutBefore_append_cons {mark : CodePoint} {t : Text} (h : mark ∉ t) (u : Text) :
    cutBefore (fun c => c = mark) (t ++ mark :: u) = (t, mark :: u) := by
  have hkeep : ∀ c ∈ t, (!decide (c = mark)) = true := fun c hc => by
    rw [Bool.not_eq_true', decide_eq_false_iff_not]
    exact fun heq => h (heq ▸ hc)
  have hend : (!decide (mark = mark)) = false := by rw [decide_eq_true rfl, Bool.not_true]
  rw [cutBefore, List.takeWhile_append_of_pos hkeep, List.dropWhile_append_of_pos hkeep,
    List.takeWhile_cons_of_neg (by rw [hend]; exact Bool.false_ne_true),
    List.dropWhile_cons_of_neg (by rw [hend]; exact Bool.false_ne_true), List.append_nil]

/-- A part stands in what is joined. -/
theorem infix_join {t : Text} {ts : List Text} (h : t ∈ ts) (sep : Text) : t <:+: join sep ts := by
  induction ts with
  | nil => cases h
  | cons u us ih =>
    cases us with
    | nil =>
      obtain rfl := List.mem_singleton.mp h
      exact List.infix_refl t
    | cons v vs =>
      rw [join]
      rcases List.mem_cons.mp h with rfl | hrest
      · exact ((List.prefix_append t sep).trans (List.prefix_append _ _)).isInfix
      · exact (ih hrest).trans (List.suffix_append _ _).isInfix

/-! ## Lines -/

/-- The lines of a text that satisfy a test. -/
def linesWhere (p : Text → Bool) (t : Text) : List Text := (splitOn '\n' t).filter p

/-- Among the lines of lines that were put together are those of each. -/
theorem linesWhere_unlines {p : Text → Bool} {lines : List Text} (h : lines ≠ []) :
    linesWhere p (unlines lines) = lines.flatMap (linesWhere p) := by
  have hsplit : splitOn '\n' (unlines lines) = lines.flatMap (splitOn '\n') :=
    splitOn_join_flatMap h
  rw [linesWhere, hsplit, List.filter_flatMap]
  rfl

/-- A single line is all that can satisfy the test. -/
theorem linesWhere_of_line {p : Text → Bool} {t : Text} (h : CodePoint.ofChar '\n' ∉ t) :
    linesWhere p t = [t].filter p := by
  rw [linesWhere, splitOn_eq_singleton h]

theorem flatMap_linesWhere_eq_nil {p : Text → Bool} {lines : List Text}
    (h : ∀ line ∈ lines, linesWhere p line = []) : lines.flatMap (linesWhere p) = [] :=
  List.flatMap_eq_nil_iff.mpr h

/-! ## Trimming -/

/-- A text without blanks has none at its ends. -/
theorem trim_of_not_blank {t : Text} (h : ∀ c ∈ t, c.isBlank = false) : trim t = t := by
  have hdrop : ∀ s : Text, (∀ c ∈ s, c.isBlank = false) → s.dropWhile CodePoint.isBlank = s := by
    intro s hs
    cases s with
    | nil => rfl
    | cons c r =>
      rw [List.dropWhile_cons, if_neg (by simp [hs c List.mem_cons_self])]
  rw [trim, stripWhere, hdrop t h, hdrop t.reverse fun c hc => h c (List.mem_reverse.mp hc),
    List.reverse_reverse]

/-- Trimming drops blanks at the beginning and then at the end. -/
theorem trim_eq_rdropWhile (t : Text) :
    trim t = (t.dropWhile CodePoint.isBlank).rdropWhile CodePoint.isBlank := rfl

/-- A trimmed text does not begin with a blank. -/
theorem dropWhile_trim (t : Text) : (trim t).dropWhile CodePoint.isBlank = trim t := by
  rw [List.dropWhile_eq_self_iff]
  intro hpos
  have htrim : trim t <+: t.dropWhile CodePoint.isBlank := List.rdropWhile_prefix _ _
  rw [htrim.getElem hpos]
  exact List.dropWhile_get_zero_not CodePoint.isBlank t (hpos.trans_le htrim.length_le)

/-- Trimming a trimmed text changes nothing. -/
@[simp] theorem trim_trim (t : Text) : trim (trim t) = trim t := by
  rw [trim_eq_rdropWhile (trim t), dropWhile_trim, trim_eq_rdropWhile]
  exact List.rdropWhile_idempotent _ _

/-- Trimming only leaves code points out. -/
theorem trim_sublist (t : Text) : (trim t).Sublist t :=
  (List.rdropWhile_prefix _ _).sublist.trans (List.dropWhile_sublist _)

/-- What is left of a text when it is trimmed is not blank. -/
theorem isBlank_trim {t : Text} (h : trim t ≠ []) : isBlank (trim t) = false := by
  rw [Bool.eq_false_iff]
  intro hblank
  apply h
  rw [← dropWhile_trim, List.dropWhile_eq_nil_iff]
  exact fun c hc => List.all_eq_true.mp hblank c hc

end Tablewright.Text
