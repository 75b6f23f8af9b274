/-
Where one text occurs in another.

A text occurs at a position when what stands from there on begins with it, so two occurrences may
overlap. Counting and replacing take the first occurrence and go on behind it, and they agree on
where that is: a count is one more than the count behind the first cut (`count_eq`). So it is one
exactly when every occurrence begins inside the first one (`count_eq_one_iff`), and then the new text
is put in the place of the first one (`replaceFirst_of_soleAt`).

Several words are replaced in one pass from the left, which is followed part by part of a text. A part
in which no word begins, not even one that ends behind it, is passed as it stands
(`replaceAux_append`), and a part that is a word gives way to the value of the word
(`replaceAux_word`). Replacing one word is a pass for this word alone, so the same two lemmas speak of
replacing words one after another and of replacing them all at once.
-/
import Tablewright.Proofs.Text.Literal
import Tablewright.Proofs.Text.Split

set_option autoImplicit false

namespace Tablewright.Text

variable {t needle new : Text} {i j : Nat}

/-- A text occurs in another one at a position. -/
def OccursAt (t needle : Text) (i : Nat) : Prop := needle <+: t.drop i

instance (t needle : Text) (i : Nat) : Decidable (t.OccursAt needle i) :=
  inferInstanceAs (Decidable (needle <+: t.drop i))

/-- A text occurs at a position, and wherever else it occurs, it begins inside that occurrence. -/
structure SoleAt (t needle : Text) (i : Nat) : Prop where
  occurs : t.OccursAt needle i
  inside : ∀ j, t.OccursAt needle j → i ≤ j ∧ j < i + needle.length

/-- A text occurs at a position and nowhere else. -/
structure OnlyAt (t needle : Text) (i : Nat) : Prop where
  occurs : t.OccursAt needle i
  only : ∀ j, t.OccursAt needle j → j = i

/-! ## Positions -/

/-- Behind a beginning a text occurs where it occurs in the rest. -/
theorem occursAt_append (before rest : Text) (i : Nat) :
    (before ++ rest).OccursAt needle (before.length + i) ↔ rest.OccursAt needle i := by
  rw [OccursAt, OccursAt, List.drop_append, List.drop_eq_nil_of_le (Nat.le_add_right _ _),
    List.nil_append, Nat.add_sub_cancel_left]

/-- A text occurs behind what it is put behind. -/
theorem occursAt_length (before needle after : Text) :
    (before ++ needle ++ after).OccursAt needle before.length := by
  rw [OccursAt, List.append_assoc, List.drop_left]
  exact List.prefix_append needle after

/-- Nothing is dropped exactly where the text does not occur at the start. -/
theorem dropStart?_eq_none_iff : dropStart? needle t = none ↔ ¬ t.OccursAt needle 0 := by
  rw [OccursAt, List.drop_zero]
  constructor
  · rintro hnone ⟨rest, hrest⟩
    rw [dropStart?_eq_some_iff.mpr hrest.symm] at hnone
    cases hnone
  · intro hnot
    cases hdrop : dropStart? needle t with
    | none => rfl
    | some rest => exact absurd ⟨rest, (dropStart?_eq_some_iff.mp hdrop).symm⟩ hnot

/-- A text includes another one exactly if that is a part of it. -/
theorem includes_iff : includes t needle = true ↔ needle <:+: t := by
  induction t with
  | nil => simp [includes]
  | cons c r ih => rw [includes, Bool.or_eq_true, startsWith_iff, ih, List.infix_cons_iff]

/-- An occurrence begins inside the text. -/
theorem OccursAt.lt_length (h : t.OccursAt needle i) (hne : needle ≠ []) : i < t.length := by
  have hlength := h.length_le
  have hpos := List.length_pos_iff.mpr hne
  rw [List.length_drop] at hlength
  omega

/-- What stands before an occurrence, the occurrence, and what stands behind it. -/
theorem OccursAt.eq_append (h : t.OccursAt needle i) :
    t = t.take i ++ needle ++ t.drop (i + needle.length) := by
  obtain ⟨rest, hrest⟩ := h
  have hbehind : t.drop (i + needle.length) = rest := by
    rw [← List.drop_drop, ← hrest, List.drop_left]
  rw [hbehind, List.append_assoc, hrest, List.take_append_drop]

/-- A text has at most one position at which every occurrence begins. -/
theorem SoleAt.unique (hi : t.SoleAt needle i) (hj : t.SoleAt needle j) : i = j :=
  Nat.le_antisymm (hi.inside j hj.occurs).1 (hj.inside i hi.occurs).1

/-- The only occurrence is one in which all of them begin. -/
theorem OnlyAt.soleAt (h : t.OnlyAt needle i) (hne : needle ≠ []) : t.SoleAt needle i where
  occurs := h.occurs
  inside j hj := by
    have hpos := List.length_pos_iff.mpr hne
    have hji := h.only j hj
    omega

/-! ## Cutting -/

/-- A cut is made at the first occurrence. -/
theorem cutAtFirst?_some {before after : Text} (h : cutAtFirst? needle t = some (before, after)) :
    t = before ++ needle ++ after ∧ ∀ i, t.OccursAt needle i → before.length ≤ i := by
  induction t generalizing before with
  | nil =>
    rw [cutAtFirst?] at h
    split at h
    case isTrue hempty =>
      cases h
      rw [List.isEmpty_iff.mp hempty]
      exact ⟨rfl, fun i _ => Nat.zero_le i⟩
    case isFalse => cases h
  | cons c r ih =>
    rw [cutAtFirst?] at h
    cases hdrop : dropStart? needle (c :: r) with
    | some rest =>
      rw [hdrop] at h
      cases h
      exact ⟨dropStart?_eq_some_iff.mp hdrop, fun i _ => Nat.zero_le i⟩
    | none =>
      rw [hdrop] at h
      obtain ⟨⟨x, y⟩, hcut, hxy⟩ := Option.map_eq_some_iff.mp h
      cases hxy
      obtain ⟨rfl, hfirst⟩ := ih hcut
      refine ⟨rfl, fun i hi => ?_⟩
      cases i with
      | zero => exact absurd hi (dropStart?_eq_none_iff.mp hdrop)
      | succ i => exact Nat.succ_le_succ (hfirst i hi)

/-- No cut is made exactly where nothing occurs. -/
theorem cutAtFirst?_eq_none_iff (hne : needle ≠ []) :
    cutAtFirst? needle t = none ↔ ∀ i, ¬ t.OccursAt needle i := by
  constructor
  · intro h i hi
    induction t generalizing i with
    | nil =>
      rw [OccursAt, List.drop_nil, List.prefix_nil] at hi
      exact hne hi
    | cons c r ih =>
      rw [cutAtFirst?] at h
      split at h
      case h_1 => cases h
      case h_2 hdrop =>
        cases i with
        | zero => exact dropStart?_eq_none_iff.mp hdrop hi
        | succ i => exact ih (Option.map_eq_none_iff.mp h) i hi
  · intro h
    cases hcut : cutAtFirst? needle t with
    | none => rfl
    | some parts =>
      obtain ⟨hparts, -⟩ := cutAtFirst?_some hcut
      exact absurd (hparts ▸ occursAt_length parts.1 needle parts.2) (h parts.1.length)

/-- A cut is made where nothing occurs before. -/
theorem cutAtFirst?_of_first {before after : Text} (hne : needle ≠ [])
    (h : ∀ i, (before ++ needle ++ after).OccursAt needle i → before.length ≤ i) :
    cutAtFirst? needle (before ++ needle ++ after) = some (before, after) := by
  have hoccurs := occursAt_length before needle after
  cases hcut : cutAtFirst? needle (before ++ needle ++ after) with
  | none => exact absurd hoccurs ((cutAtFirst?_eq_none_iff hne).mp hcut before.length)
  | some parts =>
    obtain ⟨x, y⟩ := parts
    obtain ⟨hparts, hfirst⟩ := cutAtFirst?_some hcut
    have hlength : x.length = before.length :=
      Nat.le_antisymm (hfirst _ hoccurs) (h _ (hparts ▸ occursAt_length x needle y))
    rw [List.append_assoc, List.append_assoc] at hparts
    obtain ⟨rfl, hrest⟩ := List.append_inj hparts hlength.symm
    rw [List.append_cancel_left hrest]

/-- A text occurs nowhere before if it holds a code point that neither what stands before nor its own
beginning does. -/
theorem length_le_of_occursAt (start : Text) (mark : CodePoint) (rest : Text)
    {before after : Text} (hstart : mark ∉ start) (hbefore : mark ∉ before)
    (h : (before ++ (start ++ mark :: rest) ++ after).OccursAt (start ++ mark :: rest) i) :
    before.length ≤ i := by
  refine Nat.le_of_not_lt fun hlt => ?_
  obtain ⟨r, hr⟩ := h
  -- behind the beginning stands the code point, and so it would in front of where it does
  have hmark : (before ++ start)[i + start.length]? = some mark := by
    have hinside : i + start.length < (before ++ start).length := by
      rw [List.length_append]
      omega
    have hdrop : (before ++ (start ++ mark :: rest) ++ after)[i + start.length]? = some mark := by
      rw [← List.getElem?_drop, ← hr]
      simp
    rw [← List.append_assoc, List.append_assoc, List.getElem?_append_left hinside] at hdrop
    exact hdrop
  rcases List.mem_append.mp (List.mem_of_getElem? hmark) with hmem | hmem
  · exact hbefore hmem
  · exact hstart hmem

/-! ## Counting -/

/-- What is still to be passed is not counted. -/
theorem countAux_eq (needle : Text) (k : Nat) (t : Text) :
    countAux needle k t = count (t.drop k) needle := by
  induction t generalizing k with
  | nil => cases k <;> rfl
  | cons c r ih =>
    cases k with
    | zero => rfl
    | succ k => exact ih k

/-- **Counting and cutting agree.** What is counted is the first occurrence and what occurs behind the
cut. -/
theorem count_eq (hne : needle ≠ []) (t : Text) :
    count t needle =
      match cutAtFirst? needle t with
      | none => 0
      | some (_, after) => count after needle + 1 := by
  induction t with
  | nil =>
    have hempty : ¬ needle.isEmpty = true := fun h => hne (List.isEmpty_iff.mp h)
    rw [cutAtFirst?, if_neg hempty]
    rfl
  | cons c r ih =>
    rw [count, countAux, cutAtFirst?, startsWith]
    cases hdrop : dropStart? needle (c :: r) with
    | some rest =>
      -- the rest of the first occurrence is passed, and that is the needle without its head
      have hrest : r.drop (needle.length - 1) = rest := by
        have hparts := dropStart?_eq_some_iff.mp hdrop
        cases needle with
        | nil => exact absurd rfl hne
        | cons d s =>
          obtain ⟨-, rfl⟩ := List.cons.inj hparts
          exact List.drop_left
      rw [Option.isSome_some, if_pos rfl, countAux_eq, hrest]
    | none =>
      rw [Option.isSome_none, if_neg Bool.false_ne_true]
      refine ih.trans ?_
      cases cutAtFirst? needle r <;> rfl

theorem count_eq_zero_iff (hne : needle ≠ []) :
    count t needle = 0 ↔ ∀ i, ¬ t.OccursAt needle i := by
  rw [← cutAtFirst?_eq_none_iff hne, count_eq hne]
  cases cutAtFirst? needle t <;> simp

/-- **Counting one.** A text is counted once exactly when all its occurrences begin inside the first
one. -/
theorem count_eq_one_iff (hne : needle ≠ []) :
    count t needle = 1 ↔ ∃ i, t.SoleAt needle i := by
  cases hcut : cutAtFirst? needle t with
  | none =>
    have hnone := (cutAtFirst?_eq_none_iff hne).mp hcut
    have hzero : count t needle = 0 := (count_eq_zero_iff hne).mpr hnone
    simp only [hzero, Nat.zero_ne_one, false_iff]
    rintro ⟨i, hsole⟩
    exact hnone i hsole.occurs
  | some parts =>
    obtain ⟨before, after⟩ := parts
    obtain ⟨rfl, hfirst⟩ := cutAtFirst?_some hcut
    have hoccurs := occursAt_length before needle after
    have hbehind : ∀ k, (before ++ needle ++ after).OccursAt needle
        (before.length + needle.length + k) ↔ after.OccursAt needle k := fun k => by
      rw [← List.length_append, occursAt_append]
    rw [count_eq hne, hcut, Nat.add_eq_right, count_eq_zero_iff hne]
    constructor
    · intro hnone
      refine ⟨before.length, hoccurs, fun j hj => ⟨hfirst j hj, Nat.lt_of_not_le fun hfar => ?_⟩⟩
      obtain ⟨k, rfl⟩ := Nat.exists_eq_add_of_le hfar
      exact hnone k ((hbehind k).mp hj)
    · rintro ⟨i, hsole⟩ k hk
      have hi : i ≤ before.length := (hsole.inside _ hoccurs).1
      have hlast := (hsole.inside _ ((hbehind k).mpr hk)).2
      omega

/-! ## Replacing -/

/-- **Replacing** puts the new text in the place of the first occurrence. -/
theorem replaceFirst_of_soleAt (hne : needle ≠ []) (h : t.SoleAt needle i) (new : Text) :
    replaceFirst t needle new = t.take i ++ new ++ t.drop (i + needle.length) := by
  cases hcut : cutAtFirst? needle t with
  | none => exact absurd h.occurs ((cutAtFirst?_eq_none_iff hne).mp hcut i)
  | some parts =>
    obtain ⟨before, after⟩ := parts
    obtain ⟨rfl, hfirst⟩ := cutAtFirst?_some hcut
    have hoccurs := occursAt_length before needle after
    obtain rfl : i = before.length :=
      Nat.le_antisymm (h.inside _ hoccurs).1 (hfirst i h.occurs)
    rw [replaceFirst, hcut, List.append_assoc before needle after, List.take_left,
      ← List.append_assoc, ← List.length_append, List.drop_left]

/-! ## Replacing words in one pass -/

section Pass

variable {values : List (Text × Text)}

/-- No word begins in a text before `rest`, neither where the text begins nor further inside. -/
def Passed (values : List (Text × Text)) (t rest : Text) : Prop :=
  ∀ a b, t = a ++ b → b ≠ [] → ∀ v ∈ values, ¬ v.1 <+: b ++ rest

/-- What a pass finds where no word begins. -/
theorem find?_eq_none_of_not_prefix {t : Text} (h : ∀ v ∈ values, ¬ v.1 <+: t) :
    values.find? (fun v => startsWith t v.1) = none := by
  rw [List.find?_eq_none]
  intro v hv hstart
  exact h v hv (startsWith_iff.mp hstart)

/-- A text in which no word begins is passed as it stands. -/
theorem replaceAux_append {t rest : Text} (h : Passed values t rest) :
    replaceAux values 0 (t ++ rest) = t ++ replaceAux values 0 rest := by
  induction t with
  | nil => rfl
  | cons c r ih =>
    have hnone := find?_eq_none_of_not_prefix (h [] (c :: r) rfl (List.cons_ne_nil c r))
    rw [List.cons_append] at hnone ⊢
    rw [replaceAux, hnone]
    refine congrArg (c :: ·) (ih fun a b hab hb => ?_)
    exact h (c :: a) b (by rw [hab, List.cons_append]) hb

/-- The rest of a word is left out. -/
theorem replaceAux_length (t rest : Text) :
    replaceAux values t.length (t ++ rest) = replaceAux values 0 rest := by
  induction t with
  | nil => rfl
  | cons c r ih => rw [List.cons_append, List.length_cons, replaceAux, ih]

/-- A word gives way to its value, if no other word begins where it does. -/
theorem replaceAux_word {word value rest : Text} (hne : word ≠ []) (hmem : (word, value) ∈ values)
    (honly : ∀ v ∈ values, v.1 <+: word ++ rest → v = (word, value)) :
    replaceAux values 0 (word ++ rest) = value ++ replaceAux values 0 rest := by
  obtain ⟨c, r, rfl⟩ := List.exists_cons_of_ne_nil hne
  have hfind : values.find? (fun v => startsWith (c :: r ++ rest) v.1) = some (c :: r, value) := by
    cases hfound : values.find? fun v => startsWith (c :: r ++ rest) v.1 with
    | none =>
      have hnot := List.find?_eq_none.mp hfound _ hmem
      exact absurd (startsWith_iff.mpr (List.prefix_append (c :: r) rest)) hnot
    | some v =>
      have hstart := List.find?_some hfound
      rw [honly v (List.mem_of_find?_eq_some hfound) (startsWith_iff.mp hstart)]
  rw [List.cons_append] at hfind ⊢
  rw [replaceAux, hfind]
  exact congrArg (value ++ ·) (replaceAux_length r rest)

/-! ## Marks -/

/-- Every underscore has another code point behind it in the text, so that no second underscore can
come to stand there. -/
def Settled (t : Text) : Prop :=
  ∀ a b, t = a ++ ('_' : CodePoint) :: b → ∃ c r, b = c :: r ∧ c ≠ '_'

theorem settled_of_not_mem {t : Text} (h : ('_' : CodePoint) ∉ t) : Settled t := by
  intro a b hab
  exact absurd (hab ▸ List.mem_append_right a List.mem_cons_self) h

theorem Settled.append {t u : Text} (ht : Settled t) (hu : Settled u) : Settled (t ++ u) := by
  intro a b hab
  rcases List.append_eq_append_iff.mp hab with ⟨x, rfl, hx⟩ | ⟨x, rfl, hx⟩
  · exact hu x b hx
  · -- the underscore is the last code point of the first text in no case
    cases x with
    | nil => exact hu [] b hx.symm
    | cons d x =>
      obtain ⟨rfl, rfl⟩ := List.cons.inj hx
      obtain ⟨c, r, rfl, hc⟩ := ht a x rfl
      exact ⟨c, r ++ u, List.cons_append, hc⟩

theorem settled_flatMap {α : Type} {f : α → Text} {xs : List α} (h : ∀ x ∈ xs, Settled (f x)) :
    Settled (xs.flatMap f) := by
  induction xs with
  | nil => exact settled_of_not_mem List.not_mem_nil
  | cons x xs ih =>
    rw [List.flatMap_cons]
    exact (h x List.mem_cons_self).append (ih fun y hy => h y (List.mem_cons_of_mem x hy))

theorem settled_unlines {lines : List Text} (h : ∀ line ∈ lines, Settled line) :
    Settled (unlines lines) := by
  induction lines with
  | nil => exact settled_of_not_mem List.not_mem_nil
  | cons line lines ih =>
    obtain ⟨hline, hrest⟩ := List.forall_mem_cons.mp h
    cases lines with
    | nil => exact hline
    | cons next lines =>
      have hbreak : Settled [CodePoint.ofChar '\n'] := settled_of_not_mem (by decide)
      rw [unlines_cons]
      exact hline.append (hbreak.append (ih hrest))

/-- No two underscores stand behind each other in a settled text. -/
theorem Settled.no_marks {t : Text} (h : Settled t) : ¬ Text.ofString "__" <:+: t := by
  rintro ⟨a, b, hab⟩
  have hmark : t = a ++ ('_' : CodePoint) :: (('_' : CodePoint) :: b) := by
    rw [← hab, List.append_assoc]
    rfl
  obtain ⟨c, r, hr, hc⟩ := h a _ hmark
  exact hc (List.cons.inj hr).1.symm

/-- Words that begin with two underscores do not begin in a settled text, whatever follows it. -/
theorem Settled.passed {t : Text} (h : Settled t)
    (hvalues : ∀ v ∈ values, Text.ofString "__" <+: v.1) (rest : Text) : Passed values t rest := by
  intro a b hab hb v hv hprefix
  obtain ⟨d, b, rfl⟩ := List.exists_cons_of_ne_nil hb
  obtain ⟨hd, hrest⟩ := List.cons_prefix_cons.mp ((hvalues v hv).trans hprefix)
  obtain ⟨c, r, rfl, hc⟩ := h a b (hd ▸ hab)
  exact hc (List.cons_prefix_cons.mp hrest).1.symm

end Pass

end Tablewright.Text
