/-
A data hook is its template with every slot filled, all of them at once.

The slots are filled one after another, each in a text that already holds what others were filled
with. Nothing goes wrong there: what a slot is filled with holds no underscore that another one could
follow, and behind a slot stands fixed text that does not go on with a word. So in a text in which
some slots are filled, filling others fills these and changes nothing else (`replaceTogether_textOf`).
One slot at a time, in any order, or all in one pass then comes to the same hook.
-/
import Mathlib.Data.List.Infix
import Tablewright.Artifact.Hook
import Tablewright.Proofs.Naming.Normal
import Tablewright.Proofs.Text.Occurrence

set_option autoImplicit false

namespace Tablewright

/-! ## Names are settled -/

namespace Naming

/-- A word behind an underscore is settled, because it is not empty. -/
theorem settled_marked {w : Text} (hw : IsWord w) : Text.Settled (marked w) := by
  obtain ⟨c, r, rfl⟩ := List.exists_cons_of_ne_nil hw.1
  have hletters : ∀ d ∈ c :: r, d ≠ '_' := by
    rintro _ hd rfl
    exact absurd (hw.2 _ hd) (by decide)
  intro a b hab
  cases a with
  | nil =>
    obtain ⟨-, rfl⟩ := List.cons.inj hab
    exact ⟨c, r, rfl, hletters c List.mem_cons_self⟩
  | cons d a =>
    -- the first underscore is the only one
    obtain ⟨-, hrest⟩ := List.cons.inj hab
    exact absurd rfl (hletters '_' (hrest ▸ List.mem_append_right a List.mem_cons_self))

/-- A canonical name is settled: behind every underscore in it a word begins. -/
theorem settled_canonical (label : Text) : Text.Settled (canonical label) := by
  obtain ⟨ws, h⟩ := exists_spells_canonical label
  have hwords := h.isWord
  obtain ⟨w, vs, rfl, hname⟩ := h.exists_cons
  have hfirst : ('_' : CodePoint) ∉ w := fun hmem =>
    absurd ((hwords w List.mem_cons_self).2 _ hmem) (by decide)
  rw [hname]
  refine (Text.settled_of_not_mem hfirst).append (Text.settled_flatMap fun v hv => ?_)
  exact settled_marked (hwords v (List.mem_cons_of_mem w hv))

end Naming

namespace Hook

/-- A way to fill a template: fixed text stays, and what a slot is filled with is settled. -/
structure Fills (fill : Piece → Text) : Prop where
  fixed : ∀ s : String, fill (.fixed s) = s
  settled : ∀ p ∈ slots, Text.Settled (fill p)

/-- The names of a label and a route fill a template. -/
theorem fills (label : Text) (route : Option Text) :
    Fills (Piece.fill (Names.ofLabel label) (Route.path label route)) where
  fixed _ := rfl
  settled p hp := by
    have htype : ('_' : CodePoint) ∉ (Names.ofLabel label).typeName := fun hmem =>
      Naming.ne_mark_of_mem_pascal hmem rfl
    cases p with
    | fixed s => exact absurd hp (by simp [slots])
    | table => exact Naming.settled_canonical label
    | typeName => exact Text.settled_of_not_mem htype
    | hookName =>
      refine Text.settled_of_not_mem fun hmem => ?_
      exact (List.mem_append.mp hmem).elim (by decide) htype
    | route =>
      refine Text.settled_of_not_mem fun hmem => ?_
      rcases Route.mem_path hmem with h | h | h <;> exact absurd h (by decide)

/-! ## Slots in the template -/

/-- What a text must not go on with behind a slot: the words for slots behind the underscores they
begin with. -/
def stems : List (List Char) := ["TABLE__".toList, "TYPE__".toList, "HOOK__".toList, "ROUTE__".toList]

/-- A text with which no word for a slot can be completed: neither an underscore stands first nor a
stem. -/
structure Clear (rest : Text) : Prop where
  mark : rest.head? ≠ some '_'
  stem : ∀ w ∈ stems, ¬ w.map CodePoint.ofChar <+: rest

/-- The characters are no underscore first, and differ from every stem before they end. -/
def isClear (l : List Char) : Bool :=
  l.head?.any (fun c => c ≠ '_') && stems.all fun w => Text.clash w l

theorem clear_append {s : String} {l : List Char} (h : s = String.ofList l)
    (hl : isClear l = true) (rest : Text) : Clear (Text.ofString s ++ rest) := by
  obtain ⟨hmark, hstem⟩ := Bool.and_eq_true_iff.mp hl
  rw [Text.ofString_eq h]
  constructor
  · cases l with
    | nil => cases hmark
    | cons c l =>
      have hc : c ≠ '_' := by simpa using hmark
      exact fun hhead => hc (CodePoint.ofChar_inj.mp (Option.some.inj hhead))
  · exact fun w hw => Text.not_prefix_of_clash (List.all_eq_true.mp hstem w hw) rest

theorem clear_nil : Clear [] where
  mark := by decide
  stem := by decide

/-- Pieces of a line in which fixed text holds no underscore, and behind a slot the line ends or goes
on with text that is clear. -/
inductive Spaced : List Piece → Prop
  | nil : Spaced []
  | fixed {s : String} {r : List Piece} (hs : CodePoint.ofChar '_' ∉ Text.ofString s)
      (hr : Spaced r) : Spaced (.fixed s :: r)
  | last {p : Piece} (hp : p ∈ slots) : Spaced [p]
  | slot {p : Piece} {s : String} {r : List Piece} (hp : p ∈ slots)
      (hs : ∀ rest, Clear (Text.ofString s ++ rest)) (hr : Spaced (.fixed s :: r)) :
      Spaced (p :: .fixed s :: r)

theorem spaced_template : ∀ line ∈ template, Spaced line := by
  simp only [template, declarations, requestFunction, refetchPart, createPart, updatePart,
    removePart, closingPart, List.forall_mem_append, List.forall_mem_cons]
  and_intros
  all_goals
    repeat' first
      | exact List.forall_mem_nil _
      | exact Spaced.nil
      | with_reducible apply Spaced.slot
      | with_reducible apply Spaced.fixed
      | with_reducible apply Spaced.last
      | exact Text.not_mem_ofString rfl rfl
      | exact clear_append rfl rfl
      | decide

/-! ## Words for slots -/

theorem marks_prefix_token {p : Piece} (hp : p ∈ slots) : Text.ofString "__" <+: p.token := by
  have htable : ∀ p ∈ slots, Text.ofString "__" <+: p.token := by decide +kernel
  exact htable p hp

/-- The word for a slot is two underscores and a stem. -/
theorem exists_stem {p : Piece} (hp : p ∈ slots) :
    ∃ w ∈ stems, p.token = Text.ofString "__" ++ w.map CodePoint.ofChar := by
  have htable : ∀ p ∈ slots, ∃ w ∈ stems,
      p.token = Text.ofString "__" ++ w.map CodePoint.ofChar := by decide +kernel
  exact htable p hp

/-- The word for one slot differs from every end of the word for another one that is more than
underscores. -/
theorem token_tails {p q : Piece} (hp : p ∈ slots) (hq : q ∈ slots) (hne : q ≠ p) {b : Text}
    (hb : b <:+ p.token) :
    b = [] ∨ b = Text.ofString "_" ∨ b = Text.ofString "__" ∨
      (¬ q.token <+: b ∧ ¬ b <+: q.token) := by
  have htable : ∀ p ∈ slots, ∀ q ∈ slots, q ≠ p → ∀ b ∈ p.token.tails,
      b = [] ∨ b = Text.ofString "_" ∨ b = Text.ofString "__" ∨
        (¬ q.token <+: b ∧ ¬ b <+: q.token) := by
    decide +kernel
  exact htable p hp q hq hne b ((List.mem_tails _ _).mpr hb)

/-- In the word for a slot no other one begins, if what follows is clear. -/
theorem not_prefix_token {p q : Piece} (hp : p ∈ slots) (hq : q ∈ slots) (hne : q ≠ p)
    {b rest : Text} (hrest : Clear rest) (hb : b <:+ p.token) (hnonempty : b ≠ []) :
    ¬ q.token <+: b ++ rest := by
  intro hprefix
  obtain ⟨w, hw, hstem⟩ := exists_stem hq
  rcases token_tails hp hq hne hb with rfl | rfl | rfl | ⟨hlong, hshort⟩
  · exact hnonempty rfl
  · -- an underscore would have to follow
    rw [hstem] at hprefix
    obtain ⟨-, t, rfl⟩ := List.cons_prefix_cons.mp hprefix
    exact hrest.mark rfl
  · -- a stem would have to follow
    rw [hstem, List.prefix_append_right_inj] at hprefix
    exact hrest.stem w hw hprefix
  · rcases List.prefix_or_prefix_of_prefix hprefix (List.prefix_append b rest) with h | h
    · exact hlong h
    · exact hshort h

/-! ## Filling some slots -/

/-- The text of the template with every piece written in a given way. -/
def textOf (write : Piece → Text) : Text :=
  Text.unlines (template.map fun line => line.flatMap write)

/-- A piece as it stands in a text in which some slots are filled. -/
def shown (fill : Piece → Text) (done : List Piece) (p : Piece) : Text :=
  if p ∈ done then fill p else p.token

/-- The words for slots, each with what its slot is filled with. -/
def values (fill : Piece → Text) (new : List Piece) : List (Text × Text) :=
  new.map fun p => (p.token, fill p)

section Pass

variable {fill : Piece → Text} {done new : List Piece} {rest : Text}

theorem values_begin (hnew : new ⊆ slots) :
    ∀ v ∈ values fill new, Text.ofString "__" <+: v.1 := by
  intro v hv
  obtain ⟨p, hp, rfl⟩ := List.mem_map.mp hv
  exact marks_prefix_token (hnew hp)

variable (hfill : Fills fill) (hnew : new ⊆ slots)

include hfill in
theorem Fills.shown_fixed (done : List Piece) (s : String) : shown fill done (.fixed s) = s := by
  unfold shown
  split
  · exact hfill.fixed s
  · rfl

include hfill hnew

/-- **One slot.** A pass for some slots fills the slot if it is one of these, and leaves it as it is
otherwise. -/
theorem replaceAux_slot {p : Piece} (hp : p ∈ slots) (hrest : Clear rest) :
    Text.replaceAux (values fill new) 0 (shown fill done p ++ rest)
      = shown fill (done ++ new) p ++ Text.replaceAux (values fill new) 0 rest := by
  by_cases hdone : p ∈ done
  · -- what it is filled with is passed
    rw [shown, shown, if_pos hdone, if_pos (List.mem_append_left new hdone)]
    exact Text.replaceAux_append ((hfill.settled p hp).passed (values_begin hnew) rest)
  · rw [shown, if_neg hdone]
    by_cases hmem : p ∈ new
    · -- its word stands here, and no other one does
      have hne : p.token ≠ [] := by
        obtain ⟨t, ht⟩ := marks_prefix_token hp
        rw [← ht]
        exact List.cons_ne_nil _ _
      rw [shown, if_pos (List.mem_append_right done hmem)]
      refine Text.replaceAux_word hne (List.mem_map.mpr ⟨p, hmem, rfl⟩) fun v hv hprefix => ?_
      obtain ⟨q, hq, rfl⟩ := List.mem_map.mp hv
      by_cases hqp : q = p
      · rw [hqp]
      · exact absurd hprefix (not_prefix_token hp (hnew hq) hqp hrest List.suffix_rfl hne)
    · -- its word is passed
      have hnot : p ∉ done ++ new := fun h => (List.mem_append.mp h).elim hdone hmem
      rw [shown, if_neg hnot]
      refine Text.replaceAux_append fun a b hab hb v hv => ?_
      obtain ⟨q, hq, rfl⟩ := List.mem_map.mp hv
      have hqp : q ≠ p := fun h => hmem (h ▸ hq)
      exact not_prefix_token hp (hnew hq) hqp hrest ⟨a, hab.symm⟩ hb

/-- A line is gone through piece by piece, if what stands behind it is clear. -/
theorem replaceAux_line {line : List Piece} (hline : Spaced line) (hrest : Clear rest) :
    Text.replaceAux (values fill new) 0 (line.flatMap (shown fill done) ++ rest)
      = line.flatMap (shown fill (done ++ new)) ++ Text.replaceAux (values fill new) 0 rest := by
  induction hline with
  | nil => rfl
  | @fixed s r hs hr ih =>
    rw [List.flatMap_cons, List.flatMap_cons, hfill.shown_fixed, hfill.shown_fixed,
      List.append_assoc, List.append_assoc, ← ih]
    exact Text.replaceAux_append ((Text.settled_of_not_mem hs).passed (values_begin hnew) _)
  | last hp =>
    rw [List.flatMap_singleton, List.flatMap_singleton]
    exact replaceAux_slot hfill hnew hp hrest
  | @slot p s r hp hs hr ih =>
    have hclear : Clear ((Piece.fixed s :: r).flatMap (shown fill done) ++ rest) := by
      rw [List.flatMap_cons, hfill.shown_fixed, List.append_assoc]
      exact hs _
    have hcons (done : List Piece) : (p :: .fixed s :: r).flatMap (shown fill done)
        = shown fill done p ++ (Piece.fixed s :: r).flatMap (shown fill done) := List.flatMap_cons
    rw [hcons, hcons, List.append_assoc, List.append_assoc, ← ih]
    exact replaceAux_slot hfill hnew hp hclear

/-- Lines are gone through one after another. -/
theorem replaceAux_unlines {lines : List (List Piece)} (hlines : ∀ line ∈ lines, Spaced line) :
    Text.replaceAux (values fill new) 0
        (Text.unlines (lines.map fun line => line.flatMap (shown fill done)))
      = Text.unlines (lines.map fun line => line.flatMap (shown fill (done ++ new))) := by
  induction lines with
  | nil => rfl
  | cons line lines ih =>
    obtain ⟨hline, hrest⟩ := List.forall_mem_cons.mp hlines
    cases lines with
    | nil =>
      have hlast : Text.replaceAux _ 0 (line.flatMap (shown fill done) ++ []) = _ :=
        replaceAux_line hfill hnew hline clear_nil
      rwa [List.append_nil, Text.replaceAux, List.append_nil] at hlast
    | cons next lines =>
      have hbreak (t : Text) : CodePoint.ofChar '\n' :: t = Text.ofString "\n" ++ t := rfl
      have hpassed (t : Text) : Text.replaceAux (values fill new) 0 (Text.ofString "\n" ++ t)
          = Text.ofString "\n" ++ Text.replaceAux (values fill new) 0 t :=
        Text.replaceAux_append
          ((Text.settled_of_not_mem (by decide)).passed (values_begin hnew) t)
      rw [List.map_cons, List.map_cons, List.map_cons, List.map_cons, Text.unlines_cons,
        Text.unlines_cons, hbreak, replaceAux_line hfill hnew hline (clear_append rfl rfl _),
        hpassed, ← List.map_cons, ih hrest]
      rfl

/-- **A pass.** In the text in which some slots are filled a pass for others fills these and changes
nothing else. -/
theorem replaceTogether_textOf :
    (textOf (shown fill done)).replaceTogether (values fill new)
      = textOf (shown fill (done ++ new)) :=
  replaceAux_unlines hfill hnew spaced_template

end Pass

/-! ## Filling all slots -/

/-- In the template no slot is filled. -/
theorem templateText_eq (fill : Piece → Text) : templateText = textOf (shown fill []) := rfl

/-- Where every slot is filled, pieces are filled. -/
theorem Fills.shown_eq {fill : Piece → Text} (hfill : Fills fill) {done : List Piece}
    (hdone : slots ⊆ done) : shown fill done = fill := by
  funext p
  cases p with
  | fixed s => rw [hfill.shown_fixed, hfill.fixed]
  | table | typeName | hookName | route => exact if_pos (hdone (by decide))

variable {n : Names} {route : Text}

/-- Slots that are filled one after another are filled. -/
theorem fillIn_textOf (hfill : Fills (Piece.fill n route)) {order : List Piece}
    (horder : order ⊆ slots) (done : List Piece) :
    fillIn n route order (textOf (shown (Piece.fill n route) done))
      = textOf (shown (Piece.fill n route) (done ++ order)) := by
  induction order generalizing done with
  | nil => rw [fillIn, List.foldl_nil, List.append_nil]
  | cons p order ih =>
    obtain ⟨hp, hrest⟩ := List.cons_subset.mp horder
    have hpass : (textOf (shown (Piece.fill n route) done)).replaceAll p.token (p.fill n route)
        = textOf (shown (Piece.fill n route) (done ++ [p])) :=
      replaceTogether_textOf hfill (List.cons_subset.mpr ⟨hp, List.nil_subset _⟩)
    have hlast := ih hrest (done ++ [p])
    rw [List.append_assoc] at hlast
    rw [fillIn, List.foldl_cons, hpass]
    exact hlast

/-- Filling the slots in any order fills them all. -/
theorem fillIn_perm (hfill : Fills (Piece.fill n route)) {order : List Piece}
    (horder : order.Perm slots) :
    fillIn n route order templateText = textOf (Piece.fill n route) := by
  rw [templateText_eq (Piece.fill n route), fillIn_textOf hfill horder.subset, List.nil_append,
    hfill.shown_eq horder.symm.subset]

/-- A hook is the template with every piece filled. -/
theorem content_compileHook (label : Text) (route : Option Text) :
    (compileHook label route).content
      = textOf (Piece.fill (Names.ofLabel label) (Route.path label route)) :=
  fillIn_perm (fills label route) (.refl slots)

/-! ## What is left of the words -/

theorem Spaced.settled {fill : Piece → Text} (hfill : Fills fill) {line : List Piece}
    (h : Spaced line) : Text.Settled (line.flatMap fill) := by
  induction h with
  | nil => exact Text.settled_of_not_mem List.not_mem_nil
  | fixed hs _ ih =>
    rw [List.flatMap_cons, hfill.fixed]
    exact (Text.settled_of_not_mem hs).append ih
  | last hp =>
    rw [List.flatMap_singleton]
    exact hfill.settled _ hp
  | slot hp _ _ ih =>
    rw [List.flatMap_cons]
    exact (hfill.settled _ hp).append ih

theorem settled_textOf {fill : Piece → Text} (hfill : Fills fill) : Text.Settled (textOf fill) := by
  refine Text.settled_unlines fun text htext => ?_
  obtain ⟨line, hline, rfl⟩ := List.mem_map.mp htext
  exact (spaced_template line hline).settled hfill

/-- **Filling.** A hook is its template with the words of all four slots replaced at once, and
replacing them one after another gives the same text in every order. No two underscores are left
behind each other. Template and hook are put together from the same pieces, and where the hook of
another label writes a piece otherwise, the piece is a slot. -/
theorem compileHook_fills_at_once (label : Text) (route : Option Text) :
    (compileHook label route).content = templateText.replaceTogether
        (slots.map fun p => (p.token, p.fill (Names.ofLabel label) (Route.path label route))) ∧
      (∀ order : List Piece, order.Perm slots →
        fillIn (Names.ofLabel label) (Route.path label route) order templateText
          = (compileHook label route).content) ∧
      ¬ Text.ofString "__" <:+: (compileHook label route).content ∧
      templateText = textOf Piece.token ∧
      (compileHook label route).content
        = textOf (Piece.fill (Names.ofLabel label) (Route.path label route)) ∧
      ∀ (other : Text) (otherRoute : Option Text) (p : Piece),
        p.fill (Names.ofLabel label) (Route.path label route)
            ≠ p.fill (Names.ofLabel other) (Route.path other otherRoute) → p ∈ slots := by
  have hfill := fills label route
  have hcontent := content_compileHook label route
  refine ⟨?_, fun order horder => ?_, ?_, rfl, hcontent, fun other otherRoute p hne => ?_⟩
  · have hpass : (textOf (shown _ [])).replaceTogether (values _ slots) = _ :=
      replaceTogether_textOf hfill (List.Subset.refl slots)
    rw [List.nil_append, hfill.shown_eq (List.Subset.refl slots), ← templateText_eq] at hpass
    rw [hcontent]
    exact hpass.symm
  · rw [hcontent]
    exact fillIn_perm hfill horder
  · rw [hcontent]
    exact (settled_textOf hfill).no_marks
  · cases p with
    | fixed s => exact absurd rfl hne
    | table | typeName | hookName | route => decide

end Hook

end Tablewright
