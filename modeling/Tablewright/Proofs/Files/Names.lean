/-
Where the names of a resolved location come from.

What is read from a path are names that entries can have, and names that entries can have are read
back when they are joined by slashes (`Path.ofText_join_names`). Names that are joined make a text as
long as they are with the slashes between them, and names that are read are no longer than the text
(`Path.weight_names_le`), so a shorter path has fewer or shorter names.

Resolving goes down by names of the path and of the targets of links, and it goes up by taking names
back. So a location that is resolved goes on, from a directory that the base lies in or below, by
names that were written in the path or in the target of a link (`GoesOn`), and what holds of all
these names holds of all names below the base (`landing_goesOn`).
-/
import Tablewright.Files.Path
import Tablewright.Proofs.Files.Straight
import Tablewright.Proofs.Text.Split

set_option autoImplicit false

namespace Tablewright

/-! ## Names of a path -/

/-- A piece between separators holds none. -/
theorem Text.sep_not_mem_of_mem_splitOn {sep : CodePoint} {t piece : Text}
    (h : piece ∈ splitOn sep t) : sep ∉ piece := by
  induction t generalizing piece with
  | nil =>
    obtain rfl := List.mem_singleton.mp h
    exact List.not_mem_nil
  | cons c r ih =>
    unfold splitOn at h
    split at h
    case isTrue =>
      rcases List.mem_cons.mp h with rfl | hrest
      · exact List.not_mem_nil
      · exact ih hrest
    case isFalse hc =>
      cases hr : splitOn sep r with
      | nil => exact absurd hr (splitOn_ne_nil sep r)
      | cons first others =>
        rw [hr] at h ih
        rcases List.mem_cons.mp h with rfl | hrest
        · simp only [List.mem_cons, not_or]
          exact ⟨fun hsep => hc hsep.symm, ih List.mem_cons_self⟩
        · exact ih (List.mem_cons_of_mem first hrest)

namespace Path

/-- A name is not skipped exactly when it is there and no dot. -/
theorem isSkipped_eq_false_iff {name : Text} :
    isSkipped name = false ↔ name ≠ [] ∧ name ≠ Text.ofString "." := by
  rw [isSkipped, Bool.or_eq_false_iff, List.isEmpty_eq_false_iff, decide_eq_false_iff_not]

/-- A name an entry can have, but for double dots: not empty, not a dot, and without a slash. -/
structure IsEntryName (name : Text) : Prop where
  ne_nil : name ≠ []
  ne_here : name ≠ Text.ofString "."
  no_slash : ('/' : CodePoint) ∉ name

/-- What is read from a path can name an entry, and holds nothing but the path does. -/
theorem mem_names_ofText {t name : Text} (h : name ∈ (ofText t).names) :
    IsEntryName name ∧ ∀ c ∈ name, c ∈ t := by
  obtain ⟨hpiece, hkept⟩ := List.mem_filter.mp h
  rw [Bool.not_eq_true', isSkipped_eq_false_iff] at hkept
  exact ⟨⟨hkept.1, hkept.2, Text.sep_not_mem_of_mem_splitOn hpiece⟩,
    fun c hc => Text.mem_of_mem_splitOn hpiece hc⟩

/-- Names that entries can have are read back when they are joined. -/
theorem ofText_join_names {names : List Text} (hne : names ≠ [])
    (h : ∀ name ∈ names, IsEntryName name) : ofText (Text.join "/" names) = ⟨false, names⟩ := by
  have hsplit : Text.splitOn '/' (Text.join "/" names) = names :=
    Text.splitOn_join hne fun n hn => (h n hn).no_slash
  have hstart : Text.startsWith (Text.join "/" names) "/" = false := by
    obtain ⟨n, ns, rfl⟩ := List.exists_cons_of_ne_nil hne
    obtain ⟨c, r, rfl⟩ := List.exists_cons_of_ne_nil (h n List.mem_cons_self).ne_nil
    have hc : ('/' : CodePoint) ≠ c := by
      rintro rfl
      exact (h _ List.mem_cons_self).no_slash List.mem_cons_self
    obtain ⟨rest, hrest⟩ := Text.exists_join_cons "/" (c :: r) ns
    rw [hrest, List.cons_append]
    change (if ('/' : CodePoint) = c then Text.dropStart? [] (r ++ rest) else none).isSome = false
    rw [if_neg hc]
    rfl
  rw [ofText, hstart, hsplit, Path.mk.injEq]
  refine ⟨rfl, List.filter_eq_self.mpr fun n hn => ?_⟩
  rw [Bool.not_eq_true', isSkipped_eq_false_iff]
  exact ⟨(h n hn).ne_nil, (h n hn).ne_here⟩

end Path

/-! ## How long names are -/

/-- A code point takes some bytes of a name. -/
theorem CodePoint.nameBytes_pos (c : CodePoint) : 0 < c.nameBytes := by
  rw [nameBytes]
  split
  case h_1 bytes h =>
    have hlength := length_mem_of_utf8? h
    simp only [List.mem_cons, List.not_mem_nil, or_false] at hlength
    omega
  case h_2 => exact Nat.one_pos

@[simp] theorem Text.nameBytes_nil : Text.nameBytes [] = 0 := rfl

@[simp] theorem Text.nameBytes_cons (c : CodePoint) (t : Text) :
    Text.nameBytes (c :: t) = c.nameBytes + Text.nameBytes t := rfl

/-- What is left out of a text takes bytes. -/
theorem Text.nameBytes_lt_of_sublist {t u : Text} (h : t.Sublist u) (hne : t ≠ u) :
    t.nameBytes < u.nameBytes := by
  induction h with
  | slnil => exact absurd rfl hne
  | @cons t u c h ih =>
    have hc := c.nameBytes_pos
    by_cases hsame : t = u
    · simp [hsame, hc]
    · have hrest := ih hsame
      rw [nameBytes_cons]
      omega
  | @cons_cons t u c _ ih =>
    have hrest := ih fun hsame => hne (hsame ▸ rfl)
    rw [nameBytes_cons, nameBytes_cons]
    omega

/-- The bytes of names, with a slash for each. -/
def Location.weight : Location → Nat
  | [] => 0
  | name :: l => name.nameBytes + 1 + weight l

namespace Location

@[simp] theorem weight_nil : weight [] = 0 := rfl

@[simp] theorem weight_cons (name : Text) (l : Location) :
    weight (name :: l) = name.nameBytes + 1 + weight l := rfl

/-- Names take the bytes they take as the file system keeps them. -/
@[simp] theorem weight_stored (l : Location) : weight l.stored = weight l := by
  induction l with
  | nil => rfl
  | cons name l ih => rw [stored_cons, weight_cons, weight_cons, ih, name.nameBytes_stored]

@[simp] theorem weight_append (l more : Location) : weight (l ++ more) = weight l + weight more := by
  induction l with
  | nil => simp
  | cons name l ih =>
    rw [List.cons_append, weight_cons, weight_cons, ih]
    omega

theorem weight_sublist {l more : Location} (h : l.Sublist more) : weight l ≤ weight more := by
  induction h with
  | slnil => simp
  | cons name _ ih =>
    rw [weight_cons]
    omega
  | cons_cons name _ ih =>
    rw [weight_cons, weight_cons]
    omega

/-- Names that are joined are as long as what comes of it, with one slash more. -/
theorem weight_eq_nameBytes_join {l : Location} (hne : l ≠ []) :
    weight l = (Text.join "/" l).nameBytes + 1 := by
  induction l with
  | nil => exact absurd rfl hne
  | cons name rest ih =>
    by_cases hrest : rest = []
    · simp [hrest, Text.join]
    · obtain ⟨next, more, rfl⟩ := List.exists_cons_of_ne_nil hrest
      have hjoin : Text.join "/" (name :: next :: more) =
          name ++ ('/' : CodePoint) :: Text.join "/" (next :: more) :=
        Text.join_cons_cons '/' name next more
      have hslash : CodePoint.nameBytes '/' = 1 := rfl
      rw [weight_cons, ih hrest, hjoin, Text.nameBytes_append, Text.nameBytes_cons, hslash]
      omega

/-- A text is as long as its pieces with their slashes, but for one. -/
theorem weight_splitOn (t : Text) : weight (Text.splitOn '/' t) = t.nameBytes + 1 := by
  induction t with
  | nil => simp [Text.splitOn]
  | cons c r ih =>
    rw [Text.splitOn]
    split
    case isTrue hslash =>
      have hone : c.nameBytes = 1 := by
        rw [hslash]
        rfl
      rw [weight_cons, ih, Text.nameBytes_cons, hone, Text.nameBytes_nil]
      omega
    case isFalse =>
      cases hr : Text.splitOn '/' r with
      | nil => exact absurd hr (Text.splitOn_ne_nil '/' r)
      | cons first others =>
        rw [hr] at ih
        simp at ih ⊢
        omega

/-- Normalising only takes names away. -/
theorem weight_normalizeNames_le (kept names : List Text) :
    weight (Path.normalizeNames kept names) ≤ weight kept + weight names := by
  induction names generalizing kept with
  | nil => simp [Path.normalizeNames]
  | cons name rest ih =>
    rw [Path.normalizeNames]
    split
    case isTrue =>
      have hrest := ih kept.dropLast
      have hkept := weight_sublist (List.dropLast_sublist kept)
      simp
      omega
    case isFalse =>
      have hrest := ih (kept ++ [name])
      simp at hrest ⊢
      omega

/-- A path starts no longer than what it starts from and its own names. -/
theorem weight_startingAt_le (p : Path) (base : Location) :
    weight (p.startingAt base) ≤ weight base + weight p.names := by
  unfold Path.startingAt
  split
  · omega
  · simp

end Location

/-- The names on a path are no longer than the path, but for one slash. -/
theorem Path.weight_names_le (t : Text) : Location.weight (ofText t).names ≤ t.nameBytes + 1 := by
  rw [← Location.weight_splitOn t]
  exact Location.weight_sublist List.filter_sublist

/-! ## Names of a location -/

namespace Tree

variable {t : Tree} {P : Text → Prop} {base here l : Location} {names rest : List Text}
  {name : Text} {fuel : Nat} {active : List Location} {restarts : Nat → Bool}

/-! ## Going on by names -/

/-- A location that goes on, from a directory on the way to the base, by names with a property. -/
structure GoesOn (P : Text → Prop) (base l : Location) : Prop where
  no_up : Path.up ∉ l
  goes : ∃ p more, p <+: base ∧ l = p ++ more ∧ ∀ name ∈ more, P name

theorem GoesOn.nil (P : Text → Prop) (base : Location) : GoesOn P base [] :=
  ⟨List.not_mem_nil, [], [], List.nil_prefix, rfl, fun _ h => absurd h List.not_mem_nil⟩

theorem GoesOn.self (h : Path.up ∉ base) : GoesOn P base base :=
  ⟨h, base, [], List.prefix_refl base, (List.append_nil base).symm,
    fun _ h => absurd h List.not_mem_nil⟩

/-- Going up. -/
theorem GoesOn.dropLast (h : GoesOn P base l) : GoesOn P base l.dropLast := by
  obtain ⟨hup, p, more, hp, rfl, hmore⟩ := h
  refine ⟨fun hmem => hup (List.dropLast_subset _ hmem), ?_⟩
  by_cases hnil : more = []
  · subst hnil
    rw [List.append_nil]
    exact ⟨p.dropLast, [], (List.dropLast_prefix p).trans hp, (List.append_nil _).symm, by simp⟩
  · refine ⟨p, more.dropLast, hp, List.dropLast_append_of_ne_nil hnil, fun name hname => ?_⟩
    exact hmore name (List.dropLast_subset more hname)

/-- Going down. -/
theorem GoesOn.concat (h : GoesOn P base l) (hname : P name) (hup : name ≠ Path.up) :
    GoesOn P base (l ++ [name]) := by
  obtain ⟨hl, p, more, hp, rfl, hmore⟩ := h
  refine ⟨?_, p, more ++ [name], hp, List.append_assoc .., ?_⟩
  · simp only [List.mem_append, List.mem_singleton, not_or] at hl ⊢
    exact ⟨hl, Ne.symm hup⟩
  · simp only [List.mem_append, List.mem_singleton]
    rintro n (hn | rfl)
    · exact hmore n hn
    · exact hname

/-- Below the base there are only names with the property. -/
theorem GoesOn.below (h : GoesOn P base (base ++ rest)) : ∀ name ∈ rest, P name := by
  obtain ⟨-, p, more, ⟨q, rfl⟩, hsame, hmore⟩ := h
  rw [List.append_assoc, List.append_cancel_left_eq] at hsame
  exact fun name hname => hmore name (hsame ▸ List.mem_append_right q hname)

/-- Below the base, whichever way this is spelled, there are only spellings of names with the
property. -/
theorem GoesOn.below_stored (h : GoesOn P base l) (hl : l.stored = base.stored ++ rest) :
    ∀ name ∈ rest, ∃ spelled, P spelled ∧ spelled.stored = name := by
  obtain ⟨-, p, more, ⟨q, rfl⟩, rfl, hmore⟩ := h
  rw [Location.stored_append, Location.stored_append, List.append_assoc,
    List.append_cancel_left_eq] at hl
  intro name hname
  have hmem : name ∈ Location.stored more := hl ▸ List.mem_append_right _ hname
  obtain ⟨spelled, hspelled, hkept⟩ := List.mem_map.mp hmem
  exact ⟨spelled, hmore spelled hspelled, hkept⟩

/-- What goes on from nowhere is made of names with the property. -/
theorem GoesOn.all (h : GoesOn P [] l) : ∀ name ∈ l, P name :=
  h.below

/-! ## Resolving -/

/-- All names in the targets of links have a property. -/
def LinkNames (t : Tree) (P : Text → Prop) : Prop :=
  ∀ l target, t.get? l = some (.link target) → ∀ name ∈ (Path.ofText target).names, P name

/-- Joining what is left goes on from the location, or begins anew at the root. -/
theorem joined_goesOn {more : List Text} (hhere : GoesOn P base here) (hmore : ∀ name ∈ more, P name)
    (hrest : ∀ name ∈ rest, P name) :
    ∃ l left, joined restarts (here ++ more) rest = l ++ left ∧ GoesOn P base l ∧
      ∀ name ∈ left, P name := by
  rw [joined]
  split
  case isTrue => exact ⟨[], rest, rfl, .nil P base, hrest⟩
  case isFalse =>
    refine ⟨here, more ++ rest, List.append_assoc here more rest, hhere, fun name hname => ?_⟩
    exact (List.mem_append.mp hname).elim (hmore name) (hrest name)

/-- Resolving goes on by names of the path and of links, and what is left when it breaks off are such
names. -/
theorem resolveFrom_goesOn (hlinks : t.LinkNames P) (hhere : GoesOn P base here)
    (hnames : ∀ name ∈ names, P name) :
    ∃ l more, (t.resolveFrom fuel active restarts here names).location = l ++ more ∧
      GoesOn P base l ∧ (∀ name ∈ more, P name) ∧
      ((t.resolveFrom fuel active restarts here names).isComplete = true → more = []) := by
  induction fuel generalizing active restarts here names with
  | zero =>
    rw [resolveFrom]
    exact ⟨here, names, rfl, hhere, hnames, by simp⟩
  | succ fuel ih =>
    cases names with
    | nil =>
      rw [resolveFrom]
      exact ⟨here, [], (List.append_nil here).symm, hhere, by simp, by simp⟩
    | cons name rest =>
      have hname := hnames name List.mem_cons_self
      have hrest : ∀ n ∈ rest, P n := fun n hn => hnames n (List.mem_cons_of_mem name hn)
      rw [resolveFrom]
      by_cases hup : name = Path.up
      · rw [if_pos hup]
        exact ih hhere.dropLast hrest
      rw [if_neg hup]
      dsimp only
      split
      case h_1 target hlink =>
        by_cases hactive : active.contains (here ++ [name]) = true
        · rw [if_pos hactive]
          obtain ⟨l, left, hl, hgoes, hleft⟩ :=
            @joined_goesOn _ _ _ _ restarts _ (hhere.concat hname hup) (List.forall_mem_nil P) hrest
          rw [List.append_nil] at hl
          exact ⟨l, left, hl, hgoes, hleft, by simp⟩
        rw [if_neg hactive]
        have hstart : GoesOn P base (if (Path.ofText target).isAbsolute then [] else here) := by
          split
          · exact .nil P base
          · exact hhere
        generalize (if (Path.ofText target).isAbsolute then [] else here) = start at hstart ⊢
        obtain ⟨l, more, hl, hgoes, hmore, hdone⟩ :=
          @ih _ _ ((here ++ [name]) :: active) (Path.restarts target) hstart (hlinks _ target hlink)
        generalize t.resolveFrom fuel ((here ++ [name]) :: active) (Path.restarts target) start
          (Path.ofText target).names = inner at hl hdone ⊢
        by_cases hcomplete : inner.isComplete = true
        · rw [if_pos hcomplete, hl, hdone hcomplete, List.append_nil]
          exact ih hgoes hrest
        · rw [if_neg hcomplete, hl]
          obtain ⟨l', left, hl', hgoes', hleft⟩ := @joined_goesOn _ _ _ _ restarts _ hgoes hmore hrest
          exact ⟨l', left, hl', hgoes', hleft, by simp⟩
      case h_2 => exact ih (hhere.concat hname hup) hrest

/-- Normalising goes on by the names it is given. -/
theorem normalizeNames_goesOn {kept : List Text} (hkept : GoesOn P base kept)
    (hnames : ∀ name ∈ names, P name) : GoesOn P base (Path.normalizeNames kept names) := by
  induction names generalizing kept with
  | nil => exact hkept
  | cons name rest ih =>
    have hrest : ∀ n ∈ rest, P n := fun n hn => hnames n (List.mem_cons_of_mem name hn)
    rw [Path.normalizeNames]
    split
    case isTrue => exact ih hkept.dropLast hrest
    case isFalse hup => exact ih (hkept.concat (hnames name List.mem_cons_self) hup) hrest

/-- Names without double dots are normalised to themselves. -/
theorem normalizeNames_append {kept : List Text} (hup : Path.up ∉ names) :
    Path.normalizeNames kept (names ++ rest) = Path.normalizeNames (kept ++ names) rest := by
  induction names generalizing kept with
  | nil => rw [List.nil_append, List.append_nil]
  | cons name names ih =>
    simp only [List.mem_cons, not_or] at hup
    rw [List.cons_append, Path.normalizeNames, if_neg (Ne.symm hup.1), ih hup.2,
      List.append_assoc, List.singleton_append]

/-- **Names below the base.** A path goes on, from a directory on the way to the base, by names that
are written in it or in the target of a link. -/
theorem landing_goesOn (hbase : t.Plain base) (hlinks : t.LinkNames P) {p : Path}
    (hnames : ∀ name ∈ p.names, P name) : GoesOn P base (t.landing (p.startingAt base)) := by
  have hdone : ∀ {r : Resolution}, (∃ l more, r.location = l ++ more ∧ GoesOn P base l ∧
      (∀ name ∈ more, P name) ∧ (r.isComplete = true → more = [])) →
      GoesOn P base (if r.isComplete then r.location else r.location.normalize) := by
    rintro r ⟨l, more, hl, hgoes, hmore, hcomplete⟩
    split
    case isTrue h => rwa [hl, hcomplete h, List.append_nil]
    case isFalse =>
      rw [hl, Location.normalize, normalizeNames_append hgoes.no_up]
      exact normalizeNames_goesOn hgoes hmore
  rw [landing, resolution]
  refine hdone ?_
  rw [Path.startingAt]
  split
  case isTrue => exact resolveFrom_goesOn hlinks (.nil P base) hnames
  case isFalse =>
    have hlength : (base ++ p.names).length = base.length + p.names.length := List.length_append
    have henough := t.length_lt_resolveFuel (base ++ p.names)
    obtain ⟨fuel, hfuel⟩ : ∃ fuel, t.resolveFuel (base ++ p.names) = base.length + fuel :=
      Nat.exists_eq_add_of_le (by omega)
    have hstart : t.Plain ([] ++ base) := hbase
    rw [hfuel, resolveFrom_plain_append hstart]
    exact resolveFrom_goesOn hlinks (.self hbase.no_up) hnames

end Tree

end Tablewright
