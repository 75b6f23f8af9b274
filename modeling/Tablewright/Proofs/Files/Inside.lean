/-
Where a write changes something.

A write puts directories where they are missing on the way to the location its path is resolved to,
and a file at that location. As long as no link is left on the location, these are the very places:
`ChangesAlong` says so, and it passes through the operations a write and an edit are made of. The
location lies inside the project, so what changes does, but for directories that are missing above
the project itself (`changes_stay_inside`). Where one location is above another, it is so however the
two are spelled.

Following a path without meeting a circle leaves no link (`Tree.Follows.plain`). A path that meets
one is only normalised behind it, and then a link on what is left is followed out of the project
when the file is opened (`write_through_circle_gets_out`).
-/
import Tablewright.Proofs.Files.Follow

set_option autoImplicit false

namespace Tablewright

/-- The refusals of a path are validation errors. -/
theorem Refusal.kind_of_ofPath {r : Refusal} (h : r.ofPath = true) : r.kind = .validation := by
  cases r <;> first | rfl | cases h

/-- A plain location that has no location of its own does not lead in a circle. -/
theorem Tree.Plain.resolve_ne_linkLoop {t : Tree} {l : Location} (h : t.Plain (t.landing l)) :
    t.resolve l ≠ .error .linkLoop := by
  intro hloop
  rw [resolve] at hloop
  dsimp only at hloop
  split at hloop
  case h_1 => cases hloop
  case h_2 =>
    split at hloop
    case h_1 hwalk => exact (walk_plain h).1 hwalk
    case h_2 => cases hloop

namespace Project

variable {t t' : Tree} {root base target : Location} {path : Text}

/-! ## Changes along a location -/

/-- From a tree to a later one nothing was changed but what stands at the location or was missing
above it. -/
structure ChangesAlong (target : Location) (t t' : Tree) : Prop where
  evolves : t.Evolves t'
  along : ∀ l, t'.get? l = t.get? l ∨
    l.stored <+: target.stored ∧ (t.get? l = none ∨ l.stored = target.stored)

namespace ChangesAlong

theorem refl (t : Tree) : ChangesAlong target t t where
  evolves := (Tree.Extends.refl t).evolves
  along _ := .inl rfl

theorem trans {t'' : Tree} (h : ChangesAlong target t t') (h' : ChangesAlong target t' t'') :
    ChangesAlong target t t'' where
  evolves := h.evolves.trans h'.evolves
  along l := by
    rcases h'.along l with hsame | ⟨hway, hnone | hlast⟩
    · rw [hsame]
      exact h.along l
    · -- nothing is taken away, so what is missing now was missing before
      refine .inr ⟨hway, .inl ?_⟩
      cases hl : t.get? l with
      | none => rfl
      | some n =>
        obtain ⟨n', hn', -⟩ := h.evolves.stays l n hl
        rw [hnone] at hn'
        cases hn'
    · exact .inr ⟨hway, .inr hlast⟩

/-- A node put at the location, or above it where nothing stood, is a change along it. -/
theorem put {l : Location} {n : Node} (hevolves : t.Evolves (t.put l n)) (hne : l ≠ [])
    (hway : l.stored <+: target.stored) (h : t.get? l = none ∨ l.stored = target.stored) :
    ChangesAlong target t (t.put l n) where
  evolves := hevolves
  along k := by
    by_cases hk : l.stored = k.stored
    · rw [← hk, ← Tree.get?_congr (t := t) hk]
      exact .inr ⟨hway, h⟩
    · exact .inl (Tree.get?_put_of_ne hne hk)

/-- A plain location stays one. -/
theorem plain {l : Location} (h : ChangesAlong target t t') (hplain : t.Plain l) : t'.Plain l where
  no_up := hplain.no_up
  no_link p hp link hlink := hplain.no_link p hp link (h.evolves.link_old p link hlink)

variable {α β : Type}

/-- What a sequence changes its parts change. -/
theorem bind {a : FileAction α} {k : α → FileAction β} (ha : ChangesAlong target t (a.run t).2)
    (hk : ∀ x t₁, a.run t = (.ok x, t₁) → ChangesAlong target t₁ ((k x).run t₁).2) :
    ChangesAlong target t ((a >>= k).run t).2 :=
  Effect.leaves_bind (R := ChangesAlong target) .trans ha hk

/-- What comes after a look changes the tree that was looked at. -/
theorem look_bind {g : Tree → Except Failure α} {k : α → FileAction β}
    (hk : ∀ x, g t = .ok x → ChangesAlong target t ((k x).run t).2) :
    ChangesAlong target t ((FileAction.look g >>= k).run t).2 := by
  refine .bind (.refl t) fun x t₁ h => ?_
  obtain ⟨hx, rfl⟩ := FileAction.look_iff.mp h
  exact hk x hx

end ChangesAlong

/-! ## Operations on a plain location -/

/-- A directory that is created above a plain location stands where it was to be. -/
theorem changesAlong_createDirectory {l : Location} (hplain : t.Plain l) (hway : l <+: target)
    (h : FileAction.createDirectory t l = .ok t') : ChangesAlong target t t' := by
  have hextends := FileAction.createDirectory_extends h
  rw [FileAction.createDirectory] at h
  split at h
  case h_1 => cases h
  case h_3 => cases h
  case h_2 place hwalk =>
    obtain ⟨hne, hvacant⟩ := Tree.vacant_of_walk hwalk
    rcases (Tree.walk_plain hplain).2 _ hwalk with hplace | ⟨_, hplace⟩
    · cases hplace
      obtain rfl := Except.ok.inj h
      refine .put hextends.evolves hne ?_ (.inl hvacant)
      rw [Location.stored_stored]
      exact Location.stored_prefix hway
    · cases hplace

theorem changesAlong_acceptDirectory (cause : SystemCause) (l : Location) (t : Tree) :
    ChangesAlong target t ((FileAction.acceptDirectory cause l).run t).2 := by
  refine .look_bind fun found _ => ?_
  cases found with
  | true => exact .refl t
  | false => exact .refl t

theorem changesAlong_ensureDirectory {l : Location} (hplain : t.Plain l) (hway : l <+: target) :
    ChangesAlong target t ((FileAction.ensureDirectory l).run t).2 := by
  rw [FileAction.ensureDirectory, FileAction.run_get_bind]
  split
  case h_1 hcreate => exact changesAlong_createDirectory hplain hway hcreate
  case h_2 => exact .refl t
  case h_3 => exact changesAlong_acceptDirectory _ l t

theorem changesAlong_ensureDirectories {names : List Text} (hplain : t.Plain names.reverse)
    (hway : names.reverse <+: target) :
    ChangesAlong target t ((FileAction.ensureDirectories names).run t).2 := by
  induction names with
  | nil => exact changesAlong_acceptDirectory .alreadyExists [] t
  | cons name above ih =>
    have habove : above.reverse <+: (name :: above).reverse := by
      rw [List.reverse_cons]
      exact List.prefix_append _ _
    rw [FileAction.ensureDirectories, FileAction.run_get_bind]
    split
    case h_1 hcreate => exact changesAlong_createDirectory hplain hway hcreate
    case h_2 =>
      -- the directory above is missing too, and is created before it
      have hfirst := ih (hplain.above habove) (habove.trans hway)
      refine .bind hfirst fun _ t₁ hrun => ?_
      rw [hrun] at hfirst
      exact changesAlong_ensureDirectory (hfirst.plain hplain) hway
    case h_3 => exact changesAlong_acceptDirectory _ _ t

/-- Creating a directory above a plain location, with its parents, changes something along it
only. -/
theorem changesAlong_makeDirectory {l : Location} (hplain : t.Plain l) (hway : l <+: target) :
    ChangesAlong target t ((FileAction.makeDirectory l).run t).2 := by
  rw [FileAction.makeDirectory]
  exact changesAlong_ensureDirectories (by rwa [List.reverse_reverse])
    (by rwa [List.reverse_reverse])

/-- A file at which a plain location can be opened stands at the location. -/
theorem place_of_open {place : Location} (hplain : t.Plain target) (h : t.Open target place) :
    place = target.stored := by
  cases h with
  | file hwalk _ =>
    rcases (Tree.walk_plain hplain).2 _ hwalk with hplace | ⟨_, hplace⟩
    · cases hplace
    · exact (Place.existing.inj hplace).1
  | vacant hwalk =>
    rcases (Tree.walk_plain hplain).2 _ hwalk with hplace | ⟨_, hplace⟩
    · exact Place.vacant.inj hplace
    · cases hplace

/-- Storing a text at a plain location changes nothing but what stands there. -/
theorem changesAlong_writeText (hplain : t.Plain target) (content : Text) :
    ChangesAlong target t ((FileAction.writeText target content).run t).2 := by
  rcases hopen : (FileAction.openForWriting target).run t with ⟨q, t₁⟩
  rw [FileAction.writeText, Effect.run_bind, hopen]
  rcases FileAction.openForWriting_cases hopen with ⟨f, rfl, rfl⟩ | ⟨place, rfl, rfl, hplace⟩
  · exact .refl t₁
  · have hsame : place.stored = target.stored := by
      rw [place_of_open hplain hplace, Location.stored_stored]
    have hway : place.stored <+: target.stored := hsame ▸ List.prefix_refl _
    obtain ⟨hevolves, hwalk⟩ := hplace.put (n := .file []) rfl
    have hempty : ChangesAlong target t (t.put place (.file [])) :=
      .put hevolves hplace.ne_nil hway (.inr hsame)
    dsimp only
    -- the file is emptied first, and stays empty when the text has no encoding
    split
    case h_1 bytes _ =>
      have hopened : (t.put place (.file [])).Open target place := .file hwalk rfl
      exact hempty.trans (.put (hopened.put (n := .file bytes) rfl).1 hplace.ne_nil hway
        (.inr hsame))
    case h_2 => exact hempty

/-- A write whose path is resolved to a plain location, if to any, changes something along it
only. -/
theorem changesAlong_write (h : ∀ l, resolveInProject t root path = .ok l → l = target)
    (hplain : t.Plain target) (content : Text) :
    ChangesAlong target t ((write root path content).run t).2 := by
  refine .look_bind fun l hresolve => ?_
  obtain rfl := h l hresolve
  refine .look_bind fun existed _ => ?_
  have habove : l.dropLast <+: l := List.dropLast_prefix l
  have hmake := changesAlong_makeDirectory (hplain.above habove) habove
  refine .bind hmake fun _ t₁ hrun => ?_
  rw [hrun] at hmake
  refine .bind (changesAlong_writeText (hmake.plain hplain) content) fun _ t₂ _ => ?_
  exact .look_bind fun base _ => .refl t₂

/-- An edit whose path is resolved to a plain location, if to any, changes something along it
only. -/
theorem changesAlong_edit (h : ∀ l, resolveInProject t root path = .ok l → l = target)
    (hplain : t.Plain target) (old : Option Text) (new : Text) :
    ChangesAlong target t ((edit root path old new).run t).2 := by
  refine .look_bind fun l hresolve => ?_
  obtain rfl := h l hresolve
  dsimp only
  -- a file is written whole when nothing is replaced or none is there; else it is only looked at
  -- until the one text to replace is found
  split
  · exact changesAlong_write h hplain new
  refine .look_bind fun existed _ => ?_
  split
  · exact changesAlong_write h hplain new
  split
  · exact .refl t
  refine .look_bind fun directory _ => ?_
  split
  · exact .refl t
  refine .look_bind fun contents _ => ?_
  split
  · exact .refl t
  refine .bind (changesAlong_writeText hplain _) fun _ t₁ _ => ?_
  exact .look_bind fun base _ => .refl t₁

/-! ## Inside the project -/

/-- The operations that change files under a path. -/
inductive Writes (root : Location) (path : Text) : FileAction Written → Prop
  /-- A whole file is written. -/
  | write (content : Text) : Writes root path (write root path content)
  /-- A text in a file is replaced. -/
  | edit (old : Option Text) (new : Text) : Writes root path (edit root path old new)
  /-- An artifact that belongs there is written. -/
  | artifact (a : Artifact) (h : a.path = path) : Writes root path (writeArtifact root a)

variable {op : FileAction Written}

/-- A path that is resolved to a plain location, if to any, lets its operations change something
along it only. -/
theorem Writes.changesAlong (hop : Writes root path op)
    (h : ∀ l, resolveInProject t root path = .ok l → l = target) (hplain : t.Plain target) :
    ChangesAlong target t (op.run t).2 := by
  cases hop with
  | write content => exact changesAlong_write h hplain content
  | edit old new => exact changesAlong_edit h hplain old new
  | artifact a ha =>
    subst ha
    exact changesAlong_write h hplain a.content

/-- What turns the path down turns every operation down, and nothing is changed. -/
theorem Writes.run_of_error (hop : Writes root path op) {f : Failure}
    (h : resolveInProject t root path = .error f) : op.run t = (.error f, t) := by
  cases hop with
  | write content => exact FileAction.look_bind_error_iff.mpr (.inl ⟨h, rfl⟩)
  | edit old new => exact FileAction.look_bind_error_iff.mpr (.inl ⟨h, rfl⟩)
  | artifact a ha =>
    subst ha
    exact FileAction.look_bind_error_iff.mpr (.inl ⟨h, rfl⟩)

/-- A path of a project is resolved, if at all, to where its names land from the project. -/
theorem landing_of_resolveInProject (hroot : t.resolve root = .ok base)
    (h : resolveInProject t root path = .ok target) :
    target = t.landing ((Path.ofText (Text.trim path)).startingAt base) ∧ base <+: target := by
  obtain ⟨-, base', hbase, htarget, hinside⟩ := resolveInProject_ok_iff.mp h
  obtain rfl := Except.ok.inj (hbase.symm.trans hroot)
  exact ⟨(Tree.resolve_ok_iff.mp htarget).2.1, List.isPrefixOf_iff_prefix.mp hinside⟩

/-- What lies strictly above a location lies above the one before its last name. -/
private theorem prefix_dropLast {l : Location} (h : l <+: base) (hne : l ≠ base) :
    l <+: base.dropLast := by
  rcases List.eq_nil_or_concat base with rfl | ⟨above, name, rfl⟩
  · exact absurd (List.prefix_nil.mp h) hne
  · rw [List.concat_eq_append, List.dropLast_concat]
    rw [List.concat_eq_append] at h hne
    exact (List.prefix_concat_iff.mp h).resolve_left hne

/-- A change along a plain location inside the project lies inside it, when the directory above the
project is there. -/
theorem ChangesAlong.inside (h : ChangesAlong target t t') (hplain : t.Plain target)
    (hinside : base <+: target)
    (habove : ∃ d, t.walk true base.dropLast = .ok (.existing d .directory))
    {l : Location} (hl : t'.get? l ≠ t.get? l) : base.stored <+: l.stored := by
  obtain ⟨hway, hold⟩ := (h.along l).resolve_left hl
  obtain ⟨p, hp, hspelled⟩ := Location.exists_of_stored_prefix hway
  rw [← hspelled]
  -- what was changed and the project lie on one way, so one of them is above the other
  rcases List.prefix_or_prefix_of_prefix hinside hp with hbelow | hbefore
  · exact Location.stored_prefix hbelow
  by_cases hsame : p = base
  · exact hsame ▸ List.prefix_refl _
  rcases hold with hnone | hlast
  · -- everything above the project is there
    obtain ⟨d, hd⟩ := habove
    have hbase := (hplain.above hinside).above (List.dropLast_prefix base)
    rw [← Tree.get?_congr hspelled] at hnone
    exact absurd hnone (Tree.exists_of_walk_plain hbase hd (prefix_dropLast hbefore hsame))
  · rw [hspelled, hlast]
    exact Location.stored_prefix hinside

/-- **Inside the project.** Following a path without meeting a circle lands where no link is left. A
path that lands at such a location outside the project is turned down with a validation error before
anything is changed; and what a write or an edit under any path that lands at such a location
changes is inside the project and reached through no link, when the directory above the project is
there. -/
theorem changes_stay_inside (hroot : t.resolve root = .ok base) (path : Text) :
    let start := (Path.ofText (Text.trim path)).startingAt base
    (∀ target, t.Follows [] [] start target → t.landing start = target ∧ t.Plain target) ∧
      (t.Plain (t.landing start) →
        (¬ base <+: t.landing start → ∃ r : Refusal, r.kind = .validation ∧
          ∀ op, Writes root path op → op.run t = (.error (.refused r), t)) ∧
        ((∃ d, t.walk true base.dropLast = .ok (.existing d .directory)) →
          ∀ op, Writes root path op → ∀ l, (op.run t).2.get? l ≠ t.get? l →
            base.stored <+: l.stored ∧ (op.run t).2.landing l = l)) := by
  refine ⟨fun target hfollows => ?_,
    fun hplain => ⟨fun houtside => ?_, fun habove op hop l hl => ?_⟩⟩
  · exact ⟨Tree.landing_of_follows hfollows, hfollows.plain (Tree.plain_nil t)⟩
  · cases hresolve : resolveInProject t root path with
    | ok target =>
      obtain ⟨rfl, hinside⟩ := landing_of_resolveInProject hroot hresolve
      exact absurd hinside houtside
    | error f =>
      rcases resolveInProject_failure hresolve with ⟨r, rfl, hr⟩ | rfl
      · exact ⟨r, Refusal.kind_of_ofPath hr, fun op hop => hop.run_of_error hresolve⟩
      · obtain ⟨-, ⟨e, he⟩ | ⟨base', hbase, hloop⟩⟩ :=
          resolveInProject_defect_iff.mp ⟨_, hresolve⟩
        · rw [hroot] at he
          cases he
        · obtain rfl := Except.ok.inj (hbase.symm.trans hroot)
          exact absurd hloop hplain.resolve_ne_linkLoop
  · cases hresolve : resolveInProject t root path with
    | error f => exact absurd (by rw [hop.run_of_error hresolve]) hl
    | ok target =>
      obtain ⟨rfl, hinside⟩ := landing_of_resolveInProject hroot hresolve
      have hchanges := hop.changesAlong
        (fun l hl => (landing_of_resolveInProject hroot hl).1) hplain
      refine ⟨hchanges.inside hplain hinside habove hl, Tree.landing_of_plain ?_⟩
      obtain ⟨p, hp, hspelled⟩ :=
        Location.exists_of_stored_prefix ((hchanges.along l).resolve_left hl).1
      exact hchanges.plain ((hplain.above hp).respelled hspelled.symm)

/-- Through a link inside the project a file is written below what the link stands for, and a path
through a link that leads out of the project is turned down. -/
theorem changes_stay_inside_through_links :
    let t : Tree := ⟨[(["p"], .directory), (["p", "in"], .link "real"), (["p", "out"], .link "/q")]⟩
    let project : Location := ["p"]
    let file : Location := ["p", "real", "a"]
    let written := (write project "in/a" "x").run t
    t.resolve project = .ok project ∧ written.2.get? file ≠ t.get? file ∧
      (project <+: file ∧ written.2.landing file = file) ∧
      ∃ r : Refusal, r.kind = .validation ∧
        (write project "out/a" "x").run t = (.error (.refused r), t) := by
  have hshown : ((((write ["p"] "in/a" "x").run ⟨[(["p"], .directory), (["p", "in"], .link "real"),
      (["p", "out"], .link "/q")]⟩).2.get? ["p", "real", "a"]).isSome) = true := by decide +kernel
  intro t project file written
  have hroot : t.resolve project = .ok project := rfl
  obtain ⟨hlandsIn, hchanges⟩ := changes_stay_inside hroot "in/a"
  obtain ⟨hlandsOut, hturned⟩ := changes_stay_inside hroot "out/a"
  have hin : t.Follows [] [] ["p", "in", "a"] file :=
    .pass (by decide) nofun (.link (by decide) rfl List.not_mem_nil
      (.pass (by decide) nofun (.done _ _)) (.pass (by decide) nofun (.done _ _)))
  have hout : t.Follows [] [] ["p", "out", "a"] ["q", "a"] :=
    .pass (by decide) nofun (.link (by decide) rfl List.not_mem_nil
      (.pass (by decide) nofun (.done _ _)) (.pass (by decide) nofun (.done _ _)))
  obtain ⟨hfile, hfilePlain⟩ := hlandsIn file hin
  obtain ⟨hplace, hplacePlain⟩ := hlandsOut ["q", "a"] hout
  have hchanged : written.2.get? file ≠ t.get? file := fun hsame => by
    rw [hsame] at hshown
    cases hshown
  refine ⟨hroot, hchanged, ?_, ?_⟩
  · exact (hchanges (hfile ▸ hfilePlain)).2 ⟨[], rfl⟩ _ (.write "x") file hchanged
  · obtain ⟨r, hr, hops⟩ := (hturned (hplace ▸ hplacePlain)).1 (by rw [hplace]; decide)
    exact ⟨r, hr, hops _ (.write "x")⟩

/-- A path that meets a circle is only normalised behind it, so a link that leads out of the project
is left on it, and the file is written outside. -/
theorem write_through_circle_gets_out :
    let t : Tree :=
      ⟨[(["p"], .directory), (["p", "a"], .link "a"), (["p", "b"], .link "../out.txt")]⟩
    let project : Location := ["p"]
    let written := (write project "a/../b" "x").run t
    t.resolve project = .ok project ∧ (∃ r, written.1 = .ok r) ∧
      ¬ (∀ l, written.2.get? l ≠ t.get? l → project <+: l) := by
  have hshown : ((((write ["p"] "a/../b" "x").run ⟨[(["p"], .directory), (["p", "a"], .link "a"),
      (["p", "b"], .link "../out.txt")]⟩).2.get? ["out.txt"]).isSome) = true := by decide +kernel
  intro t project written
  refine ⟨rfl, ⟨_, rfl⟩, fun h => ?_⟩
  have hout : project <+: ["out.txt"] := h ["out.txt"] fun hsame => by
    rw [hsame] at hshown
    cases hshown
  revert hout
  decide

end Project

end Tablewright
