/-
The path that is told of a written file.

An operation that wrote a file tells the names from the project to the location its path was resolved
to, joined by slashes. Every one of these names can name an entry, so the told path is read as these
very names, unless it is trimmed: a file whose path begins or ends with a blank is told of under a
path that means another file. If nothing is trimmed, the told path is resolved to where the written
file stands, as long as that is inside the project (`reported_path`). Without links trimming is all
that can go wrong: a trimmed path is shorter, and so is what it is resolved to.
-/
import Tablewright.Proofs.Files.Inside
import Tablewright.Proofs.Files.Names
import Tablewright.Proofs.Files.Replacement
import Tablewright.Proofs.Files.WellFormed
import Tablewright.Proofs.Naming.Words

set_option autoImplicit false

namespace Tablewright

namespace Tree

variable {t t' : Tree} {l target place : Location}

/-! ## Resolving -/

/-- Where a walk ends somewhere, its location is resolved to where it lands, if the system can be given
its names. -/
theorem resolve_of_walk {n : Node} (h : t.walk true l = .ok (.existing place n))
    (hpass : ∀ name ∈ l, name.IsPassable) : t.resolve l = .ok (t.landing l) :=
  resolve_ok_iff.mpr ⟨flaw?_of_passable hpass, rfl, (walk_plain (landing_of_walk h).2).1⟩

/-- Where no link stands, names are followed by taking them one by one. -/
theorem resolveFrom_of_no_link (h : ∀ l target, t.get? l ≠ some (.link target)) {fuel : Nat}
    {active : List Location} {restarts : Nat → Bool} {here : Location} {names : List Text}
    (hfuel : names.length < fuel) :
    t.resolveFrom fuel active restarts here names = ⟨Path.normalizeNames here names, true⟩ := by
  induction names generalizing here fuel with
  | nil =>
    obtain ⟨fuel, rfl⟩ := Nat.exists_eq_add_one.mpr hfuel
    rw [resolveFrom, Path.normalizeNames]
  | cons name rest ih =>
    obtain ⟨fuel, rfl⟩ := Nat.exists_eq_add_one.mpr (Nat.zero_lt_of_lt hfuel)
    have hrest : rest.length < fuel := Nat.lt_of_succ_lt_succ hfuel
    rw [resolveFrom, Path.normalizeNames]
    by_cases hup : name = Path.up
    · rw [if_pos hup, if_pos hup, ih hrest]
    · rw [if_neg hup, if_neg hup]
      dsimp only
      split
      case h_1 target hlink => exact absurd hlink (h _ target)
      case h_2 => exact ih hrest

theorem landing_of_no_link (h : ∀ l target, t.get? l ≠ some (.link target)) (l : Location) :
    t.landing l = Path.normalizeNames [] l := by
  rw [landing, resolution, resolveFrom_of_no_link h (t.length_lt_resolveFuel l)]
  rfl

/-! ## Names that can be told -/

/-- A name that can name an entry and that the system can be given. -/
structure IsNameable (name : Text) : Prop extends Path.IsEntryName name where
  passable : name.IsPassable

/-- The names in the targets of links are nameable. -/
theorem WellFormed.linkNames (h : t.WellFormed) : t.LinkNames IsNameable := by
  intro l target hlink name hname
  obtain ⟨hentry, hsub⟩ := Path.mem_names_ofText hname
  exact ⟨hentry, fun c hc => h.target l target hlink c (hsub c hc)⟩

/-- A path that is resolved from a nameable location comes to one. -/
theorem isNameable_of_resolve (hlinks : t.LinkNames IsNameable) {p : Path}
    (hnames : ∀ name ∈ p.names, Path.IsEntryName name) {base : Location}
    (hbase : ∀ name ∈ base, Path.IsEntryName name) (h : t.resolve (p.startingAt base) = .ok target) :
    ∀ name ∈ target, IsNameable name := by
  obtain ⟨hflaw, rfl, -⟩ := resolve_ok_iff.mp h
  have hgoes {P : Text → Prop} (hlinks : t.LinkNames P) (hstart : ∀ name ∈ p.startingAt base, P name) :
      ∀ name ∈ t.landing (p.startingAt base), P name :=
    (landing_goesOn (plain_nil t) hlinks
      (show ∀ name ∈ (⟨false, p.startingAt base⟩ : Path).names, P name from hstart)).all
  have hentry : ∀ name ∈ t.landing (p.startingAt base), Path.IsEntryName name := by
    refine hgoes (fun l link hlink name hname => (hlinks l link hlink name hname).toIsEntryName)
      fun name hname => ?_
    unfold Path.startingAt at hname
    split at hname
    · exact hnames name hname
    · exact (List.mem_append.mp hname).elim (hbase name) (hnames name)
  have hpass : ∀ name ∈ t.landing (p.startingAt base), name.IsPassable := by
    rcases flaw?_eq_none_iff.mp hflaw with hall | ⟨-, hall⟩
    · exact hgoes (fun l link hlink name hname => (hlinks l link hlink name hname).passable) hall
    · exact hall
  exact fun name hname => ⟨hentry name hname, hpass name hname⟩

end Tree

namespace Project

variable {t t' : Tree} {root base target place : Location} {path content : Text} {r : Written}
  {op : FileAction Written}

/-! ## What is told -/

/-- A path is resolved to a spelling of a place. -/
def ResolvesTo (t : Tree) (root : Location) (path : Text) (place : Location) : Prop :=
  ∃ file, resolveInProject t root path = .ok file ∧ Location.stored file = place

/-- What is known of a file that was written, once it is: where it stands, and what is told of it. -/
structure Told (root : Location) (path : Text) (t' : Tree) (r : Written)
    (base target place : Location) (n : Node) : Prop where
  resolves_root : t'.resolve root = .ok base
  resolves : resolveInProject t' root path = .ok target
  stands : t'.walk true target = .ok (.existing place n)
  isFile : n.isFile = true
  told : r.path = relativePath base target

theorem told_of_store {t₀ : Tree} {kind : WriteKind} (hearlier : t₀.Evolves t)
    (hresolve : resolveInProject t₀ root path = .ok target)
    (h : (store root target content kind).run t = (.ok r, t')) :
    ∃ base place n, Told root path t' r base target place n ∧ t.Evolves t' := by
  obtain ⟨_, t₁, hwrite, htell⟩ := Effect.bind_ok_iff.mp h
  obtain ⟨base, hbase, hlast⟩ := FileAction.look_bind_ok_iff.mp htell
  obtain ⟨rfl, rfl⟩ := Effect.pure_ok_iff.mp hlast
  obtain ⟨place, bytes, -, hevolves, hwalk, -⟩ := FileAction.writeText_ok hwrite
  have hlater := resolveInProject_evolves (hearlier.trans hevolves) hresolve hwalk
  exact ⟨base, place, .file bytes, ⟨projectBase_ok_iff.mp hbase, hlater, hwalk, rfl, rfl⟩, hevolves⟩

theorem told_of_write (h : (write root path content).run t = (.ok r, t')) :
    ∃ base target place n, Told root path t' r base target place n ∧ t.Evolves t' := by
  obtain ⟨target, hresolve, hask⟩ := FileAction.look_bind_ok_iff.mp h
  obtain ⟨existed, -, hmake⟩ := FileAction.look_bind_ok_iff.mp hask
  obtain ⟨_, t₁, habove, hstore⟩ := Effect.bind_ok_iff.mp hmake
  have hextends := FileAction.extending_makeDirectory target.dropLast t
  rw [habove] at hextends
  obtain ⟨base, place, n, htold, hevolves⟩ := told_of_store hextends.evolves hresolve hstore
  exact ⟨base, target, place, n, htold, hextends.evolves.trans hevolves⟩

/-- Every operation that wrote a file tells the way from the project to where its path is resolved
to. -/
theorem Writes.told (hop : Writes root path op) (h : op.run t = (.ok r, t')) :
    ∃ base target place n, Told root path t' r base target place n ∧ t.Evolves t' := by
  cases hop with
  | write content => exact told_of_write h
  | artifact a ha =>
    subst ha
    exact told_of_write h
  | edit old new =>
    cases edit_course h with
    | whole _ _ hwrite => exact told_of_write hwrite
    | replaces hreplaces hstore =>
      obtain ⟨base, place, n, htold, hevolves⟩ :=
        told_of_store (Tree.Extends.refl t).evolves hreplaces.comes.resolves hstore
      exact ⟨base, _, place, n, htold, hevolves⟩

/-! ## Going back -/

namespace Told

variable {n : Node}

/-- The way from the project to the target. -/
theorem exists_names (h : Told root path t' r base target place n) :
    ∃ names, target = base ++ names ∧ r.path = (Text.join "/" names).ifEmpty "." := by
  obtain ⟨-, base', hbase, -, hinside⟩ := resolveInProject_ok_iff.mp h.resolves
  obtain rfl := Except.ok.inj (hbase.symm.trans h.resolves_root)
  obtain ⟨names, rfl⟩ := List.isPrefixOf_iff_prefix.mp hinside
  exact ⟨names, rfl, by rw [h.told, relativePath, List.drop_left]⟩

/-- The names of the target are nameable. -/
theorem isNameable (h : Told root path t' r base target place n) (hlinks : t'.LinkNames Tree.IsNameable)
    (hroot : ∀ name ∈ root, Path.IsEntryName name) : ∀ name ∈ target, Tree.IsNameable name := by
  have hstart : t'.resolve ((⟨false, root⟩ : Path).startingAt []) = .ok base := h.resolves_root
  have hbase : ∀ name ∈ base, Tree.IsNameable name :=
    Tree.isNameable_of_resolve hlinks hroot (by simp) hstart
  obtain ⟨-, base', hbase', htarget, -⟩ := resolveInProject_ok_iff.mp h.resolves
  obtain rfl := Except.ok.inj (hbase'.symm.trans h.resolves_root)
  exact Tree.isNameable_of_resolve hlinks (fun name hname => (Path.mem_names_ofText hname).1)
    (fun name hname => (hbase name hname).toIsEntryName) htarget

/-- The told path is a dot, or the names of the way joined. -/
theorem path_eq (h : Told root path t' r base target place n)
    (hnames : ∀ name ∈ target, Tree.IsNameable name) :
    (target = base ∧ r.path = ".") ∨
      ∃ names, names ≠ [] ∧ target = base ++ names ∧ r.path = Text.join "/" names ∧ r.path ≠ [] := by
  obtain ⟨names, rfl, hpath⟩ := h.exists_names
  by_cases hnone : names = []
  · subst hnone
    exact .inl ⟨List.append_nil base, hpath⟩
  · refine .inr ⟨names, hnone, rfl, ?_⟩
    obtain ⟨first, rest, rfl⟩ := List.exists_cons_of_ne_nil hnone
    obtain ⟨more, hmore⟩ := Text.exists_join_cons "/" first rest
    have hfirst := (hnames first (by simp)).ne_nil
    have hjoin : Text.join "/" (first :: rest) ≠ [] := by
      rw [hmore]
      exact List.append_ne_nil_of_left_ne_nil hfirst more
    have hsame : r.path = Text.join "/" (first :: rest) := by
      rw [hpath, Text.ifEmpty, if_neg (by simpa using hjoin)]
    exact ⟨hsame, hsame ▸ hjoin⟩

/-- A told path is read as the way to the target, if it is not trimmed. -/
theorem reads (h : Told root path t' r base target place n)
    (hnames : ∀ name ∈ target, Tree.IsNameable name) (htrim : Text.trim r.path = r.path) :
    Text.isBlank r.path = false ∧ (Path.ofText (Text.trim r.path)).startingAt base = target := by
  rw [htrim]
  rcases h.path_eq hnames with ⟨rfl, hpath⟩ | ⟨names, hne, rfl, hpath, hsome⟩
  · have hread : Path.ofText "." = ⟨false, []⟩ := by decide
    rw [hpath, hread]
    exact ⟨by decide, List.append_nil target⟩
  · have hread : Path.ofText r.path = ⟨false, names⟩ := by
      rw [hpath]
      exact Path.ofText_join_names hne fun name hname =>
        (hnames name (List.mem_append_right base hname)).toIsEntryName
    refine ⟨?_, by rw [hread]; rfl⟩
    rw [← htrim] at hsome ⊢
    exact Text.isBlank_trim hsome

/-- A told path that is not trimmed is resolved to the file, if what the target lands at is inside the
project. -/
theorem resolves_iff (h : Told root path t' r base target place n)
    (hnames : ∀ name ∈ target, Tree.IsNameable name) (htrim : Text.trim r.path = r.path) :
    ResolvesTo t' root r.path place ↔ base <+: t'.landing target := by
  obtain ⟨hblank, hstart⟩ := h.reads hnames htrim
  constructor
  · rintro ⟨file, hback, -⟩
    obtain ⟨rfl, hinside⟩ := landing_of_resolveInProject h.resolves_root hback
    rwa [hstart] at hinside
  · intro hinside
    refine ⟨t'.landing target, resolveInProject_ok_iff.mpr ⟨by simp [hblank], base,
      h.resolves_root, ?_, List.isPrefixOf_iff_prefix.mpr hinside⟩, (Tree.landing_of_walk h.stands).1⟩
    rw [hstart]
    exact Tree.resolve_of_walk h.stands fun name hname => (hnames name hname).passable

end Told

/-! ## Without links -/

/-- A told path that is trimmed is resolved to something shorter, where no link stands. -/
theorem Told.trimmed_of_resolves {n : Node} (h : Told root path t' r base target place n)
    (hnolink : ∀ l link, t'.get? l ≠ some (.link link))
    (hnames : ∀ name ∈ target, Tree.IsNameable name)
    (hback : ResolvesTo t' root r.path place) : Text.trim r.path = r.path := by
  by_contra htrim
  obtain ⟨file, hback, hfile⟩ := hback
  have hup : Path.up ∉ target := by
    obtain ⟨rfl, -⟩ := landing_of_resolveInProject h.resolves_root h.resolves
    exact Tree.up_not_mem_landing t' _
  -- the file has as many bytes in its names however these are spelled
  have hsame : Location.weight file = Location.weight target := by
    rw [← Location.weight_stored, hfile,
      Tree.place_of_walk ⟨hup, fun p _ => hnolink p⟩ h.stands, Location.weight_stored]
  obtain ⟨hlands, -⟩ := landing_of_resolveInProject h.resolves_root hback
  rw [Tree.landing_of_no_link hnolink] at hlands
  rcases h.path_eq hnames with ⟨-, hpath⟩ | ⟨names, hne, hway, hpath, -⟩
  · rw [hpath] at htrim
    exact htrim (by decide)
  · have hwhole := Location.weight_eq_nameBytes_join hne
    have hshort := Text.nameBytes_lt_of_sublist (Text.trim_sublist r.path) htrim
    have hread := Path.weight_names_le (Text.trim r.path)
    have hstart := Location.weight_startingAt_le (Path.ofText (Text.trim r.path)) base
    have hback := Location.weight_normalizeNames_le []
      ((Path.ofText (Text.trim r.path)).startingAt base)
    rw [← hlands, hsame, hway, Location.weight_append, Location.weight_nil] at hback
    rw [← hpath] at hwhole
    omega

/-- **The path that is told.** A write, an edit or an artifact that succeeds leaves a file under its
path. If the path it tells is not trimmed when it is read, this is resolved to that very file, as
long as what the file's own location lands at is inside the project; and where no link stands
anywhere, exactly then. -/
theorem reported_path (hroot : ∀ name ∈ root, Path.IsEntryName name) (hform : t.WellFormed)
    (hop : Writes root path op) (h : op.run t = (.ok r, t')) :
    ∃ base target place n, t'.resolve root = .ok base ∧
      resolveInProject t' root path = .ok target ∧
      t'.walk true target = .ok (.existing place n) ∧ n.isFile = true ∧
      (Text.trim r.path = r.path →
        (ResolvesTo t' root r.path place ↔ base <+: t'.landing target)) ∧
      ((∀ l link, t.get? l ≠ some (.link link)) →
        (ResolvesTo t' root r.path place ↔ Text.trim r.path = r.path)) := by
  obtain ⟨base, target, place, n, htold, hevolves⟩ := hop.told h
  have hlinks : t'.LinkNames Tree.IsNameable := fun l link hlink =>
    hform.linkNames l link (hevolves.link_old l link hlink)
  have hnames := htold.isNameable hlinks hroot
  refine ⟨base, target, place, n, htold.resolves_root, htold.resolves, htold.stands, htold.isFile,
    htold.resolves_iff hnames, fun hnolink => ?_⟩
  have hnolink' : ∀ l link, t'.get? l ≠ some (.link link) := fun l link hlink =>
    hnolink l link (hevolves.link_old l link hlink)
  refine ⟨htold.trimmed_of_resolves hnolink' hnames, fun htrim => ?_⟩
  have hinside : base <+: t'.landing target := by
    obtain ⟨hlanding, hinside⟩ := landing_of_resolveInProject htold.resolves_root htold.resolves
    have hup : Path.up ∉ target := hlanding ▸ Tree.up_not_mem_landing t' _
    rwa [Tree.landing_of_plain ⟨hup, fun p _ => hnolink' p⟩]
  exact (htold.resolves_iff hnames htrim).mpr hinside

/-- A project at `/p` with a link to a file, and what else stands in it. -/
def aliasTree (more : List (Location × Node)) : Tree :=
  ⟨(["p"], .directory) :: (["p", "in"], .link "sub/a.txt") :: more⟩

/-- A file that is written through a link is told of under its own path, and that is resolved to
it. -/
theorem reported_path_of_alias :
    let t' := aliasTree [(["p", "sub"], .directory), (["p", "sub", "a.txt"], .file [120])]
    (aliasTree []).WellFormed ∧
      (write ["p"] "in" "x").run (aliasTree []) = (.ok ⟨"sub/a.txt", .created⟩, t') ∧
      LeadsTo t' ["p"] "in" ["p", "sub", "a.txt"] (.file [120]) ∧
      ResolvesTo t' ["p"] "sub/a.txt" ["p", "sub", "a.txt"] := by
  intro t'
  have hform : (aliasTree []).WellFormed := Tree.wellFormed_of_isWellFormed (by decide)
  have hroot : ∀ name ∈ (["p"] : Location), Path.IsEntryName name := fun name hname => by
    obtain rfl := List.mem_singleton.mp hname
    exact ⟨by decide, by decide, by decide⟩
  have hrun : (write ["p"] "in" "x").run (aliasTree []) = (.ok ⟨"sub/a.txt", .created⟩, t') := rfl
  have hlead : LeadsTo t' ["p"] "in" ["p", "sub", "a.txt"] (.file [120]) :=
    ⟨["p", "sub", "a.txt"], rfl, rfl⟩
  obtain ⟨base, target, place, n, hbase, htarget, hwalk, -, hback, -⟩ :=
    reported_path hroot hform (.write "x") hrun
  obtain ⟨rfl, rfl⟩ := hlead.unique ⟨target, htarget, hwalk⟩
  have hproject : t'.resolve ["p"] = .ok ["p"] := rfl
  obtain rfl := Except.ok.inj (hproject.symm.trans hbase)
  have hfile : resolveInProject t' ["p"] "in" = .ok ["p", "sub", "a.txt"] := rfl
  obtain rfl := Except.ok.inj (hfile.symm.trans htarget)
  exact ⟨hform, hrun, hlead, (hback (by decide)).mpr ⟨["sub", "a.txt"], rfl⟩⟩

/-- A project at `/p` with a file whose name begins with a blank. -/
def blankTree : Tree := ⟨[(["p"], .directory), (["p", " a"], .file [120])]⟩

/-- A file whose name begins with a blank is told of under a path that means another file. -/
theorem told_path_is_trimmed :
    (write ["p"] "./ a" "x").run ⟨[(["p"], .directory)]⟩ = (.ok ⟨" a", .created⟩, blankTree) ∧
      LeadsTo blankTree ["p"] "./ a" ["p", " a"] (.file [120]) ∧
      ¬ ResolvesTo blankTree ["p"] " a" ["p", " a"] := by
  have hback : resolveInProject blankTree ["p"] " a" = .ok ["p", "a"] := rfl
  refine ⟨rfl, ⟨["p", " a"], rfl, rfl⟩, ?_⟩
  rintro ⟨file, hfile, hplace⟩
  obtain rfl := Except.ok.inj (hback.symm.trans hfile)
  have hother : Location.stored ["p", "a"] ≠ ["p", " a"] := by decide
  exact hother hplace

end Project

end Tablewright
