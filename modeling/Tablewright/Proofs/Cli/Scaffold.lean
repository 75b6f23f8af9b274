/-
What creating the scaffold leaves alone, and what it leaves behind.

Whether a file of the scaffold is there is asked of the path as it stands, by a walk; it is written
under the location the path is resolved to. The two agree where the way to the path is straight
(`IsDirect`): then nothing stands where a missing file is written, and the file is there afterwards.
So no file is overwritten but one that a path leads to whose way is not straight
(`createScaffold_keeps`), and once every file is there, creating the scaffold again only says so.

A way that is not straight goes up from a name that is missing, or meets a link there, or follows too
many links, or ends in a link that asks for a directory where none is: the walk gives up, and resolving
goes on to a file that stands (`scaffold_overwrites_behind_missing`).
-/
import Tablewright.Proofs.Cli.Query
import Tablewright.Proofs.Files.Directory
import Tablewright.Proofs.Files.Frame
import Tablewright.Proofs.Files.Inside
import Tablewright.Proofs.Files.Stored
import Tablewright.Proofs.Files.WellFormed

set_option autoImplicit false

namespace Tablewright

namespace Cli

variable {root l : Location} {path content : Text} {t t' : Tree} {q : Except Failure Written}

/-! ## Direct paths -/

/-- The way to a path of the project is straight, and if a link at its end asks for a directory, one
stands there. -/
def IsDirect (t : Tree) (root : Location) (path : Text) : Prop :=
  ∃ l, t.Straight l (t.get? l = some .directory) Tree.maxLinks [] (inProject root path)

/-- Something is there under a path of the project. -/
def IsThere (t : Tree) (root : Location) (path : Text) : Prop :=
  ∃ l n, t.walk true (inProject root path) = .ok (.existing l n)

theorem IsDirect.evolves (h : IsDirect t root path) (hlater : t.Evolves t') :
    IsDirect t' root path := by
  obtain ⟨l, hway⟩ := h
  refine ⟨l, (hway.evolves hlater).mono fun hdirectory => ?_⟩
  obtain ⟨n, hn, hstays⟩ := hlater.stays _ _ hdirectory
  cases hstays with
  | directory => exact hn
  | file hfile => cases hfile

theorem IsThere.evolves (h : IsThere t root path) (hlater : t.Evolves t') :
    IsThere t' root path := by
  obtain ⟨l, n, hwalk⟩ := h
  obtain ⟨m, hm, -⟩ := Tree.walk_evolves hlater hwalk
  exact ⟨l, m, hm⟩

/-- The way to what is there is straight, and so is the way to what a walk misses at its end. -/
theorem isDirect_of_walk (hform : t.WellFormed) {place : Place}
    (h : t.walk true (inProject root path) = .ok place) : IsDirect t root path := by
  have hwalks := (Tree.walk_ok_iff.mp h).2
  obtain ⟨l, hl, hway⟩ := hwalks.straight (Tree.plain_nil t)
  refine ⟨l, hway.mono fun ⟨d, hd⟩ => ?_⟩
  subst hd
  rw [← Tree.get?_stored, hl]
  exact hform.get?_of_walks hwalks rfl

/-- A path that is read as it is written, from the project on, and that can be printed. -/
structure IsRelative (path : Text) : Prop where
  trimmed : Text.trim path = path
  relative : (Path.ofText path).isAbsolute = false
  printable : path.HasEncoding

/-- A direct path is resolved to the end of its way, if at all. -/
theorem target_of_straight {isDirectory : Prop} (hpath : IsRelative path)
    (hway : t.Straight l isDirectory Tree.maxLinks [] (inProject root path)) {target : Location}
    (h : resolveInProject t root path = .ok target) : target = l := by
  obtain ⟨-, base, hbase, htarget, -⟩ := resolveInProject_ok_iff.mp h
  obtain ⟨-, rfl, -⟩ := Tree.resolve_ok_iff.mp hbase
  obtain ⟨-, rfl, -⟩ := Tree.resolve_ok_iff.mp htarget
  have hstart : ∀ base : Location, (Path.ofText path).startingAt base =
      base ++ (Path.ofText path).names := fun base => by simp [Path.startingAt, hpath.relative]
  -- the names of the path are followed on from where those of the project lead
  have hfollows := hway.follows
  rw [inProject, hstart] at hfollows
  obtain ⟨mid, hroot, hnames⟩ := hfollows.split
  obtain rfl := Tree.landing_of_follows hroot
  have hplain := hroot.plain (Tree.plain_nil t)
  rw [hpath.trimmed, hstart]
  exact Tree.landing_of_follows ((Tree.follows_of_plain hplain).append hnames)

/-- Whether something is at a location is told of locations that are not too long only. -/
theorem isTooLong_of_doesExist {b : Bool} (h : t.doesExist l = .ok b) : l.isTooLong = false := by
  by_contra hlong
  have hwalk : t.walk true l = .error .nameTooLong := by
    rw [Tree.walk, if_pos (by simpa using hlong)]
  rw [Tree.doesExist, Tree.status, hwalk] at h
  cases h

/-- What stands at the end of a straight way is there. -/
theorem isThere_of_straight (hform : t.WellFormed)
    (hway : t.Straight l (t.get? l = some .directory) Tree.maxLinks [] (inProject root path))
    (hshort : (inProject root path).isTooLong = false) {n : Node} (hn : t.get? l = some n) :
    t.walk true (inProject root path) = .ok (.existing l.stored n) := by
  rw [Tree.walk, if_neg (by simp [hshort])]
  exact hway.walkFrom hform hn rfl

/-- **A missing file.** Where nothing is there under a direct path, a write takes nothing away,
whatever comes of it, and a write that succeeds puts something there. -/
theorem write_direct (hpath : IsRelative path) (hform : t.WellFormed) (hdirect : IsDirect t root path)
    (hnone : t.doesExist (inProject root path) = .ok false)
    (h : (Project.write root path content).run t = (q, t')) :
    (∀ k n, t.get? k = some n → t'.get? k = some n) ∧
      ∀ r, q = .ok r → IsThere t' root path := by
  obtain ⟨l, hway⟩ := hdirect
  have hshort := isTooLong_of_doesExist hnone
  have hvacant : t.get? l = none := by
    by_contra hsome
    obtain ⟨n, hn⟩ := Option.ne_none_iff_exists'.mp hsome
    have hthere : false = true := (Tree.doesExist_iff hnone).mpr
      ⟨l.stored, n, isThere_of_straight hform hway hshort hn⟩
    cases hthere
  have hplain := hway.plain_end
  have hchanges := Project.changesAlong_write (fun target => target_of_straight hpath hway) hplain
    content
  rw [h] at hchanges
  refine ⟨fun k n hn => ?_, fun r hq => ?_⟩
  · rcases hchanges.along k with hsame | ⟨-, hmissing | hlast⟩
    · exact hsame.trans hn
    · simp [hmissing] at hn
    · simp [Tree.get?_congr hlast, hvacant] at hn
  · subst hq
    obtain ⟨target, place, bytes, hstored⟩ := Project.write_stored h
    obtain rfl := target_of_straight hpath hway hstored.resolves
    obtain rfl := hstored.place_eq hplain
    have hfile := hstored.leadsTo.get?_of_isFile rfl
    rw [Tree.get?_stored] at hfile
    have hform' := Project.keepsForm_write root path content t hform
    rw [h] at hform'
    -- nothing stood at the end, so no link there asked for a directory
    have hway' : t'.Straight target (t'.get? target = some .directory) Tree.maxLinks []
        (inProject root path) :=
      (hway.evolves hchanges.evolves).mono fun hdirectory => by simp [hvacant] at hdirectory
    exact ⟨_, _, isThere_of_straight hform' hway' hshort hfile⟩

/-! ## Sparing what stands -/

/-- From a tree to a later one everything was kept but files that some of the paths lead to, and the
ways to these paths are not straight. -/
structure Spares (root : Location) (paths : List Text) (t t' : Tree) : Prop where
  evolves : t.Evolves t'
  wellFormed : t'.WellFormed
  keeps : ∀ l n, t.get? l = some n → t'.get? l = some n ∨
    n.isFile = true ∧ ∃ p ∈ paths, ¬ IsDirect t root p ∧
      ∃ m, m.isFile = true ∧ Project.LeadsTo t' root p l.stored m

variable {paths : List Text}

theorem Spares.of_extends (h : t.Extends t') (hform : t'.WellFormed) : Spares root paths t t' where
  evolves := h.evolves
  wellFormed := hform
  keeps l n hn := .inl (h.keeps l n hn)

theorem Spares.refl (root : Location) (paths : List Text) (hform : t.WellFormed) :
    Spares root paths t t :=
  .of_extends (.refl t) hform

theorem Spares.trans {t'' : Tree} (h : Spares root paths t t') (h' : Spares root paths t' t'') :
    Spares root paths t t'' where
  evolves := h.evolves.trans h'.evolves
  wellFormed := h'.wellFormed
  keeps l n hn := by
    rcases h.keeps l n hn with hkept | ⟨hfile, p, hp, hcrooked, m, hm, hlead⟩
    · -- a way that is not straight later was not straight before
      refine (h'.keeps l n hkept).imp_right fun ⟨hfile, p, hp, hcrooked, hlead⟩ => ?_
      exact ⟨hfile, p, hp, fun hdirect => hcrooked (hdirect.evolves h.evolves), hlead⟩
    · obtain ⟨m', hlater, hstays⟩ := hlead.evolves h'.evolves
      exact .inr ⟨hfile, p, hp, hcrooked, m', hstays.isFile hm, hlater⟩

/-- What became a file was one. -/
theorem isFile_of_stays {n m : Node} (h : n.Stays m) (hm : m.isFile = true) : n.isFile = true := by
  cases h with
  | directory | link => cases hm
  | file hn => exact hn

/-- A write where nothing is there spares what stands, unless the way to its path is not straight. -/
theorem spares_write (hpath : IsRelative path) (hmem : path ∈ paths) (hform : t.WellFormed)
    (hnone : t.doesExist (inProject root path) = .ok false)
    (h : (Project.write root path content).run t = (q, t')) : Spares root paths t t' := by
  have honly := Project.changesOnly_write root path content t
  have hform' := Project.keepsForm_write root path content t hform
  rw [h] at honly hform'
  refine ⟨honly.evolves, hform', fun l n hn => ?_⟩
  by_cases hdirect : IsDirect t root path
  · exact .inl ((write_direct hpath hform hdirect hnone h).1 l n hn)
  · refine (honly.keeps l n hn).imp_right fun ⟨p, hp, m, hm, hlead⟩ => ?_
    obtain rfl := List.mem_singleton.mp hp
    obtain ⟨m', hm', hstays⟩ := honly.evolves.stays l n hn
    rw [← Tree.get?_stored, hlead.get?_of_isFile hm] at hm'
    obtain rfl := Option.some.inj hm'
    exact ⟨isFile_of_stays hstays hm, p, hmem, hdirect, m, hm, hlead⟩

/-! ## One file, one directory -/

variable {u u' : Terminal} {file : Text × Text}

/-- The line about a file that is there. -/
def skippedLine (path : Text) : Text := "  skipped  " ++ path ++ " (exists)"

/-- The line about a file that was written. -/
def createdLine (path : Text) : Text := "  created  " ++ path

/-- The line about a directory. -/
def ensuredLine (path : Text) : Text := "  ensured  " ++ path ++ "/"

/-- The lines about a path that can be printed can be printed. -/
theorem hasEncoding_lines (h : path.HasEncoding) : (skippedLine path).HasEncoding ∧
    (createdLine path).HasEncoding ∧ (ensuredLine path).HasEncoding := by
  simp [skippedLine, createdLine, ensuredLine, h]

/-- What creating a file of the scaffold can come to. -/
inductive FileCourse (root : Location) (file : Text × Text) (u : Terminal) :
    Except Failure Unit → Terminal → Prop
  /-- Whether it is there cannot be told. -/
  | unknown {e : SystemError} (h : u.world.tree.doesExist (inProject root file.1) = .error e) :
      FileCourse root file u (.error (.system e)) u
  /-- It is there. -/
  | skipped (h : u.world.tree.doesExist (inProject root file.1) = .ok true) :
      FileCourse root file u (.ok ()) (u.printed [skippedLine file.1])
  /-- It is missing and cannot be written. -/
  | failed {f : Failure} {t' : Tree}
      (h : u.world.tree.doesExist (inProject root file.1) = .ok false)
      (hwrite : (Project.write root file.1 file.2).run u.world.tree = (.error f, t')) :
      FileCourse root file u (.error f) (u.withTree t')
  /-- It is missing and written. -/
  | created {w : Written} {t' : Tree}
      (h : u.world.tree.doesExist (inProject root file.1) = .ok false)
      (hwrite : (Project.write root file.1 file.2).run u.world.tree = (.ok w, t')) :
      FileCourse root file u (.ok ()) ((u.withTree t').printed [createdLine file.1])

/-- Creating a file goes one of the ways of `FileCourse`. -/
theorem createFile_course {r : Except Failure Unit} (hprint : file.1.HasEncoding)
    (h : (createFile root file).run u = (r, u')) : FileCourse root file u r u' := by
  obtain ⟨hskipped, hcreated, -⟩ := hasEncoding_lines hprint
  have hask : (CliAction.onFiles (FileAction.ask (·.doesExist (inProject root file.1)))).run u
      = ((u.world.tree.doesExist (inProject root file.1)).mapError .system, u) := rfl
  rw [createFile, Effect.run_bind, hask] at h
  cases hthere : u.world.tree.doesExist (inProject root file.1) with
  | error e =>
    rw [hthere] at h
    cases h
    exact .unknown hthere
  | ok b =>
    rw [hthere] at h
    cases b with
    | true =>
      replace h : (CliAction.print (skippedLine file.1)).run u = (r, u') := h
      rw [CliAction.print_ok hskipped] at h
      cases h
      exact .skipped hthere
    | false =>
      replace h : (CliAction.onFiles (Project.write root file.1 file.2) >>= fun _ =>
          CliAction.print (createdLine file.1)).run u = (r, u') := h
      rw [Effect.run_bind, CliAction.onFiles_run] at h
      rcases hwrite : (Project.write root file.1 file.2).run u.world.tree with ⟨f | w, t'⟩
      · rw [hwrite] at h
        cases h
        exact .failed hthere hwrite
      · rw [hwrite] at h
        dsimp only at h
        rw [CliAction.print_ok hcreated] at h
        cases h
        exact .created hthere hwrite

/-- Creating a file spares what stands. -/
theorem spares_createFile (hpath : IsRelative file.1) (hmem : file.1 ∈ paths)
    (hform : u.world.tree.WellFormed) :
    Spares root paths u.world.tree ((createFile root file).run u).2.world.tree := by
  rcases hrun : (createFile root file).run u with ⟨r, u'⟩
  cases createFile_course hpath.printable hrun with
  | unknown | skipped => exact .of_extends (.refl _) hform
  | failed hnone hwrite | created hnone hwrite => exact spares_write hpath hmem hform hnone hwrite

/-- A file that was created or skipped is there, if its path is direct. -/
theorem createFile_there (hpath : IsRelative file.1) (hform : u.world.tree.WellFormed)
    (hdirect : IsDirect u.world.tree root file.1)
    (h : (createFile root file).run u = (.ok (), u')) : IsThere u'.world.tree root file.1 := by
  cases createFile_course hpath.printable h with
  | skipped hthere => exact (Tree.doesExist_iff hthere).mp rfl
  | created hnone hwrite => exact (write_direct hpath hform hdirect hnone hwrite).2 _ rfl

/-- A file that is there is skipped. -/
theorem createFile_again (hpath : IsRelative file.1) (h : IsThere u.world.tree root file.1) :
    (createFile root file).run u = (.ok (), u.printed [skippedLine file.1]) := by
  obtain ⟨l, n, hwalk⟩ := h
  have hthere : u.world.tree.doesExist (inProject root file.1) = .ok true := by
    rw [Tree.doesExist, Tree.status, hwalk]
    rfl
  rcases hrun : (createFile root file).run u with ⟨r, u'⟩
  cases createFile_course hpath.printable hrun with
  | skipped => rfl
  | unknown hnone | failed hnone | created hnone =>
    rw [hthere] at hnone
    cases hnone

/-- Creating a directory spares what stands. -/
theorem spares_createDirectory (path : Text) (hform : u.world.tree.WellFormed) :
    Spares root paths u.world.tree ((createDirectory root path).run u).2.world.tree := by
  have hextends := FileAction.extending_makeDirectory (inProject root path) u.world.tree
  have hform' := FileAction.keepsForm_makeDirectory (inProject root path) u.world.tree hform
  rcases hmake : (FileAction.makeDirectory (inProject root path)).run u.world.tree with ⟨f | _, t'⟩
  · rw [hmake] at hextends hform'
    rw [createDirectory, Effect.run_bind, CliAction.onFiles_run, hmake]
    exact .of_extends hextends hform'
  · rw [hmake] at hextends hform'
    rw [createDirectory, Effect.run_bind, CliAction.onFiles_run, hmake]
    refine .of_extends ?_ ?_ <;> rwa [CliAction.print_world]

/-- A path of the project leads to a directory. -/
def IsDirectory (t : Tree) (root : Location) (path : Text) : Prop :=
  ∃ d, t.walk true (inProject root path) = .ok (.existing d .directory)

theorem IsDirectory.evolves (h : IsDirectory t root path) (hlater : t.Evolves t') :
    IsDirectory t' root path := by
  obtain ⟨d, hwalk⟩ := h
  obtain ⟨m, hm, hstays⟩ := Tree.walk_evolves hlater hwalk
  cases hstays with
  | directory => exact ⟨d, hm⟩
  | file hfile => cases hfile

/-- A directory that was created is there. -/
theorem createDirectory_there (h : (createDirectory root path).run u = (.ok (), u')) :
    IsDirectory u'.world.tree root path := by
  obtain ⟨_, u₁, hmake, hprint⟩ := Effect.bind_ok_iff.mp h
  have hworld : u'.world = u₁.world := by
    have hkept := CliAction.print_world (ensuredLine path) u₁
    rwa [show (CliAction.print (ensuredLine path)).run u₁ = (.ok (), u') from hprint] at hkept
  rw [CliAction.onFiles_run] at hmake
  obtain ⟨hdone, rfl⟩ := Prod.mk.inj hmake
  rw [hworld]
  exact FileAction.makeDirectory_stands (Prod.ext hdone rfl)

/-- A directory that is there is only told of. -/
theorem createDirectory_again (hprint : path.HasEncoding) (h : IsDirectory u.world.tree root path) :
    (createDirectory root path).run u = (.ok (), u.printed [ensuredLine path]) := by
  obtain ⟨d, hwalk⟩ := h
  rw [createDirectory, Effect.run_bind, CliAction.onFiles_run,
    FileAction.makeDirectory_of_directory hwalk]
  exact CliAction.print_ok (hasEncoding_lines hprint).2.2 u

/-! ## One after another -/

section ForEach

variable {α : Type} {act : α → CliAction Unit} {items : List α}

/-- What every step keeps the whole row keeps. -/
theorem forEach_keeps {J : Terminal → Prop}
    (hstep : ∀ a ∈ items, ∀ u, J u → J ((act a).run u).2) (hu : J u) :
    J ((CliAction.forEach act items).run u).2 := by
  induction items generalizing u with
  | nil => exact hu
  | cons a items ih =>
    have hfirst := hstep a List.mem_cons_self u hu
    rw [CliAction.forEach, Effect.run_bind]
    rcases hrun : (act a).run u with ⟨f | x, u₁⟩
    · rwa [hrun] at hfirst
    · rw [hrun] at hfirst
      exact ih (fun b hb => hstep b (List.mem_cons_of_mem a hb)) hfirst

/-- What every step of a row that is done brings about holds in the end, as long as the steps keep
it. -/
theorem forEach_done {J : Terminal → Prop} {P : α → Terminal → Prop}
    (hstep : ∀ a ∈ items, ∀ u, J u → J ((act a).run u).2 ∧ ∀ b, P b u → P b ((act a).run u).2)
    (hdone : ∀ a ∈ items, ∀ u u', J u → (act a).run u = (.ok (), u') → P a u')
    (hu : J u) (h : (CliAction.forEach act items).run u = (.ok (), u')) :
    ∀ a ∈ items, P a u' := by
  induction items generalizing u with
  | nil => exact fun a ha => absurd ha List.not_mem_nil
  | cons a items ih =>
    obtain ⟨_, u₁, hfirst, hrest⟩ := Effect.bind_ok_iff.mp h
    have hmid : J u₁ := by
      have hkeeps := (hstep a List.mem_cons_self u hu).1
      rwa [hfirst] at hkeeps
    have hlater := fun b hb => hstep b (List.mem_cons_of_mem a hb)
    intro b hb
    rcases List.mem_cons.mp hb with rfl | hb
    · have hkeeps := forEach_keeps (J := fun v => J v ∧ P b v)
        (fun c hc v hv => ⟨(hlater c hc v hv.1).1, (hlater c hc v hv.1).2 b hv.2⟩)
        ⟨hmid, hdone b List.mem_cons_self u u₁ hu hfirst⟩
      rw [hrest] at hkeeps
      exact hkeeps.2
    · exact ih hlater (fun c hc => hdone c (List.mem_cons_of_mem a hc)) hmid hrest b hb

/-- A row of which every step only prints a line prints these lines. -/
theorem forEach_prints {line : α → Text} {w : World}
    (hstep : ∀ a ∈ items, ∀ u, u.world = w → (act a).run u = (.ok (), u.printed [line a]))
    (hu : u.world = w) :
    (CliAction.forEach act items).run u = (.ok (), u.printed (items.map line)) := by
  induction items generalizing u with
  | nil =>
    rw [List.map_nil, Terminal.printed_nil]
    rfl
  | cons a items ih =>
    rw [CliAction.forEach, Effect.run_bind, hstep a List.mem_cons_self u hu]
    dsimp only
    rw [ih (u := u.printed [line a]) (fun b hb => hstep b (List.mem_cons_of_mem a hb)) hu]
    simp

end ForEach

/-! ## The scaffold -/

/-- The paths of the files of the scaffold. -/
def scaffoldPaths : List Text := Scaffold.files.map Prod.fst

theorem isRelative_of_mem_files {file : Text × Text} (h : file ∈ Scaffold.files) :
    IsRelative file.1 := by
  have hall : ∀ path ∈ scaffoldPaths, Text.trim path = path ∧
      (Path.ofText path).isAbsolute = false ∧ path.HasEncoding := by decide +kernel
  obtain ⟨htrim, hrelative, hprintable⟩ := hall file.1 (List.mem_map_of_mem h)
  exact ⟨htrim, hrelative, hprintable⟩

/-- The lines about a scaffold that is there. -/
def thereLines : List Text :=
  scaffoldPaths.map skippedLine ++ Scaffold.directories.map ensuredLine ++ [[], nextHint]

/-- The files and directories of the scaffold, one after another. -/
theorem spares_step (hspares : Spares root scaffoldPaths t u.world.tree) :
    (∀ file ∈ Scaffold.files,
        Spares root scaffoldPaths t ((createFile root file).run u).2.world.tree) ∧
      ∀ path, Spares root scaffoldPaths t ((createDirectory root path).run u).2.world.tree := by
  refine ⟨fun file hfile => hspares.trans ?_, fun path => hspares.trans ?_⟩
  · exact spares_createFile (isRelative_of_mem_files hfile) (List.mem_map_of_mem hfile)
      hspares.wellFormed
  · exact spares_createDirectory path hspares.wellFormed

theorem spares_files (hspares : Spares root scaffoldPaths t u.world.tree) :
    Spares root scaffoldPaths t
      ((CliAction.forEach (createFile root) Scaffold.files).run u).2.world.tree :=
  forEach_keeps (J := fun v => Spares root scaffoldPaths t v.world.tree)
    (fun file hfile _ hv => (spares_step hv).1 file hfile) hspares

theorem spares_directories (hspares : Spares root scaffoldPaths t u.world.tree) :
    Spares root scaffoldPaths t
      ((CliAction.forEach (createDirectory root) Scaffold.directories).run u).2.world.tree :=
  forEach_keeps (J := fun v => Spares root scaffoldPaths t v.world.tree)
    (fun path _ _ hv => (spares_step hv).2 path) hspares

/-- Creating the scaffold spares what stands, whatever comes of it. -/
theorem spares_createScaffold (hform : u.world.tree.WellFormed) :
    Spares root scaffoldPaths u.world.tree ((createScaffold root).run u).2.world.tree := by
  have hfiles := spares_files (.refl root scaffoldPaths hform)
  rw [createScaffold, Effect.run_bind]
  rcases hrun : (CliAction.forEach (createFile root) Scaffold.files).run u with ⟨f | x, u₁⟩
  · rwa [hrun] at hfiles
  rw [hrun] at hfiles
  have hdirectories := spares_directories hfiles
  dsimp only
  rw [Effect.run_bind]
  rcases hrun' : (CliAction.forEach (createDirectory root) Scaffold.directories).run u₁ with
    ⟨f | y, u₂⟩
  · rwa [hrun'] at hdirectories
  · rwa [hrun'] at hdirectories

/-- Files that were created are there, if their paths are direct. -/
theorem files_there (hform : u.world.tree.WellFormed)
    (h : (CliAction.forEach (createFile root) Scaffold.files).run u = (.ok (), u')) :
    ∀ file ∈ Scaffold.files, IsDirect u.world.tree root file.1 → IsThere u'.world.tree root file.1 := by
  refine forEach_done (J := fun v => Spares root scaffoldPaths u.world.tree v.world.tree)
    (P := fun file v => IsDirect u.world.tree root file.1 → IsThere v.world.tree root file.1)
    (fun file hfile v hv => ⟨(spares_step hv).1 file hfile, fun other hother hdirect => ?_⟩)
    (fun file hfile v v' hv hrun hdirect => ?_) (.refl root scaffoldPaths hform) h
  · have hstep : Spares root scaffoldPaths v.world.tree
        ((createFile root file).run v).2.world.tree :=
      spares_createFile (isRelative_of_mem_files hfile) (List.mem_map_of_mem hfile) hv.wellFormed
    exact (hother hdirect).evolves hstep.evolves
  · exact createFile_there (isRelative_of_mem_files hfile) hv.wellFormed
      (hdirect.evolves hv.evolves) hrun

/-- Directories that were created are there. -/
theorem directories_there (hform : u.world.tree.WellFormed)
    (h : (CliAction.forEach (createDirectory root) Scaffold.directories).run u = (.ok (), u')) :
    ∀ path ∈ Scaffold.directories, IsDirectory u'.world.tree root path := by
  refine forEach_done (J := fun v => v.world.tree.WellFormed)
    (P := fun path v => IsDirectory v.world.tree root path)
    (fun path _ v hv => ?_) (fun path _ v v' _ hrun => createDirectory_there hrun) hform h
  have hstep : Spares root scaffoldPaths v.world.tree
      ((createDirectory root path).run v).2.world.tree := spares_createDirectory path hv
  exact ⟨hstep.wellFormed, fun other hother => hother.evolves hstep.evolves⟩

/-- Creating a scaffold that is there prints that it is, and does nothing else. -/
theorem createScaffold_again (hfiles : ∀ path ∈ scaffoldPaths, IsThere u.world.tree root path)
    (hdirectories : ∀ path ∈ Scaffold.directories, IsDirectory u.world.tree root path) :
    (createScaffold root).run u = (.ok 0, u.printed thereLines) := by
  have hfirst : (CliAction.forEach (createFile root) Scaffold.files).run u
      = (.ok (), u.printed (Scaffold.files.map fun file => skippedLine file.1)) :=
    forEach_prints (fun file hfile v hv =>
      createFile_again (isRelative_of_mem_files hfile)
        (hv ▸ hfiles file.1 (List.mem_map_of_mem hfile))) rfl
  have hnames : ∀ path ∈ Scaffold.directories, path.HasEncoding := by decide +kernel
  have hhint : ∀ line ∈ ([[], nextHint] : List Text), line.HasEncoding := by decide +kernel
  have hsecond : ∀ v : Terminal, v.world = u.world →
      (CliAction.forEach (createDirectory root) Scaffold.directories).run v
        = (.ok (), v.printed (Scaffold.directories.map ensuredLine)) := fun v hv =>
    forEach_prints (fun path hpath v hv =>
      createDirectory_again (hnames path hpath) (hv ▸ hdirectories path hpath)) hv
  rw [createScaffold, Effect.run_bind, hfirst]
  dsimp only
  rw [Effect.run_bind, hsecond (u.printed _) rfl]
  dsimp only
  rw [Effect.run_bind, CliAction.printAll_ok hhint, Terminal.printed_printed,
    Terminal.printed_printed, thereLines, scaffoldPaths, List.map_map]
  rfl

/-- **Creating the scaffold.** Whatever comes of it, everything that stood is kept but files that
paths of the scaffold lead to whose ways are not straight. When it is done, every file whose path is
direct is there, and the directories are; and once all files are there, doing it again changes
nothing and says that each of them is skipped. -/
theorem createScaffold_keeps {s s' : Terminal} {status : Except Failure ExitStatus}
    (hform : s.world.tree.WellFormed) (h : (createScaffold root).run s = (status, s')) :
    Spares root scaffoldPaths s.world.tree s'.world.tree ∧
      ∀ code, status = .ok code →
        (∀ path ∈ scaffoldPaths, IsDirect s.world.tree root path → IsThere s'.world.tree root path) ∧
        (∀ path ∈ Scaffold.directories, IsDirectory s'.world.tree root path) ∧
        ((∀ path ∈ scaffoldPaths, IsThere s'.world.tree root path) → ∀ out err,
          (createScaffold root).run ⟨s'.world, out, err⟩
            = (.ok 0, ⟨s'.world, out ++ thereLines, err⟩)) := by
  have hspares : Spares root scaffoldPaths s.world.tree
      ((createScaffold root).run s).2.world.tree := spares_createScaffold hform
  rw [h] at hspares
  refine ⟨hspares, fun code hcode => ?_⟩
  subst hcode
  obtain ⟨_, s₁, hfiles, h⟩ := Effect.bind_ok_iff.mp h
  obtain ⟨_, s₂, hdirectories, h⟩ := Effect.bind_ok_iff.mp h
  have hworld : s'.world = s₂.world := by
    cases h
    rfl
  rw [hworld]
  have hfirst : Spares root scaffoldPaths s.world.tree s₁.world.tree := by
    have hkeeps := spares_files (.refl root scaffoldPaths hform)
    rwa [hfiles] at hkeeps
  have hsecond : Spares root scaffoldPaths s₁.world.tree s₂.world.tree := by
    have hkeeps := spares_directories (.refl root scaffoldPaths hfirst.wellFormed)
    rwa [hdirectories] at hkeeps
  have hthere := directories_there hfirst.wellFormed hdirectories
  refine ⟨fun path hpath hdirect => ?_, hthere, fun hall out err => ?_⟩
  · obtain ⟨file, hfile, rfl⟩ := List.mem_map.mp hpath
    exact (files_there hform hfiles file hfile hdirect).evolves hsecond.evolves
  · exact createScaffold_again (u := ⟨s₂.world, out, err⟩) hall hthere

/-- A directory with the file that makes it a package. -/
def packageAt (l : Location) : List (Location × Node) :=
  [(l, .directory), (l ++ [packageFile], .file [])]

/-- A project at `/p` of whose scaffold only the settings file may be missing, and what else stands
in it. -/
def nearlyDone (more : List (Location × Node)) : Tree :=
  let packages : List Location := [["p", "app"], ["p", "app", "db"], ["p", "app", "models"],
    ["p", "app", "schemas"], ["p", "app", "api"], ["p", "app", "seeds"]]
  ⟨(["p"], .directory) :: (["p", "app", "db", "session.py"], .file []) ::
    List.append (packages.flatMap packageAt) more⟩

/-- The terminal of a command on a tree. -/
def startedOn (t : Tree) : Terminal := ⟨{ World.bare with tree := t }, [], []⟩

/-- All files of the scaffold but the settings file are there. -/
theorem isThere_nearlyDone {more : List (Location × Node)} (h : path ∈ scaffoldPaths)
    (hpath : path ≠ ".env") : IsThere (nearlyDone more) ["p"] path := by
  simp only [scaffoldPaths, Scaffold.files, List.map_cons, List.map_nil, List.mem_cons] at h
  rcases h with rfl | rfl | rfl | rfl | rfl | rfl | rfl | rfl | h
  case inr.inr.inr.inr.inr.inr.inr.inl => exact absurd rfl hpath
  case inr.inr.inr.inr.inr.inr.inr.inr => cases h
  all_goals exact ⟨_, _, rfl⟩

/-- Where the settings file is a link to a file that is missing, that file is written, and nothing is
taken away; the second time everything is there. -/
theorem createScaffold_through_link :
    let s := startedOn (nearlyDone [(["p", ".env"], .link "conf/env")])
    s.world.tree.WellFormed ∧ ∃ s', (createScaffold ["p"]).run s = (.ok 0, s') ∧
      (∀ l n, s.world.tree.get? l = some n → s'.world.tree.get? l = some n) ∧
      (∀ path ∈ scaffoldPaths, IsThere s'.world.tree ["p"] path) ∧
      (createScaffold ["p"]).run ⟨s'.world, [], []⟩ = (.ok 0, ⟨s'.world, thereLines, []⟩) := by
  intro s
  have hform : s.world.tree.WellFormed := Tree.wellFormed_of_isWellFormed (by decide +kernel)
  have hdone : ((createScaffold ["p"]).run s).1.toOption = some 0 := by decide +kernel
  rcases hrun : (createScaffold ["p"]).run s with ⟨status, s'⟩
  rw [hrun] at hdone
  obtain rfl : status = .ok 0 := Effect.result_ok_of_toOption hdone
  obtain ⟨hspares, hends⟩ := createScaffold_keeps hform hrun
  obtain ⟨hfiles, -, hagain⟩ := hends 0 rfl
  have hdirect : ∀ path ∈ scaffoldPaths, IsDirect s.world.tree ["p"] path := fun path hpath => by
    by_cases henv : path = ".env"
    · have hplain : s.world.tree.Plain ["p", "conf", "env"] :=
        Tree.plain_of_entries (by decide) (by decide +kernel)
      have hread : inProject ["p"] ".env" = ["p", ".env"] := by decide +kernel
      rw [henv, IsDirect, hread]
      exact ⟨_, .directory (by decide) rfl
        (.link (by decide) rfl (fun hslash => absurd hslash (by decide)) (.plain rfl hplain))⟩
    · obtain ⟨l, n, hwalk⟩ := isThere_nearlyDone hpath henv
      exact isDirect_of_walk hform hwalk
  have hthere := fun path hpath => hfiles path hpath (hdirect path hpath)
  refine ⟨hform, s', rfl, fun l n hn => ?_, hthere, hagain hthere [] []⟩
  exact (hspares.keeps l n hn).resolve_right fun ⟨_, path, hpath, hcrooked, _⟩ =>
    hcrooked (hdirect path hpath)

/-- The content of the file at a location. -/
def bytesAt? (t : Tree) (l : Location) : Option Bytes :=
  match t.get? l with
  | some (.file bytes) => some bytes
  | _ => none

/-- A link that goes up from a name that is missing: the settings file is not found under its path,
and the file its path is resolved to is overwritten; afterwards it is still not found. -/
theorem scaffold_overwrites_behind_missing :
    let s := startedOn (nearlyDone
      [(["p", "data.txt"], .file [120]), (["p", ".env"], .link "missing/../data.txt")])
    s.world.tree.WellFormed ∧ ∃ s', (createScaffold ["p"]).run s = (.ok 0, s') ∧
      s.world.tree.get? ["p", "data.txt"] = some (.file [120]) ∧
      s'.world.tree.get? ["p", "data.txt"] ≠ some (.file [120]) ∧
      ¬ IsThere s'.world.tree ["p"] ".env" := by
  intro s
  have hform : s.world.tree.WellFormed := Tree.wellFormed_of_isWellFormed (by decide +kernel)
  have hends : ((createScaffold ["p"]).run s).1.toOption = some 0 ∧
      bytesAt? ((createScaffold ["p"]).run s).2.world.tree ["p", "data.txt"] ≠ some [120] ∧
      (((createScaffold ["p"]).run s).2.world.tree.doesExist
        (inProject ["p"] ".env")).toOption = some false := by decide +kernel
  rcases hrun : (createScaffold ["p"]).run s with ⟨status, s'⟩
  rw [hrun] at hends
  obtain ⟨hdone, hchanged, hmissing⟩ := hends
  obtain rfl : status = .ok 0 := Effect.result_ok_of_toOption hdone
  refine ⟨hform, s', rfl, rfl, fun hsame => ?_, fun hthere => ?_⟩
  · exact hchanged (by simp [bytesAt?, hsame])
  · cases (Tree.doesExist_iff (Effect.result_ok_of_toOption hmissing)).mpr hthere

end Cli

end Tablewright
