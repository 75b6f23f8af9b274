/-
Which directories are listed.

A path on which a hidden directory is named is turned down before anything is looked at. What is
listed is the directory the path is resolved to, and between the two stand links: below the project
every name of the listed directory was written in the path or in the target of a link
(`Tree.landing_goesOn`). So a hidden directory is listed only where a link of the file system names it
(`listed_directory`), and one link is enough (`hidden_directory_is_listed`).
-/
import Tablewright.Proofs.Files.Inside
import Tablewright.Proofs.Files.Names
import Tablewright.Proofs.Files.WellFormed
import Tablewright.Tool.Handlers

set_option autoImplicit false

namespace Tablewright.Tool

variable {ctx : ToolContext} {t : Tree} {path : Option Text} {o : Outcome} {base d : Location}

/-! ## What is listed -/

/-- The path that is listed: without one it is the project itself. -/
def listedPath (path : Option Text) : Text := (Text.trim (Text.orEmpty path)).ifEmpty "."

/-- The outcome of a directory that was listed. -/
def listingOutcome (path : Text) (entries : List Text) : Outcome :=
  Outcome.success (Text.ofNat entries.length ++ " entries in '" ++ path ++ "'")
    [("path", .str path), ("entries", Json.texts entries)]

/-- An entry is shown by its name, with a slash behind it if it is a directory. -/
def ShownAs (name shown : Text) : Prop := shown = name ∨ shown = name ++ "/"

theorem shownAs_of_shownEntry {directory : Location} {name shown : Text}
    (h : shownEntry t directory name = .ok shown) : ShownAs name shown := by
  unfold shownEntry at h
  split at h
  · exact .inr (Except.ok.inj h).symm
  · exact .inl (Except.ok.inj h).symm
  · cases h

/-- A listing that succeeds names no hidden directory in its path, and shows the entries of the
directory that the path leads to. -/
theorem listFiles_ok (h : listFiles ctx path t = .ok o) :
    (∀ name ∈ (Path.ofText (listedPath path)).names, isHidden name = false) ∧
      ∃ d shown, Project.LeadsTo t ctx.root (listedPath path) d .directory ∧
        List.Forall₂ ShownAs (t.children d) shown ∧
        o = listingOutcome (listedPath path) (Text.sort shown) := by
  rw [listFiles] at h
  split at h
  case isTrue => cases h
  case isFalse hshown =>
    obtain ⟨target, hresolve, h⟩ := Effect.result_bind_ok_iff.mp h
    split at h
    case h_1 | h_2 => cases h
    case h_3 hdirectory =>
      obtain ⟨sorted, hentries, h⟩ := Effect.result_bind_ok_iff.mp h
      obtain ⟨shown, hmap, hsort⟩ := Effect.result_bind_ok_iff.mp hentries
      obtain rfl := Except.ok.inj hsort
      obtain ⟨d, hwalk⟩ := Tree.isDirectory_eq_true_iff.mp hdirectory
      rw [Tree.listing_of_walk hwalk] at hmap
      refine ⟨fun name hname => ?_, d, shown, ⟨target, hresolve, hwalk⟩, ?_,
        (Except.ok.inj h).symm⟩
      · by_contra hhidden
        exact hshown (List.any_eq_true.mpr ⟨name, hname, by simpa using hhidden⟩)
      · exact (Effect.result_mapM_ok_iff.mp hmap).imp fun _ _ => shownAs_of_shownEntry

/-! ## Where hidden directories come from -/

/-- A name that stands in the target of a link. -/
def WrittenInLink (t : Tree) (name : Text) : Prop :=
  ∃ l link, t.get? l = some (.link link) ∧ name ∈ (Path.ofText link).names

theorem trim_listedPath (path : Option Text) : Text.trim (listedPath path) = listedPath path := by
  unfold listedPath Text.ifEmpty
  split
  · decide
  · exact Text.trim_trim _

/-- The names of hidden directories have one spelling. -/
theorem stored_of_isHidden {name : Text} (h : isHidden name.stored = true) : name.stored = name := by
  rw [isHidden, Bool.or_eq_true, decide_eq_true_eq, decide_eq_true_eq,
    Text.stored_eq_iff (by decide), Text.stored_eq_iff (by decide)] at h
  rcases h with rfl | rfl
  · exact Text.stored_of_isAscii (by decide)
  · exact Text.stored_of_isAscii (by decide)

/-- Below the project, a directory that a path without hidden names leads to is hidden only by names
in the targets of links. -/
theorem hidden_of_leadsTo {relative : Text} {n : Node} {names : List Text}
    (hbase : t.resolve ctx.root = .ok base) (htrim : Text.trim relative = relative)
    (hshown : ∀ name ∈ (Path.ofText relative).names, isHidden name = false)
    (hlead : Project.LeadsTo t ctx.root relative (base.stored ++ names) n) :
    ∀ name ∈ names, isHidden name = true → WrittenInLink t name := by
  obtain ⟨target, hresolve, hwalk⟩ := hlead
  obtain ⟨htarget, rest, rfl⟩ := Project.landing_of_resolveInProject hbase hresolve
  obtain ⟨hlanding, hplain⟩ := Tree.landing_of_walk hwalk
  have hplain : t.Plain base := by
    have habove : base.stored <+: (t.landing (base ++ rest)).stored := by
      rw [hlanding]
      exact List.prefix_append _ _
    obtain ⟨p, hp, hspelled⟩ := Location.exists_of_stored_prefix habove
    exact (hplain.above hp).respelled hspelled.symm
  have hlinks : t.LinkNames fun name => isHidden name = true → WrittenInLink t name :=
    fun l link hlink name hname _ => ⟨l, link, hlink, hname⟩
  rw [htrim] at htarget
  have hgoes := Tree.landing_goesOn hplain hlinks (p := Path.ofText relative)
    fun name hname hhidden => by simp [hshown name hname] at hhidden
  rw [← htarget] at hgoes
  -- the walk to the directory may follow more links, from the names that were resolved
  have hagain := Tree.landing_goesOn hplain hlinks (p := ⟨false, rest⟩) hgoes.below
  intro name hname hhidden
  obtain ⟨spelled, hwritten, rfl⟩ := hagain.below_stored hlanding name hname
  have hkept := stored_of_isHidden hhidden
  rw [hkept] at hhidden ⊢
  exact hwritten hhidden

/-- **The listed directory.** A listing that succeeds shows the entries of the directory its path
leads to, and every hidden name between the project and this directory stands in the target of a link
of the file system. -/
theorem listed_directory (h : listFiles ctx path t = .ok o) :
    ∃ base d shown, t.resolve ctx.root = .ok base ∧
      Project.LeadsTo t ctx.root (listedPath path) d .directory ∧
      List.Forall₂ ShownAs (t.children d) shown ∧
      o = listingOutcome (listedPath path) (Text.sort shown) ∧
      ∀ names, d = base.stored ++ names → ∀ name ∈ names, isHidden name = true →
        WrittenInLink t name := by
  obtain ⟨hshown, d, shown, hlead, hentries, ho⟩ := listFiles_ok h
  have ⟨_, hresolve, _⟩ := hlead
  obtain ⟨-, base, hbase, -⟩ := resolveInProject_ok_iff.mp hresolve
  refine ⟨base, d, shown, hbase, hlead, hentries, ho, ?_⟩
  rintro names rfl
  exact hidden_of_leadsTo hbase (trim_listedPath path) hshown hlead

/-- A project at `/p` with a directory for versions, a package, and a link to one of them. -/
def linkedProject (link : Text) : Tree :=
  ⟨[(["p"], .directory), (["p", ".git"], .directory), (["p", ".git", "HEAD"], .file []),
    (["p", "app"], .directory), (["p", "app", "a.py"], .file []), (["p", "x"], .link link)]⟩

/-- A run at `/p`. -/
def projectContext : ToolContext := ⟨["p"], .empty, false, none, "", "", ""⟩

/-- A package that is listed through a link: no name on the way to it is hidden unless a link names
it. -/
theorem package_is_listed_through_link :
    let t := linkedProject "app"
    listFiles projectContext (some "x") t = .ok (listingOutcome "x" ["a.py"]) ∧
      Project.LeadsTo t ["p"] "x" ["p", "app"] .directory ∧
      ∀ name ∈ [Text.ofString "app"], isHidden name = true → WrittenInLink t name := by
  intro t
  have hlist : listFiles projectContext (some "x") t = .ok (listingOutcome "x" ["a.py"]) := by
    calc listFiles projectContext (some "x") t
        = .ok (listingOutcome "x" (Text.sort ["a.py"])) := rfl
      _ = .ok (listingOutcome "x" ["a.py"]) := by rw [Text.sort, List.mergeSort_singleton]
  have hlead : Project.LeadsTo t ["p"] "x" ["p", "app"] .directory := ⟨["p", "app"], rfl, rfl⟩
  obtain ⟨base, d, shown, hbase, hd, -, -, hnames⟩ := listed_directory hlist
  have hproject : t.resolve ["p"] = .ok ["p"] := rfl
  obtain rfl := Except.ok.inj (hproject.symm.trans hbase)
  obtain ⟨rfl, -⟩ := hlead.unique hd
  exact ⟨hlist, hlead, hnames ["app"] rfl⟩

/-- Through a link that names a hidden directory, this is listed. -/
theorem hidden_directory_is_listed :
    listFiles projectContext (some "x") (linkedProject ".git")
        = .ok (listingOutcome "x" ["HEAD"]) ∧
      Project.LeadsTo (linkedProject ".git") ["p"] "x" (["p"] ++ [".git"]) .directory ∧
      isHidden ".git" = true := by
  refine ⟨?_, ⟨["p", ".git"], rfl, rfl⟩, by decide⟩
  calc listFiles projectContext (some "x") (linkedProject ".git")
      = .ok (listingOutcome "x" (Text.sort ["HEAD"])) := rfl
    _ = .ok (listingOutcome "x" ["HEAD"]) := by rw [Text.sort, List.mergeSort_singleton]

end Tablewright.Tool
