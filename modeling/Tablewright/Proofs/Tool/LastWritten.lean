/-
What is read after files were written.

Reading a file shows the text that stands under its path, with the line ends made line feeds
(`readFile_ok_iff`). A write changes nothing but the file of its path, and so does a whole row of
writes with the files of all its paths. So what is read under a path after such a row is what the
last write to the file of this path stored there: the row is cut behind that write, which stores the
text, and nothing behind it touches the file again.
-/
import Tablewright.Proofs.Files.Frame
import Tablewright.Proofs.Files.Replacement
import Tablewright.Proofs.Files.Stored
import Tablewright.Proofs.Tool.Preview

set_option autoImplicit false

namespace Tablewright

namespace Project

variable {root : Location} {t t' : Tree} {path path' path'' text : Text} {as bs : List Artifact}

/-! ## Paths of one file -/

theorem SameFile.symm (h : SameFile t root path path') : SameFile t root path' path := by
  obtain ⟨place, n, hlead, hlead'⟩ := h
  exact ⟨place, n, hlead', hlead⟩

theorem SameFile.trans (h : SameFile t root path path') (h' : SameFile t root path' path'') :
    SameFile t root path path'' := by
  obtain ⟨place, n, hlead, hmid⟩ := h
  obtain ⟨place', n', hmid', hlead'⟩ := h'
  obtain ⟨rfl, rfl⟩ := hmid.unique hmid'
  exact ⟨place', n', hlead, hlead'⟩

/-- Under all paths of one file the same text stands. -/
theorem SameFile.textAt? (h : SameFile t root path path')
    (htext : textAt? t root path' = some text) : textAt? t root path = some text := by
  obtain ⟨place, n, hlead, hlead'⟩ := h
  obtain ⟨place', bytes, hfile, hbytes⟩ := textAt?_eq_some_iff.mp htext
  obtain ⟨rfl, rfl⟩ := hlead'.unique hfile
  exact textAt?_eq_some_iff.mpr ⟨place', bytes, hlead, hbytes⟩

/-! ## Rows of writes -/

/-- A row of artifacts is written by writing its parts one after another. -/
theorem writeAll_append_iff {ws : List Written} :
    (writeAll root (as ++ bs)).run t = (.ok ws, t') ↔
      ∃ us vs t₁, (writeAll root as).run t = (.ok us, t₁) ∧
        (writeAll root bs).run t₁ = (.ok vs, t') ∧ ws = us ++ vs := by
  constructor
  · intro h
    induction as generalizing t ws with
    | nil => exact ⟨[], ws, t, rfl, h, rfl⟩
    | cons a as ih =>
      rw [List.cons_append, writeAll] at h
      obtain ⟨w, t₁, hw, h⟩ := Effect.bind_ok_iff.mp h
      obtain ⟨ws', t₂, hws, h⟩ := Effect.bind_ok_iff.mp h
      obtain ⟨rfl, rfl⟩ := Effect.pure_ok_iff.mp h
      obtain ⟨us, vs, t₃, hus, hvs, rfl⟩ := ih hws
      exact ⟨w :: us, vs, t₃, writeAll_append (writeAll_singleton hw) hus, hvs, rfl⟩
  · rintro ⟨us, vs, t₁, hus, hvs, rfl⟩
    exact writeAll_append hus hvs

/-- A row of writes changes nothing but the files of its paths, whatever comes of it. -/
theorem changesOnly_writeAll (root : Location) (as : List Artifact) (t : Tree) :
    ChangesOnly root (as.map Artifact.path) t ((writeAll root as).run t).2 := by
  induction as generalizing t with
  | nil => exact .refl t
  | cons a as ih =>
    rw [writeAll, List.map_cons]
    refine .bind ((changesOnly_write root a.path a.content t).mono (by simp)) fun w t₁ _ => ?_
    refine .bind ((ih t₁).mono fun p hp => List.mem_cons_of_mem a.path hp) fun ws t₂ _ => ?_
    exact .refl t₂

/-- **The last write counts.** After a row of writes the text of the last one to the file of a path
stands under this path. -/
theorem textAt?_of_writeAll {a : Artifact} {ws : List Written}
    (h : (writeAll root (as ++ a :: bs)).run t = (.ok ws, t'))
    (hsame : SameFile t' root path a.path) (hlast : ∀ b ∈ bs, ¬ SameFile t' root path b.path) :
    textAt? t' root path = some a.content := by
  obtain ⟨us, vs, t₁, -, hrest, -⟩ := writeAll_append_iff.mp h
  obtain ⟨r, t₂, hwrite, hmore⟩ := Effect.bind_ok_iff.mp hrest
  obtain ⟨ws', t₃, hbehind, hdone⟩ := Effect.bind_ok_iff.mp hmore
  obtain ⟨-, rfl⟩ := Effect.pure_ok_iff.mp hdone
  have hstored : textAt? t₂ root a.path = some a.content := by
    obtain ⟨place, bytes, hbytes, -, hlead, -⟩ := write_ok hwrite
    exact textAt?_eq_some_iff.mpr ⟨place, bytes, hlead, Bytes.text?_of_utf8? hbytes⟩
  have hframe := changesOnly_writeAll root bs t₂
  rw [hbehind] at hframe
  refine hsame.textAt? (textAt?_of_changesOnly hframe hstored fun p hp hagain => ?_)
  obtain ⟨b, hb, rfl⟩ := List.mem_map.mp hp
  exact hlast b hb (hsame.trans hagain)

end Project

namespace Tool

variable {ctx : ToolContext} {t t' : Tree} {path content : Text}

/-! ## Reading back -/

/-- The outcome of a file that was read. -/
def readOutcome (path content : Text) : Outcome :=
  Outcome.success ("Read '" ++ path ++ "'") [("path", .str path), ("content", .str content)]

/-- A file is read when a text stands under its path, and its line ends are made line feeds. -/
theorem readFile_ok_iff {o : Outcome} :
    readFile ctx path t = .ok o ↔
      ∃ text, Project.textAt? t ctx.root path = some text ∧
        o = readOutcome path text.foldNewlines := by
  unfold readFile
  constructor
  · intro h
    obtain ⟨target, hresolve, h⟩ := Effect.result_bind_ok_iff.mp h
    split at h
    case h_1 | h_2 => cases h
    case h_3 =>
      obtain ⟨content, hread, h⟩ := Effect.result_bind_ok_iff.mp h
      obtain ⟨place, bytes, text, hwalk, hbytes, rfl⟩ := Project.readText_ok_iff.mp hread
      refine ⟨text, ?_, (Except.ok.inj h).symm⟩
      exact Project.textAt?_eq_some_iff.mpr ⟨place, bytes, ⟨target, hresolve, hwalk⟩, hbytes⟩
  · rintro ⟨text, htext, rfl⟩
    obtain ⟨place, bytes, ⟨target, hresolve, hwalk⟩, hbytes⟩ :=
      Project.textAt?_eq_some_iff.mp htext
    have hfile : t.isFile target = .ok true := by
      rw [Tree.isFile, Tree.status, hwalk]
      rfl
    have hread : Project.readText t target path = .ok text.foldNewlines :=
      Project.readText_ok_iff.mpr ⟨place, bytes, text, hwalk, hbytes, rfl⟩
    refine Effect.result_bind_ok_iff.mpr ⟨target, hresolve, ?_⟩
    rw [hfile]
    exact Effect.result_bind_ok_iff.mpr ⟨_, hread, rfl⟩

/-- **Writing is a store.** A write that succeeds stores its text and adds the directories above,
and reading the path shows the text with the line ends made line feeds. After a row of writes that
succeed, reading a path shows the text that was last written to the file it leads to, and what it
showed before if none was. -/
theorem reads_last_write (ctx : ToolContext) :
    (∀ t t' path content r, (Project.write ctx.root path content).run t = (.ok r, t') →
      (∃ target place bytes, Project.Stored ctx.root path content t t' r target place bytes) ∧
        readFile ctx path t' = .ok (readOutcome path content.foldNewlines)) ∧
    ∀ t t' as ws, (Project.writeAll ctx.root as).run t = (.ok ws, t') → ∀ path,
      (∀ before a after, as = before ++ a :: after → Project.SameFile t' ctx.root path a.path →
        (∀ b ∈ after, ¬ Project.SameFile t' ctx.root path b.path) →
        readFile ctx path t' = .ok (readOutcome path a.content.foldNewlines)) ∧
      ((∀ a ∈ as, ¬ Project.SameFile t' ctx.root path a.path) →
        ∀ o, readFile ctx path t = .ok o → readFile ctx path t' = .ok o) := by
  refine ⟨fun t t' path content r h => ⟨Project.write_stored h, ?_⟩,
    fun t t' as ws h path => ⟨?_, fun hother o hread => ?_⟩⟩
  · obtain ⟨target, place, bytes, hstored⟩ := Project.write_stored h
    have htext : Project.textAt? t' ctx.root path = some content :=
      Project.textAt?_eq_some_iff.mpr
        ⟨place, bytes, hstored.leadsTo, Bytes.text?_of_utf8? hstored.encodes⟩
    exact readFile_ok_iff.mpr ⟨content, htext, rfl⟩
  · rintro before a after rfl hsame hlast
    exact readFile_ok_iff.mpr ⟨a.content, Project.textAt?_of_writeAll h hsame hlast, rfl⟩
  · obtain ⟨text, htext, rfl⟩ := readFile_ok_iff.mp hread
    have hframe := Project.changesOnly_writeAll ctx.root as t
    rw [h] at hframe
    refine readFile_ok_iff.mpr ⟨text, ?_, rfl⟩
    refine Project.textAt?_of_changesOnly hframe htext fun p hp => ?_
    obtain ⟨a, ha, rfl⟩ := List.mem_map.mp hp
    exact hother a ha

/-- A project with a link to a file, and what else stands in it. -/
def linkedTree (more : List (Location × Node)) : Tree :=
  ⟨(["p"], .directory) :: (["p", "in"], .link "sub/a.txt") :: more⟩

/-- The project with the file the link stands for. -/
def linkedFile (content : Bytes) : Tree :=
  linkedTree [(["p", "sub"], .directory), (["p", "sub", "a.txt"], .file content)]

/-- A file that is written under its name first and through a link then is read, under its name, as
it was written through the link. -/
theorem reads_last_write_through_link :
    let ctx : ToolContext := ⟨["p"], .empty, false, none, "", "", ""⟩
    (Project.write ["p"] "sub/a.txt" "x").run (linkedTree [])
        = (.ok ⟨"sub/a.txt", .created⟩, linkedFile [120]) ∧
      readFile ctx "sub/a.txt" (linkedFile [120]) = .ok (readOutcome "sub/a.txt" "x") ∧
      (Project.writeAll ["p"] [⟨.schema, "", "sub/a.txt", "x"⟩, ⟨.schema, "", "in", "y\r\n"⟩]).run
          (linkedTree [])
        = (.ok [⟨"sub/a.txt", .created⟩, ⟨"sub/a.txt", .overwritten⟩], linkedFile [121, 13, 10]) ∧
      readFile ctx "sub/a.txt" (linkedFile [121, 13, 10]) = .ok (readOutcome "sub/a.txt" "y\n") := by
  intro ctx
  obtain ⟨hone, hrow⟩ := reads_last_write ctx
  have hfirst : (Project.write ["p"] "sub/a.txt" "x").run (linkedTree [])
      = (.ok ⟨"sub/a.txt", .created⟩, linkedFile [120]) := rfl
  have hsecond : (Project.write ["p"] "in" "y\r\n").run (linkedFile [120])
      = (.ok ⟨"sub/a.txt", .overwritten⟩, linkedFile [121, 13, 10]) := rfl
  have hboth := Project.writeAll_append
    (Project.writeAll_singleton (a := ⟨.schema, "", "sub/a.txt", "x"⟩) hfirst)
    (Project.writeAll_singleton (a := ⟨.schema, "", "in", "y\r\n"⟩) hsecond)
  have hsame : Project.SameFile (linkedFile [121, 13, 10]) ["p"] "sub/a.txt" "in" :=
    ⟨["p", "sub", "a.txt"], _, ⟨["p", "sub", "a.txt"], rfl, rfl⟩,
      ⟨["p", "sub", "a.txt"], rfl, rfl⟩⟩
  refine ⟨hfirst, (hone _ _ _ _ _ hfirst).2, hboth, ?_⟩
  exact (hrow _ _ _ _ hboth "sub/a.txt").1 [_] _ [] rfl hsame nofun

end Tool

end Tablewright
