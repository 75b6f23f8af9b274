/-
What a failed call leaves of the files.

Writing and editing fail before a file is opened, or while it is filled. The first leaves every file
as it was (`failed_call_cases`). The second happens for one reason only, a new text without an
encoding, and then the file is empty already. `failed_call_keeps_file_iff` says of each file, by any
spelling of its location, whether a failed call keeps it: it does unless it is the file the call came
to fill (`Empties`), and such a file is empty afterwards.
-/
import Tablewright.Proofs.Files.Replacement

set_option autoImplicit false

namespace Tablewright

namespace FileAction

variable {t t' : Tree} {l : Location} {content : Text} {f : Failure}

/-- A text is not stored because no file is opened for it, or because it has no encoding; then the
file is empty. -/
theorem writeText_failure (h : (writeText l content).run t = (.error f, t')) :
    t' = t ∨ ¬ content.HasEncoding ∧ ∃ place, t.Open l place ∧ t' = t.put place (.file []) := by
  rcases Effect.bind_error_iff.mp h with hopen | ⟨place, t₁, hopen, hfill⟩
  · rcases openForWriting_cases hopen with ⟨_, -, rfl⟩ | ⟨_, hq, -⟩
    · exact .inl rfl
    · cases hq
  · rcases openForWriting_cases hopen with ⟨_, hq, -⟩ | ⟨_, hq, rfl, hplace⟩
    · cases hq
    cases hq
    split at hfill
    case h_1 => cases hfill
    case h_2 hcode =>
      cases hfill
      refine .inr ⟨fun hsome => ?_, place, hplace, rfl⟩
      rw [Text.HasEncoding, hcode] at hsome
      cases hsome

end FileAction

namespace Project

variable {t t' t₁ : Tree} {root target place l : Location} {path new content text : Text}
  {old : Option Text} {f : Failure} {n : Node}

/-! ## Calls that store a text -/

/-- A call that stores a text in a project. -/
inductive StoreCall where
  /-- Write a whole file. -/
  | write (path content : Text)
  /-- Edit a file. -/
  | edit (path : Text) (old : Option Text) (new : Text)

namespace StoreCall

/-- What a call does. -/
def action (root : Location) : StoreCall → FileAction Written
  | write path content => Project.write root path content
  | edit path old new => Project.edit root path old new

/-- The text a call brings. -/
def brings : StoreCall → Text
  | write _ content => content
  | edit _ _ new => new

end StoreCall

/-- A call comes to open a file: the location it opens, and the tree at that moment, in which the
directories above are there. -/
inductive Opening (t : Tree) (root : Location) : StoreCall → Location → Tree → Prop
  /-- A whole file is written. -/
  | write {path content : Text} {target : Location} {existed : Bool} {t₁ : Tree}
      (resolves : resolveInProject t root path = .ok target)
      (asks : t.doesExist target = .ok existed)
      (directories : (FileAction.makeDirectory target.dropLast).run t = (.ok (), t₁)) :
      Opening t root (.write path content) target t₁
  /-- An edit writes the whole file, since there is nothing to replace or no file. -/
  | whole {path new : Text} {old : Option Text} {target : Location} {t₁ : Tree}
      (hwhole : (Text.orEmpty old).isEmpty = true ∨ t.doesExist target = .ok false)
      (h : Opening t root (.write path new) target t₁) : Opening t root (.edit path old new) target t₁
  /-- An edit replaces a text. -/
  | replaces {path new contents text : Text} {old : Option Text} {target : Location}
      (h : Replaces t root path old new target contents text) :
      Opening t root (.edit path old new) target t

/-- The location that is opened for a whole file is the one its path is resolved to. -/
theorem Opening.resolves (h : Opening t root (.write path content) target t₁) :
    resolveInProject t root path = .ok target := by
  cases h with
  | write resolves => exact resolves

/-- A call empties a file: it comes to open it, under whichever spelling, and what it brings has no
encoding. -/
def Empties (t : Tree) (root : Location) (c : StoreCall) (l : Location) (n : Node) : Prop :=
  ¬ c.brings.HasEncoding ∧
    ∃ target t₁, Opening t root c target t₁ ∧ t₁.walk true target = .ok (.existing l.stored n)

/-! ## Failed calls -/

/-- A call that comes to open a file that stands, with a text that has no encoding, fails by it and
leaves the file empty. -/
theorem Opening.unencodable {c : StoreCall} (h : Opening t root c target t₁)
    (hcode : ¬ c.brings.HasEncoding) (hwalk : t₁.walk true target = .ok (.existing place n))
    (hn : n.isFile = true) :
    (c.action root).run t = (.error (.defect .unencodable), t₁.put place (.file [])) := by
  induction h with
  | write resolves asks directories =>
    rw [StoreCall.action, Project.write, FileAction.look_bind_run resolves,
      FileAction.ask_bind_run asks, Effect.run_bind, directories]
    exact store_unencodable hwalk hn hcode _
  | whole hwhole h ih => exact (edit_run_whole h.resolves hwhole).trans (ih hcode hwalk)
  | replaces h =>
    exact h.edit_run.trans (store_unencodable hwalk hn (mt h.hasEncoding_iff.mp hcode) .edited)

/-- A call that failed came to open a file, which is empty now. -/
def LeftEmpty (t : Tree) (root : Location) (c : StoreCall) (t' : Tree) : Prop :=
  ¬ c.brings.HasEncoding ∧ ∃ target t₁ place, Opening t root c target t₁ ∧ t.Extends t₁ ∧
    t₁.Open target place ∧ t' = t₁.put place (.file [])

/-- A write that failed left every file, or it came to open one and left it empty. -/
theorem write_failure (h : (write root path content).run t = (.error f, t')) :
    t.Extends t' ∨ LeftEmpty t root (.write path content) t' := by
  rcases FileAction.look_bind_error_iff.mp h with ⟨-, rfl⟩ | ⟨target, hresolve, h⟩
  · exact .inl (.refl _)
  rcases FileAction.ask_bind_error_iff.mp h with ⟨_, -, -, rfl⟩ | ⟨existed, hexists, h⟩
  · exact .inl (.refl _)
  have hdirectories := FileAction.extending_makeDirectory target.dropLast t
  rcases Effect.bind_error_iff.mp h with habove | ⟨_, t₁, habove, hstore⟩
  · rw [habove] at hdirectories
    exact .inl hdirectories
  rw [habove] at hdirectories
  rcases FileAction.writeText_failure (store_error hdirectories.evolves hresolve hstore) with
    rfl | ⟨hcode, place, hopen, rfl⟩
  · exact .inl hdirectories
  · exact .inr ⟨hcode, target, t₁, place, .write hresolve hexists habove, hdirectories, hopen, rfl⟩

/-- A call that failed left every file, or it came to open one and left it empty. -/
theorem failed_call_cases {c : StoreCall} (h : (c.action root).run t = (.error f, t')) :
    t.Extends t' ∨ LeftEmpty t root c t' := by
  cases c with
  | write path content => exact write_failure h
  | edit path old new =>
    cases edit_course h with
    | stopped => exact .inl (.refl _)
    | whole hresolve hwhole hwrite =>
      rcases write_failure hwrite with hextends | ⟨hcode, target, t₁, place, hopening, hrest⟩
      · exact .inl hextends
      · obtain rfl := Except.ok.inj (hresolve.symm.trans hopening.resolves)
        exact .inr ⟨hcode, _, t₁, place, .whole hwhole hopening, hrest⟩
    | replaces hreplaces hstore =>
      rcases FileAction.writeText_failure (store_error (Tree.Extends.refl t).evolves
          hreplaces.comes.resolves hstore) with rfl | ⟨hcode, place, hopen, rfl⟩
      · exact .inl (.refl _)
      · exact .inr ⟨mt hreplaces.hasEncoding_iff.mpr hcode, _, t, place, .replaces hreplaces,
          .refl t, hopen, rfl⟩

/-- A file that a failed call empties is empty afterwards. -/
theorem Empties.get? {c : StoreCall} (h : Empties t root c l n) (hn : n.isFile = true)
    (hfails : (c.action root).run t = (.error f, t')) : t'.get? l = some (.file []) := by
  obtain ⟨hcode, target, t₁, hopening, hwalk⟩ := h
  have hrun := hopening.unencodable hcode hwalk hn
  rw [hfails] at hrun
  obtain ⟨-, rfl⟩ := Prod.mk.inj hrun
  rw [← Tree.get?_stored, Tree.get?_put_self (Tree.Open.file hwalk hn).ne_nil rfl]

/-- What stood before such a call is as it was, or it is the file that the call emptied. -/
theorem LeftEmpty.cases {c : StoreCall} (h : LeftEmpty t root c t') (hl : t.get? l = some n) :
    t'.get? l = some n ∨ t'.get? l = some (.file []) ∧ Empties t root c l n := by
  obtain ⟨hcode, target, t₁, place, hopening, hextends, hopen, rfl⟩ := h
  have hl₁ := hextends.keeps l n hl
  by_cases hplace : place.stored = l.stored
  · have hempty : (t₁.put place (.file [])).get? l = some (.file []) := by
      rw [← Tree.get?_congr hplace, Tree.get?_put_self hopen.ne_nil rfl]
    refine .inr ⟨hempty, hcode, target, t₁, hopening, ?_⟩
    rw [← Tree.get?_congr hplace] at hl₁
    rw [← hplace, hopen.stored]
    cases hopen with
    | @file m hwalk hm =>
      rcases Tree.get?_of_walk hwalk with rfl | hstands
      · cases hm
      · rw [hl₁] at hstands
        cases hstands
        exact hwalk
    | vacant hwalk =>
      rw [(Tree.vacant_of_walk hwalk).2] at hl₁
      cases hl₁
  · exact .inl ((Tree.get?_put_of_ne hopen.ne_nil hplace).trans hl₁)

/-- **Failed calls and files.** A file is as it was after a call that failed, or it is empty; and it
is as it was unless it held something and the call came to open it with a text that has no
encoding. -/
theorem failed_call_keeps_file_iff {c : StoreCall} (h : (c.action root).run t = (.error f, t'))
    (hl : t.get? l = some n) (hn : n.isFile = true) :
    (t'.get? l = some n ∨ t'.get? l = some (.file [])) ∧
      (t'.get? l = some n ↔ ¬ (n ≠ .file [] ∧ Empties t root c l n)) := by
  have hcases : t'.get? l = some n ∨ t'.get? l = some (.file []) ∧ Empties t root c l n := by
    rcases failed_call_cases h with hextends | hempty
    · exact .inl (hextends.keeps l n hl)
    · exact hempty.cases hl
  refine ⟨hcases.imp_right And.left, fun hkept ⟨hheld, hempties⟩ => ?_, fun hnot => ?_⟩
  · rw [hempties.get? hn h] at hkept
    exact hheld (Option.some.inj hkept).symm
  · rcases hcases with hkept | ⟨hempty, hempties⟩
    · exact hkept
    · -- it was empty before
      have hheld : n = .file [] := Classical.byContradiction fun hne => hnot ⟨hne, hempties⟩
      rw [hempty, hheld]

/-- An edit that does not find its text keeps the file. -/
theorem failed_edit_keeps_file :
    ∃ t', (StoreCall.action ["p"] (.edit "a.txt" (some "z") "y")).run (noteTree [0x61]) =
        (.error (.refused (.noMatch "a.txt")), t') ∧
      (noteTree [0x61]).get? ["p", "a.txt"] = some (.file [0x61]) ∧
      t'.get? ["p", "a.txt"] = some (.file [0x61]) := by
  have hrun : (StoreCall.action ["p"] (.edit "a.txt" (some "z") "y")).run (noteTree [0x61]) =
      (.error (.refused (.noMatch "a.txt")), noteTree [0x61]) := rfl
  have hl : (noteTree [0x61]).get? ["p", "a.txt"] = some (.file [0x61]) := rfl
  obtain ⟨-, hkeeps⟩ := failed_call_keeps_file_iff hrun hl rfl
  exact ⟨_, hrun, hl, hkeeps.mpr fun ⟨_, hempties⟩ => hempties.1 (Text.hasEncoding_ofString "y")⟩

/-- A write of a lone surrogate fails, and what stood in the file is lost. -/
theorem failed_write_loses_file :
    (StoreCall.action ["p"] (.write "a.txt" [CodePoint.ofNat 0xD800])).run (noteTree [0x61]) =
        (.error (.defect .unencodable), noteTree []) ∧
      (noteTree [0x61]).get? ["p", "a.txt"] = some (.file [0x61]) ∧
      (noteTree []).get? ["p", "a.txt"] = some (.file []) :=
  ⟨rfl, rfl, rfl⟩

end Project

end Tablewright
