/-
What writing leaves alone.

`ChangesOnly` says of an earlier and a later tree that everything still stands but files that some
of the given paths lead to. It holds of every file operation with the path the operation is given,
also when it fails half-way or breaks off (`changesOnly_write`, `changesOnly_edit`), and it passes
from one operation to the next. What is read under a path is then kept as long as none of the given
paths leads to the same file (`textAt?_of_changesOnly`).
-/
import Tablewright.Proofs.Files.Store

set_option autoImplicit false

namespace Tablewright

namespace Project

variable {root : Location} {paths : List Text} {t t' : Tree}

/-- From a tree to a later one nothing was changed but files that some of the paths lead to, whichever
way their names are spelled. -/
structure ChangesOnly (root : Location) (paths : List Text) (t t' : Tree) : Prop where
  evolves : t.Evolves t'
  keeps : ∀ l n, t.get? l = some n →
    t'.get? l = some n ∨ ∃ p ∈ paths, ∃ m, m.isFile = true ∧ LeadsTo t' root p l.stored m

namespace ChangesOnly

theorem of_extends (h : t.Extends t') : ChangesOnly root paths t t' where
  evolves := h.evolves
  keeps l n hn := .inl (h.keeps l n hn)

theorem refl (t : Tree) : ChangesOnly root paths t t := of_extends (.refl t)

theorem trans {t'' : Tree} (h : ChangesOnly root paths t t') (h' : ChangesOnly root paths t' t'') :
    ChangesOnly root paths t t'' where
  evolves := h.evolves.trans h'.evolves
  keeps l n hn := by
    rcases h.keeps l n hn with hkept | ⟨p, hp, m, hm, hlead⟩
    · exact h'.keeps l n hkept
    · -- the path of a changed file still leads to it
      obtain ⟨m', hlater, hstays⟩ := hlead.evolves h'.evolves
      exact .inr ⟨p, hp, m', hstays.isFile hm, hlater⟩

theorem mono {paths' : List Text} (h : ChangesOnly root paths t t')
    (hsub : ∀ p ∈ paths, p ∈ paths') : ChangesOnly root paths' t t' where
  evolves := h.evolves
  keeps l n hn := (h.keeps l n hn).imp_right fun ⟨p, hp, hlead⟩ => ⟨p, hsub p hp, hlead⟩

/-- A file put where a path can be opened is a change under the path. The path may have been
resolved earlier. -/
theorem put {t₀ : Tree} (hearlier : t₀.Evolves t) {target place : Location} {path : Text}
    {bytes : Bytes} (hresolve : resolveInProject t₀ root path = .ok target)
    (hopen : t.Open target place) : ChangesOnly root [path] t (t.put place (.file bytes)) where
  evolves := (hopen.put rfl).1
  keeps l n hn := by
    obtain ⟨hevolves, hwalk⟩ := hopen.put (n := .file bytes) rfl
    by_cases hl : place.stored = l.stored
    · refine .inr ⟨path, List.mem_singleton_self path, .file bytes, rfl, ?_⟩
      rw [← hl, hopen.stored]
      exact ⟨target, resolveInProject_evolves (hearlier.trans hevolves) hresolve hwalk, hwalk⟩
    · exact .inl ((Tree.get?_put_of_ne hopen.ne_nil hl).trans hn)

end ChangesOnly

/-- What is read under a path is kept when no path of a change leads to the same file. -/
theorem textAt?_of_changesOnly (h : ChangesOnly root paths t t') {path text : Text}
    (hread : textAt? t root path = some text) (hother : ∀ p ∈ paths, ¬ SameFile t' root path p) :
    textAt? t' root path = some text := by
  obtain ⟨place, bytes, hlead, htext⟩ := textAt?_eq_some_iff.mp hread
  rcases h.keeps _ _ (hlead.get?_of_isFile rfl) with hkept | ⟨p, hp, m, hm, hwritten⟩
  · exact textAt?_eq_some_iff.mpr ⟨place, bytes, hlead.file_evolves h.evolves rfl hkept, htext⟩
  · rw [hlead.stored] at hwritten
    exact absurd ⟨place, m, hlead.file_evolves h.evolves rfl (hwritten.get?_of_isFile hm), hwritten⟩
      (hother p hp)

/-! ## Operations -/

variable {α β : Type}

/-- What a sequence changes its parts change. -/
theorem ChangesOnly.bind {a : FileAction α} {k : α → FileAction β}
    (ha : ChangesOnly root paths t (a.run t).2)
    (hk : ∀ x t₁, a.run t = (.ok x, t₁) → ChangesOnly root paths t₁ ((k x).run t₁).2) :
    ChangesOnly root paths t ((a >>= k).run t).2 :=
  Effect.leaves_bind (R := ChangesOnly root paths) .trans ha hk

/-- What comes after a look changes the tree that was looked at. -/
theorem ChangesOnly.look_bind {g : Tree → Except Failure α} {k : α → FileAction β}
    (hk : ∀ x, g t = .ok x → ChangesOnly root paths t ((k x).run t).2) :
    ChangesOnly root paths t ((FileAction.look g >>= k).run t).2 := by
  refine .bind (.refl t) fun x t₁ h => ?_
  obtain ⟨hx, rfl⟩ := FileAction.look_iff.mp h
  exact hk x hx

/-- Storing a text under a path changes nothing but the file of the path. -/
theorem changesOnly_writeText {t₀ : Tree} (hearlier : t₀.Evolves t) {target : Location}
    {path : Text} (hresolve : resolveInProject t₀ root path = .ok target) (content : Text) :
    ChangesOnly root [path] t ((FileAction.writeText target content).run t).2 := by
  rcases hopen : (FileAction.openForWriting target).run t with ⟨q, t₁⟩
  rw [FileAction.writeText, Effect.run_bind, hopen]
  rcases FileAction.openForWriting_cases hopen with ⟨f, rfl, rfl⟩ | ⟨place, rfl, rfl, hplace⟩
  · exact .refl t₁
  · -- the file is emptied first, and filled if the text has an encoding
    obtain ⟨hevolves, hwalk⟩ := hplace.put (n := .file []) rfl
    have hempty : ChangesOnly root [path] t (t.put place (.file [])) :=
      .put hearlier hresolve hplace
    dsimp only
    split
    case h_1 bytes hbytes =>
      have hopened : (t.put place (.file [])).Open target place := .file hwalk rfl
      exact hempty.trans (.put (hearlier.trans hevolves) hresolve hopened)
    case h_2 => exact hempty

/-- A write changes nothing but the file of its path, whatever comes of it. -/
theorem changesOnly_write (root : Location) (path content : Text) (t : Tree) :
    ChangesOnly root [path] t ((write root path content).run t).2 := by
  refine .look_bind fun target hresolve => .look_bind fun existed _ => ?_
  have hdirectories := FileAction.extending_makeDirectory target.dropLast t
  refine .bind (.of_extends hdirectories) fun _ t₁ hmake => ?_
  rw [hmake] at hdirectories
  refine .bind (changesOnly_writeText hdirectories.evolves hresolve content) fun _ t₂ _ => ?_
  exact .look_bind fun base _ => .refl t₂

/-- An edit changes nothing but the file of its path, whatever comes of it. -/
theorem changesOnly_edit (root : Location) (path : Text) (old : Option Text) (new : Text)
    (t : Tree) : ChangesOnly root [path] t ((edit root path old new).run t).2 := by
  refine .look_bind fun target hresolve => ?_
  dsimp only
  split
  · exact changesOnly_write root path new t
  refine .look_bind fun existed _ => ?_
  split
  · exact changesOnly_write root path new t
  split
  · exact .refl t
  refine .look_bind fun directory _ => ?_
  split
  · exact .refl t
  refine .look_bind fun contents _ => ?_
  split
  · exact .refl t
  refine .bind (changesOnly_writeText (Tree.Extends.refl t).evolves hresolve _) fun _ t₁ _ => ?_
  exact .look_bind fun base _ => .refl t₁

end Project

end Tablewright
