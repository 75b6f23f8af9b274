/-
The checks of an edit.

Where there is a text to replace and something to replace it in, an edit makes four checks before it
stores anything: the new text differs, the place is no directory, the file is text, and the text to
replace occurs exactly once. `EditCheck` says which of them turns an edit down. Such an edit leaves
the tree as it is, and apart from refusals of the path an edit is refused in no other way.
-/
import Tablewright.Proofs.Files.Store

set_option autoImplicit false

namespace Tablewright

namespace FileAction

variable {α β : Type}

/-- What comes after a question fails, or the file system refuses the question. -/
theorem ask_bind_error_iff {g : Tree → Except SystemError α} {k : α → FileAction β} {t t' : Tree}
    {f : Failure} :
    (ask g >>= k).run t = (.error f, t') ↔
      (∃ e, g t = .error e ∧ f = .system e ∧ t' = t) ∨
        ∃ x, g t = .ok x ∧ (k x).run t = (.error f, t') := by
  rw [ask, look_bind_error_iff]
  cases g t with
  | error e => simp [eq_comm]
  | ok x => simp

/-- A look at the tree is answered, or the operation ends with it. -/
theorem look_bind_cases {g : Tree → Except Failure α} {k : α → FileAction β} {t t' : Tree}
    {q : Except Failure β} (h : (look g >>= k).run t = (q, t')) :
    (∃ f, q = .error f ∧ t' = t) ∨ ∃ x, g t = .ok x ∧ (k x).run t = (q, t') := by
  cases q with
  | error f =>
    rcases look_bind_error_iff.mp h with ⟨-, rfl⟩ | hrest
    · exact .inl ⟨f, rfl, rfl⟩
    · exact .inr hrest
  | ok y => exact .inr (look_bind_ok_iff.mp h)

/-- A question is answered, or the operation ends with it. -/
theorem ask_bind_cases {g : Tree → Except SystemError α} {k : α → FileAction β} {t t' : Tree}
    {q : Except Failure β} (h : (ask g >>= k).run t = (q, t')) :
    (∃ f, q = .error f ∧ t' = t) ∨ ∃ x, g t = .ok x ∧ (k x).run t = (q, t') := by
  rcases look_bind_cases h with hends | ⟨x, hx, hrest⟩
  · exact .inl hends
  · cases hg : g t with
    | error e =>
      rw [hg] at hx
      cases hx
    | ok y =>
      rw [hg] at hx
      cases hx
      exact .inr ⟨x, rfl, hrest⟩

/-- A look that is answered leaves it to what comes after it. -/
theorem look_bind_run {g : Tree → Except Failure α} {t : Tree} {x : α} (h : g t = .ok x)
    (k : α → FileAction β) : (look g >>= k).run t = (k x).run t := by
  have hlook : (look g).run t = (.ok x, t) := look_iff.mpr ⟨h, rfl⟩
  rw [Effect.run_bind, hlook]

/-- A question that is answered leaves it to what comes after it. -/
theorem ask_bind_run {g : Tree → Except SystemError α} {t : Tree} {x : α} (h : g t = .ok x)
    (k : α → FileAction β) : (ask g >>= k).run t = (k x).run t :=
  look_bind_run (by rw [h]; rfl) k

/-- A failure that is thrown is the end. -/
theorem throw_bind_cases {f : Failure} {k : α → FileAction β} {t t' : Tree}
    {q : Except Failure β} (h : ((throw f : FileAction α) >>= k).run t = (q, t')) :
    q = .error f ∧ t' = t := by
  cases h
  exact ⟨rfl, rfl⟩

end FileAction

namespace Project

variable {t t' : Tree} {root : Location} {path new : Text} {old : Option Text}

/-- An edit comes to its checks: its path leads to something, and there is a text to replace. -/
structure EditsAt (t : Tree) (root : Location) (path : Text) (old : Option Text)
    (target : Location) : Prop where
  /-- The path is resolved inside the project. -/
  resolves : resolveInProject t root path = .ok target
  /-- There is a text to replace. -/
  given : (Text.orEmpty old).isEmpty = false
  /-- Something is at the place. -/
  found : t.doesExist target = .ok true

/-- The refusals by which an edit is turned down at one of its checks, each with the checks before
it passed. -/
inductive EditCheck (t : Tree) (root : Location) (path : Text) (old : Option Text) (new : Text) :
    Refusal → Prop
  /-- The new text is the old one. -/
  | same {target : Location} (hat : EditsAt t root path old target)
      (h : Text.orEmpty old = new) : EditCheck t root path old new .sameText
  /-- The place is a directory. -/
  | directory {target : Location} (hat : EditsAt t root path old target)
      (hnew : Text.orEmpty old ≠ new) (h : t.isDirectory target = .ok true) :
      EditCheck t root path old new (.editsDirectory path)
  /-- The file is no text. -/
  | undecodable {target : Location} {r : Refusal} (hat : EditsAt t root path old target)
      (hnew : Text.orEmpty old ≠ new) (hfile : t.isDirectory target = .ok false)
      (h : readText t target path = .error (.refused r)) : EditCheck t root path old new r
  /-- The text to replace does not occur, or it occurs several times. -/
  | occurrences {target : Location} {contents : Text} {r : Refusal}
      (hat : EditsAt t root path old target) (hnew : Text.orEmpty old ≠ new)
      (hfile : t.isDirectory target = .ok false) (hread : readText t target path = .ok contents)
      (h : replaceOnce path contents (Text.orEmpty old) new = .error r) :
      EditCheck t root path old new r

/-- An edit that is turned down at a check changes nothing. -/
theorem EditCheck.edit_run {r : Refusal} (h : EditCheck t root path old new r) :
    (edit root path old new).run t = (.error (.refused r), t) := by
  -- whichever check it is, the edit comes to the checks first
  obtain ⟨target, hat⟩ : ∃ target, EditsAt t root path old target := by
    cases h with
    | same hat | directory hat | undecodable hat | occurrences hat => exact ⟨_, hat⟩
  have hunique : ∀ {l : Location}, EditsAt t root path old l → l = target := fun hl =>
    Except.ok.inj (hl.resolves.symm.trans hat.resolves)
  rw [edit, FileAction.look_bind_run hat.resolves]
  dsimp only
  rw [if_neg (Bool.eq_false_iff.mp hat.given), FileAction.ask_bind_run hat.found,
    if_neg (by decide)]
  cases h with
  | same _ hsame =>
    rw [if_pos hsame]
    rfl
  | directory hl hnew hdirectory =>
    obtain rfl := hunique hl
    rw [if_neg hnew, FileAction.ask_bind_run hdirectory, if_pos rfl]
    rfl
  | undecodable hl hnew hfile hread =>
    obtain rfl := hunique hl
    rw [if_neg hnew, FileAction.ask_bind_run hfile, if_neg (by decide)]
    exact FileAction.look_bind_error_iff.mpr (.inl ⟨hread, rfl⟩)
  | occurrences hl hnew hfile hread hreplace =>
    obtain rfl := hunique hl
    rw [if_neg hnew, FileAction.ask_bind_run hfile, if_neg (by decide),
      FileAction.look_bind_run hread, hreplace]
    rfl

/-- A write is refused only for its path. -/
theorem ofPath_of_write {content : Text} {r : Refusal}
    (h : (write root path content).run t = (.error (.refused r), t')) : r.ofPath = true := by
  rcases failsBy_write root path content h with ⟨_, hf⟩ | ⟨_, hf⟩ | ⟨q, hf, hq⟩
  · cases hf
  · cases hf
  · cases hf
    exact hq

/-- An edit that is refused is turned down at a check, or its path is refused. -/
theorem editCheck_of_edit {r : Refusal}
    (h : (edit root path old new).run t = (.error (.refused r), t')) :
    EditCheck t root path old new r ∨ r.ofPath = true := by
  rw [edit] at h
  rcases FileAction.look_bind_error_iff.mp h with ⟨hr, -⟩ | ⟨target, hresolves, h⟩
  · rcases resolveInProject_failure hr with ⟨q, hf, hq⟩ | hf
    · cases hf
      exact .inr hq
    · cases hf
  dsimp only at h
  by_cases hgiven : (Text.orEmpty old).isEmpty = true
  · rw [if_pos hgiven] at h
    exact .inr (ofPath_of_write h)
  rw [if_neg hgiven] at h
  rcases FileAction.ask_bind_error_iff.mp h with ⟨_, -, hf, -⟩ | ⟨existed, hfound, h⟩
  · cases hf
  cases existed with
  | false => exact .inr (ofPath_of_write h)
  | true =>
    have hat : EditsAt t root path old target := ⟨hresolves, Bool.eq_false_iff.mpr hgiven, hfound⟩
    rw [if_neg (by decide)] at h
    left
    by_cases hnew : Text.orEmpty old = new
    · rw [if_pos hnew] at h
      obtain ⟨hf, -⟩ := FileAction.throw_bind_cases h
      cases hf
      exact .same hat hnew
    rw [if_neg hnew] at h
    rcases FileAction.ask_bind_error_iff.mp h with ⟨_, -, hf, -⟩ | ⟨directory, hfile, h⟩
    · cases hf
    cases directory with
    | true =>
      obtain ⟨hf, -⟩ := FileAction.throw_bind_cases h
      cases hf
      exact .directory hat hnew hfile
    | false =>
      rw [if_neg (by decide)] at h
      rcases FileAction.look_bind_error_iff.mp h with ⟨hread, -⟩ | ⟨contents, hread, h⟩
      · exact .undecodable hat hnew hfile hread
      split at h
      case h_1 q hreplace =>
        obtain ⟨hf, -⟩ := Effect.throw_error_iff.mp h
        cases hf
        exact .occurrences hat hnew hfile hread hreplace
      case h_2 text hreplace =>
        -- behind the checks nothing is refused any more
        rcases Effect.bind_error_iff.mp h with hstore | ⟨_, t₁, -, htell⟩
        · rcases FileAction.failsBy_writeText target text hstore with ⟨_, hf⟩ | ⟨_, hf⟩
          · cases hf
          · cases hf
        · rcases FileAction.look_bind_error_iff.mp htell with ⟨hbase, -⟩ | ⟨_, -, hlast⟩
          · cases (projectBase_error_iff.mp hbase).1
          · exact absurd hlast Effect.pure_ne_error

end Project

end Tablewright
