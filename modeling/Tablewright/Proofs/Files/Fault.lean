/-
How operations on files fail.

Reading, writing and editing fail by refusals and errors of the file system, which a run answers,
and by defects. There are two of these: a circle of links where a path is resolved, and a text with a
lone surrogate, which has no encoding, where a file is already open for it.

`failsBy_write` and `failsBy_edit` say that there is nothing else. `WriteFault` and `EditFault` say
when a defect is met, in terms of the paths and the texts, and `breaks_write_iff` and
`breaks_edit_iff` that it is met exactly then.
-/
import Tablewright.Files.Project
import Tablewright.Proofs.Action
import Tablewright.Proofs.Text.Utf8

set_option autoImplicit false

namespace Tablewright

open Effect (Breaks EndsIn FailsBy)

/-! ## Ways to fail -/

/-- Failures of operations on files: those that a run answers, and defects. -/
def Failure.IsFileFailure (f : Failure) : Prop := f.IsAnswered ∨ ∃ d, f = .defect d

/-- Errors of the file system. -/
def Failure.IsSystem (f : Failure) : Prop := ∃ e, f = .system e

theorem Failure.IsSystem.isAnswered {f : Failure} (h : f.IsSystem) : f.IsAnswered := by
  obtain ⟨e, rfl⟩ := h
  trivial

/-- An operation that only fails by the file system does not break. -/
theorem not_breaks_of_system {α : Type} {a : FileAction α} (h : FailsBy Failure.IsSystem a)
    (t : Tree) : ¬ Breaks a t :=
  (h.mono fun _ hf => hf.isAnswered).not_breaks t

/-- Refusals that are about a path. -/
def Refusal.ofPath : Refusal → Bool
  | noPath | badPath .. | outsideProject .. => true
  | _ => false

/-- Failures of writing a file: errors of the file system, defects and refusals of its path. -/
def Failure.IsWriteFailure (f : Failure) : Prop :=
  f.IsSystem ∨ (∃ d, f = .defect d) ∨ ∃ r, f = .refused r ∧ r.ofPath = true

theorem Failure.IsWriteFailure.isFileFailure {f : Failure} (h : f.IsWriteFailure) :
    f.IsFileFailure := by
  rcases h with hs | hd | ⟨r, rfl, -⟩
  · exact .inl hs.isAnswered
  · exact .inr hd
  · exact .inl trivial

namespace FileAction

theorem failsBy_get {P : Failure → Prop} : FailsBy P (get : FileAction Tree) := by
  intro t f t' h
  cases h

theorem failsBy_set {P : Failure → Prop} (t : Tree) : FailsBy P (set t : FileAction PUnit) := by
  intro t₀ f t' h
  cases h

theorem failsBy_modify {P : Failure → Prop} (g : Tree → Tree) :
    FailsBy P (modify g : FileAction PUnit) := by
  intro t f t' h
  cases h

/-- A look at the tree answers what the tree says, and leaves it as it is. -/
theorem look_iff {α : Type} {g : Tree → Except Failure α} {q : Except Failure α} {t t' : Tree} :
    (look g).run t = (q, t') ↔ g t = q ∧ t' = t := by
  constructor
  · intro h
    cases h
    exact ⟨rfl, rfl⟩
  · rintro ⟨rfl, rfl⟩
    rfl

theorem failsBy_look {α : Type} {P : Failure → Prop} {g : Tree → Except Failure α}
    (h : ∀ t f, g t = .error f → P f) : FailsBy P (look g) := by
  intro t f t' hf
  exact h t f (look_iff.mp hf).1

theorem failsBy_ask {α : Type} (g : Tree → Except SystemError α) :
    FailsBy Failure.IsSystem (ask g) := by
  refine failsBy_look fun t f h => ?_
  cases hg : g t with
  | error e =>
    rw [hg] at h
    cases h
    exact ⟨e, rfl⟩
  | ok x =>
    rw [hg] at h
    cases h

theorem failsBy_failAt {α : Type} (cause : SystemCause) (l : Location) :
    FailsBy Failure.IsSystem (failAt cause l : FileAction α) := Effect.failsBy_throw ⟨_, rfl⟩

theorem failsBy_acceptDirectory (cause : SystemCause) (l : Location) :
    FailsBy Failure.IsSystem (acceptDirectory cause l) := by
  refine (failsBy_ask _).bind fun found => ?_
  cases found with
  | true => exact Effect.failsBy_pure ()
  | false => exact failsBy_failAt cause l

theorem failsBy_ensureDirectory (l : Location) :
    FailsBy Failure.IsSystem (ensureDirectory l) := by
  refine failsBy_get.bind fun t => ?_
  split
  · exact failsBy_set _
  · exact failsBy_failAt .noEntry l
  · exact failsBy_acceptDirectory _ l

theorem failsBy_ensureDirectories (names : List Text) :
    FailsBy Failure.IsSystem (ensureDirectories names) := by
  induction names with
  | nil => exact failsBy_acceptDirectory .alreadyExists []
  | cons name above ih =>
    refine failsBy_get.bind fun t => ?_
    split
    · exact failsBy_set _
    · exact ih.bind fun _ => failsBy_ensureDirectory _
    · exact failsBy_acceptDirectory _ _

theorem failsBy_makeDirectory (l : Location) : FailsBy Failure.IsSystem (makeDirectory l) :=
  failsBy_ensureDirectories l.reverse

theorem failsBy_openForWriting (l : Location) :
    FailsBy Failure.IsSystem (openForWriting l) := by
  refine failsBy_get.bind fun t => ?_
  split
  · exact failsBy_failAt .isDirectory l
  · exact (failsBy_set _).bind fun _ => Effect.failsBy_pure _
  · exact (failsBy_set _).bind fun _ => Effect.failsBy_pure _
  · exact failsBy_failAt _ l

/-- Storing a text fails by an error of the file system, or because the text has no encoding. -/
theorem failsBy_writeText (l : Location) (content : Text) :
    FailsBy (fun f => f.IsSystem ∨ ∃ d, f = .defect d) (writeText l content) := by
  refine ((failsBy_openForWriting l).mono fun f hf => .inl hf).bind fun place => ?_
  split
  · exact failsBy_modify _
  · exact Effect.failsBy_throw (.inr ⟨_, rfl⟩)

end FileAction

/-- The directory of a project is where its location leads. -/
theorem projectBase_ok_iff {t : Tree} {root base : Location} :
    projectBase t root = .ok base ↔ t.resolve root = .ok base := by
  rw [projectBase]
  cases t.resolve root <;> simp

/-- The directory of a project is not found exactly when its location leads nowhere. -/
theorem projectBase_error_iff {t : Tree} {root : Location} {f : Failure} :
    projectBase t root = .error f ↔ f = .defect .linkLoop ∧ ∃ e, t.resolve root = .error e := by
  rw [projectBase]
  cases t.resolve root <;> simp [eq_comm]

/-- A path of a project is refused, or links lead in a circle. -/
theorem resolveInProject_failure {t : Tree} {root : Location} {path : Text} {f : Failure}
    (h : resolveInProject t root path = .error f) :
    (∃ r, f = .refused r ∧ r.ofPath = true) ∨ f = .defect .linkLoop := by
  rw [resolveInProject] at h
  split at h
  · cases h
    exact .inl ⟨_, rfl, rfl⟩
  · rcases Effect.result_bind_error_iff.mp h with hb | ⟨base, -, hrest⟩
    · exact .inr (projectBase_error_iff.mp hb).1
    · split at hrest
      · cases hrest
        exact .inl ⟨_, rfl, rfl⟩
      · cases hrest
        exact .inr rfl
      · split at hrest
        · cases hrest
        · cases hrest
          exact .inl ⟨_, rfl, rfl⟩

/-- What is wrong with a path of a project is answered, or links lead in a circle. -/
theorem resolveInProject_error {t : Tree} {root : Location} {path : Text} {f : Failure}
    (h : resolveInProject t root path = .error f) :
    f.IsAnswered ∨ f = .defect .linkLoop := by
  rcases resolveInProject_failure h with ⟨r, rfl, -⟩ | hloop
  · exact .inl trivial
  · exact .inr hloop

namespace Project

/-- Reading a file fails by an answered failure only. -/
theorem readText_error {t : Tree} {l : Location} {shown : Text} {f : Failure}
    (h : readText t l shown = .error f) : f.IsAnswered := by
  rw [readText] at h
  split at h
  · cases h
    trivial
  · cases h
    trivial
  · split at h
    · cases h
    · cases h
      trivial

/-- A path that is not resolved is a failure of writing. -/
theorem isWriteFailure_of_resolve {t : Tree} {root : Location} {path : Text} {f : Failure}
    (h : resolveInProject t root path = .error f) : f.IsWriteFailure := by
  rcases resolveInProject_failure h with hr | hloop
  · exact .inr (.inr hr)
  · exact .inr (.inl ⟨_, hloop⟩)

/-- How writing a file fails. -/
theorem failsBy_write (root : Location) (path content : Text) :
    FailsBy Failure.IsWriteFailure (write root path content) := by
  have hlift : ∀ f : Failure, f.IsSystem → f.IsWriteFailure := fun f hf => .inl hf
  refine (FileAction.failsBy_look fun t f h => isWriteFailure_of_resolve h).bind fun target => ?_
  refine ((FileAction.failsBy_ask _).mono hlift).bind fun existed => ?_
  refine ((FileAction.failsBy_makeDirectory _).mono hlift).bind fun _ => ?_
  refine ((FileAction.failsBy_writeText target content).mono
    fun f hf => hf.imp_right .inl).bind fun _ => ?_
  refine (FileAction.failsBy_look fun t f h =>
    .inr (.inl ⟨_, (projectBase_error_iff.mp h).1⟩)).bind fun base => ?_
  exact Effect.failsBy_pure _

/-- How editing a file fails. -/
theorem failsBy_edit (root : Location) (path : Text) (old : Option Text) (new : Text) :
    FailsBy Failure.IsFileFailure (edit root path old new) := by
  have hlift : ∀ f : Failure, f.IsSystem → f.IsFileFailure := fun f hf => .inl hf.isAnswered
  have hwrite : FailsBy Failure.IsFileFailure (write root path new) :=
    (failsBy_write root path new).mono fun _ hf => hf.isFileFailure
  refine (FileAction.failsBy_look fun t f h =>
    (isWriteFailure_of_resolve h).isFileFailure).bind fun target => ?_
  dsimp only
  split
  · exact hwrite
  refine ((FileAction.failsBy_ask _).mono hlift).bind fun existed => ?_
  split
  · exact hwrite
  split
  · exact Effect.failsBy_throw_bind (.inl trivial) _
  refine ((FileAction.failsBy_ask _).mono hlift).bind fun directory => ?_
  split
  · exact Effect.failsBy_throw_bind (.inl trivial) _
  refine (FileAction.failsBy_look fun t f h => .inl (readText_error h)).bind fun contents => ?_
  split
  · exact Effect.failsBy_throw (.inl trivial)
  refine ((FileAction.failsBy_writeText target _).mono
    fun f hf => hf.imp_left fun hs => hs.isAnswered).bind fun _ => ?_
  refine (FileAction.failsBy_look fun t f h =>
    .inr ⟨_, (projectBase_error_iff.mp h).1⟩).bind fun base => ?_
  exact Effect.failsBy_pure _

end Project

/-! ## Defects -/

/-- A path of a project leads into a circle of links: the project's own directory is not found, or
the path does not get anywhere from there. -/
def LeadsInCircle (t : Tree) (root : Location) (path : Text) : Prop :=
  ¬ Text.isBlank path = true ∧
    ((∃ e, t.resolve root = .error e) ∨
      ∃ base, t.resolve root = .ok base ∧
        t.resolve ((Path.ofText (Text.trim path)).startingAt base) = .error .linkLoop)

/-- Resolving a path ends in a defect exactly when the path leads into a circle. -/
theorem resolveInProject_defect_iff {t : Tree} {root : Location} {path : Text} :
    (∃ d, resolveInProject t root path = .error (.defect d)) ↔ LeadsInCircle t root path := by
  constructor
  · rintro ⟨d, h⟩
    rw [resolveInProject] at h
    split at h
    case isTrue => cases h
    case isFalse hblank =>
      refine ⟨hblank, ?_⟩
      rcases Effect.result_bind_error_iff.mp h with hb | ⟨base, hb, hrest⟩
      · exact .inl (projectBase_error_iff.mp hb).2
      · refine .inr ⟨base, projectBase_ok_iff.mp hb, ?_⟩
        -- of the errors of resolving, only a circle is not a refusal
        split at hrest
        case h_1 => cases hrest
        case h_2 hloop => exact hloop
        case h_3 => split at hrest <;> cases hrest
  · rintro ⟨hblank, hcircle⟩
    refine ⟨.linkLoop, ?_⟩
    rw [resolveInProject, if_neg hblank]
    refine Effect.result_bind_error_iff.mpr ?_
    rcases hcircle with hbase | ⟨base, hbase, hloop⟩
    · exact .inl (projectBase_error_iff.mpr ⟨rfl, hbase⟩)
    · refine .inr ⟨base, projectBase_ok_iff.mpr hbase, ?_⟩
      rw [hloop]
      rfl

namespace FileAction

variable {α β : Type}

/-- A look at the tree ends in the failure it sees. -/
theorem endsIn_look_iff {P : Failure → Prop} {g : Tree → Except Failure α} {t : Tree} :
    EndsIn P (look g) t ↔ ∃ f, g t = .error f ∧ P f := by
  constructor
  · rintro ⟨f, t', h, hf⟩
    exact ⟨f, (look_iff.mp h).1, hf⟩
  · rintro ⟨f, h, hf⟩
    exact ⟨f, t, look_iff.mpr ⟨h, rfl⟩, hf⟩

/-- What comes after a look goes on with what was seen, in the same tree. -/
theorem endsIn_look_bind_iff {P : Failure → Prop} {g : Tree → Except Failure α}
    {k : α → FileAction β} {t : Tree} :
    EndsIn P (look g >>= k) t ↔
      (∃ f, g t = .error f ∧ P f) ∨ ∃ x, g t = .ok x ∧ EndsIn P (k x) t := by
  rw [Effect.endsIn_bind_iff, endsIn_look_iff]
  refine or_congr_right ⟨?_, ?_⟩
  · rintro ⟨x, t', h, hk⟩
    obtain ⟨hx, rfl⟩ := look_iff.mp h
    exact ⟨x, hx, hk⟩
  · rintro ⟨x, hx, hk⟩
    exact ⟨x, t, look_iff.mpr ⟨hx, rfl⟩, hk⟩

/-- A look at the tree breaks exactly when what it sees is a defect. -/
theorem breaks_look_iff {g : Tree → Except Failure α} {t : Tree} :
    Breaks (look g) t ↔ ∃ d, g t = .error (.defect d) := by
  rw [Effect.breaks_iff, endsIn_look_iff]
  exact ⟨fun ⟨_, h, d, hd⟩ => ⟨d, hd ▸ h⟩, fun ⟨d, h⟩ => ⟨_, h, d, rfl⟩⟩

/-- What comes after a look breaks exactly when what is seen is a defect, or it breaks in the same
tree. -/
theorem breaks_look_bind_iff {g : Tree → Except Failure α} {k : α → FileAction β} {t : Tree} :
    Breaks (look g >>= k) t ↔
      (∃ d, g t = .error (.defect d)) ∨ ∃ x, g t = .ok x ∧ Breaks (k x) t := by
  rw [← breaks_look_iff]
  simp only [Effect.breaks_iff, endsIn_look_bind_iff, endsIn_look_iff]

/-- What comes after a question goes on with the answer, in the same tree. -/
theorem breaks_ask_bind_iff {g : Tree → Except SystemError α} {k : α → FileAction β} {t : Tree} :
    Breaks (ask g >>= k) t ↔ ∃ x, g t = .ok x ∧ Breaks (k x) t := by
  rw [ask, breaks_look_bind_iff]
  cases g t with
  | error e =>
    constructor
    · rintro (⟨d, hd⟩ | ⟨x, hx, -⟩)
      · cases hd
      · cases hx
    · rintro ⟨x, hx, -⟩
      cases hx
  | ok y =>
    constructor
    · rintro (⟨d, hd⟩ | ⟨x, hx, hk⟩)
      · cases hd
      · cases hx
        exact ⟨y, rfl, hk⟩
    · rintro ⟨x, hx, hk⟩
      cases hx
      exact .inr ⟨y, rfl, hk⟩

/-- Storing a text breaks exactly when a file is open for it and it holds a surrogate. -/
theorem breaks_writeText_iff {l : Location} {content : Text} {t : Tree} :
    Breaks (writeText l content) t ↔
      (∃ place t', (openForWriting l).run t = (.ok place, t')) ∧
        ∃ c ∈ content, c.isSurrogate = true := by
  rw [writeText, Effect.breaks_bind_iff_of_not (not_breaks_of_system (failsBy_openForWriting l) t),
    ← Text.utf8?_eq_none_iff]
  constructor
  · rintro ⟨place, t', hopen, d, t'', hd⟩
    refine ⟨⟨place, t', hopen⟩, ?_⟩
    -- the file is open by now, so what broke is the encoding
    cases hcode : content.utf8? with
    | none => rfl
    | some bytes =>
      rw [hcode] at hd
      cases hd
  · rintro ⟨⟨place, t', hopen⟩, hcode⟩
    refine ⟨place, t', hopen, .unencodable, t', ?_⟩
    rw [hcode]
    rfl

end FileAction

namespace Project

/-- What goes wrong with a text for a location of a project. -/
inductive StoreFault (root target : Location) (content : Text) (t : Tree) : Prop
  /-- A file is open, and the text holds a surrogate. -/
  | encoding {place : Location} {t' : Tree}
      (hopen : (FileAction.openForWriting target).run t = (.ok place, t'))
      (htext : ∃ c ∈ content, c.isSurrogate = true) : StoreFault root target content t
  /-- The text is stored, and then the project's own directory is not found. -/
  | base {t' : Tree} {e : Tree.ResolveError}
      (hstore : (FileAction.writeText target content).run t = (.ok (), t'))
      (hbase : t'.resolve root = .error e) : StoreFault root target content t

/-- What goes wrong with a whole file. -/
inductive WriteFault (root : Location) (path content : Text) (t : Tree) : Prop
  /-- The path leads into a circle of links. -/
  | links (h : LeadsInCircle t root path) : WriteFault root path content t
  /-- The path is resolved and the directories above it are there, but not so the text. -/
  | store {target : Location} {existed : Bool} {t' : Tree}
      (hresolve : resolveInProject t root path = .ok target)
      (hexists : t.doesExist target = .ok existed)
      (habove : (FileAction.makeDirectory target.dropLast).run t = (.ok (), t'))
      (h : StoreFault root target content t') : WriteFault root path content t

/-- What goes wrong with an edited file. -/
inductive EditFault (root : Location) (path : Text) (old : Option Text) (new : Text) (t : Tree) :
    Prop
  /-- The path leads into a circle of links. -/
  | links (h : LeadsInCircle t root path) : EditFault root path old new t
  /-- There is nothing to replace or no file, so the whole file is written. -/
  | whole {target : Location} (hresolve : resolveInProject t root path = .ok target)
      (hwhole : (Text.orEmpty old).isEmpty = true ∨ t.doesExist target = .ok false)
      (h : WriteFault root path new t) : EditFault root path old new t
  /-- A text is replaced in the file. -/
  | part {target : Location} {contents text : Text}
      (hresolve : resolveInProject t root path = .ok target)
      (hold : ¬ (Text.orEmpty old).isEmpty = true) (hexists : t.doesExist target = .ok true)
      (hnew : ¬ Text.orEmpty old = new) (hfile : t.isDirectory target = .ok false)
      (hread : readText t target path = .ok contents)
      (hreplace : replaceOnce path contents (Text.orEmpty old) new = .ok text)
      (h : StoreFault root target text t) : EditFault root path old new t

/-- Storing a text and showing where it is breaks exactly when one of the two goes wrong. -/
theorem breaks_store_iff {root target : Location} {content : Text} {t : Tree}
    (shown : Location → Written) :
    Breaks (do
      FileAction.writeText target content
      let base ← FileAction.look (projectBase · root)
      return shown base) t ↔ StoreFault root target content t := by
  rw [Effect.breaks_bind_iff, FileAction.breaks_writeText_iff]
  constructor
  · rintro (⟨⟨place, t', hopen⟩, htext⟩ | ⟨_, t', hstore, hbase⟩)
    · exact .encoding hopen htext
    · rw [Effect.breaks_bind_pure_iff, FileAction.breaks_look_iff] at hbase
      obtain ⟨d, hd⟩ := hbase
      obtain ⟨-, e, he⟩ := projectBase_error_iff.mp hd
      exact .base hstore he
  · intro h
    cases h with
    | encoding hopen htext => exact .inl ⟨⟨_, _, hopen⟩, htext⟩
    | base hstore hbase =>
      refine .inr ⟨(), _, hstore, ?_⟩
      rw [Effect.breaks_bind_pure_iff, FileAction.breaks_look_iff]
      exact ⟨_, projectBase_error_iff.mpr ⟨rfl, _, hbase⟩⟩

/-- Writing a file breaks exactly as `WriteFault` says. -/
theorem breaks_write_iff {root : Location} {path content : Text} {t : Tree} :
    Breaks (write root path content) t ↔ WriteFault root path content t := by
  rw [write, FileAction.breaks_look_bind_iff, resolveInProject_defect_iff]
  constructor
  · rintro (hcircle | ⟨target, hresolve, h⟩)
    · exact .links hcircle
    · obtain ⟨existed, hexists, h⟩ := FileAction.breaks_ask_bind_iff.mp h
      rw [Effect.breaks_bind_iff_of_not
        (not_breaks_of_system (FileAction.failsBy_makeDirectory _) t)] at h
      obtain ⟨_, t', habove, h⟩ := h
      exact .store hresolve hexists habove ((breaks_store_iff _).mp h)
  · intro h
    cases h with
    | links hcircle => exact .inl hcircle
    | store hresolve hexists habove h =>
      refine .inr ⟨_, hresolve, FileAction.breaks_ask_bind_iff.mpr ⟨_, hexists, ?_⟩⟩
      exact Effect.breaks_bind_iff.mpr (.inr ⟨(), _, habove, (breaks_store_iff _).mpr h⟩)

/-- Editing a file breaks exactly as `EditFault` says. -/
theorem breaks_edit_iff {root : Location} {path : Text} {old : Option Text} {new : Text}
    {t : Tree} : Breaks (edit root path old new) t ↔ EditFault root path old new t := by
  rw [edit, FileAction.breaks_look_bind_iff, resolveInProject_defect_iff]
  constructor
  · rintro (hcircle | ⟨target, hresolve, h⟩)
    · exact .links hcircle
    dsimp only at h
    by_cases hold : (Text.orEmpty old).isEmpty = true
    · rw [if_pos hold] at h
      exact .whole hresolve (.inl hold) (breaks_write_iff.mp h)
    rw [if_neg hold] at h
    obtain ⟨existed, hexists, h⟩ := FileAction.breaks_ask_bind_iff.mp h
    cases existed with
    | false => exact .whole hresolve (.inr hexists) (breaks_write_iff.mp h)
    | true =>
      rw [if_neg (by decide)] at h
      -- what is left are the refusals of an edit, and then the replaced text
      by_cases hnew : Text.orEmpty old = new
      · rw [if_pos hnew] at h
        exact absurd h ((Effect.failsBy_throw_bind trivial _).not_breaks t)
      rw [if_neg hnew] at h
      obtain ⟨directory, hfile, h⟩ := FileAction.breaks_ask_bind_iff.mp h
      cases directory with
      | true => exact absurd h ((Effect.failsBy_throw_bind trivial _).not_breaks t)
      | false =>
        rw [if_neg (by decide)] at h
        rcases FileAction.breaks_look_bind_iff.mp h with ⟨d, hd⟩ | ⟨contents, hread, h⟩
        · exact absurd (readText_error hd) id
        split at h
        case h_1 => exact absurd h ((Effect.failsBy_throw trivial).not_breaks t)
        case h_2 text hreplace =>
          exact .part hresolve hold hexists hnew hfile hread hreplace ((breaks_store_iff _).mp h)
  · intro h
    cases h with
    | links hcircle => exact .inl hcircle
    | whole hresolve hwhole h =>
      refine .inr ⟨_, hresolve, ?_⟩
      dsimp only
      split
      case isTrue => exact breaks_write_iff.mpr h
      case isFalse hold =>
        have hexists := hwhole.resolve_left hold
        exact FileAction.breaks_ask_bind_iff.mpr ⟨false, hexists, breaks_write_iff.mpr h⟩
    | part hresolve hold hexists hnew hfile hread hreplace h =>
      refine .inr ⟨_, hresolve, ?_⟩
      dsimp only
      rw [if_neg hold]
      refine FileAction.breaks_ask_bind_iff.mpr ⟨true, hexists, ?_⟩
      rw [if_neg (by decide), if_neg hnew]
      refine FileAction.breaks_ask_bind_iff.mpr ⟨false, hfile, ?_⟩
      rw [if_neg (by decide)]
      refine FileAction.breaks_look_bind_iff.mpr (.inr ⟨_, hread, ?_⟩)
      rw [hreplace]
      exact (breaks_store_iff _).mpr h

end Project

end Tablewright
