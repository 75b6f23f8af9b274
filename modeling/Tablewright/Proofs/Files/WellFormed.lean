/-
What holds of every tree of a file system.

An entry stands in a directory, under a name that is not too long, and the target of a link is one
that a link can have (`Tree.WellFormed`). Whatever the operations on files come to, they keep to this:
a walk that ends at nothing has come to a directory and asks for a short name there, so that is where
they put something (`WellFormed.hasParent_of_walk`), and where a file stood nothing stands behind it.
In such a tree a straight way finds what stands at its end (`Straight.walkFrom`).
-/
import Mathlib.Data.List.Induction
import Tablewright.Proofs.Files.Directory
import Tablewright.Proofs.Files.Straight

set_option autoImplicit false

namespace Tablewright

namespace Tree

variable {t : Tree} {here l place : Location} {names rest : List Text} {name : Text} {n : Node}
  {links : Nat}

/-- What holds of every tree of a file system: an entry stands in a directory under a name that is
not too long, and the target of a link is a text the system can be given. -/
structure WellFormed (t : Tree) : Prop where
  parent : ∀ l name n, t.get? (l ++ [name]) = some n → t.get? l = some .directory
  short : ∀ l name n, t.get? (l ++ [name]) = some n → ¬ maxNameBytes < name.nameBytes
  target : ∀ l target, t.get? l = some (.link target) → target.IsPassable

/-- The target of a link, and no text where there is none. -/
def linkTarget : Node → Text
  | .link target => target
  | _ => []

/-- Whether a tree is well-formed, entry by entry. -/
def isWellFormed (t : Tree) : Bool :=
  t.entries.all fun e =>
    (t.get? e.1.dropLast).any Node.isDirectory &&
      e.1.all (fun name => name.nameBytes ≤ maxNameBytes) &&
      decide (linkTarget e.2).IsPassable

theorem wellFormed_of_isWellFormed (h : t.isWellFormed = true) : t.WellFormed := by
  have hentry : ∀ l n, l ≠ [] → t.get? l = some n →
      (t.get? l.dropLast).any Node.isDirectory = true ∧
        (∀ name ∈ l, name.nameBytes ≤ maxNameBytes) ∧ (linkTarget n).IsPassable :=
      fun l n hne hn => by
    have hall := List.all_eq_true.mp h _ (mem_entries_of_get? hne hn)
    dsimp only at hall
    rw [← Location.stored_dropLast, get?_stored, Location.stored, List.all_map] at hall
    simpa [and_assoc] using hall
  refine ⟨fun l name n hn => ?_, fun l name n hn => ?_, fun l target hlink => ?_⟩
  · obtain ⟨hparent, -, -⟩ := hentry _ n (by simp) hn
    rw [List.dropLast_concat] at hparent
    cases hl : t.get? l with
    | none => simp [hl] at hparent
    | some m =>
      cases m with
      | directory => rfl
      | file _ | link _ | ledger _ => simp [hl, Node.isDirectory] at hparent
  · have hshort := (hentry _ n (by simp) hn).2.1 name (by simp)
    omega
  · have hne : l ≠ [] := by
      rintro rfl
      cases hlink
    exact (hentry l _ hne hlink).2.2

/-- A location is plain when it holds no double dot and no entry on the way is a link. -/
theorem plain_of_entries (hup : Path.up ∉ l)
    (h : ∀ e ∈ t.entries, stepsOf e.2 = 0 ∨ ¬ e.1 <+: l.stored) : t.Plain l where
  no_up := hup
  no_link p hp target hlink := by
    have hne : p ≠ [] := by
      rintro rfl
      cases hlink
    rcases h _ (mem_entries_of_get? hne hlink) with hsteps | hoff
    · simp [stepsOf] at hsteps
    · exact hoff (Location.stored_prefix hp)

namespace WellFormed

/-- Everything above an entry is a directory. -/
theorem above (h : t.WellFormed) (hn : t.get? (here ++ names) = some n) (hne : names ≠ []) :
    t.get? here = some .directory := by
  induction names using List.reverseRecOn generalizing n with
  | nil => exact absurd rfl hne
  | append_singleton names name ih =>
    rw [← List.append_assoc] at hn
    have hparent := h.parent _ _ _ hn
    by_cases hnames : names = []
    · simpa [hnames] using hparent
    · exact ih hparent hnames

/-- The directory above a directory. -/
theorem dropLast (h : t.WellFormed) (hhere : t.get? here = some .directory) :
    t.get? here.dropLast = some .directory := by
  rcases List.eq_nil_or_concat here with rfl | ⟨above, name, rfl⟩
  · exact hhere
  · rw [List.concat_eq_append] at hhere ⊢
    rw [List.dropLast_concat]
    exact h.parent _ _ _ hhere

/-! ## Where something is put -/

/-- A place in a directory, under a name that is not too long. -/
def HasParent (t : Tree) (place : Location) : Prop :=
  ∃ d name, place = d ++ [name] ∧ t.get? d = some .directory ∧ ¬ maxNameBytes < name.nameBytes

/-- What stands has a directory above it. -/
theorem hasParent (h : t.WellFormed) (hne : place ≠ []) (hn : t.get? place = some n) :
    HasParent t place := by
  rcases List.eq_nil_or_concat place with rfl | ⟨d, name, rfl⟩
  · exact absurd rfl hne
  · rw [List.concat_eq_append] at hn ⊢
    exact ⟨d, name, rfl, h.parent _ _ _ hn, h.short _ _ _ hn⟩

/-- A node that is no link stays in a well-formed tree if it is put in a directory, under a short
name, where no directory stood. -/
theorem put (h : t.WellFormed) (hplace : HasParent t place)
    (hold : t.get? place ≠ some .directory) (hn : ∀ target, n ≠ .link target) :
    (t.put place n).WellFormed := by
  obtain ⟨d, last, rfl, hd, hlast⟩ := hplace
  have hne : d ++ [last] ≠ [] := by simp
  have hkept : n.stored = n := Node.stored_of_ne_link hn
  have hkeeps : ∀ {k}, t.get? k = some .directory →
      (t.put (d ++ [last]) n).get? k = some .directory := fun {k} hk => by
    rw [get?_put_of_ne hne fun hsame => hold ((get?_congr hsame).trans hk), hk]
  -- what stands at another spelling of the place has the same directory and as long a name
  have hspelled : ∀ {l name}, Location.stored (d ++ [last]) = Location.stored (l ++ [name]) →
      d.stored = Location.stored l ∧ last.nameBytes = name.nameBytes := fun {l name} hsame => by
    rw [Location.stored_append, Location.stored_append] at hsame
    obtain ⟨habove, hname⟩ := List.append_singleton_inj.mp hsame
    rw [← last.nameBytes_stored, hname, name.nameBytes_stored]
    exact ⟨habove, rfl⟩
  refine ⟨fun l name m hm => ?_, fun l name m hm => ?_, fun l target hlink => ?_⟩
  · rw [get?_put hne] at hm
    split at hm
    case isTrue hsame => exact hkeeps ((get?_congr (hspelled hsame).1).symm.trans hd)
    case isFalse => exact hkeeps (h.parent l name m hm)
  · rw [get?_put hne] at hm
    split at hm
    case isTrue hsame => exact (hspelled hsame).2 ▸ hlast
    case isFalse => exact h.short l name m hm
  · rw [get?_put hne] at hlink
    split at hlink
    case isTrue => exact absurd (hkept ▸ Option.some.inj hlink) (hn target)
    case isFalse => exact h.target l target hlink

/-- Where an advance ends at nothing, that has a directory above it. -/
theorem hasParent_of_advance (h : t.WellFormed) {followLast : Bool}
    (hhere : t.get? here = some .directory)
    (ha : t.advance followLast here names = .ended (.vacant place)) : HasParent t place := by
  induction names generalizing here with
  | nil => cases ha
  | cons name rest ih =>
    rw [advance] at ha
    split at ha
    · exact ih (h.dropLast hhere) ha
    split at ha
    case isTrue => cases ha
    case isFalse hshort =>
      dsimp only at ha
      split at ha
      case h_1 =>
        split at ha
        case isTrue =>
          cases ha
          refine ⟨here.stored, name.stored, Location.stored_append here [name], ?_, ?_⟩
          · rw [get?_stored, hhere]
          · rwa [name.nameBytes_stored]
        case isFalse => cases ha
      case h_2 hdirectory => exact ih hdirectory ha
      case h_3 => split at ha <;> cases ha
      case h_4 => split at ha <;> cases ha

/-- What an advance from a directory ends at stands there. -/
theorem get?_of_advance (h : t.WellFormed) {followLast : Bool}
    (hhere : t.get? here = some .directory)
    (ha : t.advance followLast here names = .ended (.existing place n)) :
    t.get? place = some n := by
  induction names generalizing here with
  | nil =>
    cases ha
    rw [get?_stored, hhere]
  | cons name rest ih =>
    rw [advance] at ha
    split at ha
    · exact ih (h.dropLast hhere) ha
    split at ha
    case isTrue => cases ha
    case isFalse =>
      dsimp only at ha
      split at ha
      case h_1 => split at ha <;> cases ha
      case h_2 hdirectory => exact ih hdirectory ha
      case h_3 hlink | h_4 hnode =>
        split at ha
        · cases ha
          rwa [get?_stored]
        · cases ha

/-- An advance that comes to a link has come to a directory. -/
theorem directory_of_advance (h : t.WellFormed) {followLast : Bool} {directory : Location}
    {target : Text} (hhere : t.get? here = some .directory)
    (ha : t.advance followLast here names = .link directory target rest) :
    t.get? directory = some .directory := by
  induction names generalizing here with
  | nil => cases ha
  | cons name more ih =>
    rw [advance] at ha
    split at ha
    · exact ih (h.dropLast hhere) ha
    split at ha
    case isTrue => cases ha
    case isFalse =>
      dsimp only at ha
      split at ha
      case h_1 => split at ha <;> cases ha
      case h_2 hdirectory => exact ih hdirectory ha
      case h_3 =>
        split at ha
        case isTrue => cases ha
        case isFalse =>
          cases ha
          exact hhere
      case h_4 => split at ha <;> cases ha

/-- What a walk from a directory ends at stands there. -/
theorem get?_of_walks (h : t.WellFormed) {followLast : Bool}
    (hwalks : Walks t followLast (.existing place n) links here names)
    (hhere : t.get? here = some .directory) : t.get? place = some n := by
  induction hwalks with
  | ended hadvance => exact h.get?_of_advance hhere hadvance
  | link hadvance _ _ ih =>
    refine ih ?_
    split
    · rfl
    · exact h.directory_of_advance hhere hadvance

/-- Where a walk ends at nothing, that has a directory above it. -/
theorem hasParent_of_walks (h : t.WellFormed) {followLast : Bool}
    (hwalks : Walks t followLast (.vacant place) links here names)
    (hhere : t.get? here = some .directory) : HasParent t place := by
  induction hwalks with
  | ended hadvance => exact h.hasParent_of_advance hhere hadvance
  | link hadvance _ _ ih =>
    refine ih ?_
    split
    · rfl
    · exact h.directory_of_advance hhere hadvance

theorem hasParent_of_walk (h : t.WellFormed) {followLast : Bool}
    (hwalk : t.walk followLast l = .ok (.vacant place)) : HasParent t place :=
  h.hasParent_of_walks (walk_ok_iff.mp hwalk).2 rfl

/-- A file put where one can be opened stays in a well-formed tree. -/
theorem put_file (h : t.WellFormed) (hopen : t.Open l place) (bytes : Bytes) :
    (t.put place (.file bytes)).WellFormed := by
  refine h.put ?_ (fun hold => ?_) (fun target hlink => by cases hlink)
  · cases hopen with
    | file hwalk hn =>
      rcases get?_of_walk hwalk with rfl | hplace
      · cases hn
      · exact h.hasParent (Open.file hwalk hn).ne_nil hplace
    | vacant hwalk => exact h.hasParent_of_walk hwalk
  · have hfile := hopen.isFile hold
    cases hfile

end WellFormed

/-! ## Straight ways find what stands -/

/-- An advance goes through a directory. -/
theorem advance_directory {followLast : Bool} (hname : name ≠ Path.up)
    (hshort : ¬ maxNameBytes < name.nameBytes)
    (hdirectory : t.get? (here ++ [name]) = some .directory) :
    t.advance followLast here (name :: rest) = t.advance followLast (here ++ [name]) rest := by
  rw [advance, if_neg hname, if_neg hshort]
  dsimp only
  rw [hdirectory]

/-- An advance that follows links comes to the next one. -/
theorem advance_at_link {target : Text} (hname : name ≠ Path.up)
    (hshort : ¬ maxNameBytes < name.nameBytes)
    (hlink : t.get? (here ++ [name]) = some (.link target)) :
    t.advance true here (name :: rest) = .link here target rest := by
  rw [advance, if_neg hname, if_neg hshort]
  dsimp only
  rw [hlink]
  simp

/-- An advance ends at a node that is no link. -/
theorem advance_at_node {followLast : Bool} (hname : name ≠ Path.up)
    (hshort : ¬ maxNameBytes < name.nameBytes) (hn : t.get? (here ++ [name]) = some n)
    (hlink : ∀ target, n ≠ .link target) :
    t.advance followLast here [name] =
      .ended (.existing (Location.stored (here ++ [name])) n) := by
  rw [advance, if_neg hname, if_neg hshort]
  dsimp only
  rw [hn]
  cases n with
  | directory => rfl
  | link target => exact absurd rfl (hlink target)
  | file _ | ledger _ => rfl

/-- In a well-formed tree an advance along a plain location comes to what stands there. -/
theorem WellFormed.advance_plain (h : t.WellFormed) {followLast : Bool}
    (hplain : t.Plain (here ++ names)) (hhere : t.get? here = some .directory)
    (hn : t.get? (here ++ names) = some n) :
    t.advance followLast here names =
      .ended (.existing (Location.stored (here ++ names)) n) := by
  induction names generalizing here with
  | nil =>
    rw [List.append_nil, hhere] at hn
    rw [List.append_nil, advance, Option.some.inj hn]
  | cons name rest ih =>
    obtain ⟨hname, hlink, hrest⟩ := hplain.next
    have hsame : here ++ name :: rest = here ++ [name] ++ rest := by simp
    rw [hsame] at hn ⊢
    by_cases hlast : rest = []
    · subst hlast
      rw [List.append_nil] at hn ⊢
      refine advance_at_node hname (h.short _ _ _ hn) hn fun target htarget => ?_
      exact hlink target (htarget ▸ hn)
    · -- more names are to go, so a directory stands here
      have hdirectory := h.above hn hlast
      rw [advance_directory hname (h.short _ _ _ hdirectory) hdirectory]
      exact ih hrest hdirectory hn

/-- **A straight way finds what stands.** In a well-formed tree a walk along a straight way ends at
what stands at its end, if that is a directory where one is asked for. -/
theorem Straight.walkFrom (h : t.WellFormed) (hn : t.get? l = some n)
    (hway : t.Straight l (t.get? l = some .directory) links here names)
    (hhere : t.get? here = some .directory) :
    t.walkFrom true links here names = .ok (.existing l.stored n) := by
  induction hway with
  | plain hl hplain =>
    subst hl
    rw [Tree.walkFrom, h.advance_plain hplain hhere hn]
  | up _ ih =>
    rw [← ih (h.dropLast hhere), Tree.walkFrom, Tree.walkFrom, advance, if_pos rfl]
  | directory hname hdirectory _ ih =>
    rw [← ih hdirectory, Tree.walkFrom, Tree.walkFrom,
      advance_directory hname (h.short _ _ _ hdirectory) hdirectory]
  | link hname hlink hasked _ ih =>
    rw [Tree.walkFrom, advance_at_link hname (h.short _ _ _ hlink) hlink]
    refine Place.asked_ok_iff.mpr ⟨ih ?_, fun hslash => ?_⟩
    · split
      · rfl
      · exact hhere
    · rw [hasked hslash] at hn
      cases hn
      exact ⟨l.stored, rfl⟩

end Tree

/-! ## Operations keep a tree well-formed -/

namespace FileAction

variable {α β : Type}

/-- Whatever comes of the operation, a well-formed tree stays one. -/
def KeepsForm (a : FileAction α) : Prop := ∀ t : Tree, t.WellFormed → (a.run t).2.WellFormed

theorem keepsForm_look (g : Tree → Except Failure α) : KeepsForm (look g) := fun _ h => h

theorem keepsForm_failAt (cause : SystemCause) (l : Location) :
    KeepsForm (failAt cause l : FileAction α) := fun _ h => h

theorem keepsForm_pure (x : α) : KeepsForm (pure x : FileAction α) := fun _ h => h

theorem KeepsForm.bind {a : FileAction α} {k : α → FileAction β} (ha : KeepsForm a)
    (hk : ∀ x, KeepsForm (k x)) : KeepsForm (a >>= k) := by
  intro t h
  rw [Effect.run_bind]
  rcases hrun : a.run t with ⟨f | x, t₁⟩
  · have hfirst := ha t h
    rwa [hrun] at hfirst
  · have hfirst := ha t h
    rw [hrun] at hfirst
    exact hk x t₁ hfirst

theorem keepsForm_get_bind {k : Tree → FileAction α}
    (hk : ∀ t : Tree, t.WellFormed → ((k t).run t).2.WellFormed) : KeepsForm (get >>= k) := by
  intro t h
  rw [run_get_bind]
  exact hk t h

theorem wellFormed_createDirectory {t t' : Tree} {l : Location} (h : t.WellFormed)
    (hcreate : createDirectory t l = .ok t') : t'.WellFormed := by
  unfold createDirectory at hcreate
  split at hcreate
  case h_1 | h_3 => cases hcreate
  case h_2 place hwalk =>
    obtain rfl := Except.ok.inj hcreate
    refine h.put (h.hasParent_of_walk hwalk) ?_ fun target hlink => by cases hlink
    simp [(Tree.vacant_of_walk hwalk).2]

theorem keepsForm_acceptDirectory (cause : SystemCause) (l : Location) :
    KeepsForm (acceptDirectory cause l) := by
  refine (keepsForm_look _).bind fun found => ?_
  cases found with
  | true => exact keepsForm_pure ()
  | false => exact keepsForm_failAt cause l

theorem keepsForm_ensureDirectory (l : Location) : KeepsForm (ensureDirectory l) := by
  refine keepsForm_get_bind fun t h => ?_
  split
  case h_1 hcreate => exact wellFormed_createDirectory h hcreate
  case h_2 => exact h
  case h_3 => exact keepsForm_acceptDirectory _ l t h

theorem keepsForm_ensureDirectories (names : List Text) : KeepsForm (ensureDirectories names) := by
  induction names with
  | nil => exact keepsForm_acceptDirectory .alreadyExists []
  | cons name above ih =>
    refine keepsForm_get_bind fun t h => ?_
    split
    case h_1 hcreate => exact wellFormed_createDirectory h hcreate
    case h_2 => exact (ih.bind fun _ => keepsForm_ensureDirectory _) t h
    case h_3 => exact keepsForm_acceptDirectory _ _ t h

theorem keepsForm_makeDirectory (l : Location) : KeepsForm (makeDirectory l) :=
  keepsForm_ensureDirectories l.reverse

theorem keepsForm_writeText (l : Location) (content : Text) : KeepsForm (writeText l content) := by
  intro t h
  rcases hopen : (openForWriting l).run t with ⟨q, t₁⟩
  rw [writeText, Effect.run_bind, hopen]
  rcases openForWriting_cases hopen with ⟨f, rfl, rfl⟩ | ⟨place, rfl, rfl, hplace⟩
  · exact h
  · -- the file is emptied first, and filled if the text has an encoding
    have hempty := h.put_file hplace []
    dsimp only
    split
    case h_1 bytes _ => exact hempty.put_file (.file (hplace.put (n := .file []) rfl).2 rfl) bytes
    case h_2 => exact hempty

end FileAction

/-- **A write keeps a tree well-formed**, whatever comes of it. -/
theorem Project.keepsForm_write (root : Location) (path content : Text) :
    FileAction.KeepsForm (write root path content) := by
  refine (FileAction.keepsForm_look _).bind fun target => ?_
  refine (FileAction.keepsForm_look _).bind fun existed => ?_
  refine (FileAction.keepsForm_makeDirectory _).bind fun _ => ?_
  refine (FileAction.keepsForm_writeText _ _).bind fun _ => ?_
  exact (FileAction.keepsForm_look _).bind fun base => FileAction.keepsForm_pure _

end Tablewright
