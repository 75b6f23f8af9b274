/-
Trees that differ in what hidden files hold.

`Tree.Alike hidden` relates two trees with the same entries but for the contents of files at hidden
locations. Walking and resolving go the same way in both (`Alike.walk`, `Alike.resolve`), and asking
what is there has the same answer, since only reading a file looks into it. So an operation on files
has the same result in both and leaves trees that are related again, unless it reads a hidden file
(`Alike.write`, `Alike.edit`).
-/
import Mathlib.Data.List.Forall2
import Tablewright.Proofs.Files.Store

set_option autoImplicit false

namespace Tablewright

/-! ## Two runs -/

namespace Effect

variable {σ α β : Type}

/-- Two runs have the same result and leave states that are related. -/
structure Matches (R : σ → σ → Prop) (p p' : Except Failure α × σ) : Prop where
  result : p.1 = p'.1
  state : R p.2 p'.2

variable {R : σ → σ → Prop} {s s' : σ}

theorem matches_pure (h : R s s') (x : α) :
    Matches R ((pure x : ExceptT Failure (StateM σ) α).run s)
      ((pure x : ExceptT Failure (StateM σ) α).run s') := ⟨rfl, h⟩

theorem matches_throw (h : R s s') (f : Failure) :
    Matches R ((throw f : ExceptT Failure (StateM σ) α).run s)
      ((throw f : ExceptT Failure (StateM σ) α).run s') := ⟨rfl, h⟩

/-- Sequences match when their parts do. -/
theorem Matches.bind {a : ExceptT Failure (StateM σ) α} {k : α → ExceptT Failure (StateM σ) β}
    (ha : Matches R (a.run s) (a.run s'))
    (hk : ∀ x s₁ s₁', a.run s = (.ok x, s₁) → R s₁ s₁' → Matches R ((k x).run s₁) ((k x).run s₁')) :
    Matches R ((a >>= k).run s) ((a >>= k).run s') := by
  rw [run_bind, run_bind]
  obtain ⟨hresult, hstate⟩ := ha
  rcases h : a.run s with ⟨q, s₁⟩
  rcases h' : a.run s' with ⟨q', s₁'⟩
  rw [h, h'] at hresult hstate
  dsimp only at hresult hstate
  obtain rfl := hresult
  cases q with
  | error f => exact ⟨rfl, hstate⟩
  | ok x => exact hk x s₁ s₁' h hstate

end Effect

/-! ## Trees -/

/-- Two nodes of one location, the second of which may be a file of other contents if the location
is hidden. -/
structure Node.Alike (hidden : Prop) (n n' : Node) : Prop where
  stays : n.Stays n'
  eq_of_shown : ¬ hidden → n = n'

/-- A file is no directory. -/
theorem Node.isDirectory_of_isFile {n : Node} (h : n.isFile = true) : n.isDirectory = false := by
  cases n with
  | file _ | ledger _ => rfl
  | directory | link _ => cases h

theorem Node.Alike.refl (hidden : Prop) (n : Node) : n.Alike hidden n := ⟨.refl n, fun _ => rfl⟩

/-- Two trees with the same entries but for the contents of files at hidden locations, by their stored
names. -/
def Tree.Alike (hidden : Location → Prop) (t t' : Tree) : Prop :=
  List.Forall₂ (fun e e' => e.1 = e'.1 ∧ e.2.Alike (hidden e.1) e'.2) t.entries t'.entries

/-- What a walk comes to in two trees that are alike. -/
inductive Place.Alike (hidden : Location → Prop) : Place → Place → Prop
  | existing {l : Location} {n n' : Node} (h : n.Alike (hidden l) n') :
      Alike hidden (.existing l n) (.existing l n')
  | vacant (l : Location) : Alike hidden (.vacant l) (.vacant l)

/-- Where a walk stops in two trees that are alike. -/
inductive Halt.Alike (hidden : Location → Prop) : Halt → Halt → Prop
  | ended {p p' : Place} (h : p.Alike hidden p') : Alike hidden (.ended p) (.ended p')
  | failed (cause : SystemCause) : Alike hidden (.failed cause) (.failed cause)
  | link (directory : Location) (target : Text) (rest : List Text) :
      Alike hidden (.link directory target rest) (.link directory target rest)

namespace Tree

variable {hidden : Location → Prop} {t t' : Tree}

theorem Alike.refl (hidden : Location → Prop) (t : Tree) : t.Alike hidden t :=
  List.forall₂_same.mpr fun e _ => ⟨rfl, .refl _ e.2⟩

/-- What stands at a location in two trees that are alike. -/
theorem Alike.get? (h : t.Alike hidden t') (l : Location) :
    Option.Rel (Node.Alike (hidden l.stored)) (t.get? l) (t'.get? l) := by
  by_cases hl : l = []
  · subst hl
    exact .some (.refl _ .directory)
  · rw [get?_of_ne_nil hl, get?_of_ne_nil hl]
    rw [Alike] at h
    generalize t.entries = es, t'.entries = es' at h ⊢
    induction h with
    | nil => exact .none
    | @cons e e' es es' he _ ih =>
      obtain ⟨place, n⟩ := e
      obtain ⟨place', n'⟩ := e'
      obtain ⟨rfl, hn⟩ := he
      rw [find, find]
      by_cases hplace : place = l.stored
      · subst hplace
        rw [if_pos rfl, if_pos rfl]
        exact .some hn
      · rw [if_neg hplace, if_neg hplace]
        exact ih

/-- A node is put into trees that are alike. -/
theorem Alike.put (h : t.Alike hidden t') (l : Location) (n : Node) :
    (t.put l n).Alike hidden (t'.put l n) := by
  change List.Forall₂ _ (write t.entries l.stored n.stored) (write t'.entries l.stored n.stored)
  rw [Alike] at h
  generalize t.entries = es, t'.entries = es' at h ⊢
  induction h with
  | nil => exact .cons ⟨rfl, .refl _ _⟩ .nil
  | @cons e e' es es' he hes ih =>
    obtain ⟨place, m⟩ := e
    obtain ⟨place', m'⟩ := e'
    obtain ⟨rfl, hm⟩ := he
    rw [write, write]
    by_cases hplace : place = l.stored
    · subst hplace
      rw [if_pos rfl, if_pos rfl]
      exact .cons ⟨rfl, .refl _ _⟩ hes
    · rw [if_neg hplace, if_neg hplace]
      exact .cons ⟨rfl, hm⟩ ih

/-- Directories hold the same names. -/
theorem Alike.children (h : t.Alike hidden t') (directory : Location) :
    t.children directory = t'.children directory := by
  rw [Tree.children, Tree.children]
  rw [Alike] at h
  generalize t.entries = es, t'.entries = es' at h ⊢
  induction h with
  | nil => rfl
  | @cons e e' es es' he _ ih => rw [List.filterMap_cons, List.filterMap_cons, he.1, ih]

/-- Nodes that are alike are links to one path or none at all. -/
theorem stepsOf_of_alike {p : Prop} {n n' : Node} (h : n.Alike p n') :
    stepsOf n = stepsOf n' := by
  cases h.stays with
  | directory | link => rfl
  | file hn hn' => rw [Node.stepsOf_of_isFile hn, Node.stepsOf_of_isFile hn']

/-- Of two trees that are alike one could have become the other. -/
theorem Alike.evolves (h : t.Alike hidden t') : t.Evolves t' where
  stays l n hn := by
    have hl := h.get? l
    rw [hn] at hl
    generalize t'.get? l = m at hl ⊢
    cases hl with
    | some hsame => exact ⟨_, rfl, hsame.stays⟩
  link_old l target hlink := by
    have hl := h.get? l
    rw [hlink] at hl
    generalize t.get? l = m at hl ⊢
    cases hl with
    | some hsame =>
      cases hsame.stays with
      | link => rfl
      | file _ hfile => cases hfile
  linkSteps_eq := by
    rw [linkSteps, linkSteps]
    rw [Alike] at h
    generalize t.entries = es, t'.entries = es' at h ⊢
    induction h with
    | nil => rfl
    | cons he _ ih => rw [List.foldr_cons, List.foldr_cons, ih, stepsOf_of_alike he.2]

/-! ## Walks -/

theorem Alike.advance (h : t.Alike hidden t') (followLast : Bool) (here : Location)
    (names : List Text) :
    Halt.Alike hidden (t.advance followLast here names) (t'.advance followLast here names) := by
  induction names generalizing here with
  | nil => exact .ended (.existing (.refl _ .directory))
  | cons name rest ih =>
    rw [Tree.advance, Tree.advance]
    split
    · exact ih here.dropLast
    split
    · exact .failed _
    dsimp only
    have hl := h.get? (here ++ [name])
    generalize t.get? (here ++ [name]) = m, t'.get? (here ++ [name]) = m' at hl
    cases hl with
    | none =>
      dsimp only
      split
      · exact .ended (.vacant _)
      · exact .failed _
    | @some n n' hn =>
      cases hn.stays with
      | directory => exact ih (here ++ [name])
      | link target =>
        dsimp only
        split
        · exact .ended (.existing hn)
        · exact .link _ _ _
      | file hfile hfile' =>
        cases n with
        | directory | link _ => cases hfile
        | file _ | ledger _ =>
          cases n' with
          | directory | link _ => cases hfile'
          | file _ | ledger _ =>
            dsimp only
            split
            · exact .ended (.existing hn)
            · exact .failed _

/-- Two walks that end at nodes that are alike, or for one cause. -/
inductive Arrive (hidden : Location → Prop) :
    Except SystemCause Place → Except SystemCause Place → Prop
  | at {p p' : Place} (h : p.Alike hidden p') : Arrive hidden (.ok p) (.ok p')
  | failed (cause : SystemCause) : Arrive hidden (.error cause) (.error cause)

/-- So do walks behind which a directory is asked for. -/
theorem Arrive.asked {r r' : Except SystemCause Place} (h : Arrive hidden r r') (asked : Bool) :
    Arrive hidden (if asked then r >>= Place.asDirectory else r)
      (if asked then r' >>= Place.asDirectory else r') := by
  cases asked with
  | false => exact h
  | true =>
    cases h with
    | failed cause => exact .failed cause
    | «at» hp =>
      cases hp with
      | vacant l => exact .failed .noEntry
      | @existing l n n' hn =>
        cases hn.stays with
        | directory => exact .at (.existing hn)
        | link target => exact .failed .notDirectory
        | file hfile hfile' =>
          cases n with
          | directory | link _ => cases hfile
          | file _ | ledger _ =>
            cases n' with
            | directory | link _ => cases hfile'
            | file _ | ledger _ => exact .failed .notDirectory

theorem Alike.walkFrom (h : t.Alike hidden t') (followLast : Bool) (links : Nat) (here : Location)
    (names : List Text) :
    Arrive hidden (t.walkFrom followLast links here names)
      (t'.walkFrom followLast links here names) := by
  induction links generalizing here names with
  | zero =>
    have hadvance := h.advance followLast here names
    rw [Tree.walkFrom, Tree.walkFrom]
    generalize t.advance followLast here names = p, t'.advance followLast here names = p'
      at hadvance
    cases hadvance with
    | ended hp => exact .at hp
    | failed cause => exact .failed cause
    | link => exact .failed .linkLoop
  | succ links ih =>
    have hadvance := h.advance followLast here names
    rw [Tree.walkFrom, Tree.walkFrom]
    generalize t.advance followLast here names = p, t'.advance followLast here names = p'
      at hadvance
    cases hadvance with
    | ended hp => exact .at hp
    | failed cause => exact .failed cause
    | link directory target rest => exact (ih _ _).asked _

/-- Walks go the same way. -/
theorem Alike.walk (h : t.Alike hidden t') (followLast : Bool) (l : Location) :
    Arrive hidden (t.walk followLast l) (t'.walk followLast l) := by
  rw [Tree.walk, Tree.walk]
  split
  · exact .failed .nameTooLong
  · exact h.walkFrom followLast maxLinks [] l

/-- What is asked about what a location leads to, apart from the contents of files, has the same
answer. -/
theorem Alike.status (h : t.Alike hidden t') (l : Location) {p : Option Node → Bool}
    (hp : ∀ n n' : Node, n.Stays n' → p (some n) = p (some n')) :
    (t.status l).map p = (t'.status l).map p := by
  have hwalk := h.walk true l
  rw [Tree.status, Tree.status]
  generalize t.walk true l = q, t'.walk true l = q' at hwalk
  cases hwalk with
  | failed cause => rfl
  | «at» hplace =>
    cases hplace with
    | existing hn => exact congrArg Except.ok (hp _ _ hn.stays)
    | vacant _ => rfl

theorem Alike.doesExist (h : t.Alike hidden t') (l : Location) : t.doesExist l = t'.doesExist l :=
  h.status l fun _ _ _ => rfl

theorem Alike.isDirectory (h : t.Alike hidden t') (l : Location) :
    t.isDirectory l = t'.isDirectory l := by
  refine h.status l fun n n' hn => ?_
  cases hn with
  | directory | link => rfl
  | file hn hn' => exact (Node.isDirectory_of_isFile hn).trans (Node.isDirectory_of_isFile hn').symm

theorem Alike.isFile (h : t.Alike hidden t') (l : Location) : t.isFile l = t'.isFile l := by
  refine h.status l fun n n' hn => ?_
  cases hn with
  | directory | link => rfl
  | file hn hn' => exact hn.trans hn'.symm

/-- Locations lead to directories that hold the same names. -/
theorem Alike.listing (h : t.Alike hidden t') (l : Location) : t.listing l = t'.listing l := by
  have hwalk := h.walk true l
  rw [Tree.listing, Tree.listing]
  generalize t.walk true l = q, t'.walk true l = q' at hwalk
  cases hwalk with
  | failed cause => rfl
  | «at» hplace =>
    cases hplace with
    | vacant _ => rfl
    | @existing place n n' hn =>
      cases hn.stays with
      | directory => exact h.children place
      | link => rfl
      | file hfile hfile' =>
        cases n with
        | directory | link _ => cases hfile
        | file _ | ledger _ =>
          cases n' with
          | directory | link _ => cases hfile'
          | file _ | ledger _ => rfl

/-- Locations are resolved alike. -/
theorem Alike.resolve (h : t.Alike hidden t') (l : Location) : t.resolve l = t'.resolve l := by
  rw [Tree.resolve, Tree.resolve, flaw?_evolves h.evolves, landing_evolves h.evolves]
  dsimp only
  have hwalk := h.walk true (t.landing l)
  generalize t.walk true (t.landing l) = q, t'.walk true (t.landing l) = q' at hwalk
  cases hwalk with
  | failed | «at» => rfl

/-- A file that is not hidden has the same content. -/
theorem Alike.content (h : t.Alike hidden t') {l : Location}
    (hshown : ∀ place n, t.walk true l = .ok (.existing place n) → n.isFile = true →
      ¬ hidden place) : FileAction.content t l = FileAction.content t' l := by
  have hwalk := h.walk true l
  rw [FileAction.content, FileAction.content]
  generalize t.walk true l = q, t'.walk true l = q' at hshown hwalk
  cases hwalk with
  | failed cause => rfl
  | «at» hplace =>
    cases hplace with
    | vacant _ => rfl
    | existing hn =>
      cases hn.stays with
      | directory | link => rfl
      | file hfile _ => rw [hn.eq_of_shown (hshown _ _ rfl hfile)]

/-- A user's path is resolved alike. -/
theorem Alike.resolveInProject (h : t.Alike hidden t') (root : Location) (path : Text) :
    Tablewright.resolveInProject t root path = Tablewright.resolveInProject t' root path := by
  simp only [Tablewright.resolveInProject, Tablewright.projectBase, h.resolve]

end Tree

/-! ## Operations on files -/

namespace FileAction

variable {α β : Type} {hidden : Location → Prop} {t t' : Tree}

/-- A look that has the same answer is followed by the same. -/
theorem matches_look_bind {g : Tree → Except Failure α} {k : α → FileAction β}
    (h : t.Alike hidden t') (hg : g t = g t')
    (hk : ∀ x, g t = .ok x →
      Effect.Matches (Tree.Alike hidden) ((k x).run t) ((k x).run t')) :
    Effect.Matches (Tree.Alike hidden) ((look g >>= k).run t) ((look g >>= k).run t') := by
  have hlook : ∀ s : Tree, (look g).run s = (g s, s) := fun _ => rfl
  rw [Effect.run_bind, Effect.run_bind, hlook, hlook, ← hg]
  rcases hx : g t with f | x
  · exact ⟨rfl, h⟩
  · exact hk x hx

theorem matches_ask_bind {g : Tree → Except SystemError α} {k : α → FileAction β}
    (h : t.Alike hidden t') (hg : g t = g t')
    (hk : ∀ x, Effect.Matches (Tree.Alike hidden) ((k x).run t) ((k x).run t')) :
    Effect.Matches (Tree.Alike hidden) ((ask g >>= k).run t) ((ask g >>= k).run t') :=
  matches_look_bind h (congrArg _ hg) fun x _ => hk x

/-- Creating a directory comes to the same. -/
theorem createDirectory_alike (h : t.Alike hidden t') (l : Location) :
    (∃ cause, createDirectory t l = .error cause ∧ createDirectory t' l = .error cause) ∨
      ∃ t₁ t₁', createDirectory t l = .ok t₁ ∧ createDirectory t' l = .ok t₁' ∧
        t₁.Alike hidden t₁' := by
  have hwalk := h.walk false l
  rw [createDirectory, createDirectory]
  generalize t.walk false l = q, t'.walk false l = q' at hwalk
  cases hwalk with
  | failed cause => exact .inl ⟨cause, rfl, rfl⟩
  | «at» hplace =>
    cases hplace with
    | existing _ => exact .inl ⟨.alreadyExists, rfl, rfl⟩
    | vacant place => exact .inr ⟨_, _, rfl, rfl, h.put place .directory⟩

theorem matches_acceptDirectory (h : t.Alike hidden t') (cause : SystemCause) (l : Location) :
    Effect.Matches (Tree.Alike hidden) ((acceptDirectory cause l).run t)
      ((acceptDirectory cause l).run t') := by
  refine matches_ask_bind h (h.isDirectory l) fun found => ?_
  cases found with
  | true => exact Effect.matches_pure h ()
  | false => exact Effect.matches_throw h _

theorem matches_ensureDirectory (h : t.Alike hidden t') (l : Location) :
    Effect.Matches (Tree.Alike hidden) ((ensureDirectory l).run t) ((ensureDirectory l).run t') := by
  rw [ensureDirectory, run_get_bind, run_get_bind]
  rcases createDirectory_alike h l with ⟨cause, hc, hc'⟩ | ⟨t₁, t₁', hc, hc', hmade⟩
  · rw [hc, hc']
    split
    case h_1 hok => cases hok
    case h_2 => exact Effect.matches_throw h _
    case h_3 => exact matches_acceptDirectory h _ l
  · rw [hc, hc']
    exact ⟨rfl, hmade⟩

theorem matches_ensureDirectories (h : t.Alike hidden t') (names : List Text) :
    Effect.Matches (Tree.Alike hidden) ((ensureDirectories names).run t)
      ((ensureDirectories names).run t') := by
  induction names with
  | nil => exact matches_acceptDirectory h .alreadyExists []
  | cons name above ih =>
    rw [ensureDirectories, run_get_bind, run_get_bind]
    rcases createDirectory_alike h (name :: above).reverse with
      ⟨cause, hc, hc'⟩ | ⟨t₁, t₁', hc, hc', hmade⟩
    · rw [hc, hc']
      split
      case h_1 hok => cases hok
      case h_2 => exact ih.bind fun _ _ _ _ hmade => matches_ensureDirectory hmade _
      case h_3 => exact matches_acceptDirectory h _ _
    · rw [hc, hc']
      exact ⟨rfl, hmade⟩

theorem matches_makeDirectory (h : t.Alike hidden t') (l : Location) :
    Effect.Matches (Tree.Alike hidden) ((makeDirectory l).run t) ((makeDirectory l).run t') :=
  matches_ensureDirectories h l.reverse

theorem matches_openForWriting (h : t.Alike hidden t') (l : Location) :
    Effect.Matches (Tree.Alike hidden) ((openForWriting l).run t) ((openForWriting l).run t') := by
  rw [openForWriting, run_get_bind, run_get_bind]
  have hwalk := h.walk true l
  generalize t.walk true l = q, t'.walk true l = q' at hwalk
  cases hwalk with
  | failed cause => exact Effect.matches_throw h _
  | «at» hplace =>
    cases hplace with
    | vacant place => exact ⟨rfl, h.put place (.file [])⟩
    | @existing place n n' hn =>
      -- what is opened is a file in both trees, or in neither
      cases hn.stays with
      | directory => exact Effect.matches_throw h _
      | link target => exact ⟨rfl, h.put place (.file [])⟩
      | file hfile hfile' =>
        cases n with
        | directory | link _ => cases hfile
        | file _ | ledger _ =>
          cases n' with
          | directory | link _ => cases hfile'
          | file _ | ledger _ => exact ⟨rfl, h.put place (.file [])⟩

theorem matches_writeText (h : t.Alike hidden t') (l : Location) (content : Text) :
    Effect.Matches (Tree.Alike hidden) ((writeText l content).run t)
      ((writeText l content).run t') := by
  refine (matches_openForWriting h l).bind fun place t₁ t₁' _ hopened => ?_
  split
  · exact ⟨rfl, hopened.put place _⟩
  · exact Effect.matches_throw hopened _

end FileAction

namespace Project

variable {hidden : Location → Prop} {t t' : Tree}

/-- **A write looks into no file.** It comes to the same in two trees that are alike. -/
theorem matches_write (h : t.Alike hidden t') (root : Location) (path content : Text) :
    Effect.Matches (Tree.Alike hidden) ((write root path content).run t)
      ((write root path content).run t') := by
  refine FileAction.matches_look_bind h (h.resolveInProject root path) fun target _ => ?_
  refine FileAction.matches_ask_bind h (h.doesExist target) fun existed => ?_
  refine (FileAction.matches_makeDirectory h target.dropLast).bind fun _ t₁ t₁' _ hmade => ?_
  refine (FileAction.matches_writeText hmade target content).bind fun _ t₂ t₂' _ hwritten => ?_
  have hbase : projectBase t₂ root = projectBase t₂' root := by
    rw [projectBase, projectBase, hwritten.resolve]
  exact FileAction.matches_look_bind hwritten hbase fun base _ => Effect.matches_pure hwritten _

/-- A file is read alike if it is not hidden. -/
theorem readText_alike (h : t.Alike hidden t') {l : Location}
    (hshown : ∀ place n, t.walk true l = .ok (.existing place n) → n.isFile = true →
      ¬ hidden place) (shown : Text) : readText t l shown = readText t' l shown := by
  rw [readText, readText, h.content hshown]

/-- **An edit looks into the file it edits.** It comes to the same in two trees that are alike if
there is nothing to replace or the file is not hidden. -/
theorem matches_edit (h : t.Alike hidden t') (root : Location) (path : Text) {old : Option Text}
    {new : Text}
    (hshown : Text.orEmpty old ≠ [] → Text.orEmpty old ≠ new →
      ∀ place n, LeadsTo t root path place n → n.isFile = true → ¬ hidden place) :
    Effect.Matches (Tree.Alike hidden) ((edit root path old new).run t)
      ((edit root path old new).run t') := by
  refine FileAction.matches_look_bind h (h.resolveInProject root path) fun target htarget => ?_
  dsimp only
  split
  case isTrue => exact matches_write h root path new
  case isFalse hold =>
    refine FileAction.matches_ask_bind h (h.doesExist target) fun existed => ?_
    split
    case isTrue => exact matches_write h root path new
    split
    case isTrue => exact Effect.matches_throw h _
    case isFalse hdiffer =>
      refine FileAction.matches_ask_bind h (h.isDirectory target) fun directory => ?_
      split
      case isTrue => exact Effect.matches_throw h _
      have hold : Text.orEmpty old ≠ [] := fun hnil => hold (List.isEmpty_iff.mpr hnil)
      have hread := readText_alike h (fun place n hwalk hn =>
        hshown hold hdiffer place n ⟨target, htarget, hwalk⟩ hn) path
      refine FileAction.matches_look_bind h hread fun contents _ => ?_
      split
      case h_1 => exact Effect.matches_throw h _
      case h_2 text _ =>
        refine (FileAction.matches_writeText h target text).bind fun _ t₁ t₁' _ hwritten => ?_
        have hbase : projectBase t₁ root = projectBase t₁' root := by
          rw [projectBase, projectBase, hwritten.resolve]
        exact FileAction.matches_look_bind hwritten hbase fun base _ =>
          Effect.matches_pure hwritten _

end Project

end Tablewright
