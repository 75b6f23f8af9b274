/-
Writing a file is a store.

A path leads to a file by being resolved inside the project and then walked along, so two paths may
lead to the same file. `write_ok` says what a file that was written leaves behind: its path leads to
the content, and every other file is as it was. `write_error` says that a write that failed, and
whose failure a run answers, left no trace but directories. What can be read under a path is
`textAt?`, and the two facts become: after a write every path that leads to the written file reads
the content, and every other path reads what it read.
-/
import Tablewright.Proofs.Files.Fault
import Tablewright.Proofs.Files.Walk
import Tablewright.Proofs.Text.Utf8

set_option autoImplicit false

namespace Tablewright

/-! ## Resolving in a tree that changes -/

/-- The system can be given the text of a location exactly when it can be given its names. -/
theorem Location.isPassable_text_iff {l : Location} :
    l.text.IsPassable ↔ ∀ name ∈ l, name.IsPassable := by
  have hslash : Text.IsPassable "/" := by decide
  rw [← Text.isPassable_join_iff hslash, text, Text.IsPassable, List.forall_mem_append]
  exact and_iff_right hslash

namespace Tree

variable {t t' : Tree}

/-- Resolving looks at links only, and these do not change. -/
theorem resolveFrom_evolves (h : t.Evolves t') (fuel : Nat) (active : List Location)
    (restarts : Nat → Bool) (here : Location) (names : List Text) :
    t'.resolveFrom fuel active restarts here names
      = t.resolveFrom fuel active restarts here names := by
  induction fuel generalizing active restarts here names with
  | zero => rw [resolveFrom, resolveFrom]
  | succ fuel ih =>
    cases names with
    | nil => rw [resolveFrom, resolveFrom]
    | cons name rest =>
      rw [resolveFrom, resolveFrom]
      split
      · exact ih _ _ _ _
      dsimp only
      by_cases hlink : ∃ target, t.get? (here ++ [name]) = some (.link target)
      · obtain ⟨target, hlink⟩ := hlink
        rw [hlink, (h.link_iff _ target).mpr hlink]
        dsimp only
        rw [ih, ih]
      · -- what is no link is passed as it stands, before and after
        have hbefore : ∀ target, t.get? (here ++ [name]) ≠ some (.link target) :=
          fun target ht => hlink ⟨target, ht⟩
        have hafter : ∀ target, t'.get? (here ++ [name]) ≠ some (.link target) :=
          fun target ht => hlink ⟨target, h.link_old _ _ ht⟩
        split
        case h_1 target ht => exact absurd ht (hafter target)
        case h_2 => exact ih _ _ _ _

theorem resolveFuel_evolves (h : t.Evolves t') (l : Location) : t'.resolveFuel l = t.resolveFuel l := by
  induction l with
  | nil => rw [resolveFuel, resolveFuel, h.linkSteps_eq]
  | cons name rest ih => rw [resolveFuel, resolveFuel, h.linkSteps_eq, ih]

theorem resolution_evolves (h : t.Evolves t') (l : Location) :
    t'.resolution l = t.resolution l := by
  rw [resolution, resolution, resolveFuel_evolves h, resolveFrom_evolves h]

theorem landing_evolves (h : t.Evolves t') (l : Location) : t'.landing l = t.landing l := by
  rw [landing, landing, resolution_evolves h]

theorem flaw?_evolves (h : t.Evolves t') (l : Location) : t'.flaw? l = t.flaw? l := by
  rw [flaw?, flaw?]
  simp only [resolution_evolves h, landing_evolves h]

/-- Nothing is wrong with a location exactly when the system can be given all its names, or a circle
comes before those that it cannot be given and double dots take them back. -/
theorem flaw?_eq_none_iff {l : Location} :
    t.flaw? l = none ↔ (∀ name ∈ l, name.IsPassable) ∨
      ((t.resolution (l.takeWhile Text.isSound)).isComplete = false ∧
        ∀ name ∈ t.landing l, name.IsPassable) := by
  rw [flaw?]
  split
  case h_1 hall =>
    refine iff_of_true rfl (.inl fun name hname => ?_)
    exact Text.isSound_iff.mp (List.dropWhile_eq_nil_iff.mp hall name hname)
  case h_2 name rest hbad =>
    have hmem : name ∈ l := (List.dropWhile_suffix _).subset (hbad ▸ List.mem_cons_self)
    have hhead := @List.head_dropWhile_not _ Text.isSound l
      (by simp only [hbad]; exact List.cons_ne_nil _ _)
    simp only [hbad, List.head_cons] at hhead
    have hnot : ¬ name.IsPassable := fun h => by
      rw [Text.isSound_iff.mpr h] at hhead
      cases hhead
    rw [or_iff_right fun h => hnot (h name hmem)]
    dsimp only
    split
    case isTrue hcomplete =>
      refine iff_of_false (fun h => hnot (Text.handoverFlaw?_eq_none_iff.mp h)) ?_
      rintro ⟨hbroken, -⟩
      rw [hcomplete] at hbroken
      cases hbroken
    case isFalse hbroken =>
      rw [Text.handoverFlaw?_eq_none_iff, Location.isPassable_text_iff]
      exact (and_iff_right (Bool.eq_false_iff.mpr hbroken)).symm

theorem flaw?_of_passable {l : Location} (h : ∀ name ∈ l, name.IsPassable) : t.flaw? l = none :=
  flaw?_eq_none_iff.mpr (.inl h)

/-- Where nothing is wrong with a location, nothing is wrong without its last name, unless double dots
took back more. -/
theorem flaw?_init {l : Location} {name : Text} (h : t.flaw? (l ++ [name]) = none)
    (hlands : (∀ n ∈ t.landing (l ++ [name]), n.IsPassable) → ∀ n ∈ t.landing l, n.IsPassable) :
    t.flaw? l = none := by
  rcases flaw?_eq_none_iff.mp h with hall | ⟨hbroken, hlast⟩
  · exact flaw?_of_passable fun n hn => hall n (List.mem_append_left _ hn)
  · by_cases hall : ∀ n ∈ l, n.IsPassable
    · exact flaw?_of_passable hall
    · -- the first name that the system cannot be given is the same
      have hfirst : (l ++ [name]).takeWhile Text.isSound = l.takeWhile Text.isSound := by
        rw [List.takeWhile_append, if_neg]
        intro hlength
        have hwhole := (List.takeWhile_prefix Text.isSound).eq_of_length hlength
        exact hall fun n hn => Text.isSound_iff.mp (List.takeWhile_eq_self_iff.mp hwhole n hn)
      rw [hfirst] at hbroken
      exact flaw?_eq_none_iff.mpr (.inr ⟨hbroken, hlands hlast⟩)

/-- A location is resolved when nothing is wrong with its names and the place it comes to is in no
circle. -/
theorem resolve_ok_iff {l found : Location} :
    t.resolve l = .ok found ↔
      t.flaw? l = none ∧ found = t.landing l ∧ t.walk true found ≠ .error .linkLoop := by
  rw [resolve]
  cases t.flaw? l with
  | some e => simp
  | none =>
    dsimp only
    constructor
    · intro h
      split at h
      case h_1 => cases h
      case h_2 hloop =>
        obtain rfl := Except.ok.inj h
        exact ⟨rfl, rfl, hloop⟩
    · rintro ⟨-, rfl, hloop⟩
      split
      case h_1 h => exact absurd h hloop
      case h_2 => rfl

end Tree

/-- A path is resolved when it is not blank, the project is found, and the location it comes to lies
inside the project. -/
theorem resolveInProject_ok_iff {t : Tree} {root target : Location} {path : Text} :
    resolveInProject t root path = .ok target ↔
      ¬ Text.isBlank path = true ∧ ∃ base, t.resolve root = .ok base ∧
        t.resolve ((Path.ofText (Text.trim path)).startingAt base) = .ok target ∧
        base.isPrefixOf target = true := by
  constructor
  · intro h
    rw [resolveInProject] at h
    split at h
    case isTrue => cases h
    case isFalse hblank =>
      obtain ⟨base, hbase, h⟩ := Effect.result_bind_ok_iff.mp h
      refine ⟨hblank, base, projectBase_ok_iff.mp hbase, ?_⟩
      split at h
      case h_1 | h_2 => cases h
      case h_3 hresolve =>
        split at h
        case isTrue hinside =>
          cases h
          exact ⟨hresolve, hinside⟩
        case isFalse => cases h
  · rintro ⟨hblank, base, hbase, hresolve, hinside⟩
    rw [resolveInProject, if_neg hblank]
    refine Effect.result_bind_ok_iff.mpr ⟨base, projectBase_ok_iff.mpr hbase, ?_⟩
    rw [hresolve]
    dsimp only
    rw [if_pos hinside]
    rfl

/-- A path that was resolved to what is a place in a later tree is resolved to it there. -/
theorem resolveInProject_evolves {t t' : Tree} (h : t.Evolves t') {root target : Location}
    {path : Text} {place : Place} (hresolve : resolveInProject t root path = .ok target)
    (hwalk : t'.walk true target = .ok place) : resolveInProject t' root path = .ok target := by
  obtain ⟨hblank, base, hbase, htarget, hinside⟩ := resolveInProject_ok_iff.mp hresolve
  obtain ⟨hroot, hb, -⟩ := Tree.resolve_ok_iff.mp hbase
  obtain ⟨hpath, ht, -⟩ := Tree.resolve_ok_iff.mp htarget
  obtain ⟨more, hmore⟩ := List.isPrefixOf_iff_prefix.mp hinside
  refine resolveInProject_ok_iff.mpr ⟨hblank, base, ?_, ?_, hinside⟩
  · refine Tree.resolve_ok_iff.mpr
      ⟨by rw [Tree.flaw?_evolves h, hroot], by rw [Tree.landing_evolves h, hb], fun hloop => ?_⟩
    -- the path goes on from the directory of the project, so that one is in no circle either
    exact Tree.walk_append_ne_ok hloop more place (by rw [hmore]; exact hwalk)
  · refine Tree.resolve_ok_iff.mpr
      ⟨by rw [Tree.flaw?_evolves h, hpath], by rw [Tree.landing_evolves h, ht], fun hloop => ?_⟩
    rw [hwalk] at hloop
    cases hloop

/-! ## Directories -/

namespace FileAction

variable {α β : Type}

/-- What comes after a look goes on with what was seen, in the same tree. -/
theorem look_bind_ok_iff {g : Tree → Except Failure α} {k : α → FileAction β} {t t' : Tree}
    {y : β} :
    (look g >>= k).run t = (.ok y, t') ↔ ∃ x, g t = .ok x ∧ (k x).run t = (.ok y, t') := by
  rw [Effect.bind_ok_iff]
  constructor
  · rintro ⟨x, t₁, hlook, hk⟩
    obtain ⟨hx, ht⟩ := look_iff.mp hlook
    exact ⟨x, hx, ht ▸ hk⟩
  · rintro ⟨x, hx, hk⟩
    exact ⟨x, t, look_iff.mpr ⟨hx, rfl⟩, hk⟩

theorem look_bind_error_iff {g : Tree → Except Failure α} {k : α → FileAction β} {t t' : Tree}
    {f : Failure} :
    (look g >>= k).run t = (.error f, t') ↔
      (g t = .error f ∧ t' = t) ∨ ∃ x, g t = .ok x ∧ (k x).run t = (.error f, t') := by
  rw [Effect.bind_error_iff, look_iff]
  refine or_congr_right ⟨?_, ?_⟩
  · rintro ⟨x, t₁, hlook, hk⟩
    obtain ⟨hx, ht⟩ := look_iff.mp hlook
    exact ⟨x, hx, ht ▸ hk⟩
  · rintro ⟨x, hx, hk⟩
    exact ⟨x, t, look_iff.mpr ⟨hx, rfl⟩, hk⟩

/-- Whatever comes of the operation, it extends the tree. -/
def Extending (a : FileAction α) : Prop := ∀ t : Tree, t.Extends (a.run t).2

theorem extending_pure (x : α) : Extending (pure x : FileAction α) := fun t => .refl t

theorem extending_failAt (cause : SystemCause) (l : Location) :
    Extending (failAt cause l : FileAction α) := fun t => .refl t

theorem extending_ask (g : Tree → Except SystemError α) : Extending (ask g) := fun t => .refl t

theorem Extending.bind {a : FileAction α} {k : α → FileAction β} (ha : Extending a)
    (hk : ∀ x, Extending (k x)) : Extending (a >>= k) := fun t =>
  Effect.leaves_bind (R := Tree.Extends) .trans (ha t) fun x t₁ _ => hk x t₁

/-- A directory that is created stands where nothing stood. -/
theorem createDirectory_extends {t t' : Tree} {l : Location} (h : createDirectory t l = .ok t') :
    t.Extends t' := by
  rw [createDirectory] at h
  split at h
  case h_1 => cases h
  case h_2 hwalk =>
    obtain rfl := Except.ok.inj h
    obtain ⟨hplace, hvacant⟩ := Tree.vacant_of_walk hwalk
    exact Tree.extends_put_directory hplace hvacant
  case h_3 => cases h

theorem extending_acceptDirectory (cause : SystemCause) (l : Location) :
    Extending (acceptDirectory cause l) := by
  refine (extending_ask _).bind fun found => ?_
  cases found with
  | true => exact extending_pure ()
  | false => exact extending_failAt cause l

/-- What is done with the tree at hand is done with this very tree. -/
theorem run_get_bind (k : Tree → FileAction α) (t : Tree) : (get >>= k).run t = (k t).run t := rfl

theorem extending_get_bind {k : Tree → FileAction α} (hk : ∀ t : Tree, t.Extends ((k t).run t).2) :
    Extending (get >>= k) := by
  intro t
  rw [run_get_bind]
  exact hk t

theorem extending_ensureDirectory (l : Location) : Extending (ensureDirectory l) := by
  refine extending_get_bind fun t => ?_
  split
  case h_1 hcreate => exact createDirectory_extends hcreate
  case h_2 => exact extending_failAt .noEntry l t
  case h_3 => exact extending_acceptDirectory _ l t

theorem extending_ensureDirectories (names : List Text) :
    Extending (ensureDirectories names) := by
  induction names with
  | nil => exact extending_acceptDirectory .alreadyExists []
  | cons name above ih =>
    refine extending_get_bind fun t => ?_
    split
    case h_1 hcreate => exact createDirectory_extends hcreate
    case h_2 => exact (ih.bind fun _ => extending_ensureDirectory _) t
    case h_3 => exact extending_acceptDirectory _ _ t

/-- Creating a directory with its parents extends the tree, also when it fails half-way. -/
theorem extending_makeDirectory (l : Location) : Extending (makeDirectory l) :=
  extending_ensureDirectories l.reverse

end FileAction

/-! ## Files -/

/-- A location at which a file can be put: a walk ends there at a file or at nothing. -/
inductive Tree.Open (t : Tree) (l place : Location) : Prop
  | file {n : Node} (h : t.walk true l = .ok (.existing place n)) (hn : n.isFile = true)
  | vacant (h : t.walk true l = .ok (.vacant place))

/-- What stands at a place where a file can be put is a file, if anything. -/
theorem Tree.Open.isFile {t : Tree} {l place : Location} (h : t.Open l place) {m : Node}
    (hm : t.get? place = some m) : m.isFile = true := by
  cases h with
  | file hwalk hn =>
    rcases get?_of_walk hwalk with rfl | hplace
    · cases hn
    · rw [hplace] at hm
      cases hm
      exact hn
  | vacant hwalk =>
    rw [(vacant_of_walk hwalk).2] at hm
    cases hm

/-- Where a file can be put is a stored location. -/
theorem Tree.Open.stored {t : Tree} {l place : Location} (h : t.Open l place) :
    place.stored = place := by
  cases h with
  | file hwalk | vacant hwalk => exact stored_of_walk hwalk

/-- Where a file can be put is not the root, which is a directory. -/
theorem Tree.Open.ne_nil {t : Tree} {l place : Location} (h : t.Open l place) : place ≠ [] := by
  rintro rfl
  have hroot : Node.directory.isFile = true := h.isFile rfl
  cases hroot

/-- **A store.** A file that is put where a walk ends is what the walk ends at, and the tree has
changed in nothing else. -/
theorem Tree.Open.put {t : Tree} {l place : Location} (h : t.Open l place) {n : Node}
    (hn : n.isFile = true) :
    t.Evolves (t.put place n) ∧ (t.put place n).walk true l = .ok (.existing place n) := by
  have hchange : t.Evolves (t.put place n) := evolves_put_file h.ne_nil hn fun m hm => h.isFile hm
  have hput : (t.put place n).get? place = some n :=
    get?_put_self h.ne_nil (Node.stored_of_isFile hn)
  refine ⟨hchange, ?_⟩
  cases h with
  | file hwalk hfile =>
    obtain ⟨n', hlater, hstays⟩ := walk_evolves hchange hwalk
    rcases get?_of_walk hlater with rfl | hplace
    · cases hstays.isFile hfile
    · rw [hput] at hplace
      cases hplace
      exact hlater
  | vacant hwalk =>
    refine walk_filled hchange (fun target hlink => ?_) hput hwalk
    rw [hlink] at hn
    cases hn

namespace FileAction

/-- A file is opened where a walk along its location ends, and it is empty then. A file that cannot
be opened changes nothing. -/
theorem openForWriting_cases {t t' : Tree} {l : Location} {q : Except Failure Location}
    (h : (openForWriting l).run t = (q, t')) :
    (∃ f, q = .error f ∧ t' = t) ∨
      ∃ place, q = .ok place ∧ t' = t.put place (.file []) ∧ t.Open l place := by
  rw [openForWriting, run_get_bind] at h
  split at h
  case h_1 =>
    cases h
    exact .inl ⟨_, rfl, rfl⟩
  case h_2 place n hne hwalk =>
    cases h
    have hfile : n.isFile = true := Tree.isFile_of_walk hwalk fun hn => hne (by rw [hn])
    exact .inr ⟨place, rfl, rfl, .file hwalk hfile⟩
  case h_3 place hwalk =>
    cases h
    exact .inr ⟨place, rfl, rfl, .vacant hwalk⟩
  case h_4 =>
    cases h
    exact .inl ⟨_, rfl, rfl⟩

/-- A text that was stored is what stands where the walk along its location ends. -/
theorem writeText_ok {t t' : Tree} {l : Location} {content : Text}
    (h : (writeText l content).run t = (.ok (), t')) :
    ∃ place bytes, content.utf8? = some bytes ∧ t.Evolves t' ∧
      t'.walk true l = .ok (.existing place (.file bytes)) ∧
      ∀ k, Location.stored k ≠ place → t'.get? k = t.get? k := by
  obtain ⟨place, t₁, hopen, h⟩ := Effect.bind_ok_iff.mp h
  rcases openForWriting_cases hopen with ⟨f, hf, -⟩ | ⟨_, hq, rfl, hplace⟩
  · cases hf
  cases hq
  split at h
  case h_1 bytes hbytes =>
    cases h
    -- the file is emptied first and filled then
    obtain ⟨hempty, hwalk⟩ := hplace.put (n := .file []) rfl
    have hopened : (t.put place (.file [])).Open l place := .file hwalk rfl
    obtain ⟨hfill, hfilled⟩ := hopened.put (n := .file bytes) rfl
    refine ⟨place, bytes, hbytes, hempty.trans hfill, hfilled, fun k hk => ?_⟩
    have hne : place.stored ≠ k.stored := by rwa [hplace.stored, ne_comm]
    exact (Tree.get?_put_of_ne hplace.ne_nil hne).trans (Tree.get?_put_of_ne hplace.ne_nil hne)
  case h_2 => cases h

/-- A text whose storing failed in a way a run answers was not stored at all. -/
theorem writeText_error {t t' : Tree} {l : Location} {content : Text} {f : Failure}
    (h : (writeText l content).run t = (.error f, t')) (hf : f.IsAnswered) : t' = t := by
  rcases Effect.bind_error_iff.mp h with hopen | ⟨place, t₁, -, h⟩
  · rcases openForWriting_cases hopen with ⟨_, -, ht⟩ | ⟨_, hq, -⟩
    · exact ht
    · cases hq
  · split at h
    case h_1 => cases h
    case h_2 =>
      cases h
      exact absurd hf id

end FileAction

/-! ## What a path leads to -/

namespace Project

/-- A path of a project leads to a node at a place: it is resolved, and the walk along the location
it comes to ends there. -/
def LeadsTo (t : Tree) (root : Location) (path : Text) (place : Location) (n : Node) : Prop :=
  ∃ target, resolveInProject t root path = .ok target ∧
    t.walk true target = .ok (.existing place n)

/-- Two paths lead to the same file. -/
def SameFile (t : Tree) (root : Location) (path path' : Text) : Prop :=
  ∃ place n, LeadsTo t root path place n ∧ LeadsTo t root path' place n

/-- The text that stands in the file a path leads to. -/
def textAt? (t : Tree) (root : Location) (path : Text) : Option Text :=
  match resolveInProject t root path with
  | .ok target =>
    match FileAction.content t target with
    | .ok (some bytes) => bytes.text?
    | _ => none
  | .error _ => none

variable {t t' : Tree} {root : Location} {path path' : Text}

/-- A path leads to one place only. -/
theorem LeadsTo.unique {l place : Location} {n m : Node} (h : LeadsTo t root path l n)
    (h' : LeadsTo t root path place m) : place = l ∧ m = n := by
  obtain ⟨target, hresolve, hwalk⟩ := h
  obtain ⟨target', hresolve', hwalk'⟩ := h'
  obtain rfl := Except.ok.inj (hresolve.symm.trans hresolve')
  rw [hwalk] at hwalk'
  cases hwalk'
  exact ⟨rfl, rfl⟩

/-- A file that a path leads to stands there. -/
theorem LeadsTo.get?_of_isFile {place : Location} {n : Node} (h : LeadsTo t root path place n)
    (hn : n.isFile = true) : t.get? place = some n := by
  obtain ⟨target, -, hwalk⟩ := h
  rcases Tree.get?_of_walk hwalk with rfl | hplace
  · cases hn
  · exact hplace

/-- The place a path leads to is a stored location. -/
theorem LeadsTo.stored {place : Location} {n : Node} (h : LeadsTo t root path place n) :
    place.stored = place := by
  obtain ⟨target, -, hwalk⟩ := h
  exact Tree.stored_of_walk hwalk

/-- A path leads in a later tree to where it led, and to what the node there has become. -/
theorem LeadsTo.evolves (h : t.Evolves t') {place : Location} {n : Node}
    (hlead : LeadsTo t root path place n) :
    ∃ n', LeadsTo t' root path place n' ∧ n.Stays n' := by
  obtain ⟨target, hresolve, hwalk⟩ := hlead
  obtain ⟨n', hlater, hstays⟩ := Tree.walk_evolves h hwalk
  exact ⟨n', ⟨target, resolveInProject_evolves h hresolve hlater, hlater⟩, hstays⟩

/-- A file a path leads to is found there in a later tree, with what stands there then. -/
theorem LeadsTo.file_evolves (h : t.Evolves t') {place : Location} {n m : Node}
    (hlead : LeadsTo t root path place n) (hn : n.isFile = true)
    (hm : t'.get? place = some m) : LeadsTo t' root path place m := by
  obtain ⟨n', hlater, hstays⟩ := hlead.evolves h
  have hplace := hlater.get?_of_isFile (hstays.isFile hn)
  rw [hm] at hplace
  cases hplace
  exact hlater

/-- A text stands under a path when the path leads to a file with the bytes of the text. -/
theorem textAt?_eq_some_iff {text : Text} :
    textAt? t root path = some text ↔
      ∃ place bytes, LeadsTo t root path place (.file bytes) ∧ Bytes.text? bytes = some text := by
  rw [textAt?]
  constructor
  · intro h
    split at h
    case h_1 target hresolve =>
      rw [FileAction.content] at h
      split at h
      case h_1 bytes hcontent =>
        split at hcontent
        case h_1 place _ hwalk =>
          cases hcontent
          exact ⟨place, bytes, ⟨target, hresolve, hwalk⟩, h⟩
        case h_2 | h_3 | h_4 | h_5 | h_6 => cases hcontent
      case h_2 => cases h
    case h_2 => cases h
  · rintro ⟨place, bytes, ⟨target, hresolve, hwalk⟩, htext⟩
    rw [hresolve]
    dsimp only
    rw [FileAction.content, hwalk]
    exact htext

/-- What could be read can still be read where the tree was only extended. -/
theorem textAt?_of_extends (h : t.Extends t') {text : Text}
    (hread : textAt? t root path = some text) : textAt? t' root path = some text := by
  obtain ⟨place, bytes, hlead, htext⟩ := textAt?_eq_some_iff.mp hread
  have hplace := h.keeps _ _ (hlead.get?_of_isFile rfl)
  exact textAt?_eq_some_iff.mpr ⟨place, bytes, hlead.file_evolves h.evolves rfl hplace, htext⟩

/-! ## Writing -/

/-- **A written file.** Its path leads to the encoding of the content, and what stood anywhere else
stands there still. -/
theorem write_ok {content : Text} {r : Written}
    (h : (write root path content).run t = (.ok r, t')) :
    ∃ place bytes, content.utf8? = some bytes ∧ t.Evolves t' ∧
      LeadsTo t' root path place (.file bytes) ∧
      ∀ k n, Location.stored k ≠ place → t.get? k = some n → t'.get? k = some n := by
  obtain ⟨target, hresolve, hask⟩ := FileAction.look_bind_ok_iff.mp h
  obtain ⟨existed, -, hmake⟩ := FileAction.look_bind_ok_iff.mp hask
  obtain ⟨_, t₃, habove, hwrite⟩ := Effect.bind_ok_iff.mp hmake
  obtain ⟨_, t₄, hstore, htell⟩ := Effect.bind_ok_iff.mp hwrite
  obtain ⟨base, -, hlast⟩ := FileAction.look_bind_ok_iff.mp htell
  obtain ⟨-, rfl⟩ := Effect.pure_ok_iff.mp hlast
  have hextends : t.Extends t₃ := by
    have hdirectories := FileAction.extending_makeDirectory target.dropLast t
    rwa [habove] at hdirectories
  obtain ⟨place, bytes, hbytes, hevolves, hwalk, helse⟩ := FileAction.writeText_ok hstore
  have hchange := hextends.evolves.trans hevolves
  refine ⟨place, bytes, hbytes, hchange,
    ⟨target, resolveInProject_evolves hchange hresolve hwalk, hwalk⟩, fun k n hk hn => ?_⟩
  rw [helse k hk]
  exact hextends.keeps k n hn

/-- A write that failed, and whose failure a run answers, changed no file. -/
theorem write_error {content : Text} {f : Failure}
    (h : (write root path content).run t = (.error f, t')) (hf : f.IsAnswered) :
    t.Extends t' := by
  rcases FileAction.look_bind_error_iff.mp h with ⟨-, ht⟩ | ⟨target, -, hask⟩
  · exact ht ▸ .refl t
  rcases FileAction.look_bind_error_iff.mp hask with ⟨-, ht⟩ | ⟨existed, -, hmake⟩
  · exact ht ▸ .refl t
  have hdirectories := FileAction.extending_makeDirectory target.dropLast t
  rcases Effect.bind_error_iff.mp hmake with habove | ⟨_, t₃, habove, hwrite⟩
  · rwa [habove] at hdirectories
  rw [habove] at hdirectories
  rcases Effect.bind_error_iff.mp hwrite with hstore | ⟨_, t₄, -, htell⟩
  · rw [FileAction.writeText_error hstore hf]
    exact hdirectories
  · -- behind the stored text only the project itself can be missing, which no run answers
    rcases FileAction.look_bind_error_iff.mp htell with ⟨hbase, -⟩ | ⟨_, -, hlast⟩
    · rw [(projectBase_error_iff.mp hbase).1] at hf
      exact absurd hf id
    · exact absurd hlast Effect.pure_ne_error

/-- After a write every path that leads to the written file reads the content. -/
theorem textAt?_of_write {content : Text} {r : Written}
    (h : (write root path content).run t = (.ok r, t')) (hsame : SameFile t' root path' path) :
    textAt? t' root path' = some content := by
  obtain ⟨place, bytes, hbytes, -, hlead, -⟩ := write_ok h
  obtain ⟨place', n, hlead', hn⟩ := hsame
  obtain ⟨rfl, rfl⟩ := hlead.unique hn
  exact textAt?_eq_some_iff.mpr ⟨place', bytes, hlead', Bytes.text?_of_utf8? hbytes⟩

/-- After a write every path that does not lead to the written file reads what it read. -/
theorem textAt?_of_write_ne {content text : Text} {r : Written}
    (h : (write root path content).run t = (.ok r, t')) (hread : textAt? t root path' = some text)
    (hother : ¬ SameFile t' root path' path) : textAt? t' root path' = some text := by
  obtain ⟨place, bytes, -, hevolves, hlead, helse⟩ := write_ok h
  obtain ⟨place', bytes', hlead', htext⟩ := textAt?_eq_some_iff.mp hread
  have hplace := hlead'.get?_of_isFile rfl
  obtain ⟨m, hm, -⟩ := hevolves.stays _ _ hplace
  have hlater := hlead'.file_evolves hevolves rfl hm
  have hne : place' ≠ place := by
    rintro rfl
    have hwritten := hlead.get?_of_isFile rfl
    rw [hm] at hwritten
    cases hwritten
    exact hother ⟨place', _, hlater, hlead⟩
  exact textAt?_eq_some_iff.mpr ⟨place', bytes',
    hlead'.file_evolves hevolves rfl (helse _ _ (by rwa [hlead'.stored]) hplace), htext⟩

end Project

end Tablewright
