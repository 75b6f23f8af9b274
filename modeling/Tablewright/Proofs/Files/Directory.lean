/-
Directories: what stands in them, and how they are come to.

A path that goes on from a directory is followed through it, and what stands there is among the
children of the directory. So where a file was written under a path, the path of its directory leads
to the place in which the file is listed (`Tree.resolve_init`, `Tree.mem_children_of_get?`).

A directory that was made stands (`FileAction.makeDirectory_stands`): whichever way the making of it
went, a walk along its location ends at a directory then. So making it again, there or in a later
tree, finds it and changes nothing.
-/
import Tablewright.Proofs.Files.Follow
import Tablewright.Proofs.Files.Overwrite

set_option autoImplicit false

namespace Tablewright

/-! ## Ways through directories -/

namespace Tree

variable {t t' : Tree} {active : List Location} {here mid found dir : Location}
  {names rest : List Text} {name : Text} {n : Node}

/-- Names are followed on from where the names before them lead. -/
theorem Follows.append (h : t.Follows active here names mid)
    (hrest : t.Follows active mid rest found) : t.Follows active here (names ++ rest) found := by
  induction h with
  | done => exact hrest
  | up _ ih => exact .up (ih hrest)
  | pass hname hplain _ ih => exact .pass hname hplain (ih hrest)
  | link hname hlink hactive hinner _ _ ih => exact .link hname hlink hactive hinner (ih hrest)

/-- Names that are followed lead somewhere after the first of them. -/
theorem Follows.split (h : t.Follows active here (names ++ rest) found) :
    ∃ mid, t.Follows active here names mid ∧ t.Follows active mid rest found := by
  generalize hall : names ++ rest = all at h
  induction h generalizing names with
  | done active here =>
    obtain ⟨rfl, rfl⟩ := List.append_eq_nil_iff.mp hall
    exact ⟨here, .done active here, .done active here⟩
  | @up active here _ _ hway ih =>
    cases names with
    | nil =>
      obtain rfl : rest = _ := hall
      exact ⟨here, .done active here, .up hway⟩
    | cons first names =>
      obtain ⟨rfl, rfl⟩ := List.cons.inj hall
      obtain ⟨mid, hfirst, hlast⟩ := ih rfl
      exact ⟨mid, .up hfirst, hlast⟩
  | @pass active here _ _ _ hname hplain hway ih =>
    cases names with
    | nil =>
      obtain rfl : rest = _ := hall
      exact ⟨here, .done active here, .pass hname hplain hway⟩
    | cons first names =>
      obtain ⟨rfl, rfl⟩ := List.cons.inj hall
      obtain ⟨mid, hfirst, hlast⟩ := ih rfl
      exact ⟨mid, .pass hname hplain hfirst, hlast⟩
  | @link active here _ _ _ _ _ hname hlink hactive hinner hway _ ih =>
    cases names with
    | nil =>
      obtain rfl : rest = _ := hall
      exact ⟨here, .done active here, .link hname hlink hactive hinner hway⟩
    | cons first names =>
      obtain ⟨rfl, rfl⟩ := List.cons.inj hall
      obtain ⟨mid, hfirst, hlast⟩ := ih rfl
      exact ⟨mid, .link hname hlink hactive hinner hfirst, hlast⟩

/-- A plain location is followed to itself. -/
theorem follows_of_plain (h : t.Plain (here ++ names)) :
    t.Follows active here names (here ++ names) := by
  induction names generalizing here with
  | nil =>
    rw [List.append_nil]
    exact .done active here
  | cons name rest ih =>
    obtain ⟨hname, hlink, hplain⟩ := h.next
    have hrest := ih hplain
    rw [List.append_assoc, List.singleton_append] at hrest
    exact .pass hname hlink hrest

/-- Anywhere but at the root, what stands is an entry under its stored location. -/
theorem mem_entries_of_get? {l : Location} (hne : l ≠ []) (h : t.get? l = some n) :
    (l.stored, n) ∈ t.entries := by
  rw [get?_of_ne_nil hne] at h
  generalize t.entries = es at h ⊢
  induction es with
  | nil => cases h
  | cons e es ih =>
    rw [find] at h
    split at h
    case isTrue hplace =>
      cases h
      rw [← hplace]
      exact List.mem_cons_self
    case isFalse => exact List.mem_cons_of_mem e (ih h)

/-- A directory has its children however it is spelled. -/
@[simp] theorem children_stored (t : Tree) (dir : Location) : t.children dir.stored = t.children dir := by
  rw [children, children, Location.stored_stored]

/-- What stands in a directory is among its children, under its stored name. -/
theorem mem_children_of_get? (h : t.get? (dir ++ [name]) = some n) :
    name.stored ∈ t.children dir := by
  have hne : dir ++ [name] ≠ [] := List.append_ne_nil_of_right_ne_nil dir (List.cons_ne_nil name [])
  refine List.mem_filterMap.mpr ⟨_, mem_entries_of_get? hne h, ?_⟩
  rw [Location.stored_append, Location.stored_cons, Location.stored_nil, childName?,
    List.getLast?_concat]
  exact if_pos rfl

/-- A location that leads to a directory lists what stands there. -/
theorem listing_of_walk {l : Location} (h : t.walk true l = .ok (.existing dir .directory)) :
    t.listing l = t.children dir := by
  rw [listing, h]

/-- Where a location is resolved and what it comes to stands, the directory above is resolved, if
it comes to the directory there. -/
theorem resolve_init {l : Location} {place : Place}
    (h : t.resolve (l ++ [name]) = .ok (dir ++ [name]))
    (hwalk : t.walk true (dir ++ [name]) = .ok place) (hdir : t.landing l = dir) :
    t.resolve l = .ok dir := by
  obtain ⟨hflaw, hlands, -⟩ := resolve_ok_iff.mp h
  obtain ⟨d, hd⟩ := walk_init hwalk
  have hinit : t.flaw? l = none := flaw?_init hflaw fun hall => by
    rw [hdir]
    rw [← hlands] at hall
    exact fun n hn => hall n (List.mem_append_left _ hn)
  exact resolve_ok_iff.mpr ⟨hinit, hdir.symm, by rw [hd]; exact nofun⟩

end Tree

/-! ## Directories that were made -/

/-- A location leads to a directory exactly when a walk along it ends at one. -/
theorem Tree.isDirectory_eq_true_iff {t : Tree} {l : Location} :
    t.isDirectory l = .ok true ↔ ∃ d, t.walk true l = .ok (.existing d .directory) := by
  rw [isDirectory, status]
  constructor
  · intro h
    split at h
    case h_1 place node hwalk =>
      cases node with
      | directory => exact ⟨place, hwalk⟩
      | file _ | link _ | ledger _ => cases h
    case h_2 => cases h
    case h_3 => split at h <;> cases h
  · rintro ⟨d, hwalk⟩
    rw [hwalk]
    rfl

/-- Where nothing stood, a walk ends at the directory that was put there. -/
theorem Tree.walk_put_directory {t : Tree} {l place : Location}
    (h : t.walk false l = .ok (.vacant place)) :
    (t.put place .directory).walk true l = .ok (.existing place .directory) := by
  have hlink : ∀ target, Node.directory ≠ .link target := fun _ hlink => by cases hlink
  obtain ⟨hne, hnone⟩ := vacant_of_walk h
  have hfilled := walk_filled (extends_put_directory hne hnone).evolves hlink (get?_put_self hne rfl) h
  obtain ⟨hshort, hwalks⟩ := walk_ok_iff.mp hfilled
  exact walk_ok_iff.mpr ⟨hshort, hwalks.followed hlink⟩

namespace FileAction

variable {t t' : Tree} {l : Location}

theorem createDirectory_stands (h : createDirectory t l = .ok t') :
    ∃ d, t'.walk true l = .ok (.existing d .directory) := by
  rw [createDirectory] at h
  split at h
  case h_1 | h_3 => cases h
  case h_2 place hwalk =>
    cases h
    exact ⟨place, Tree.walk_put_directory hwalk⟩

theorem acceptDirectory_stands {cause : SystemCause}
    (h : (acceptDirectory cause l).run t = (.ok (), t')) :
    ∃ d, t'.walk true l = .ok (.existing d .directory) := by
  rw [acceptDirectory, ask] at h
  obtain ⟨found, hfound, h⟩ := look_bind_ok_iff.mp h
  cases found with
  | false => cases h
  | true =>
    cases h
    refine Tree.isDirectory_eq_true_iff.mp ?_
    cases hask : t.isDirectory l with
    | ok b =>
      rw [hask] at hfound
      cases hfound
      rfl
    | error e =>
      rw [hask] at hfound
      cases hfound

theorem ensureDirectory_stands (h : (ensureDirectory l).run t = (.ok (), t')) :
    ∃ d, t'.walk true l = .ok (.existing d .directory) := by
  rw [ensureDirectory, run_get_bind] at h
  split at h
  case h_1 hmade =>
    cases h
    exact createDirectory_stands hmade
  case h_2 => cases h
  case h_3 => exact acceptDirectory_stands h

/-- **A directory that was made stands.** -/
theorem makeDirectory_stands (h : (makeDirectory l).run t = (.ok (), t')) :
    ∃ d, t'.walk true l = .ok (.existing d .directory) := by
  rw [makeDirectory] at h
  rw [← List.reverse_reverse l]
  generalize l.reverse = names at h ⊢
  cases names with
  | nil => exact acceptDirectory_stands h
  | cons name above =>
    rw [ensureDirectories, run_get_bind] at h
    split at h
    case h_1 hmade =>
      cases h
      exact createDirectory_stands hmade
    case h_2 =>
      obtain ⟨_, t₁, -, h⟩ := Effect.bind_ok_iff.mp h
      exact ensureDirectory_stands h
    case h_3 => exact acceptDirectory_stands h

/-- In a later tree, making a directory that was made changes nothing. -/
theorem makeDirectory_again {t₁ : Tree} (h : (makeDirectory l).run t = (.ok (), t'))
    (hlater : t'.Evolves t₁) : (makeDirectory l).run t₁ = (.ok (), t₁) := by
  obtain ⟨d, hd⟩ := makeDirectory_stands h
  obtain ⟨n, hn, hstays⟩ := Tree.walk_evolves hlater hd
  cases hstays with
  | directory => exact makeDirectory_of_directory hn
  | file hfile => cases hfile

end FileAction

end Tablewright
