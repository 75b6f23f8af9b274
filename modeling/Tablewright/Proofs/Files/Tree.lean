/-
How a tree changes while files are written.

The tree is a store of entries, and two spellings of one location are one place in it (`get?_put`,
`get?_stored`). Writing never takes anything away: a directory and a
link stay what they are, a file stays a file, and nothing becomes a link. `Evolves` says so of an
earlier and a later tree, and `Extends` also says that no file changes its content. Both hold of a
single `put` under the right conditions and pass from one change to the next, so for the operations
on files they are read off the puts these are made of.
-/
import Tablewright.Files.Resolve
import Tablewright.Proofs.Text.Utf8

set_option autoImplicit false

namespace Tablewright

/-! ## Stored locations -/

/-- The bytes of two texts as a name add up. -/
@[simp] theorem Text.nameBytes_append (t u : Text) :
    Text.nameBytes (t ++ u) = Text.nameBytes t + Text.nameBytes u := by
  induction t with
  | nil => exact (Nat.zero_add _).symm
  | cons c r ih =>
    change c.nameBytes + nameBytes (r ++ u) = c.nameBytes + nameBytes r + nameBytes u
    rw [ih, Nat.add_assoc]

/-- The bytes of a text are as many as it has as a name. -/
theorem Text.nameBytes_of_systemBytes? {t : Text} {b : Bytes} (h : t.systemBytes? = some b) :
    t.nameBytes = b.length := by
  induction t generalizing b with
  | nil =>
    cases h
    rfl
  | cons c r ih =>
    rw [systemBytes?] at h
    split at h
    case h_1 first rest hc hr =>
      cases h
      change c.nameBytes + nameBytes r = _
      have hfirst : c.nameBytes = first.length := by
        rw [CodePoint.systemBytes?] at hc
        split at hc
        case isTrue hbyte =>
          cases hc
          rw [CodePoint.nameBytes, CodePoint.utf8?_of_isByteSurrogate hbyte]
          rfl
        case isFalse => rw [CodePoint.nameBytes, hc]
      rw [hfirst, ih hr, List.length_append]
    case h_2 => cases h

/-- A name takes the bytes it takes as the file system keeps it. -/
@[simp] theorem Text.nameBytes_stored (t : Text) : t.stored.nameBytes = t.nameBytes := by
  cases ht : t.systemBytes? with
  | some b =>
    rw [stored_of_systemBytes? ht, nameBytes_of_systemBytes? (systemBytes?_systemText b),
      nameBytes_of_systemBytes? ht]
  | none => rw [stored_of_systemBytes?_eq_none ht]

namespace Location

@[simp] theorem stored_nil : Location.stored [] = [] := rfl

@[simp] theorem stored_append (l k : Location) : Location.stored (l ++ k) = l.stored ++ k.stored :=
  List.map_append

@[simp] theorem stored_cons (name : Text) (l : Location) :
    Location.stored (name :: l) = name.stored :: l.stored := rfl

/-- A location that is stored is kept as it is. -/
@[simp] theorem stored_stored (l : Location) : l.stored.stored = l.stored := by
  rw [stored, stored, List.map_map]
  exact List.map_congr_left fun name _ => name.stored_stored

@[simp] theorem stored_eq_nil_iff {l : Location} : l.stored = [] ↔ l = [] := List.map_eq_nil_iff

@[simp] theorem stored_dropLast (l : Location) : Location.stored l.dropLast = l.stored.dropLast :=
  List.map_dropLast

/-- What is above a location is above it however the two are spelled. -/
theorem stored_prefix {l k : Location} (h : l <+: k) : l.stored <+: k.stored := h.map _

/-- What is above a stored location is the stored form of what is above it as it is spelled. -/
theorem exists_of_stored_prefix {l k : Location} (h : l.stored <+: k.stored) :
    ∃ p, p <+: k ∧ Location.stored p = l.stored := by
  refine ⟨k.take l.length, List.take_prefix _ _, ?_⟩
  have hlength : l.stored.length = l.length := List.length_map _
  rw [Location.stored, List.map_take, ← hlength]
  exact (List.prefix_iff_eq_take.mp h).symm

/-- A double dot has one spelling. -/
theorem up_mem_stored_iff {l : Location} : Path.up ∈ l.stored ↔ Path.up ∈ l := by
  have hup : ∀ name : Text, name.stored = Path.up ↔ name = Path.up := fun name =>
    Text.stored_eq_iff (by decide)
  constructor
  · intro h
    obtain ⟨name, hname, hkept⟩ := List.mem_map.mp h
    exact (hup name).mp hkept ▸ hname
  · intro h
    exact List.mem_map.mpr ⟨Path.up, h, (hup Path.up).mpr rfl⟩

end Location

/-! ## Entries -/

/-- The file system keeps a node that is no link as it is. -/
theorem Node.stored_of_ne_link {n : Node} (h : ∀ target, n ≠ .link target) : n.stored = n := by
  cases n with
  | link target => exact absurd rfl (h target)
  | file _ | directory | ledger _ => rfl

theorem Node.stored_of_isFile {n : Node} (h : n.isFile = true) : n.stored = n :=
  stored_of_ne_link fun target hlink => by
    subst hlink
    cases h

namespace Tree

theorem find_write (es : List (Location × Node)) (l k : Location) (n : Node) :
    find (write es l n) k = if l = k then some n else find es k := by
  induction es with
  | nil => simp only [write, find]
  | cons e es ih =>
    obtain ⟨place, m⟩ := e
    rw [write]
    by_cases hplace : place = l
    · subst hplace
      rw [if_pos rfl, find, find]
      by_cases hk : place = k
      · rw [if_pos hk, if_pos hk]
      · rw [if_neg hk, if_neg hk, if_neg hk]
    · rw [if_neg hplace, find, find, ih]
      by_cases hk : place = k
      · have hne : ¬ l = k := fun h => hplace (hk.trans h.symm)
        rw [if_pos hk, if_neg hne, if_pos hk]
      · rw [if_neg hk, if_neg hk]

/-- Anywhere but at the root, what stands is among the entries. -/
theorem get?_of_ne_nil {t : Tree} {l : Location} (h : l ≠ []) :
    t.get? l = find t.entries l.stored := by
  cases l with
  | nil => exact absurd rfl h
  | cons name names => rfl

/-- What stands at a location stands at every spelling of it. -/
theorem get?_congr {t : Tree} {l k : Location} (h : l.stored = k.stored) : t.get? l = t.get? k := by
  by_cases hl : l = []
  · subst hl
    rw [Location.stored_eq_nil_iff.mp h.symm]
  · have hk : k ≠ [] := fun hk => hl (by rwa [hk, Location.stored_nil, Location.stored_eq_nil_iff] at h)
    rw [get?_of_ne_nil hl, get?_of_ne_nil hk, h]

@[simp] theorem get?_stored (t : Tree) (l : Location) : t.get? l.stored = t.get? l :=
  get?_congr l.stored_stored

/-- Anywhere but at the root, what is put at a location stands there, and everything else stands
where it stood. -/
theorem get?_put {t : Tree} {l : Location} {n : Node} (hl : l ≠ []) (k : Location) :
    (t.put l n).get? k = if l.stored = k.stored then some n.stored else t.get? k := by
  by_cases hk : k = []
  · subst hk
    rw [Location.stored_nil, if_neg (mt Location.stored_eq_nil_iff.mp hl)]
    rfl
  · rw [get?_of_ne_nil hk, get?_of_ne_nil hk]
    exact find_write t.entries l.stored k.stored n.stored

theorem get?_put_self {t : Tree} {l : Location} {n : Node} (hl : l ≠ []) (hn : n.stored = n) :
    (t.put l n).get? l = some n := by
  rw [get?_put hl, if_pos rfl, hn]

theorem get?_put_of_ne {t : Tree} {l k : Location} {n : Node} (hl : l ≠ [])
    (hk : l.stored ≠ k.stored) : (t.put l n).get? k = t.get? k := by
  rw [get?_put hl, if_neg hk]

/-- What takes the place of a node that is no link, and is none itself, adds no steps to
resolving. -/
theorem linkSteps_write {es : List (Location × Node)} {l : Location} {n : Node}
    (hn : stepsOf n = 0) (hold : ∀ m, find es l = some m → stepsOf m = 0) :
    (write es l n).foldr (fun e k => stepsOf e.2 + k) 0
      = es.foldr (fun e k => stepsOf e.2 + k) 0 := by
  induction es with
  | nil => simp only [write, List.foldr_cons, List.foldr_nil, hn]
  | cons e es ih =>
    obtain ⟨place, m⟩ := e
    rw [write]
    by_cases hplace : place = l
    · have hm : stepsOf m = 0 := hold m (by rw [find, if_pos hplace])
      rw [if_pos hplace, List.foldr_cons, List.foldr_cons, hn, hm]
    · rw [if_neg hplace, List.foldr_cons, List.foldr_cons, ih]
      intro m' hm'
      exact hold m' (by rw [find, if_neg hplace, hm'])

theorem linkSteps_put {t : Tree} {l : Location} {n : Node} (hl : l ≠ []) (hn : stepsOf n = 0)
    (hold : ∀ m, t.get? l = some m → stepsOf m = 0) : (t.put l n).linkSteps = t.linkSteps := by
  have hkept : n.stored = n := Node.stored_of_ne_link fun target hlink => by
    subst hlink
    cases hn
  rw [put, hkept]
  refine linkSteps_write hn fun m hm => hold m ?_
  rw [get?_of_ne_nil hl, hm]

end Tree

/-! ## Changes -/

/-- What a node may have become in a later tree. -/
inductive Node.Stays : Node → Node → Prop
  | directory : Stays .directory .directory
  | link (target : Text) : Stays (.link target) (.link target)
  | file {n m : Node} (hn : n.isFile = true) (hm : m.isFile = true) : Stays n m

namespace Node

theorem Stays.refl (n : Node) : n.Stays n := by
  cases n with
  | directory => exact .directory
  | link target => exact .link target
  | file _ | ledger _ => exact .file rfl rfl

theorem Stays.trans {n m k : Node} (h : n.Stays m) (h' : m.Stays k) : n.Stays k := by
  cases h with
  | directory | link => exact h'
  | file hn hm =>
    cases h' with
    | directory | link => cases hm
    | file _ hk => exact .file hn hk

/-- What was a file is still one. -/
theorem Stays.isFile {n m : Node} (h : n.Stays m) (hn : n.isFile = true) : m.isFile = true := by
  cases h with
  | directory | link => cases hn
  | file _ hm => exact hm

/-- A file is no link. -/
theorem stepsOf_of_isFile {n : Node} (h : n.isFile = true) : Tree.stepsOf n = 0 := by
  cases n with
  | file _ | ledger _ => rfl
  | directory | link _ => cases h

end Node

namespace Tree

/-- In a later tree every node is still what it was, but for the contents of files, and no link is
new. -/
structure Evolves (t t' : Tree) : Prop where
  stays : ∀ l n, t.get? l = some n → ∃ n', t'.get? l = some n' ∧ n.Stays n'
  link_old : ∀ l target, t'.get? l = some (.link target) → t.get? l = some (.link target)
  linkSteps_eq : t'.linkSteps = t.linkSteps

/-- In a later tree everything stands where it stood, and no link is new. -/
structure Extends (t t' : Tree) : Prop where
  keeps : ∀ l n, t.get? l = some n → t'.get? l = some n
  link_old : ∀ l target, t'.get? l = some (.link target) → t.get? l = some (.link target)
  linkSteps_eq : t'.linkSteps = t.linkSteps

theorem Evolves.trans {t₁ t₂ t₃ : Tree} (h : t₁.Evolves t₂) (h' : t₂.Evolves t₃) :
    t₁.Evolves t₃ where
  stays l n hn := by
    obtain ⟨m, hm, hnm⟩ := h.stays l n hn
    obtain ⟨k, hk, hmk⟩ := h'.stays l m hm
    exact ⟨k, hk, hnm.trans hmk⟩
  link_old l target hl := h.link_old l target (h'.link_old l target hl)
  linkSteps_eq := h'.linkSteps_eq.trans h.linkSteps_eq

/-- The links are the same before and after. -/
theorem Evolves.link_iff {t t' : Tree} (h : t.Evolves t') (l : Location) (target : Text) :
    t'.get? l = some (.link target) ↔ t.get? l = some (.link target) := by
  refine ⟨h.link_old l target, fun hl => ?_⟩
  obtain ⟨n, hn, hstays⟩ := h.stays l _ hl
  cases hstays with
  | link => exact hn
  | file hfile => cases hfile

theorem Extends.refl (t : Tree) : t.Extends t where
  keeps _ _ h := h
  link_old _ _ h := h
  linkSteps_eq := rfl

theorem Extends.trans {t₁ t₂ t₃ : Tree} (h : t₁.Extends t₂) (h' : t₂.Extends t₃) :
    t₁.Extends t₃ where
  keeps l n hn := h'.keeps l n (h.keeps l n hn)
  link_old l target hl := h.link_old l target (h'.link_old l target hl)
  linkSteps_eq := h'.linkSteps_eq.trans h.linkSteps_eq

theorem Extends.evolves {t t' : Tree} (h : t.Extends t') : t.Evolves t' where
  stays l n hn := ⟨n, h.keeps l n hn, .refl n⟩
  link_old := h.link_old
  linkSteps_eq := h.linkSteps_eq

/-- A directory put where nothing stood extends the tree. -/
theorem extends_put_directory {t : Tree} {l : Location} (hl : l ≠ []) (hvacant : t.get? l = none) :
    t.Extends (t.put l .directory) where
  keeps k n hn := by
    have hk : l.stored ≠ k.stored := fun hsame => by
      rw [← get?_congr hsame, hvacant] at hn
      cases hn
    rw [get?_put_of_ne hl hk, hn]
  link_old k target hk := by
    rw [get?_put hl] at hk
    split at hk
    · cases hk
    · exact hk
  linkSteps_eq := linkSteps_put hl rfl fun m hm => by
    rw [hvacant] at hm
    cases hm

/-- A file put where nothing or a file stood is a change the tree evolves by. -/
theorem evolves_put_file {t : Tree} {l : Location} {n : Node} (hl : l ≠ []) (hn : n.isFile = true)
    (hold : ∀ m, t.get? l = some m → m.isFile = true) : t.Evolves (t.put l n) where
  stays k m hm := by
    by_cases hk : l.stored = k.stored
    · rw [← get?_congr hk] at hm
      refine ⟨n, ?_, .file (hold m hm) hn⟩
      rw [← get?_congr hk, get?_put_self hl (Node.stored_of_isFile hn)]
    · exact ⟨m, by rw [get?_put_of_ne hl hk, hm], .refl m⟩
  link_old k target hk := by
    rw [get?_put hl, Node.stored_of_isFile hn] at hk
    split at hk
    · obtain rfl := Option.some.inj hk
      cases hn
    · exact hk
  linkSteps_eq := linkSteps_put hl (Node.stepsOf_of_isFile hn) fun m hm =>
    Node.stepsOf_of_isFile (hold m hm)

end Tree

end Tablewright
