/-
Walking and resolving in a tree that changes.

A walk is followed from link to link: `advance` goes up to the next one, `walkFrom` repeats it. What
a walk finds stands in the tree, and in a later tree the same walk ends at the same place
(`walk_evolves`), or at what was put where the walk ended at nothing (`walk_filled`).
Resolving looks at the links alone, and these do not change; the one question it asks besides is
whether a walk goes in circles, and a walk that does so does not get out by going further
(`walkFrom_linkLoop_append`).
-/
import Tablewright.Proofs.Files.Tree

set_option autoImplicit false

namespace Tablewright

namespace Place

/-- Where a place is. -/
def location : Place → Location
  | .existing l _ => l
  | .vacant l => l

/-- The place is a directory. -/
def IsDirectory (place : Place) : Prop := ∃ l, place = .existing l .directory

/-- A place that has to be a directory is found when it is one. -/
theorem asDirectory_ok_iff {found place : Place} :
    found.asDirectory = .ok place ↔ found = place ∧ place.IsDirectory := by
  constructor
  · intro h
    rw [asDirectory.eq_def] at h
    split at h
    case h_1 l =>
      cases h
      exact ⟨rfl, l, rfl⟩
    case h_2 | h_3 => cases h
  · rintro ⟨rfl, l, rfl⟩
    rfl

theorem asDirectory_ne_linkLoop (place : Place) : place.asDirectory ≠ .error .linkLoop := by
  rw [asDirectory.eq_def]
  split <;> exact nofun

/-- A walk behind which a directory is asked for ends where it ends anyway, at a directory. -/
theorem asked_ok_iff {asked : Bool} {r : Except SystemCause Place} {place : Place} :
    (if asked then r >>= asDirectory else r) = .ok place ↔
      r = .ok place ∧ (asked = true → place.IsDirectory) := by
  cases asked with
  | false => simp
  | true =>
    cases r with
    | error cause => exact iff_of_false (fun h => (by cases h)) fun h => (by cases h.1)
    | ok found =>
      rw [if_pos rfl]
      refine asDirectory_ok_iff.trans ?_
      rw [Except.ok.injEq]
      exact and_congr_right fun _ => ⟨fun h _ => h, fun h => h rfl⟩

/-- It goes in circles when it does so anyway. -/
theorem asked_linkLoop_iff {asked : Bool} {r : Except SystemCause Place} :
    (if asked then r >>= asDirectory else r) = .error .linkLoop ↔ r = .error .linkLoop := by
  cases asked with
  | false => simp
  | true =>
    cases r with
    | error cause => exact Iff.rfl
    | ok found => exact iff_of_false found.asDirectory_ne_linkLoop nofun

end Place

namespace Tree

variable {t t' : Tree}

/-! ## Up to the next link -/

/-- What an advance ends at stands there; a directory may also be the one it came from. -/
theorem get?_of_advance {followLast : Bool} {here l : Location} {names : List Text} {n : Node}
    (h : t.advance followLast here names = .ended (.existing l n)) :
    n = .directory ∨ t.get? l = some n := by
  induction names generalizing here with
  | nil =>
    cases h
    exact .inl rfl
  | cons name rest ih =>
    rw [advance] at h
    split at h
    · exact ih h
    split at h
    · cases h
    dsimp only at h
    split at h
    case h_1 => split at h <;> cases h
    case h_2 => exact ih h
    case h_3 target hlink =>
      split at h
      · cases h
        exact .inr (by rw [get?_stored, hlink])
      · cases h
    case h_4 node _ _ hnode =>
      split at h
      · cases h
        exact .inr (by rw [get?_stored, hnode])
      · cases h

/-- An advance that follows links does not end at one. -/
theorem ne_link_of_advance {here l : Location} {names : List Text} {n : Node}
    (h : t.advance true here names = .ended (.existing l n)) (target : Text) :
    n ≠ .link target := by
  induction names generalizing here with
  | nil =>
    cases h
    exact nofun
  | cons name rest ih =>
    rw [advance] at h
    split at h
    · exact ih h
    split at h
    · cases h
    dsimp only at h
    split at h
    case h_1 => split at h <;> cases h
    case h_2 => exact ih h
    case h_3 =>
      rw [Bool.not_true, Bool.and_false] at h
      cases h
    case h_4 node _ hnolink _ =>
      split at h
      · cases h
        exact fun hn => hnolink target hn
      · cases h

/-- Where an advance ends at nothing, nothing stands, and it is not the root. -/
theorem vacant_of_advance {followLast : Bool} {here l : Location} {names : List Text}
    (h : t.advance followLast here names = .ended (.vacant l)) : l ≠ [] ∧ t.get? l = none := by
  induction names generalizing here with
  | nil => cases h
  | cons name rest ih =>
    rw [advance] at h
    split at h
    · exact ih h
    split at h
    · cases h
    dsimp only at h
    split at h
    case h_1 hnone =>
      split at h
      · cases h
        refine ⟨mt Location.stored_eq_nil_iff.mp ?_, by rw [get?_stored, hnone]⟩
        exact List.append_ne_nil_of_right_ne_nil _ (List.cons_ne_nil _ _)
      · cases h
    case h_2 => exact ih h
    case h_3 => split at h <;> cases h
    case h_4 => split at h <;> cases h

/-- Where an advance ends, the location is a stored one. -/
theorem stored_of_advance {followLast : Bool} {here : Location} {names : List Text} {place : Place}
    (h : t.advance followLast here names = .ended place) :
    place.location.stored = place.location := by
  induction names generalizing here with
  | nil =>
    cases h
    exact here.stored_stored
  | cons name rest ih =>
    rw [advance] at h
    split at h
    · exact ih h
    split at h
    · cases h
    dsimp only at h
    split at h
    case h_2 => exact ih h
    case h_1 | h_3 | h_4 =>
      split at h
      · cases h
        exact Location.stored_stored _
      · cases h

/-- How an advance that ends at a node or comes to a link goes in a later tree. -/
inductive Lasts : Halt → Halt → Prop
  | ended {l : Location} {n n' : Node} (hn : n.Stays n') :
      Lasts (.ended (.existing l n)) (.ended (.existing l n'))
  | link (directory : Location) (target : Text) (rest : List Text) :
      Lasts (.link directory target rest) (.link directory target rest)

/-- In a later tree an advance goes as it went, unless it ended at nothing or could not go on. -/
theorem advance_evolves (h : t.Evolves t') (followLast : Bool) (here : Location)
    (names : List Text) :
    (∃ place, t.advance followLast here names = .ended (.vacant place)) ∨
      (∃ cause, t.advance followLast here names = .failed cause) ∨
      Lasts (t.advance followLast here names) (t'.advance followLast here names) := by
  induction names generalizing here with
  | nil => exact .inr (.inr (.ended (.refl _)))
  | cons name rest ih =>
    rw [advance, advance]
    split
    · exact ih here.dropLast
    split
    · exact .inr (.inl ⟨_, rfl⟩)
    dsimp only
    cases hnode : t.get? (here ++ [name]) with
    | none =>
      dsimp only
      split
      · exact .inl ⟨_, rfl⟩
      · exact .inr (.inl ⟨_, rfl⟩)
    | some node =>
      obtain ⟨node', hnode', hstays⟩ := h.stays _ _ hnode
      rw [hnode']
      cases hstays with
      | directory => exact ih (here ++ [name])
      | link target =>
        dsimp only
        split
        · exact .inr (.inr (.ended (.refl _)))
        · exact .inr (.inr (.link _ _ _))
      | file hn hm =>
        cases node with
        | directory | link _ => cases hn
        | file _ | ledger _ =>
          cases node' with
          | directory | link _ => cases hm
          | file _ | ledger _ =>
            dsimp only
            split
            · exact .inr (.inr (.ended (.file rfl rfl)))
            · exact .inr (.inl ⟨_, rfl⟩)

/-- An advance that ended at a node ends at what the node has become. -/
theorem advance_existing (h : t.Evolves t') {followLast : Bool} {here l : Location}
    {names : List Text} {n : Node}
    (ha : t.advance followLast here names = .ended (.existing l n)) :
    ∃ n', t'.advance followLast here names = .ended (.existing l n') ∧ n.Stays n' := by
  have hgoes := advance_evolves h followLast here names
  rw [ha] at hgoes
  rcases hgoes with ⟨_, hvacant⟩ | ⟨_, hfailed⟩ | hlasts
  · cases hvacant
  · cases hfailed
  · generalize t'.advance followLast here names = later at hlasts ⊢
    cases hlasts with
    | ended hn => exact ⟨_, rfl, hn⟩

/-- An advance that came to a link comes to it again. -/
theorem advance_link (h : t.Evolves t') {followLast : Bool} {here directory : Location}
    {names rest : List Text} {target : Text}
    (ha : t.advance followLast here names = .link directory target rest) :
    t'.advance followLast here names = .link directory target rest := by
  have hgoes := advance_evolves h followLast here names
  rw [ha] at hgoes
  rcases hgoes with ⟨_, hvacant⟩ | ⟨_, hfailed⟩ | hlasts
  · cases hvacant
  · cases hfailed
  · generalize t'.advance followLast here names = later at hlasts ⊢
    cases hlasts with
    | link => rfl

/-- An advance that ended at nothing ends at the file or directory that was put there. -/
theorem advance_filled (h : t.Evolves t') {followLast : Bool} {here l : Location}
    {names : List Text} {n : Node} (hn : ∀ target, n ≠ .link target) (hput : t'.get? l = some n)
    (hvacant : t.advance followLast here names = .ended (.vacant l)) :
    t'.advance followLast here names = .ended (.existing l n) := by
  induction names generalizing here with
  | nil => cases hvacant
  | cons name rest ih =>
    rw [advance] at hvacant ⊢
    split at hvacant
    case isTrue hup => rw [if_pos hup, ih hvacant]
    case isFalse hup =>
      rw [if_neg hup]
      split at hvacant
      case isTrue => cases hvacant
      case isFalse hshort =>
        rw [if_neg hshort]
        dsimp only at hvacant ⊢
        split at hvacant
        case h_1 hnone =>
          split at hvacant
          case isFalse => cases hvacant
          case isTrue hlast =>
            cases hvacant
            rw [get?_stored] at hput
            rw [hput]
            cases n with
            | directory =>
              rw [List.isEmpty_iff.mp hlast]
              rfl
            | link target => exact absurd rfl (hn target)
            | file _ | ledger _ =>
              dsimp only
              rw [if_pos hlast]
        case h_2 hdirectory =>
          obtain ⟨node', hnode', hstays⟩ := h.stays _ _ hdirectory
          cases hstays with
          | directory =>
            rw [hnode']
            exact ih hvacant
          | file hfile => cases hfile
        case h_3 => split at hvacant <;> cases hvacant
        case h_4 => split at hvacant <;> cases hvacant

/-! ## Walks -/

/-- A walk that ends at a place: at once, or behind a link it follows. Behind a link at the last name
that asks for a directory the place is one. -/
inductive Walks (t : Tree) (followLast : Bool) (place : Place) : Nat → Location → List Text → Prop
  | ended {links : Nat} {here : Location} {names : List Text}
      (h : t.advance followLast here names = .ended place) :
      Walks t followLast place links here names
  | link {links : Nat} {here directory : Location} {names rest : List Text} {target : Text}
      (h : t.advance followLast here names = .link directory target rest)
      (hasked : (rest.isEmpty && Path.asksDirectory target) = true → place.IsDirectory)
      (hrest : Walks t followLast place links
        (if (Path.ofText target).isAbsolute then [] else directory)
        ((Path.ofText target).names ++ rest)) :
      Walks t followLast place (links + 1) here names

/-- Walking succeeds exactly where a walk ends. -/
theorem walkFrom_ok_iff {followLast : Bool} {links : Nat} {here : Location} {names : List Text}
    {place : Place} : t.walkFrom followLast links here names = .ok place ↔
      Walks t followLast place links here names := by
  constructor
  · intro h
    induction links generalizing here names with
    | zero =>
      rw [walkFrom] at h
      split at h
      case h_1 hadvance =>
        cases h
        exact .ended hadvance
      case h_2 | h_3 => cases h
    | succ links ih =>
      rw [walkFrom] at h
      split at h
      case h_1 hadvance =>
        cases h
        exact .ended hadvance
      case h_2 => cases h
      case h_3 hadvance =>
        obtain ⟨hrest, hasked⟩ := Place.asked_ok_iff.mp h
        exact .link hadvance hasked (ih hrest)
  · intro h
    induction h with
    | ended hadvance => rw [walkFrom, hadvance]
    | link hadvance hasked _ ih =>
      rw [walkFrom, hadvance]
      exact Place.asked_ok_iff.mpr ⟨ih, hasked⟩

/-- What a walk ends at stands there, unless it is a directory. -/
theorem Walks.get?_of_existing {followLast : Bool} {links : Nat} {here l : Location}
    {names : List Text} {n : Node} (h : Walks t followLast (.existing l n) links here names) :
    n = .directory ∨ t.get? l = some n := by
  induction h with
  | ended hadvance => exact get?_of_advance hadvance
  | link _ _ _ ih => exact ih

theorem Walks.ne_link {links : Nat} {here l : Location} {names : List Text} {n : Node}
    (h : Walks t true (.existing l n) links here names) (target : Text) : n ≠ .link target := by
  induction h with
  | ended hadvance => exact ne_link_of_advance hadvance target
  | link _ _ _ ih => exact ih

/-- Where a walk ends at nothing, nothing stands, and it is not the root. -/
theorem Walks.vacant {followLast : Bool} {links : Nat} {here l : Location} {names : List Text}
    (h : Walks t followLast (.vacant l) links here names) : l ≠ [] ∧ t.get? l = none := by
  induction h with
  | ended hadvance => exact vacant_of_advance hadvance
  | link _ _ _ ih => exact ih

/-- A walk ends at a stored location. -/
theorem Walks.stored {followLast : Bool} {links : Nat} {here : Location} {names : List Text}
    {place : Place} (h : Walks t followLast place links here names) :
    place.location.stored = place.location := by
  induction h with
  | ended hadvance => exact stored_of_advance hadvance
  | link _ _ _ ih => exact ih

/-- A walk that ends at a node ends in a later tree at what the node has become. -/
theorem Walks.evolves (h : t.Evolves t') {followLast : Bool} {links : Nat} {here l : Location}
    {names : List Text} {n : Node} (hwalk : Walks t followLast (.existing l n) links here names) :
    ∃ n', Walks t' followLast (.existing l n') links here names ∧ n.Stays n' := by
  induction hwalk with
  | ended hadvance =>
    obtain ⟨n', hlater, hn⟩ := advance_existing h hadvance
    exact ⟨n', .ended hlater, hn⟩
  | link hadvance hasked _ ih =>
    obtain ⟨n', hrest, hn⟩ := ih
    refine ⟨n', .link (advance_link h hadvance) (fun hask => ?_) hrest, hn⟩
    obtain ⟨_, hdirectory⟩ := hasked hask
    cases hdirectory
    cases hn with
    | directory => exact ⟨_, rfl⟩
    | file hfile => cases hfile

/-- A walk that ended at nothing ends at the file or directory that was put there. -/
theorem Walks.filled (h : t.Evolves t') {followLast : Bool} {links : Nat} {here l : Location}
    {names : List Text} {n : Node} (hn : ∀ target, n ≠ .link target) (hput : t'.get? l = some n)
    (hwalk : Walks t followLast (.vacant l) links here names) :
    Walks t' followLast (.existing l n) links here names := by
  induction hwalk with
  | ended hadvance => exact .ended (advance_filled h hn hput hadvance)
  | link hadvance hasked _ ih =>
    refine .link (advance_link h hadvance) (fun hask => ?_) ih
    obtain ⟨_, hdirectory⟩ := hasked hask
    cases hdirectory

/-! ## Walks along a location -/

/-- A location is walked along when it is not too long and the walk ends. -/
theorem walk_ok_iff {followLast : Bool} {l : Location} {place : Place} :
    t.walk followLast l = .ok place ↔
      l.isTooLong = false ∧ Walks t followLast place maxLinks [] l := by
  rw [walk, ← walkFrom_ok_iff]
  cases l.isTooLong with
  | false => simp
  | true => simp

theorem walk_evolves (h : t.Evolves t') {followLast : Bool} {l place : Location} {n : Node}
    (hwalk : t.walk followLast l = .ok (.existing place n)) :
    ∃ n', t'.walk followLast l = .ok (.existing place n') ∧ n.Stays n' := by
  obtain ⟨hshort, hwalks⟩ := walk_ok_iff.mp hwalk
  obtain ⟨n', hlater, hn⟩ := hwalks.evolves h
  exact ⟨n', walk_ok_iff.mpr ⟨hshort, hlater⟩, hn⟩

theorem walk_filled (h : t.Evolves t') {followLast : Bool} {l place : Location} {n : Node}
    (hn : ∀ target, n ≠ .link target) (hput : t'.get? place = some n)
    (hwalk : t.walk followLast l = .ok (.vacant place)) :
    t'.walk followLast l = .ok (.existing place n) := by
  obtain ⟨hshort, hwalks⟩ := walk_ok_iff.mp hwalk
  exact walk_ok_iff.mpr ⟨hshort, hwalks.filled h hn hput⟩

theorem stored_of_walk {followLast : Bool} {l : Location} {place : Place}
    (h : t.walk followLast l = .ok place) : place.location.stored = place.location :=
  (walk_ok_iff.mp h).2.stored

/-- What a walk finds that is no directory stands where it was found. -/
theorem get?_of_walk {followLast : Bool} {l place : Location} {n : Node}
    (h : t.walk followLast l = .ok (.existing place n)) :
    n = .directory ∨ t.get? place = some n :=
  (walk_ok_iff.mp h).2.get?_of_existing

/-- A walk that follows links and does not end at a directory ends at a file. -/
theorem isFile_of_walk {l place : Location} {n : Node}
    (h : t.walk true l = .ok (.existing place n)) (hn : n ≠ .directory) : n.isFile = true := by
  cases n with
  | directory => exact absurd rfl hn
  | link target => exact absurd rfl ((walk_ok_iff.mp h).2.ne_link target)
  | file _ | ledger _ => rfl

theorem vacant_of_walk {followLast : Bool} {l place : Location}
    (h : t.walk followLast l = .ok (.vacant place)) : place ≠ [] ∧ t.get? place = none :=
  (walk_ok_iff.mp h).2.vacant

/-! ## Circles -/

/-- An advance that comes to a link comes to it with more names to go. -/
theorem advance_link_append {here directory : Location} {names rest : List Text} {target : Text}
    (h : t.advance true here names = .link directory target rest) (more : List Text) :
    t.advance true here (names ++ more) = .link directory target (rest ++ more) := by
  induction names generalizing here with
  | nil => cases h
  | cons name names ih =>
    rw [advance] at h
    rw [List.cons_append, advance]
    split at h
    case isTrue hup => rw [if_pos hup, ih h]
    case isFalse hup =>
      rw [if_neg hup]
      split at h
      case isTrue => cases h
      case isFalse hshort =>
        rw [if_neg hshort]
        dsimp only at h ⊢
        split at h
        case h_1 => split at h <;> cases h
        case h_2 => exact ih h
        case h_3 =>
          rw [Bool.not_true, Bool.and_false] at h
          cases h
          rw [Bool.not_true, Bool.and_false]
          rfl
        case h_4 => split at h <;> cases h

/-- Only following links can go in circles. -/
theorem advance_ne_linkLoop (followLast : Bool) (here : Location) (names : List Text) :
    t.advance followLast here names ≠ .failed .linkLoop := by
  induction names generalizing here with
  | nil => exact nofun
  | cons name rest ih =>
    rw [advance]
    split
    · exact ih here.dropLast
    split
    · exact nofun
    dsimp only
    split
    case h_1 => split <;> exact nofun
    case h_2 => exact ih (here ++ [name])
    case h_3 => split <;> exact nofun
    case h_4 => split <;> exact nofun

/-- A walk that goes in circles does not get out by going further. -/
theorem walkFrom_linkLoop_append {links : Nat} {here : Location} {names : List Text}
    (h : t.walkFrom true links here names = .error .linkLoop) (more : List Text) :
    t.walkFrom true links here (names ++ more) = .error .linkLoop := by
  induction links generalizing here names with
  | zero =>
    rw [walkFrom] at h
    split at h
    case h_1 => cases h
    case h_2 hadvance =>
      cases h
      exact absurd hadvance (advance_ne_linkLoop _ _ _)
    case h_3 hadvance => rw [walkFrom, advance_link_append hadvance]
  | succ links ih =>
    rw [walkFrom] at h
    split at h
    case h_1 => cases h
    case h_2 hadvance =>
      cases h
      exact absurd hadvance (advance_ne_linkLoop _ _ _)
    case h_3 hadvance =>
      rw [walkFrom, advance_link_append hadvance]
      dsimp only
      rw [← List.append_assoc]
      exact Place.asked_linkLoop_iff.mpr (ih (Place.asked_linkLoop_iff.mp h))

/-- Where walking along a location goes in circles, walking along a longer one does not end. -/
theorem walk_append_ne_ok {l : Location} (h : t.walk true l = .error .linkLoop) (more : List Text)
    (place : Place) : t.walk true (l ++ more) ≠ .ok place := by
  intro hok
  obtain ⟨-, hwalks⟩ := walk_ok_iff.mp hok
  have hloop : t.walkFrom true maxLinks [] l = .error .linkLoop := by
    rw [walk] at h
    split at h
    · cases h
    · exact h
  rw [← walkFrom_ok_iff, walkFrom_linkLoop_append hloop] at hwalks
  cases hwalks

end Tree

end Tablewright
