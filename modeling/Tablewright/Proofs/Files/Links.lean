/-
Paths where no link stands.

Links can make two paths lead to one file. Where none stands, neither on the way to the project nor
inside it, a path of names is resolved to these very names behind the location of the project, and
the walk along them ends there if anywhere (`LeadsTo.place_eq`). So names the file system keeps apart
lead to different places. Tools put no links anywhere, so a project without links stays one.
-/
import Tablewright.Proofs.Files.Store

set_option autoImplicit false

namespace Tablewright

namespace Tree

variable {t t' : Tree}

/-! ## No double dots -/

/-- Normalising leaves no double dots. -/
theorem up_not_mem_normalizeNames {kept : List Text} (h : Path.up ∉ kept) (names : List Text) :
    Path.up ∉ Path.normalizeNames kept names := by
  induction names generalizing kept with
  | nil => exact h
  | cons name rest ih =>
    rw [Path.normalizeNames]
    split
    case isTrue => exact ih fun hup => h (List.dropLast_subset kept hup)
    case isFalse hname =>
      refine ih fun hup => ?_
      rcases List.mem_append.mp hup with hkept | hlast
      · exact h hkept
      · exact hname (List.mem_singleton.mp hlast).symm

/-- Resolving to the end leaves no double dots. -/
theorem up_not_mem_resolveFrom {fuel : Nat} {active : List Location} {restarts : Nat → Bool}
    {here : Location} {names : List Text} (h : Path.up ∉ here)
    (hdone : (t.resolveFrom fuel active restarts here names).isComplete = true) :
    Path.up ∉ (t.resolveFrom fuel active restarts here names).location := by
  induction fuel generalizing active restarts here names with
  | zero =>
    rw [resolveFrom] at hdone
    cases hdone
  | succ fuel ih =>
    cases names with
    | nil =>
      rw [resolveFrom]
      exact h
    | cons name rest =>
      rw [resolveFrom] at hdone ⊢
      split at hdone
      case isTrue hup =>
        rw [if_pos hup]
        exact ih (fun hmem => h (List.dropLast_subset here hmem)) hdone
      case isFalse hup =>
        rw [if_neg hup]
        dsimp only at hdone ⊢
        have hnext : Path.up ∉ here ++ [name] := fun hmem => by
          rcases List.mem_append.mp hmem with hhere | hlast
          · exact h hhere
          · exact hup (List.mem_singleton.mp hlast).symm
        split at hdone
        case h_1 target hlink =>
          split at hdone
          case isTrue => cases hdone
          case isFalse hactive =>
            rw [if_neg hactive]
            -- the target is resolved from the root or from where the link stands
            have hstart : Path.up ∉ (if (Path.ofText target).isAbsolute then [] else here) := by
              split
              · exact List.not_mem_nil
              · exact h
            generalize (if (Path.ofText target).isAbsolute then [] else here) = start
              at hstart hdone ⊢
            split at hdone
            case isTrue hinner =>
              rw [if_pos hinner]
              exact ih (ih hstart hinner) hdone
            case isFalse => cases hdone
        case h_2 => exact ih hnext hdone

/-- A location that was resolved holds no double dots. -/
theorem up_not_mem_landing (t : Tree) (l : Location) : Path.up ∉ t.landing l := by
  rw [landing, resolution]
  split
  case isTrue hdone => exact up_not_mem_resolveFrom List.not_mem_nil hdone
  case isFalse => exact up_not_mem_normalizeNames List.not_mem_nil _

/-! ## Plain locations -/

/-- A location without double dots on the way to which no link stands. -/
structure Plain (t : Tree) (l : Location) : Prop where
  no_up : Path.up ∉ l
  no_link : ∀ p, p <+: l → ∀ target, t.get? p ≠ some (.link target)

/-- The next name on the way is none of double dots, and no link stands there. -/
theorem Plain.next {here : Location} {name : Text} {rest : List Text}
    (h : t.Plain (here ++ name :: rest)) :
    name ≠ Path.up ∧ (∀ target, t.get? (here ++ [name]) ≠ some (.link target)) ∧
      t.Plain (here ++ [name] ++ rest) := by
  have hsame : here ++ [name] ++ rest = here ++ name :: rest := by
    rw [List.append_assoc, List.singleton_append]
  refine ⟨?_, h.no_link _ ⟨rest, hsame⟩, hsame ▸ h⟩
  rintro rfl
  exact h.no_up (List.mem_append_right _ List.mem_cons_self)

/-- Another spelling of a plain location is plain. -/
theorem Plain.respelled {l k : Location} (h : t.Plain l) (hk : k.stored = l.stored) : t.Plain k where
  no_up hup := h.no_up <| by rwa [← Location.up_mem_stored_iff, ← hk, Location.up_mem_stored_iff]
  no_link p hp target hlink := by
    obtain ⟨q, hq, hsame⟩ := Location.exists_of_stored_prefix (hk ▸ Location.stored_prefix hp)
    rw [← get?_congr hsame] at hlink
    exact h.no_link q hq target hlink

/-- Resolving passes a plain location. -/
theorem resolveFrom_plain_append {fuel : Nat} {active : List Location} {restarts : Nat → Bool}
    {here : Location} {names rest : List Text} (h : t.Plain (here ++ names)) :
    t.resolveFrom (names.length + fuel) active restarts here (names ++ rest)
      = t.resolveFrom fuel active restarts (here ++ names) rest := by
  induction names generalizing here with
  | nil => rw [List.length_nil, Nat.zero_add, List.nil_append, List.append_nil]
  | cons name names ih =>
    obtain ⟨hname, hlink, hplain⟩ := h.next
    have hfuel : (name :: names).length + fuel = names.length + fuel + 1 := by
      rw [List.length_cons]
      omega
    rw [hfuel, List.cons_append, resolveFrom, if_neg hname]
    dsimp only
    split
    case h_1 target ht => exact absurd ht (hlink target)
    case h_2 => rw [ih hplain, List.append_assoc, List.singleton_append]

/-- A plain location is resolved to itself. -/
theorem resolveFrom_of_plain {fuel : Nat} {active : List Location} {restarts : Nat → Bool}
    {here : Location} {names : List Text} (h : t.Plain (here ++ names))
    (hfuel : names.length < fuel) :
    t.resolveFrom fuel active restarts here names = ⟨here ++ names, true⟩ := by
  obtain ⟨left, rfl⟩ := Nat.exists_eq_add_of_lt hfuel
  have hpass : t.resolveFrom (names.length + (left + 1)) active restarts here (names ++ [])
      = t.resolveFrom (left + 1) active restarts (here ++ names) [] := resolveFrom_plain_append h
  rwa [List.append_nil, resolveFrom] at hpass

/-- There is fuel for every name of the location and for all links. -/
theorem le_resolveFuel (t : Tree) (l : Location) : l.length + t.linkSteps + 1 ≤ t.resolveFuel l := by
  induction l with
  | nil => rw [resolveFuel, List.length_nil, Nat.zero_add]
  | cons name rest ih =>
    rw [resolveFuel, List.length_cons]
    omega

theorem length_lt_resolveFuel (t : Tree) (l : Location) : l.length < t.resolveFuel l := by
  have h := t.le_resolveFuel l
  omega

theorem landing_of_plain {l : Location} (h : t.Plain l) : t.landing l = l := by
  have hresolve : t.resolveFrom (t.resolveFuel l) [] (fun _ => false) [] l = ⟨l, true⟩ :=
    resolveFrom_of_plain h (t.length_lt_resolveFuel l)
  rw [landing, resolution, hresolve]
  rfl

/-- Along a plain location an advance comes to no link, and if it ends at something then at the
location. -/
theorem advance_of_plain {followLast : Bool} {here : Location} {names : List Text}
    (h : t.Plain (here ++ names)) :
    (∀ l n, t.advance followLast here names = .ended (.existing l n) →
        l = Location.stored (here ++ names)) ∧
      ∀ d target rest, t.advance followLast here names ≠ .link d target rest := by
  induction names generalizing here with
  | nil =>
    constructor
    · intro l n ha
      cases ha
      rw [List.append_nil]
    · intro d target rest ha
      cases ha
  | cons name rest ih =>
    obtain ⟨hname, hlink, hrest⟩ := h.next
    have hstep := ih hrest
    rw [List.append_assoc, List.singleton_append] at hstep
    rw [advance, if_neg hname]
    split
    · simp
    dsimp only
    cases hnode : t.get? (here ++ [name]) with
    | none =>
      dsimp only
      split <;> simp
    | some node =>
      cases node with
      | directory => exact hstep
      | link target => exact absurd hnode (hlink target)
      | file _ | ledger _ =>
        dsimp only
        split
        case isTrue hempty =>
          obtain rfl := List.isEmpty_iff.mp hempty
          refine ⟨fun l n ha => ?_, by simp⟩
          cases ha
          rfl
        case isFalse => simp

/-- What a walk along a plain location ends at stands at the location. -/
theorem place_of_walk {l place : Location} {n : Node} (h : t.Plain l)
    (hwalk : t.walk true l = .ok (.existing place n)) : place = l.stored := by
  cases (walk_ok_iff.mp hwalk).2 with
  | ended hadvance => exact (advance_of_plain h).1 _ _ hadvance
  | link hadvance _ _ => exact absurd hadvance ((advance_of_plain h).2 _ _ _)

/-! ## Projects without links -/

/-- No link stands on the way to the project, once its own location is resolved, or inside it. -/
def Unlinked (t : Tree) (root : Location) : Prop :=
  ∀ l target, t.get? l = some (.link target) → ¬ l <+: t.landing root ∧ ¬ t.landing root <+: l

/-- Where no link stands at all, none stands in a project. -/
theorem unlinked_of_linkSteps (h : t.linkSteps = 0) (root : Location) : t.Unlinked root := by
  have hnone : ∀ (es : List (Location × Node)) (l : Location) (target : Text),
      es.foldr (fun e n => stepsOf e.2 + n) 0 = 0 → find es l ≠ some (.link target) := by
    intro es l target hsum
    induction es with
    | nil => exact nofun
    | cons e es ih =>
      obtain ⟨place, n⟩ := e
      obtain ⟨hn, hrest⟩ := Nat.add_eq_zero_iff.mp hsum
      rw [find]
      split
      · rintro hlink
        cases hlink
        exact absurd hn (Nat.succ_ne_zero _)
      · exact ih hrest
  intro l target hl
  cases l with
  | nil => cases hl
  | cons name names => exact absurd hl (hnone t.entries _ target h)

/-- No link comes into a project without links. -/
theorem Unlinked.evolves {root : Location} (h : t.Unlinked root) (hlater : t.Evolves t') :
    t'.Unlinked root := by
  intro l target hl
  rw [landing_evolves hlater]
  exact h l target (hlater.link_old l target hl)

/-- Names inside a project without links are a plain location. -/
theorem Unlinked.plain {root : Location} (h : t.Unlinked root) {names : List Text}
    (hup : Path.up ∉ names) : t.Plain (t.landing root ++ names) where
  no_up hmem := by
    rcases List.mem_append.mp hmem with hbase | hnames
    · exact up_not_mem_landing t root hbase
    · exact hup hnames
  no_link p hp target hl := by
    obtain ⟨habove, hinside⟩ := h p target hl
    rcases List.prefix_or_prefix_of_prefix hp (List.prefix_append (t.landing root) names) with
      hbefore | hbehind
    · exact habove hbefore
    · exact hinside hbehind

end Tree

namespace Project

/-- **Places of names.** In a project without links a path of names leads to the place with these
names, as the file system keeps them, if anywhere. -/
theorem LeadsTo.place_eq {t : Tree} {root place : Location} {path : Text} {n : Node}
    (hlinks : t.Unlinked root) {names : List Text}
    (hread : Path.ofText (Text.trim path) = ⟨false, names⟩) (hup : Path.up ∉ names)
    (h : LeadsTo t root path place n) : place = Location.stored (t.landing root ++ names) := by
  obtain ⟨target, hresolve, hwalk⟩ := h
  obtain ⟨-, base, hbase, htarget, -⟩ := resolveInProject_ok_iff.mp hresolve
  obtain ⟨-, rfl, -⟩ := Tree.resolve_ok_iff.mp hbase
  obtain ⟨-, rfl, -⟩ := Tree.resolve_ok_iff.mp htarget
  have hplain := hlinks.plain hup
  have hstart : (Path.ofText (Text.trim path)).startingAt (t.landing root)
      = t.landing root ++ names := by
    rw [hread]
    rfl
  rw [hstart, Tree.landing_of_plain hplain] at hwalk
  exact Tree.place_of_walk hplain hwalk

end Project

end Tablewright
