/-
Following links to the end.

Resolving a path is bounded by a fuel and gives up at a link that is met while it is being followed.
`Follows` is the same walk without the bound: names are taken one by one, a link is replaced by what
its target leads to, and no link is met while it is being followed. The fuel of `Tree.resolve` is
enough for every such walk (`landing_of_follows`): what remains to be done is at most the names to
go and the steps of the links that are not being followed. Where a walk of this kind ends, no link
is left on the location (`Follows.plain`).
-/
import Tablewright.Proofs.Files.Links

set_option autoImplicit false

namespace Tablewright

namespace Tree

variable {t : Tree} {active : List Location} {here found inner : Location} {names rest : List Text}
  {name target : Text}

/-! ## Walks without circles -/

/-- From a location along names to where they lead when every link is followed. `active` are the
links that are being followed, as the file system keeps their locations, and none of them is met. -/
inductive Follows (t : Tree) : List Location → Location → List Text → Location → Prop
  /-- No name is to go. -/
  | done (active : List Location) (here : Location) : Follows t active here [] here
  /-- A double dot takes back the location. -/
  | up {active : List Location} {here found : Location} {rest : List Text}
      (hrest : Follows t active here.dropLast rest found) :
      Follows t active here (Path.up :: rest) found
  /-- A name at which no link stands is passed. -/
  | pass {active : List Location} {here found : Location} {name : Text} {rest : List Text}
      (hname : name ≠ Path.up)
      (hplain : ∀ target, t.get? (here ++ [name]) ≠ some (.link target))
      (hrest : Follows t active (here ++ [name]) rest found) :
      Follows t active here (name :: rest) found
  /-- A link that is not being followed is followed, and the walk goes on from where it leads. -/
  | link {active : List Location} {here inner found : Location} {name target : Text}
      {rest : List Text} (hname : name ≠ Path.up)
      (hlink : t.get? (here ++ [name]) = some (.link target))
      (hactive : Location.stored (here ++ [name]) ∉ active)
      (hinner : Follows t (Location.stored (here ++ [name]) :: active)
        (if (Path.ofText target).isAbsolute then [] else here) (Path.ofText target).names inner)
      (hrest : Follows t active inner rest found) : Follows t active here (name :: rest) found

/-! ## The fuel is enough -/

/-- The steps of the links that are not being followed. -/
def stepsBeyond (t : Tree) (active : List Location) : Nat :=
  t.entries.foldr (fun e n => (if e.1 ∈ active then 0 else stepsOf e.2) + n) 0

/-- While no link is being followed, all of them may still have to be. -/
theorem stepsBeyond_nil (t : Tree) : t.stepsBeyond [] = t.linkSteps := by
  simp only [stepsBeyond, linkSteps, List.not_mem_nil, if_false]

/-- What is followed in addition only leaves fewer steps. -/
theorem stepsBeyond_entries_le (es : List (Location × Node)) (active : List Location)
    (l : Location) :
    es.foldr (fun e n => (if e.1 ∈ l :: active then 0 else stepsOf e.2) + n) 0
      ≤ es.foldr (fun e n => (if e.1 ∈ active then 0 else stepsOf e.2) + n) 0 := by
  induction es with
  | nil => exact Nat.le_refl 0
  | cons e es ih =>
    rw [List.foldr_cons, List.foldr_cons]
    refine Nat.add_le_add ?_ ih
    by_cases hactive : e.1 ∈ active
    · rw [if_pos (List.mem_cons_of_mem l hactive)]
      exact Nat.zero_le _
    · rw [if_neg hactive]
      split <;> omega

/-- Following a link takes its own steps from those that are left. -/
theorem stepsBeyond_cons_add {l : Location} (hlink : t.get? l = some (.link target))
    (hactive : l.stored ∉ active) :
    t.stepsBeyond (l.stored :: active) + ((Path.ofText target).names.length + 1)
      ≤ t.stepsBeyond active := by
  have hne : l ≠ [] := by
    rintro rfl
    cases hlink
  rw [get?_of_ne_nil hne] at hlink
  rw [stepsBeyond, stepsBeyond]
  generalize t.entries = es at hlink ⊢
  generalize l.stored = l at hlink hactive ⊢
  induction es with
  | nil => cases hlink
  | cons e es ih =>
    obtain ⟨place, n⟩ := e
    rw [List.foldr_cons, List.foldr_cons]
    rw [find] at hlink
    by_cases hplace : place = l
    · -- the link itself; behind it the others count as before, or less
      subst hplace
      rw [if_pos rfl] at hlink
      cases hlink
      rw [if_pos List.mem_cons_self, if_neg hactive, stepsOf]
      have hrest := stepsBeyond_entries_le es active place
      omega
    · rw [if_neg hplace] at hlink
      have hsame : (place ∈ l :: active) ↔ place ∈ active := by
        rw [List.mem_cons]
        exact or_iff_right hplace
      simp only [hsame]
      have hrest := ih hlink
      omega

/-- A walk without circles is what resolving does, however the links that are being followed are spelled,
with fuel for the names to go and for the links that are not being followed. -/
theorem resolveFrom_of_follows (h : t.Follows active here names found) {fuel : Nat}
    {spelled : List Location} {restarts : Nat → Bool} (hspelled : ∀ l ∈ spelled, l.stored ∈ active)
    (hfuel : names.length + t.stepsBeyond active < fuel) :
    t.resolveFrom fuel spelled restarts here names = ⟨found, true⟩ := by
  -- each name takes one unit of the fuel, and a link the names it leads through
  induction h generalizing fuel spelled restarts with
  | done active here =>
    obtain ⟨fuel, rfl⟩ := Nat.exists_eq_add_one.mpr (Nat.zero_lt_of_lt hfuel)
    rw [resolveFrom]
  | up _ ih =>
    obtain ⟨fuel, rfl⟩ := Nat.exists_eq_add_one.mpr (Nat.zero_lt_of_lt hfuel)
    rw [List.length_cons] at hfuel
    rw [resolveFrom, if_pos rfl]
    exact ih hspelled (by omega)
  | pass hname hplain _ ih =>
    obtain ⟨fuel, rfl⟩ := Nat.exists_eq_add_one.mpr (Nat.zero_lt_of_lt hfuel)
    rw [List.length_cons] at hfuel
    rw [resolveFrom, if_neg hname]
    dsimp only
    split
    case h_1 target ht => exact absurd ht (hplain target)
    case h_2 => exact ih hspelled (by omega)
  | @link active here inner found name target rest hname hlink hactive _ _ ihinner ihrest =>
    obtain ⟨fuel, rfl⟩ := Nat.exists_eq_add_one.mpr (Nat.zero_lt_of_lt hfuel)
    rw [List.length_cons] at hfuel
    have hsteps := stepsBeyond_cons_add hlink hactive
    rw [resolveFrom, if_neg hname]
    dsimp only
    rw [hlink]
    dsimp only
    have hnew : spelled.contains (here ++ [name]) = false := by
      rw [List.contains_eq_mem, decide_eq_false_iff_not]
      exact fun hmem => hactive (hspelled _ hmem)
    have hnext : ∀ l ∈ (here ++ [name]) :: spelled,
        l.stored ∈ Location.stored (here ++ [name]) :: active := by
      intro l hl
      rcases List.mem_cons.mp hl with rfl | hl
      · exact List.mem_cons_self
      · exact List.mem_cons_of_mem _ (hspelled l hl)
    rw [hnew, if_neg Bool.false_ne_true, ihinner hnext (by omega)]
    exact ihrest hspelled (by omega)

/-- A location is resolved to where following its names leads. -/
theorem landing_of_follows {l : Location} (h : t.Follows [] [] l found) : t.landing l = found := by
  have hfuel : l.length + t.stepsBeyond [] < t.resolveFuel l := by
    rw [stepsBeyond_nil]
    exact t.le_resolveFuel l
  have hresolve : t.resolveFrom (t.resolveFuel l) [] (fun _ => false) [] l = ⟨found, true⟩ :=
    resolveFrom_of_follows h (List.forall_mem_nil _) hfuel
  rw [landing, resolution, hresolve]
  rfl

/-! ## What is left -/

/-- The root is a plain location. -/
theorem plain_nil (t : Tree) : t.Plain [] where
  no_up := List.not_mem_nil
  no_link p hp target hlink := by
    obtain rfl := List.prefix_nil.mp hp
    cases hlink

/-- What stands above a plain location is one. -/
theorem Plain.above {l p : Location} (h : t.Plain l) (hp : p <+: l) : t.Plain p where
  no_up hup := h.no_up (hp.subset hup)
  no_link q hq := h.no_link q (hq.trans hp)

/-- A plain location goes on as one past a name at which no link stands. -/
theorem Plain.concat (h : t.Plain here) (hname : name ≠ Path.up)
    (hplain : ∀ target, t.get? (here ++ [name]) ≠ some (.link target)) :
    t.Plain (here ++ [name]) where
  no_up hup := by
    rcases List.mem_append.mp hup with hhere | hlast
    · exact h.no_up hhere
    · exact hname (List.mem_singleton.mp hlast).symm
  no_link p hp target := by
    rcases List.prefix_concat_iff.mp hp with rfl | hbefore
    · exact hplain target
    · exact h.no_link p hbefore target

/-- Where a walk without circles ends, neither a double dot nor a link is left. -/
theorem Follows.plain (h : t.Follows active here names found) (hhere : t.Plain here) :
    t.Plain found := by
  induction h with
  | done => exact hhere
  | @up _ here _ _ _ ih => exact ih (hhere.above (List.dropLast_prefix here))
  | pass hname hplain _ ih => exact ih (hhere.concat hname hplain)
  | @link _ here _ _ _ target _ _ _ _ _ _ ihinner ihrest =>
    refine ihrest (ihinner ?_)
    split
    · exact plain_nil t
    · exact hhere

/-! ## Walking along a plain location -/

/-- Where an advance along a plain location ends at nothing, it is the location. -/
theorem vacant_of_advance_plain {followLast : Bool} {l : Location} (h : t.Plain (here ++ names))
    (ha : t.advance followLast here names = .ended (.vacant l)) :
    l = Location.stored (here ++ names) := by
  induction names generalizing here with
  | nil => cases ha
  | cons name rest ih =>
    obtain ⟨hname, hlink, hrest⟩ := h.next
    have hsame : here ++ name :: rest = here ++ [name] ++ rest := by
      rw [List.append_assoc, List.singleton_append]
    rw [advance, if_neg hname] at ha
    split at ha
    case isTrue => cases ha
    case isFalse =>
      dsimp only at ha
      split at ha
      case h_1 =>
        split at ha
        case isTrue hlast =>
          cases ha
          rw [List.isEmpty_iff.mp hlast]
        case isFalse => cases ha
      case h_2 => exact hsame ▸ ih hrest ha
      case h_3 target ht => exact absurd ht (hlink target)
      case h_4 => split at ha <;> cases ha

/-- A walk along a plain location comes to no link: it goes in no circle, and what it ends at stands
there. -/
theorem walk_plain {followLast : Bool} {l : Location} (h : t.Plain l) :
    t.walk followLast l ≠ .error .linkLoop ∧
      ∀ place, t.walk followLast l = .ok place →
        place = .vacant l.stored ∨ ∃ n, place = .existing l.stored n := by
  have hadvance := @advance_of_plain t followLast [] l h
  rw [walk]
  split
  · exact ⟨fun hlong => (by cases hlong), fun _ hlong => (by cases hlong)⟩
  rw [maxLinks, walkFrom]
  split
  case h_1 place hplace =>
    refine ⟨fun hloop => (by cases hloop), fun place' hp => ?_⟩
    cases hp
    cases place with
    | existing l' n =>
      obtain rfl := hadvance.1 l' n hplace
      exact .inr ⟨n, rfl⟩
    | vacant l' =>
      obtain rfl := @vacant_of_advance_plain t [] l followLast _ h hplace
      exact .inl rfl
  case h_2 cause hfailed =>
    refine ⟨fun hloop => ?_, fun _ hplace => (by cases hplace)⟩
    cases hloop
    exact advance_ne_linkLoop _ _ _ hfailed
  case h_3 hlink => exact absurd hlink (hadvance.2 _ _ _)

/-- An advance along a plain location that ends at something has passed directories. -/
theorem exists_of_advance_plain {followLast : Bool} {l : Location} {n : Node}
    (h : t.Plain (here ++ names)) (ha : t.advance followLast here names = .ended (.existing l n))
    {p : List Text} (hp : p <+: names) (hne : p ≠ []) : t.get? (here ++ p) ≠ none := by
  induction names generalizing here p with
  | nil => exact absurd (List.prefix_nil.mp hp) hne
  | cons name rest ih =>
    obtain ⟨hname, hlink, hrest⟩ := h.next
    obtain ⟨p, rfl⟩ : ∃ q, p = name :: q := by
      cases p with
      | nil => exact absurd rfl hne
      | cons first q => exact ⟨q, by rw [(List.cons_prefix_cons.mp hp).1]⟩
    have hq : p <+: rest := (List.cons_prefix_cons.mp hp).2
    rw [advance, if_neg hname] at ha
    split at ha
    case isTrue => cases ha
    case isFalse =>
      dsimp only at ha
      split at ha
      case h_1 => split at ha <;> cases ha
      case h_2 hdirectory =>
        -- either this directory is asked for, or one further on
        by_cases hp' : p = []
        · rw [hp', hdirectory]
          exact Option.some_ne_none _
        · have hstands := ih hrest ha hq hp'
          rwa [List.append_assoc, List.singleton_append] at hstands
      case h_3 target ht => exact absurd ht (hlink target)
      case h_4 hnode =>
        split at ha
        case isTrue hlast =>
          rw [List.isEmpty_iff.mp hlast] at hq
          rw [List.prefix_nil.mp hq, hnode]
          exact Option.some_ne_none _
        case isFalse => cases ha

/-- Everything above a plain location at which something stands is there. -/
theorem exists_of_walk_plain {followLast : Bool} {l place : Location} {n : Node} (h : t.Plain l)
    (hwalk : t.walk followLast l = .ok (.existing place n)) {p : Location} (hp : p <+: l) :
    t.get? p ≠ none := by
  by_cases hne : p = []
  · rw [hne]
    exact Option.some_ne_none _
  · cases (walk_ok_iff.mp hwalk).2 with
    | ended hadvance => exact @exists_of_advance_plain t [] l followLast _ _ h hadvance _ hp hne
    | link hadvance _ _ => exact absurd hadvance ((@advance_of_plain t followLast [] l h).2 _ _ _)

end Tree

end Tablewright
