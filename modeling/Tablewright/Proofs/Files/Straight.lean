/-
Walking and resolving agree.

A walk replaces a link by the names of its target and goes on, and gives up after a number of links;
resolving follows a link to its end before it goes on, and gives up at a link it is following. A way
is `Straight` when a walk could take it: links and double dots come first, and behind the first name
at which no directory stands there are neither; and a link at the last name asks for a directory only
where one is. Cut where the target of a link is done, a straight
way is one that resolving takes as well (`Straight.follows`): a link that were met while it is
followed would take as many links as itself and more, and the number of links tells that it does not
(`Traces.follows`). So where a walk ends, there the location is resolved to (`landing_of_walk`).
-/
import Tablewright.Proofs.Files.Follow

set_option autoImplicit false

namespace Tablewright

namespace Tree

variable {t t' : Tree} {active : List Location} {here found mid l : Location}
  {names rest : List Text} {name target : Text} {n m links : Nat} {isDirectory : Prop}

/-! ## Counting links -/

/-- From a location along names to where they lead when every link is followed, and how many links
are followed on the way. -/
inductive Traces (t : Tree) : Nat → Location → List Text → Location → Prop
  /-- No name is to go. -/
  | done (here : Location) : Traces t 0 here [] here
  /-- A double dot takes back the location. -/
  | up {n : Nat} {here found : Location} {rest : List Text}
      (hrest : Traces t n here.dropLast rest found) : Traces t n here (Path.up :: rest) found
  /-- A name at which no link stands is passed. -/
  | pass {n : Nat} {here found : Location} {name : Text} {rest : List Text}
      (hname : name ≠ Path.up)
      (hplain : ∀ target, t.get? (here ++ [name]) ≠ some (.link target))
      (hrest : Traces t n (here ++ [name]) rest found) : Traces t n here (name :: rest) found
  /-- A link is followed, and the way goes on from where it leads. -/
  | link {m n : Nat} {here inner found : Location} {name target : Text} {rest : List Text}
      (hname : name ≠ Path.up) (hlink : t.get? (here ++ [name]) = some (.link target))
      (hinner : Traces t m (if (Path.ofText target).isAbsolute then [] else here)
        (Path.ofText target).names inner)
      (hrest : Traces t n inner rest found) : Traces t (m + n + 1) here (name :: rest) found

/-- Names lead from one place to one place, by one number of links. -/
theorem Traces.unique (h : t.Traces n here names found) {here' other : Location}
    (hsame : here'.stored = here.stored) (h' : t.Traces m here' names other) :
    m = n ∧ other.stored = found.stored := by
  induction h generalizing m here' other with
  | done here =>
    cases h'
    exact ⟨rfl, hsame⟩
  | up _ ih =>
    cases h' with
    | up hrest => exact ih (by rw [Location.stored_dropLast, hsame, Location.stored_dropLast]) hrest
    | pass hname | link hname => exact absurd rfl hname
  | @pass n here _ name _ hname hplain _ ih =>
    have hnext : Location.stored (here' ++ [name]) = Location.stored (here ++ [name]) := by
      rw [Location.stored_append, hsame, Location.stored_append]
    cases h' with
    | up => exact absurd rfl hname
    | pass _ _ hrest => exact ih hnext hrest
    | link _ hlink => exact absurd (get?_congr hnext ▸ hlink) (hplain _)
  | @link _ _ here _ _ name target _ hname hlink _ _ ihinner ihrest =>
    have hnext : Location.stored (here' ++ [name]) = Location.stored (here ++ [name]) := by
      rw [Location.stored_append, hsame, Location.stored_append]
    cases h' with
    | up => exact absurd rfl hname
    | pass _ hplain => exact absurd (get?_congr hnext ▸ hlink) (hplain _)
    | link _ hlink' hinner' hrest' =>
      rw [get?_congr hnext, hlink] at hlink'
      cases hlink'
      obtain ⟨rfl, hinner⟩ := ihinner (by split <;> simp [hsame]) hinner'
      obtain ⟨rfl, hrest⟩ := ihrest hinner hrest'
      exact ⟨rfl, hrest⟩

/-- A way is cut between its names, and the links are shared out. -/
theorem Traces.split {before : List Text} (h : t.Traces n here (before ++ rest) found) :
    ∃ i j mid, n = i + j ∧ t.Traces i here before mid ∧ t.Traces j mid rest found := by
  generalize hall : before ++ rest = all at h
  induction h generalizing before with
  | done here =>
    obtain ⟨rfl, rfl⟩ := List.append_eq_nil_iff.mp hall
    exact ⟨0, 0, here, rfl, .done here, .done here⟩
  | @up n here _ _ hway ih =>
    cases before with
    | nil =>
      obtain rfl : rest = _ := hall
      exact ⟨0, n, here, by omega, .done here, .up hway⟩
    | cons first before =>
      obtain ⟨rfl, rfl⟩ := List.cons.inj hall
      obtain ⟨i, j, mid, hn, hfirst, hlast⟩ := ih rfl
      exact ⟨i, j, mid, hn, .up hfirst, hlast⟩
  | @pass n here _ _ _ hname hplain hway ih =>
    cases before with
    | nil =>
      obtain rfl : rest = _ := hall
      exact ⟨0, n, here, by omega, .done here, .pass hname hplain hway⟩
    | cons first before =>
      obtain ⟨rfl, rfl⟩ := List.cons.inj hall
      obtain ⟨i, j, mid, hn, hfirst, hlast⟩ := ih rfl
      exact ⟨i, j, mid, hn, .pass hname hplain hfirst, hlast⟩
  | @link m n here _ _ _ _ _ hname hlink hinner hway _ ih =>
    cases before with
    | nil =>
      obtain rfl : rest = _ := hall
      exact ⟨0, m + n + 1, here, by omega, .done here, .link hname hlink hinner hway⟩
    | cons first before =>
      obtain ⟨rfl, rfl⟩ := List.cons.inj hall
      obtain ⟨i, j, mid, hn, hfirst, hlast⟩ := ih rfl
      exact ⟨m + i + 1, j, mid, by omega, .link hname hlink hinner hfirst, hlast⟩

/-- A plain location is come to without a link. -/
theorem traces_of_plain (h : t.Plain (here ++ names)) : t.Traces 0 here names (here ++ names) := by
  induction names generalizing here with
  | nil =>
    rw [List.append_nil]
    exact .done here
  | cons name rest ih =>
    obtain ⟨hname, hlink, hplain⟩ := h.next
    have hrest := ih hplain
    rw [List.append_assoc, List.singleton_append] at hrest
    exact .pass hname hlink hrest

/-- What the link at a stored location stands for is come to by at least so many links, if at all. -/
def LinkTakes (t : Tree) (n : Nat) (l : Location) : Prop :=
  ∀ here name target m inner, l = Location.stored (here ++ [name]) →
    t.get? l = some (.link target) →
    t.Traces m (if (Path.ofText target).isAbsolute then [] else here) (Path.ofText target).names
      inner → n ≤ m

theorem LinkTakes.mono (h : t.LinkTakes n l) (hle : m ≤ n) : t.LinkTakes m l :=
  fun here name target k inner hl hlink hway =>
    Nat.le_trans hle (h here name target k inner hl hlink hway)

/-- **No circle.** A way that is come to the end of meets no link that is being followed, when each
of these takes no fewer links. -/
theorem Traces.follows (h : t.Traces n here names found)
    (hactive : ∀ a ∈ active, t.LinkTakes n a) : t.Follows active here names found := by
  induction h generalizing active with
  | done here => exact .done active here
  | up _ ih => exact .up (ih hactive)
  | pass hname hplain _ ih => exact .pass hname hplain (ih hactive)
  | @link m n here inner found name target rest hname hlink hinner _ ihinner ihrest =>
    have hself : t.LinkTakes m (Location.stored (here ++ [name])) := by
      intro here' name' target' k inner' hl hlink' hway
      rw [Location.stored_append, Location.stored_append] at hl
      rw [get?_stored, hlink] at hlink'
      cases hlink'
      have hsame := (List.append_singleton_inj.mp hl).1
      have hcount := (hinner.unique (by split <;> simp [hsame]) hway).1
      omega
    -- the link itself takes fewer links than the way through it
    have hnew : Location.stored (here ++ [name]) ∉ active := fun hmem => by
      have htakes := hactive _ hmem here name target m inner rfl (by rw [get?_stored, hlink]) hinner
      omega
    refine .link hname hlink hnew (ihinner fun a ha => ?_) (ihrest fun a ha => ?_)
    · rcases List.mem_cons.mp ha with rfl | hbefore
      · exact hself
      · exact (hactive a hbefore).mono (by omega)
    · exact (hactive a ha).mono (by omega)

/-! ## Straight ways -/

/-- A way to a location that a walk could take: through directories, double dots and at most so many
links, and behind these along a plain location. `isDirectory` is what has to hold for a link at the
last name to ask for a directory. -/
inductive Straight (t : Tree) (l : Location) (isDirectory : Prop) :
    Nat → Location → List Text → Prop
  /-- Neither a link nor a double dot is on the way. -/
  | plain {links : Nat} {here : Location} {names : List Text} (hl : here ++ names = l)
      (hplain : t.Plain l) : Straight t l isDirectory links here names
  /-- A double dot takes back the location. -/
  | up {links : Nat} {here : Location} {rest : List Text}
      (hrest : Straight t l isDirectory links here.dropLast rest) :
      Straight t l isDirectory links here (Path.up :: rest)
  /-- A directory is gone through. -/
  | directory {links : Nat} {here : Location} {name : Text} {rest : List Text}
      (hname : name ≠ Path.up) (hdirectory : t.get? (here ++ [name]) = some .directory)
      (hrest : Straight t l isDirectory links (here ++ [name]) rest) :
      Straight t l isDirectory links here (name :: rest)
  /-- A link is replaced by the names of its target. -/
  | link {links : Nat} {here : Location} {name target : Text} {rest : List Text}
      (hname : name ≠ Path.up) (hlink : t.get? (here ++ [name]) = some (.link target))
      (hasked : (rest.isEmpty && Path.asksDirectory target) = true → isDirectory)
      (hrest : Straight t l isDirectory links
        (if (Path.ofText target).isAbsolute then [] else here)
        ((Path.ofText target).names ++ rest)) :
      Straight t l isDirectory (links + 1) here (name :: rest)

namespace Straight

/-- A straight way is cut between its names. -/
theorem split {before : List Text} (h : t.Straight l isDirectory links here (before ++ rest)) :
    ∃ n links' mid, t.Traces n here before mid ∧ t.Straight l isDirectory links' mid rest := by
  generalize hall : before ++ rest = all at h
  induction h generalizing before with
  | @plain links here names hl hplain =>
    subst hall
    rw [← List.append_assoc] at hl
    have hbefore : t.Plain (here ++ before) := hplain.above ⟨rest, hl⟩
    exact ⟨0, links, here ++ before, traces_of_plain hbefore, .plain hl hplain⟩
  | @up links here _ hway ih =>
    cases before with
    | nil =>
      obtain rfl : rest = _ := hall
      exact ⟨0, links, here, .done here, .up hway⟩
    | cons first before =>
      obtain ⟨rfl, rfl⟩ := List.cons.inj hall
      obtain ⟨n, links', mid, hfirst, hlast⟩ := ih rfl
      exact ⟨n, links', mid, .up hfirst, hlast⟩
  | @directory links here _ _ hname hdirectory hway ih =>
    cases before with
    | nil =>
      obtain rfl : rest = _ := hall
      exact ⟨0, links, here, .done here, .directory hname hdirectory hway⟩
    | cons first before =>
      obtain ⟨rfl, rfl⟩ := List.cons.inj hall
      obtain ⟨n, links', mid, hfirst, hlast⟩ := ih rfl
      exact ⟨n, links', mid, .pass hname (by simp [hdirectory]) hfirst, hlast⟩
  | @link links here _ target _ hname hlink hasked hway ih =>
    cases before with
    | nil =>
      obtain rfl : rest = _ := hall
      exact ⟨0, links + 1, here, .done here, .link hname hlink hasked hway⟩
    | cons first before =>
      obtain ⟨rfl, rfl⟩ := List.cons.inj hall
      -- the way is cut behind the names of the target and the ones before the cut
      obtain ⟨n, links', mid, hfirst, hlast⟩ := ih (List.append_assoc ..)
      obtain ⟨i, j, inner, -, hinner, hbefore⟩ := hfirst.split
      exact ⟨i + j + 1, links', mid, .link hname hlink hinner hbefore, hlast⟩

/-- What a straight way leads to is come to when every link is followed. -/
theorem follows (h : t.Straight l isDirectory links here names) : t.Follows [] here names l := by
  rw [← List.append_nil names] at h
  obtain ⟨n, links', mid, hway, hlast⟩ := h.split
  cases hlast with
  | plain hl =>
    rw [List.append_nil] at hl
    subst hl
    exact hway.follows (fun a ha => absurd ha List.not_mem_nil)

theorem plain_end (h : t.Straight l isDirectory links here names) : t.Plain l := by
  induction h with
  | plain _ hplain => exact hplain
  | up _ ih | directory _ _ _ ih | link _ _ _ _ ih => exact ih

/-- A location that is straight is resolved to where the way leads. -/
theorem landing (h : t.Straight l isDirectory links [] names) : t.landing names = l :=
  landing_of_follows h.follows

/-- A way that is straight is so in a later tree. -/
theorem evolves (h : t.Straight l isDirectory links here names) (hlater : t.Evolves t') :
    t'.Straight l isDirectory links here names := by
  induction h with
  | plain hl hplain =>
    exact .plain hl ⟨hplain.no_up, fun p hp target hlink =>
      hplain.no_link p hp target (hlater.link_old p target hlink)⟩
  | up _ ih => exact .up ih
  | directory hname hdirectory _ ih =>
    obtain ⟨n, hn, hstays⟩ := hlater.stays _ _ hdirectory
    cases hstays with
    | directory => exact .directory hname hn ih
    | file hfile => cases hfile
  | link hname hlink hasked _ ih =>
    exact .link hname ((hlater.link_iff _ _).mpr hlink) hasked ih

/-- What is asked for may be said in other words. -/
theorem mono {isDirectory' : Prop} (h : t.Straight l isDirectory links here names)
    (hgives : isDirectory → isDirectory') : t.Straight l isDirectory' links here names := by
  induction h with
  | plain hl hplain => exact .plain hl hplain
  | up _ ih => exact .up ih
  | directory hname hdirectory _ ih => exact .directory hname hdirectory ih
  | link hname hlink hasked _ ih => exact .link hname hlink (fun h => hgives (hasked h)) ih

end Straight

/-! ## Walks are straight -/

/-- An advance that ends took a straight way. -/
theorem straight_of_advance {place : Place} (hhere : t.Plain here)
    (h : t.advance true here names = .ended place) :
    ∃ l, l.stored = place.location ∧ t.Straight l isDirectory links here names := by
  induction names generalizing here with
  | nil =>
    cases h
    exact ⟨here, rfl, .plain (List.append_nil here) hhere⟩
  | cons name rest ih =>
    rw [advance] at h
    split at h
    case isTrue hup =>
      subst hup
      obtain ⟨l, hl, hway⟩ := ih (hhere.above (List.dropLast_prefix here)) h
      exact ⟨l, hl, .up hway⟩
    case isFalse hup =>
      split at h
      case isTrue => cases h
      case isFalse =>
        dsimp only at h
        split at h
        case h_1 hnone =>
          split at h
          case isTrue hlast =>
            cases h
            rw [List.isEmpty_iff.mp hlast]
            exact ⟨here ++ [name], rfl, .plain rfl (hhere.concat hup (by simp [hnone]))⟩
          case isFalse => cases h
        case h_2 hdirectory =>
          obtain ⟨l, hl, hway⟩ := ih (hhere.concat hup (by simp [hdirectory])) h
          exact ⟨l, hl, .directory hup hdirectory hway⟩
        case h_3 => simp at h
        case h_4 node _ hnolink hnode =>
          split at h
          case isTrue hlast =>
            cases h
            rw [List.isEmpty_iff.mp hlast]
            refine ⟨here ++ [name], rfl, .plain rfl (hhere.concat hup fun target hlink => ?_)⟩
            rw [hnode] at hlink
            exact hnolink target (Option.some.inj hlink)
          case isFalse => cases h

/-- An advance that comes to a link took a straight way there, if the way behind it is one and what
the link asks for is there. -/
theorem straight_of_advance_link {directory : Location} (hhere : t.Plain here)
    (h : t.advance true here names = .link directory target rest)
    (hasked : (rest.isEmpty && Path.asksDirectory target) = true → isDirectory) :
    t.Plain directory ∧ ∀ l,
      t.Straight l isDirectory links (if (Path.ofText target).isAbsolute then [] else directory)
        ((Path.ofText target).names ++ rest) → t.Straight l isDirectory (links + 1) here names := by
  induction names generalizing here with
  | nil => cases h
  | cons name more ih =>
    rw [advance] at h
    split at h
    case isTrue hup =>
      subst hup
      obtain ⟨hplain, hway⟩ := ih (hhere.above (List.dropLast_prefix here)) h
      exact ⟨hplain, fun l hrest => .up (hway l hrest)⟩
    case isFalse hup =>
      split at h
      case isTrue => cases h
      case isFalse =>
        dsimp only at h
        split at h
        case h_1 => split at h <;> cases h
        case h_2 hdirectory =>
          obtain ⟨hplain, hway⟩ := ih (hhere.concat hup (by simp [hdirectory])) h
          exact ⟨hplain, fun l hrest => .directory hup hdirectory (hway l hrest)⟩
        case h_3 hlink =>
          obtain ⟨rfl, rfl, rfl⟩ := by simpa using h
          exact ⟨hhere, fun l hrest => .link hup hlink hasked hrest⟩
        case h_4 => split at h <;> cases h

/-- A walk that ends took a straight way, on which a directory is asked for only if it ended at
one. -/
theorem Walks.straight {place : Place} (h : Walks t true place links here names)
    (hhere : t.Plain here) :
    ∃ l, l.stored = place.location ∧ t.Straight l place.IsDirectory links here names := by
  induction h with
  | ended hadvance => exact straight_of_advance hhere hadvance
  | @link links here directory names rest target hadvance hasked _ ih =>
    obtain ⟨hplain, hway⟩ := straight_of_advance_link hhere hadvance hasked
    have hstart : t.Plain (if (Path.ofText target).isAbsolute then [] else directory) := by
      split
      · exact plain_nil t
      · exact hplain
    obtain ⟨l, hl, hrest⟩ := ih hstart
    exact ⟨l, hl, hway l hrest⟩

/-- **A walk ends where the location is resolved to.** -/
theorem landing_of_walk {place : Place} (h : t.walk true l = .ok place) :
    (t.landing l).stored = place.location ∧ t.Plain (t.landing l) := by
  obtain ⟨found, hfound, hstraight⟩ := (walk_ok_iff.mp h).2.straight (plain_nil t)
  rw [hstraight.landing]
  exact ⟨hfound, hstraight.plain_end⟩

end Tree

end Tablewright
