/-
What a write adds to a tree.

A write that succeeds makes the directories that are missing above its target and puts a file where
the walk along the target ends; everything else stands as it stood (`write_stored`). Which
directories those are is told by the walks that end at them: behind a circle of links a target may
still have links on it, and then the directory above it is not the one its names spell.
-/
import Mathlib.Data.List.Induction
import Tablewright.Proofs.Files.Directory

set_option autoImplicit false

namespace Tablewright

namespace Tree

variable {t t' : Tree} {l : Location}

/-! ## The way to a location -/

/-- Whether something is at a location is whether a walk along it ends at something. -/
theorem doesExist_iff {b : Bool} (h : t.doesExist l = .ok b) :
    b = true ↔ ∃ place n, t.walk true l = .ok (.existing place n) := by
  unfold doesExist status at h
  split at h
  case h_1 place n hwalk =>
    obtain rfl : true = b := by simpa [Except.map] using h
    simp [hwalk]
  case h_2 place hwalk =>
    obtain rfl : false = b := by simpa [Except.map] using h
    simp [hwalk]
  case h_3 cause hwalk =>
    by_cases hcause : meansNothing cause
    · obtain rfl : false = b := by simpa [Except.map, hcause] using h
      simp [hwalk]
    · simp [Except.map, hcause] at h

/-- Above a location that a walk gets along there are directories only. -/
theorem walk_above {place : Place} (h : t.walk true l = .ok place) {p : Location}
    (hp : p <+: l.dropLast) (hne : l ≠ []) :
    ∃ d, t.walk true p = .ok (.existing d .directory) := by
  obtain ⟨more, hmore⟩ := hp
  obtain ⟨name, hname⟩ : ∃ name, p ++ (more ++ [name]) = l := by
    refine ⟨l.getLast hne, ?_⟩
    rw [← List.append_assoc, hmore, List.dropLast_append_getLast]
  clear hmore
  -- the last name is taken off again and again, down to the location asked for
  induction more using List.reverseRecOn generalizing l name place with
  | nil => exact walk_init (by rwa [← hname] at h)
  | append_singleton more last ih =>
    rw [← hname, ← List.append_assoc] at h
    obtain ⟨d, hd⟩ := walk_init h
    exact ih hd (by simp) last rfl

/-! ## Directories that are added -/

/-- A directory that was missing on the way to a location and is there now: a walk along the first
names of the location ends at it. -/
structure Added (l : Location) (t t' : Tree) (k : Location) : Prop where
  missing : t.get? k = none
  stands : t'.get? k = some .directory
  onWay : ∃ p, p <+: l ∧ t'.walk true p = .ok (.existing k.stored .directory)

/-- From a tree to a later one nothing was changed, but directories were added on the way to a
location. -/
structure Paves (l : Location) (t t' : Tree) : Prop where
  widens : t.Extends t'
  along : ∀ k, t'.get? k = t.get? k ∨ Added l t t' k

/-- A directory that was added is there in every later tree. -/
theorem Added.evolves {k : Location} {t₁ : Tree} (h : Added l t t₁ k) (hlater : t₁.Evolves t')
    (hstands : t'.get? k = t₁.get? k) : Added l t t' k where
  missing := h.missing
  stands := hstands.trans h.stands
  onWay := by
    obtain ⟨p, hp, hwalk⟩ := h.onWay
    obtain ⟨n, hn, hstays⟩ := walk_evolves hlater hwalk
    cases hstays with
    | directory => exact ⟨p, hp, hn⟩
    | file hfile => cases hfile

namespace Paves

theorem refl (l : Location) (t : Tree) : Paves l t t where
  widens := .refl t
  along _ := .inl rfl

theorem trans {t₁ t₂ t₃ : Tree} (h : Paves l t₁ t₂) (h' : Paves l t₂ t₃) : Paves l t₁ t₃ where
  widens := h.widens.trans h'.widens
  along k := by
    rcases h'.along k with hsame | hadded
    · rw [hsame]
      refine (h.along k).imp_right fun hadded => hadded.evolves h'.widens.evolves hsame
    · rcases h.along k with hsame | hearlier
      · exact .inr ⟨hsame ▸ hadded.missing, hadded.stands, hadded.onWay⟩
      · exact absurd hearlier.stands (by simp [hadded.missing])

theorem mono {p : Location} (h : Paves p t t') (hp : p <+: l) : Paves l t t' where
  widens := h.widens
  along k := (h.along k).imp_right fun hadded => by
    obtain ⟨q, hq, hwalk⟩ := hadded.onWay
    exact ⟨hadded.missing, hadded.stands, q, hq.trans hp, hwalk⟩

/-- What a sequence adds its parts add. -/
theorem bind {α β : Type} {a : FileAction α} {k : α → FileAction β} (ha : Paves l t (a.run t).2)
    (hk : ∀ x t₁, a.run t = (.ok x, t₁) → Paves l t₁ ((k x).run t₁).2) :
    Paves l t ((a >>= k).run t).2 :=
  Effect.leaves_bind (R := Paves l) .trans ha hk

end Paves

end Tree

/-! ## Making directories -/

namespace FileAction

variable {t t' : Tree} {l : Location}

theorem paves_createDirectory (h : createDirectory t l = .ok t') : Tree.Paves l t t' := by
  have hextends := createDirectory_extends h
  unfold createDirectory at h
  split at h
  case h_1 | h_3 => cases h
  case h_2 place hwalk =>
    obtain rfl := Except.ok.inj h
    obtain ⟨hne, hvacant⟩ := Tree.vacant_of_walk hwalk
    have hplace : place.stored = place := Tree.stored_of_walk hwalk
    refine ⟨hextends, fun k => ?_⟩
    by_cases hk : place.stored = k.stored
    · rw [Tree.get?_congr hk] at hvacant
      refine .inr ⟨hvacant, ?_, l, List.prefix_refl l, ?_⟩
      · rw [← Tree.get?_congr hk, Tree.get?_put_self hne rfl]
      · rw [← hk, hplace]
        exact Tree.walk_put_directory hwalk
    · exact .inl (Tree.get?_put_of_ne hne hk)

theorem paves_acceptDirectory (cause : SystemCause) (l k : Location) (t : Tree) :
    Tree.Paves l t ((acceptDirectory cause k).run t).2 := by
  unfold acceptDirectory
  refine .bind (.refl l t) fun found t₁ _ => ?_
  cases found with
  | true => exact .refl l t₁
  | false => exact .refl l t₁

theorem paves_ensureDirectory (l : Location) (t : Tree) :
    Tree.Paves l t ((ensureDirectory l).run t).2 := by
  rw [ensureDirectory, run_get_bind]
  split
  case h_1 hcreate => exact paves_createDirectory hcreate
  case h_2 => exact .refl l t
  case h_3 => exact paves_acceptDirectory _ l l t

theorem paves_ensureDirectories (names : List Text) (t : Tree) :
    Tree.Paves names.reverse t ((ensureDirectories names).run t).2 := by
  induction names generalizing t with
  | nil => exact paves_acceptDirectory _ _ _ t
  | cons name above ih =>
    have habove : above.reverse <+: (name :: above).reverse := by simp
    rw [ensureDirectories, run_get_bind]
    split
    case h_1 hcreate => exact paves_createDirectory hcreate
    case h_2 => exact .bind ((ih t).mono habove) fun _ t₁ _ => paves_ensureDirectory _ t₁
    case h_3 => exact paves_acceptDirectory _ _ _ t

/-- **Making a directory** adds the directories that are missing on the way to it, and nothing
else. -/
theorem paves_makeDirectory (l : Location) (t : Tree) :
    Tree.Paves l t ((makeDirectory l).run t).2 := by
  have h := paves_ensureDirectories l.reverse t
  rwa [List.reverse_reverse] at h

end FileAction

/-! ## Writing -/

namespace Project

variable {t t' : Tree} {root target place : Location} {path content : Text} {bytes : Bytes}
  {r : Written}

/-- What a write leaves behind that succeeded. -/
structure Stored (root : Location) (path content : Text) (t t' : Tree) (r : Written)
    (target place : Location) (bytes : Bytes) : Prop where
  /-- The path is resolved to the target, before and after. -/
  resolves : resolveInProject t root path = .ok target
  resolves_after : resolveInProject t' root path = .ok target
  /-- The file at the target holds the encoding of the text. -/
  encodes : content.utf8? = some bytes
  stands : t'.walk true target = .ok (.existing place (.file bytes))
  /-- Anything else is as it was, or it is a directory that was missing above the target. -/
  elsewhere : ∀ l, Location.stored l ≠ place →
    t'.get? l = t.get? l ∨ t.Added target.dropLast t' l
  /-- No directory is missing above the target any more. -/
  above : ∀ p, p <+: target.dropLast → ∃ d, t'.walk true p = .ok (.existing d .directory)
  /-- The file is said to be new exactly when nothing was at the target. -/
  created_iff : r.kind = .created ↔ ¬ ∃ l n, t.walk true target = .ok (.existing l n)
  overwritten_iff : r.kind = .overwritten ↔ ∃ l n, t.walk true target = .ok (.existing l n)
  /-- Nothing that stood was taken away. -/
  evolves : t.Evolves t'

theorem Stored.leadsTo (h : Stored root path content t t' r target place bytes) :
    LeadsTo t' root path place (.file bytes) := ⟨target, h.resolves_after, h.stands⟩

/-- Where the target has no link left on it, the file stands at the target itself. -/
theorem Stored.place_eq (h : Stored root path content t t' r target place bytes)
    (hplain : t.Plain target) : place = target.stored :=
  Tree.place_of_walk (l := target) ⟨hplain.no_up, fun p hp link hlink =>
    hplain.no_link p hp link (h.evolves.link_old p link hlink)⟩ h.stands

/-- **A store.** A write that succeeds leaves its text in the file at the target and the missing
directories above it, and changes nothing else. -/
theorem write_stored (h : (write root path content).run t = (.ok r, t')) :
    ∃ target place bytes, Stored root path content t t' r target place bytes := by
  obtain ⟨target, hresolve, hask⟩ := FileAction.look_bind_ok_iff.mp h
  obtain ⟨existed, hexisted, hmake⟩ := FileAction.look_bind_ok_iff.mp hask
  obtain ⟨_, t₁, habove, hwrite⟩ := Effect.bind_ok_iff.mp hmake
  obtain ⟨hstore, hkind⟩ := store_ok hwrite
  obtain ⟨place, bytes, hbytes, hevolves, hwalk, helse⟩ := FileAction.writeText_ok hstore
  have hpaves := FileAction.paves_makeDirectory target.dropLast t
  rw [habove] at hpaves
  have hchange := hpaves.widens.evolves.trans hevolves
  have hne : target ≠ [] := by
    rintro rfl
    cases hwalk
  have hfound : existed = true ↔ ∃ l n, t.walk true target = .ok (.existing l n) := by
    refine Tree.doesExist_iff ?_
    cases hasked : t.doesExist target with
    | error e => simp [hasked, Except.mapError] at hexisted
    | ok b => simpa [hasked, Except.mapError] using hexisted
  exact ⟨target, place, bytes, {
    resolves := hresolve
    resolves_after := resolveInProject_evolves hchange hresolve hwalk
    encodes := hbytes
    stands := hwalk
    elsewhere := fun l hl => by
      have hsame := helse l hl
      rcases hpaves.along l with hkept | hadded
      · exact .inl (hsame.trans hkept)
      · exact .inr (hadded.evolves hevolves hsame)
    above := fun p hp => Tree.walk_above hwalk hp hne
    created_iff := by
      rw [← hfound, hkind]
      cases existed <;> simp
    overwritten_iff := by
      rw [← hfound, hkind]
      cases existed <;> simp
    evolves := hchange }⟩

end Project

end Tablewright
