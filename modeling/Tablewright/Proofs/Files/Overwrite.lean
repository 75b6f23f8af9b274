/-
A file that stands can be written over.

The directories above it are there, since the walk to the file goes through them, so creating them
finds them; the file is opened; and a text that has an encoding is stored. A file that is reached
through links is written over where it stands.
-/
import Tablewright.Proofs.Files.Store

set_option autoImplicit false

namespace Tablewright

/-! ## The way to a file -/

namespace Tree

variable {t : Tree}

/-- An advance along one more name has gone along the names before it: to a directory, or up to the
same link. -/
theorem advance_of_concat {followLast : Bool} {here : Location} {names : List Text} {name : Text}
    (h : ∀ cause, t.advance followLast here (names ++ [name]) ≠ .failed cause) :
    (∃ d, t.advance true here names = .ended (.existing d .directory)) ∨
      ∃ directory target rest, t.advance true here names = .link directory target rest ∧
        t.advance followLast here (names ++ [name]) = .link directory target (rest ++ [name]) := by
  induction names generalizing here with
  | nil => exact .inl ⟨here.stored, rfl⟩
  | cons first names ih =>
    rw [List.cons_append, advance] at h ⊢
    rw [advance]
    split at h
    case isTrue hup =>
      rw [if_pos hup, if_pos hup]
      exact ih h
    case isFalse hup =>
      rw [if_neg hup, if_neg hup]
      split at h
      case isTrue => exact absurd rfl (h _)
      case isFalse hshort =>
        rw [if_neg hshort, if_neg hshort]
        dsimp only at h ⊢
        -- more names are to go, so only a directory or a link can be passed
        have hmore : (names ++ [name]).isEmpty = false := by simp
        rw [hmore] at h ⊢
        cases hnode : t.get? (here ++ [first]) with
        | none =>
          rw [hnode] at h
          exact absurd rfl (h _)
        | some node =>
          rw [hnode] at h
          cases node with
          | directory => exact ih h
          | link target =>
            refine .inr ⟨here, target, names, ?_, rfl⟩
            rw [Bool.not_true, Bool.and_false]
            rfl
          | file _ | ledger _ => exact absurd rfl (h _)

/-- A walk along one more name has gone through a directory. -/
theorem Walks.init {place : Place} {links : Nat} {here : Location} {names : List Text} {name : Text}
    (h : Walks t true place links here (names ++ [name])) :
    ∃ d, Walks t true (.existing d .directory) links here names := by
  generalize hall : names ++ [name] = all at h
  induction h generalizing names with
  | @ended links here all hadvance =>
    subst hall
    rcases advance_of_concat (fun cause hf => by rw [hadvance] at hf; cases hf) with
      ⟨d, hd⟩ | ⟨_, _, _, -, hlink⟩
    · exact ⟨d, .ended hd⟩
    · rw [hadvance] at hlink
      cases hlink
  | @link links here directory all rest target hadvance _ _ ih =>
    subst hall
    rcases advance_of_concat (fun cause hf => by rw [hadvance] at hf; cases hf) with
      ⟨d, hd⟩ | ⟨_, _, before, hbefore, hlink⟩
    · exact ⟨d, .ended hd⟩
    · rw [hadvance] at hlink
      cases hlink
      obtain ⟨d, hd⟩ := ih (List.append_assoc _ _ _)
      exact ⟨d, .link hbefore (fun _ => ⟨d, rfl⟩) hd⟩

/-- An advance that does not follow the last link goes the same way or ends at it. -/
theorem advance_unfollowed (t : Tree) (here : Location) (names : List Text) :
    t.advance false here names = t.advance true here names ∨
      ∃ l target, t.advance false here names = .ended (.existing l (.link target)) := by
  induction names generalizing here with
  | nil => exact .inl rfl
  | cons name rest ih =>
    rw [advance, advance]
    split
    · exact ih here.dropLast
    split
    · exact .inl rfl
    dsimp only
    cases t.get? (here ++ [name]) with
    | none => exact .inl rfl
    | some node =>
      cases node with
      | directory => exact ih (here ++ [name])
      | link target =>
        dsimp only
        cases rest.isEmpty with
        | true => exact .inr ⟨_, _, rfl⟩
        | false => exact .inl rfl
      | file _ | ledger _ => exact .inl rfl

/-- An advance that does not follow the last link comes to no link there. -/
theorem more_of_advance_unfollowed {here directory : Location} {names rest : List Text}
    {target : Text} (h : t.advance false here names = .link directory target rest) :
    rest.isEmpty = false := by
  induction names generalizing here with
  | nil => cases h
  | cons name more ih =>
    rw [advance] at h
    split at h
    · exact ih h
    split at h
    · cases h
    dsimp only at h
    split at h
    case h_1 => split at h <;> cases h
    case h_2 => exact ih h
    case h_3 =>
      split at h
      case isTrue => cases h
      case isFalse hmore =>
        cases h
        simpa using hmore
    case h_4 => split at h <;> cases h

/-- A walk that ends somewhere when links are followed does so when the last one is not. -/
theorem Walks.unfollowed {links : Nat} {here l : Location} {names : List Text} {n : Node}
    (h : Walks t true (.existing l n) links here names) :
    ∃ l' n', Walks t false (.existing l' n') links here names := by
  induction h with
  | @ended links here names hadvance =>
    rcases advance_unfollowed t here names with hsame | ⟨l', target, hends⟩
    · exact ⟨l, n, .ended (hsame.trans hadvance)⟩
    · exact ⟨l', _, .ended hends⟩
  | @link links here directory names rest target hadvance _ _ ih =>
    rcases advance_unfollowed t here names with hsame | ⟨l', target, hends⟩
    · obtain ⟨l', n', hrest⟩ := ih
      have hlink := hsame.trans hadvance
      have hmore := more_of_advance_unfollowed hlink
      exact ⟨l', n', .link hlink (by simp [hmore]) hrest⟩
    · exact ⟨l', _, .ended hends⟩

/-- A walk that ends at what is no link without following the last one ends there when it does. -/
theorem Walks.followed {links : Nat} {here l : Location} {names : List Text} {n : Node}
    (h : Walks t false (.existing l n) links here names) (hn : ∀ target, n ≠ .link target) :
    Walks t true (.existing l n) links here names := by
  induction h with
  | @ended links here names hadvance =>
    rcases advance_unfollowed t here names with hsame | ⟨l', target, hends⟩
    · exact .ended (hsame.symm.trans hadvance)
    · rw [hadvance] at hends
      cases hends
      exact absurd rfl (hn target)
  | @link links here directory names rest target hadvance hasked _ ih =>
    rcases advance_unfollowed t here names with hsame | ⟨_, _, hends⟩
    · exact .link (hsame.symm.trans hadvance) hasked ih
    · rw [hadvance] at hends
      cases hends

end Tree

/-- What is joined begins with what its first parts give. -/
theorem Text.exists_join_append (sep : Text) (ts us : List Text) :
    ∃ rest, join sep (ts ++ us) = join sep ts ++ rest := by
  induction ts with
  | nil => exact ⟨_, rfl⟩
  | cons t ts ih =>
    cases ts with
    | nil =>
      cases us with
      | nil => exact ⟨[], (List.append_nil _).symm⟩
      | cons u us => exact ⟨_, List.append_assoc _ _ _⟩
    | cons t' ts =>
      obtain ⟨rest, hrest⟩ := ih
      refine ⟨rest, ?_⟩
      rw [List.cons_append, List.cons_append, join, ← List.cons_append, hrest, join,
        List.append_assoc (t ++ sep)]

/-- A location above one that is not too long is not too long. -/
theorem Location.isTooLong_of_append {l more : Location} (h : isTooLong (l ++ more) = false) :
    isTooLong l = false := by
  have hbytes : ¬ maxPathBytes < Text.nameBytes (text (l ++ more)) := by
    simpa [isTooLong] using h
  obtain ⟨rest, hrest⟩ := Text.exists_join_append "/" l more
  have htext : text (l ++ more) = text l ++ rest := by
    rw [text, text, hrest, List.append_assoc]
  rw [htext, Text.nameBytes_append] at hbytes
  simp only [isTooLong, decide_eq_false_iff_not]
  omega

/-- A walk along a location goes through the directory above it. -/
theorem Tree.walk_init {t : Tree} {l : Location} {name : Text} {place : Place}
    (h : t.walk true (l ++ [name]) = .ok place) :
    ∃ d, t.walk true l = .ok (.existing d .directory) := by
  obtain ⟨hshort, hwalks⟩ := walk_ok_iff.mp h
  obtain ⟨d, hd⟩ := hwalks.init
  exact ⟨d, walk_ok_iff.mpr ⟨Location.isTooLong_of_append hshort, hd⟩⟩

/-! ## Writing -/

namespace FileAction

variable {t : Tree}

/-- A directory is accepted where one is. -/
theorem acceptDirectory_run {l d : Location} (h : t.walk true l = .ok (.existing d .directory))
    (cause : SystemCause) : (acceptDirectory cause l).run t = (.ok (), t) := by
  have hask : (ask (·.isDirectory l)).run t = (.ok true, t) := by
    change (((t.isDirectory l).mapError Failure.system, t) : Except Failure Bool × Tree) = _
    rw [Tree.isDirectory, Tree.status, h]
    rfl
  rw [acceptDirectory, Effect.run_bind, hask]
  rfl

/-- Creating a directory that stands changes nothing. -/
theorem makeDirectory_of_directory {l d : Location}
    (h : t.walk true l = .ok (.existing d .directory)) : (makeDirectory l).run t = (.ok (), t) := by
  rw [makeDirectory]
  rcases List.eq_nil_or_concat l with rfl | ⟨above, last, rfl⟩
  · exact acceptDirectory_run h .alreadyExists
  · rw [List.concat_eq_append, List.reverse_append, List.reverse_singleton, List.singleton_append]
    obtain ⟨hshort, hwalks⟩ := Tree.walk_ok_iff.mp h
    obtain ⟨l', n', hunfollowed⟩ := hwalks.unfollowed
    have hcreate : createDirectory t (last :: above.reverse).reverse = .error .alreadyExists := by
      rw [List.reverse_cons, List.reverse_reverse, createDirectory, ← List.concat_eq_append,
        Tree.walk_ok_iff.mpr ⟨hshort, hunfollowed⟩]
    have hrun : (ensureDirectories (last :: above.reverse)).run t
        = (acceptDirectory .alreadyExists (last :: above.reverse).reverse).run t := by
      rw [ensureDirectories, run_get_bind]
      rw [hcreate]
    rw [hrun, List.reverse_cons, List.reverse_reverse, ← List.concat_eq_append]
    exact acceptDirectory_run h .alreadyExists

/-- Creating the directory above something that stands changes nothing. -/
theorem makeDirectory_run {l : Location} {name : Text} {place : Place}
    (h : t.walk true (l ++ [name]) = .ok place) : (makeDirectory l).run t = (.ok (), t) := by
  obtain ⟨d, hd⟩ := Tree.walk_init h
  exact makeDirectory_of_directory hd

/-- A file that stands can be opened, and it is empty then. -/
theorem openForWriting_of_walk {l place : Location} {n : Node}
    (h : t.walk true l = .ok (.existing place n)) (hn : n.isFile = true) :
    (openForWriting l).run t = (.ok place, t.put place (.file [])) := by
  rw [openForWriting, run_get_bind]
  rw [h]
  cases n with
  | directory | link _ => cases hn
  | file _ | ledger _ => rfl

/-- A text that has an encoding can be stored in a file that stands. -/
theorem writeText_of_walk {l place : Location} {n : Node}
    (h : t.walk true l = .ok (.existing place n)) (hn : n.isFile = true) {content : Text}
    {bytes : Bytes} (hbytes : content.utf8? = some bytes) :
    ∃ t', (writeText l content).run t = (.ok (), t') := by
  refine ⟨(t.put place (.file [])).put place (.file bytes), ?_⟩
  rw [writeText, Effect.run_bind, openForWriting_of_walk h hn]
  dsimp only
  rw [hbytes]
  rfl

/-- A text without an encoding leaves a file that stands empty. -/
theorem writeText_unencodable {l place : Location} {n : Node}
    (h : t.walk true l = .ok (.existing place n)) (hn : n.isFile = true) {content : Text}
    (hcode : content.utf8? = none) :
    (writeText l content).run t = (.error (.defect .unencodable), t.put place (.file [])) := by
  rw [writeText, Effect.run_bind, openForWriting_of_walk h hn]
  dsimp only
  rw [hcode]
  rfl

end FileAction

namespace Project

variable {t t' : Tree} {root : Location} {path content : Text}

/-- Store a text for a location and tell where it is. -/
def store (root target : Location) (content : Text) (kind : WriteKind) : FileAction Written := do
  FileAction.writeText target content
  let base ← FileAction.look (projectBase · root)
  return ⟨relativePath base target, kind⟩

/-- A text that was stored was written, and the answer says how. -/
theorem store_ok {target : Location} {kind : WriteKind} {r : Written}
    (h : (store root target content kind).run t = (.ok r, t')) :
    (FileAction.writeText target content).run t = (.ok (), t') ∧ r.kind = kind := by
  obtain ⟨_, t₁, hwrite, htell⟩ := Effect.bind_ok_iff.mp h
  obtain ⟨base, -, hlast⟩ := FileAction.look_bind_ok_iff.mp htell
  obtain ⟨rfl, rfl⟩ := Effect.pure_ok_iff.mp hlast
  exact ⟨hwrite, rfl⟩

/-- Where a path was resolved, the project is found again once a text was written for it. -/
theorem projectBase_of_writeText {t₀ : Tree} (hearlier : t₀.Evolves t) {target : Location}
    (hresolve : resolveInProject t₀ root path = .ok target)
    (h : (FileAction.writeText target content).run t = (.ok (), t')) :
    ∃ base, projectBase t' root = .ok base := by
  obtain ⟨_, _, -, hevolves, hwalk, -⟩ := FileAction.writeText_ok h
  obtain ⟨-, base, hbase, -⟩ :=
    resolveInProject_ok_iff.mp (resolveInProject_evolves (hearlier.trans hevolves) hresolve hwalk)
  exact ⟨base, projectBase_ok_iff.mpr hbase⟩

/-- Where a path was resolved, a text that was written is also told of, so storing only fails as
writing does. -/
theorem store_error {t₀ : Tree} (hearlier : t₀.Evolves t) {target : Location} {kind : WriteKind}
    {f : Failure} (hresolve : resolveInProject t₀ root path = .ok target)
    (h : (store root target content kind).run t = (.error f, t')) :
    (FileAction.writeText target content).run t = (.error f, t') := by
  rcases Effect.bind_error_iff.mp h with hwrite | ⟨_, t₁, hwrite, htell⟩
  · exact hwrite
  · obtain ⟨base, hbase⟩ := projectBase_of_writeText hearlier hresolve hwrite
    rcases FileAction.look_bind_error_iff.mp htell with ⟨hnone, -⟩ | ⟨_, -, hlast⟩
    · rw [hbase] at hnone
      cases hnone
    · exact absurd hlast Effect.pure_ne_error

/-- What was written for a path is read under it. -/
theorem textAt?_of_writeText {target : Location}
    (hresolve : resolveInProject t root path = .ok target)
    (h : (FileAction.writeText target content).run t = (.ok (), t')) :
    textAt? t' root path = some content := by
  obtain ⟨place, bytes, hbytes, hevolves, hwalk, -⟩ := FileAction.writeText_ok h
  have hlater := resolveInProject_evolves hevolves hresolve hwalk
  exact textAt?_eq_some_iff.mpr
    ⟨place, bytes, ⟨target, hlater, hwalk⟩, Bytes.text?_of_utf8? hbytes⟩

/-- A text that has an encoding can be stored in a file that stands. -/
theorem store_of_walk {t₀ : Tree} (hearlier : t₀.Evolves t) {target place : Location} {n : Node}
    (hresolve : resolveInProject t₀ root path = .ok target)
    (hwalk : t.walk true target = .ok (.existing place n)) (hn : n.isFile = true)
    (hcode : content.HasEncoding) (kind : WriteKind) :
    ∃ r t', (store root target content kind).run t = (.ok r, t') := by
  obtain ⟨bytes, hbytes⟩ := Option.isSome_iff_exists.mp hcode
  obtain ⟨t', hstore⟩ := FileAction.writeText_of_walk hwalk hn hbytes
  obtain ⟨base, hbase⟩ := projectBase_of_writeText hearlier hresolve hstore
  exact ⟨_, t', Effect.bind_ok_iff.mpr ⟨(), t', hstore,
    FileAction.look_bind_ok_iff.mpr ⟨base, hbase, rfl⟩⟩⟩

/-- A text without an encoding cannot be stored, and it leaves a file that stands empty. -/
theorem store_unencodable {target place : Location} {n : Node}
    (hwalk : t.walk true target = .ok (.existing place n)) (hn : n.isFile = true)
    (hcode : ¬ content.HasEncoding) (kind : WriteKind) :
    (store root target content kind).run t =
      (.error (.defect .unencodable), t.put place (.file [])) := by
  have hnone : content.utf8? = none := Option.not_isSome_iff_eq_none.mp hcode
  rw [store, Effect.run_bind, FileAction.writeText_unencodable hwalk hn hnone]

/-- **Writing over.** A file that a path leads to can be written over with any text that has an
encoding. -/
theorem write_of_leadsTo {place : Location} {n : Node} (hlead : LeadsTo t root path place n)
    (hn : n.isFile = true) (hbytes : content.utf8?.isSome = true) :
    ∃ r t', (write root path content).run t = (.ok r, t') := by
  obtain ⟨target, hresolve, hwalk⟩ := hlead
  have hexists : (t.doesExist target).mapError Failure.system = .ok true := by
    rw [Tree.doesExist, Tree.status, hwalk]
    rfl
  -- a file is not the root, so it has a directory above it
  obtain ⟨above, name, rfl⟩ : ∃ above name, target = above ++ [name] := by
    rcases List.eq_nil_or_concat target with rfl | ⟨above, name, rfl⟩
    · cases hwalk
      cases hn
    · exact ⟨above, name, List.concat_eq_append⟩
  have hmake : (FileAction.makeDirectory (above ++ [name]).dropLast).run t = (.ok (), t) := by
    rw [List.dropLast_concat]
    exact FileAction.makeDirectory_run hwalk
  obtain ⟨r, t', hstore⟩ :=
    store_of_walk (Tree.Extends.refl t).evolves hresolve hwalk hn hbytes .overwritten
  refine ⟨r, t', FileAction.look_bind_ok_iff.mpr ⟨_, hresolve, ?_⟩⟩
  refine FileAction.look_bind_ok_iff.mpr ⟨true, hexists, ?_⟩
  exact Effect.bind_ok_iff.mpr ⟨(), t, hmake, hstore⟩

end Project

end Tablewright
