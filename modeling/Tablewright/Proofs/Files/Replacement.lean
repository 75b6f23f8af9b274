/-
Replacing a text in a file.

An edit with a text to replace and a file to replace it in comes to its checks, and when it passes
them the new contents are stored (`Replaces`). `edit_course` says what an edit can come to: it stops
and changes nothing, it writes the whole file, or it replaces. The text to replace is taken for one
that occurs once when all its occurrences begin inside the first one (`replaceOnce_ok_iff`), so
`edit_on_file` says exactly when a file is edited and when the edit goes by the positions at which the
text occurs.
-/
import Tablewright.Proofs.Files.Edit
import Tablewright.Proofs.Files.Overwrite
import Tablewright.Proofs.Text.Newline
import Tablewright.Proofs.Text.Occurrence

set_option autoImplicit false

namespace Tablewright

namespace Project

variable {t t' : Tree} {root target place : Location} {path new contents text : Text}
  {old : Option Text}

/-! ## The text that is stored -/

/-- The text of a file is read when a walk ends at the file and its bytes are a text. -/
theorem readText_ok_iff {shown : Text} :
    readText t target shown = .ok contents ↔
      ∃ place bytes raw, t.walk true target = .ok (.existing place (.file bytes)) ∧
        Bytes.text? bytes = some raw ∧ contents = raw.foldNewlines := by
  rw [readText, FileAction.content]
  constructor
  · intro h
    split at h
    case h_1 => cases h
    case h_2 => cases h
    case h_3 bytes hcontent =>
      split at hcontent
      case h_1 place _ hwalk =>
        cases hcontent
        split at h
        case h_1 raw hraw =>
          cases h
          exact ⟨place, bytes, raw, hwalk, hraw, rfl⟩
        case h_2 => cases h
      case h_2 | h_3 | h_4 | h_5 | h_6 => cases hcontent
  · rintro ⟨place, bytes, raw, hwalk, hraw, rfl⟩
    rw [hwalk]
    dsimp only
    rw [hraw]
    rfl

/-- **One occurrence.** A text is replaced exactly where all its occurrences begin inside one. -/
theorem replaceOnce_ok_iff {needle : Text} (hne : needle ≠ []) :
    replaceOnce path contents needle new = .ok text ↔
      ∃ i, contents.SoleAt needle i ∧
        text = contents.take i ++ new ++ contents.drop (i + needle.length) := by
  rw [replaceOnce]
  constructor
  · intro h
    split at h
    case h_1 => cases h
    case h_2 hone =>
      cases h
      obtain ⟨i, hsole⟩ := (Text.count_eq_one_iff hne).mp hone
      exact ⟨i, hsole, Text.replaceFirst_of_soleAt hne hsole new⟩
    case h_3 => cases h
  · rintro ⟨i, hsole, rfl⟩
    rw [(Text.count_eq_one_iff hne).mpr ⟨i, hsole⟩]
    exact congrArg Except.ok (Text.replaceFirst_of_soleAt hne hsole new)

/-- A text that is not replaced leaves its place undetermined. -/
theorem replaceOnce_error {needle : Text} {q : Refusal}
    (h : replaceOnce path contents needle new = .error q) : q.kind = .ambiguousEdit := by
  rw [replaceOnce] at h
  split at h
  case h_1 | h_3 =>
    cases h
    rfl
  case h_2 => cases h

/-- The new contents have an encoding exactly when the new text has one. -/
theorem hasEncoding_replaced {needle : Text} {i : Nat} (h : contents.OccursAt needle i)
    (hcontents : contents.HasEncoding) :
    Text.HasEncoding (contents.take i ++ new ++ contents.drop (i + needle.length)) ↔
      new.HasEncoding := by
  rw [h.eq_append] at hcontents
  simp only [Text.hasEncoding_append] at hcontents ⊢
  exact ⟨fun hnew => hnew.1.2, fun hnew => ⟨⟨hcontents.1.1, hnew⟩, hcontents.2⟩⟩

/-- A text that was read has an encoding. -/
theorem hasEncoding_of_text? {bytes : Bytes} {raw : Text} (h : Bytes.text? bytes = some raw) :
    raw.HasEncoding :=
  Option.isSome_of_eq_some (Bytes.utf8?_of_text? h)

/-! ## The course of an edit -/

/-- An edit passes its checks: it replaces a text of a file, and this is what it stores. -/
structure Replaces (t : Tree) (root : Location) (path : Text) (old : Option Text) (new : Text)
    (target : Location) (contents text : Text) : Prop where
  /-- The edit comes to its checks. -/
  comes : EditsAt t root path old target
  /-- The new text is another one. -/
  differs : Text.orEmpty old ≠ new
  /-- The place is no directory. -/
  isFile : t.isDirectory target = .ok false
  /-- The file is text. -/
  reads : readText t target path = .ok contents
  /-- The text to replace is found once. -/
  replaced : replaceOnce path contents (Text.orEmpty old) new = .ok text

/-- What an edit can come to. -/
inductive EditCourse (t : Tree) (root : Location) (path : Text) (old : Option Text) (new : Text) :
    Except Failure Written → Tree → Prop
  /-- It stops before anything is changed. -/
  | stopped (f : Failure) : EditCourse t root path old new (.error f) t
  /-- There is nothing to replace or no file, so the whole file is written. -/
  | whole {target : Location} {q : Except Failure Written} {t' : Tree}
      (resolves : resolveInProject t root path = .ok target)
      (hwhole : (Text.orEmpty old).isEmpty = true ∨ t.doesExist target = .ok false)
      (h : (write root path new).run t = (q, t')) : EditCourse t root path old new q t'
  /-- A text is replaced in the file. -/
  | replaces {target : Location} {contents text : Text} {q : Except Failure Written} {t' : Tree}
      (hreplaces : Replaces t root path old new target contents text)
      (h : (store root target text .edited).run t = (q, t')) : EditCourse t root path old new q t'

/-- An edit goes one of the ways of `EditCourse`. -/
theorem edit_course {q : Except Failure Written}
    (h : (edit root path old new).run t = (q, t')) : EditCourse t root path old new q t' := by
  rw [edit] at h
  rcases FileAction.look_bind_cases h with ⟨f, rfl, rfl⟩ | ⟨target, hresolves, h⟩
  · exact .stopped f
  dsimp only at h
  by_cases hempty : (Text.orEmpty old).isEmpty = true
  · rw [if_pos hempty] at h
    exact .whole hresolves (.inl hempty) h
  rw [if_neg hempty] at h
  rcases FileAction.ask_bind_cases h with ⟨f, rfl, rfl⟩ | ⟨existed, hfound, h⟩
  · exact .stopped f
  cases existed with
  | false => exact .whole hresolves (.inr hfound) h
  | true =>
    rw [if_neg (by decide)] at h
    by_cases hnew : Text.orEmpty old = new
    · rw [if_pos hnew] at h
      obtain ⟨rfl, rfl⟩ := FileAction.throw_bind_cases h
      exact .stopped _
    rw [if_neg hnew] at h
    rcases FileAction.ask_bind_cases h with ⟨f, rfl, rfl⟩ | ⟨directory, hfile, h⟩
    · exact .stopped f
    cases directory with
    | true =>
      obtain ⟨rfl, rfl⟩ := FileAction.throw_bind_cases h
      exact .stopped _
    | false =>
      rw [if_neg (by decide)] at h
      rcases FileAction.look_bind_cases h with ⟨f, rfl, rfl⟩ | ⟨contents, hread, h⟩
      · exact .stopped f
      split at h
      case h_1 =>
        cases h
        exact .stopped _
      case h_2 text hreplace =>
        have hcomes : EditsAt t root path old target :=
          ⟨hresolves, Bool.eq_false_iff.mpr hempty, hfound⟩
        exact .replaces ⟨hcomes, hnew, hfile, hread, hreplace⟩ h

/-- An edit that passes its checks stores the new contents. -/
theorem Replaces.edit_run (h : Replaces t root path old new target contents text) :
    (edit root path old new).run t = (store root target text .edited).run t := by
  rw [edit, FileAction.look_bind_run h.comes.resolves]
  dsimp only
  rw [if_neg (Bool.eq_false_iff.mp h.comes.given), FileAction.ask_bind_run h.comes.found,
    if_neg (by decide), if_neg h.differs, FileAction.ask_bind_run h.isFile, if_neg (by decide),
    FileAction.look_bind_run h.reads, h.replaced]
  rfl

/-- An edit without a text to replace, or without a file, writes the whole file. -/
theorem edit_run_whole (hresolve : resolveInProject t root path = .ok target)
    (hwhole : (Text.orEmpty old).isEmpty = true ∨ t.doesExist target = .ok false) :
    (edit root path old new).run t = (write root path new).run t := by
  rw [edit, FileAction.look_bind_run hresolve]
  dsimp only
  split
  case isTrue => rfl
  case isFalse hgiven =>
    rw [FileAction.ask_bind_run (hwhole.resolve_left hgiven)]
    rfl

/-- There is a text to replace. -/
theorem Replaces.needle_ne_nil (h : Replaces t root path old new target contents text) :
    Text.orEmpty old ≠ [] := fun hempty => by
  have hgiven := h.comes.given
  rw [hempty] at hgiven
  cases hgiven

/-- The new contents of a file have an encoding exactly when the new text has one. -/
theorem Replaces.hasEncoding_iff (h : Replaces t root path old new target contents text) :
    text.HasEncoding ↔ new.HasEncoding := by
  obtain ⟨_, _, raw, -, hraw, rfl⟩ := readText_ok_iff.mp h.reads
  obtain ⟨i, hsole, rfl⟩ := (replaceOnce_ok_iff h.needle_ne_nil).mp h.replaced
  exact hasEncoding_replaced hsole.occurs (hasEncoding_of_text? hraw).foldNewlines

/-- A file that was written whole is not said to be edited. -/
theorem kind_of_write {content : Text} {r : Written}
    (h : (write root path content).run t = (.ok r, t')) : r.kind ≠ .edited := by
  obtain ⟨target, -, hask⟩ := FileAction.look_bind_ok_iff.mp h
  obtain ⟨existed, -, hmake⟩ := FileAction.look_bind_ok_iff.mp hask
  obtain ⟨_, t₁, -, hstore⟩ := Effect.bind_ok_iff.mp hmake
  have hkind := (store_ok hstore).2
  rw [hkind]
  cases existed <;> exact nofun

/-- A file that was edited had a text replaced in it, and the new contents were stored. -/
theorem replaces_of_edited {r : Written} (h : (edit root path old new).run t = (.ok r, t'))
    (hr : r.kind = .edited) :
    ∃ target contents text, Replaces t root path old new target contents text ∧
      (FileAction.writeText target text).run t = (.ok (), t') := by
  cases edit_course h with
  | whole _ _ hwrite => exact absurd hr (kind_of_write hwrite)
  | replaces hreplaces hstore => exact ⟨_, _, _, hreplaces, (store_ok hstore).1⟩

/-! ## Editing a file -/

section File

variable {needle raw : Text} {bytes : Bytes} {i : Nat}

/-- An edit with a text to replace comes to its checks where its path leads to a file. -/
theorem editsAt_of_walk {n : Node} (hresolve : resolveInProject t root path = .ok target)
    (hwalk : t.walk true target = .ok (.existing place n)) (hne : needle ≠ []) :
    EditsAt t root path (some needle) target where
  resolves := hresolve
  given := Bool.eq_false_iff.mpr fun hempty => hne (List.isEmpty_iff.mp hempty)
  found := by
    rw [Tree.doesExist, Tree.status, hwalk]
    rfl

theorem isDirectory_of_walk {n : Node} (hwalk : t.walk true target = .ok (.existing place n))
    (hn : n.isFile = true) : t.isDirectory target = .ok false := by
  rw [Tree.isDirectory, Tree.status, hwalk]
  cases n with
  | directory | link _ => cases hn
  | file _ | ledger _ => rfl

/-- An edit of a file replaces a text where all its occurrences begin inside one. -/
theorem replaces_of_soleAt (hresolve : resolveInProject t root path = .ok target)
    (hwalk : t.walk true target = .ok (.existing place (.file bytes)))
    (hraw : Bytes.text? bytes = some raw) (hne : needle ≠ []) (hnew : needle ≠ new)
    (h : raw.foldNewlines.SoleAt needle i) :
    Replaces t root path (some needle) new target raw.foldNewlines
      (raw.foldNewlines.take i ++ new ++ raw.foldNewlines.drop (i + needle.length)) where
  comes := editsAt_of_walk hresolve hwalk hne
  differs := hnew
  isFile := isDirectory_of_walk hwalk rfl
  reads := readText_ok_iff.mpr ⟨place, bytes, raw, hwalk, hraw, rfl⟩
  replaced := (replaceOnce_ok_iff hne).mpr ⟨i, h, rfl⟩

/-- Where all occurrences begin inside one, a new text that has an encoding is put in its place. -/
theorem edit_of_soleAt (hread : textAt? t root path = some raw) (hne : needle ≠ [])
    (hnew : needle ≠ new) (hcode : new.HasEncoding) (h : raw.foldNewlines.SoleAt needle i) :
    ∃ r t', (edit root path (some needle) new).run t = (.ok r, t') ∧ r.kind = .edited ∧
      textAt? t' root path = some
        (raw.foldNewlines.take i ++ new ++ raw.foldNewlines.drop (i + needle.length)) := by
  obtain ⟨place, bytes, ⟨target, hresolve, hwalk⟩, hraw⟩ := textAt?_eq_some_iff.mp hread
  have hreplaces := replaces_of_soleAt hresolve hwalk hraw hne hnew h
  obtain ⟨r, t', hrun⟩ := store_of_walk (Tree.Extends.refl t).evolves hresolve hwalk rfl
    (hreplaces.hasEncoding_iff.mpr hcode) .edited
  obtain ⟨hwrite, hkind⟩ := store_ok hrun
  exact ⟨r, t', hreplaces.edit_run.trans hrun, hkind, textAt?_of_writeText hresolve hwrite⟩

/-- Where all occurrences begin inside one, a new text without an encoding is a defect. -/
theorem edit_unencodable (hread : textAt? t root path = some raw) (hne : needle ≠ [])
    (hnew : needle ≠ new) (hcode : ¬ new.HasEncoding) (h : raw.foldNewlines.SoleAt needle i) :
    ∃ t', (edit root path (some needle) new).run t = (.error (.defect .unencodable), t') := by
  obtain ⟨place, bytes, ⟨target, hresolve, hwalk⟩, hraw⟩ := textAt?_eq_some_iff.mp hread
  have hreplaces := replaces_of_soleAt hresolve hwalk hraw hne hnew h
  rw [hreplaces.edit_run]
  exact ⟨_, store_unencodable hwalk rfl (mt hreplaces.hasEncoding_iff.mp hcode) .edited⟩

/-- Where the occurrences do not all begin inside one, the edit is turned down as ambiguous. -/
theorem edit_ambiguous (hread : textAt? t root path = some raw) (hne : needle ≠ [])
    (hnew : needle ≠ new) (h : ¬ ∃ i, raw.foldNewlines.SoleAt needle i) :
    ∃ q, (edit root path (some needle) new).run t = (.error (.refused q), t) ∧
      q.kind = .ambiguousEdit := by
  obtain ⟨place, bytes, ⟨target, hresolve, hwalk⟩, hraw⟩ := textAt?_eq_some_iff.mp hread
  cases hreplace : replaceOnce path raw.foldNewlines needle new with
  | ok text =>
    obtain ⟨i, hsole, -⟩ := (replaceOnce_ok_iff hne).mp hreplace
    exact absurd ⟨i, hsole⟩ h
  | error q =>
    have hcheck : EditCheck t root path (some needle) new q :=
      .occurrences (editsAt_of_walk hresolve hwalk hne) hnew (isDirectory_of_walk hwalk rfl)
        (readText_ok_iff.mpr ⟨place, bytes, raw, hwalk, hraw, rfl⟩) hreplace
    exact ⟨q, hcheck.edit_run, replaceOnce_error hreplace⟩

/-- What was edited where all occurrences begin inside one has the new text in the place of the first
one, and the new text has an encoding. -/
theorem text_of_edit {r : Written} (hread : textAt? t root path = some raw) (hne : needle ≠ [])
    (hnew : needle ≠ new) (h : raw.foldNewlines.SoleAt needle i)
    (hrun : (edit root path (some needle) new).run t = (.ok r, t')) :
    new.HasEncoding ∧ textAt? t' root path = some
      (raw.foldNewlines.take i ++ new ++ raw.foldNewlines.drop (i + needle.length)) := by
  by_cases hcode : new.HasEncoding
  · obtain ⟨r', t'', hrun', -, htext⟩ := edit_of_soleAt hread hne hnew hcode h
    rw [hrun] at hrun'
    cases hrun'
    exact ⟨hcode, htext⟩
  · obtain ⟨t'', hbreaks⟩ := edit_unencodable hread hne hnew hcode h
    rw [hrun] at hbreaks
    cases hbreaks

/-- A text of a file is replaced. -/
def Edits (t : Tree) (root : Location) (path needle new : Text) : Prop :=
  ∃ r t', (edit root path (some needle) new).run t = (.ok r, t') ∧ r.kind = .edited

/-- An edit is done exactly when all occurrences begin inside one and the new text has an
encoding. -/
theorem edits_iff (hread : textAt? t root path = some raw) (hne : needle ≠ [])
    (hnew : needle ≠ new) :
    Edits t root path needle new ↔
      new.HasEncoding ∧ ∃ i, raw.foldNewlines.SoleAt needle i := by
  constructor
  · rintro ⟨r, t', hrun, -⟩
    by_cases hsole : ∃ i, raw.foldNewlines.SoleAt needle i
    · obtain ⟨i, hi⟩ := hsole
      exact ⟨(text_of_edit hread hne hnew hi hrun).1, i, hi⟩
    · obtain ⟨q, hrefused, -⟩ := edit_ambiguous hread hne hnew hsole
      rw [hrun] at hrefused
      cases hrefused
  · rintro ⟨hcode, i, hi⟩
    obtain ⟨r, t', hrun, hkind, -⟩ := edit_of_soleAt hread hne hnew hcode hi
    exact ⟨r, t', hrun, hkind⟩

/-- An edit goes by the positions at which the text to replace occurs in the contents of the file:
it is done when there is exactly one, and turned down as ambiguous when there is none or another
one. -/
structure GoesByPosition (t : Tree) (root : Location) (path needle new contents : Text) : Prop where
  edits : Edits t root path needle new ↔ ∃ i, contents.OnlyAt needle i
  replaces : ∀ i, contents.OnlyAt needle i → ∀ r t',
    (edit root path (some needle) new).run t = (.ok r, t') →
      textAt? t' root path =
        some (contents.take i ++ new ++ contents.drop (i + needle.length))
  refuses : (¬ ∃ i, contents.OnlyAt needle i) →
    ∃ q, (edit root path (some needle) new).run t = (.error (.refused q), t) ∧
      q.kind = .ambiguousEdit

/-- An edit goes by positions exactly when the text to replace does not overlap itself where it
occurs, and the new text has an encoding when it is to be stored. -/
theorem goesByPosition_iff (hread : textAt? t root path = some raw) (hne : needle ≠ [])
    (hnew : needle ≠ new) :
    GoesByPosition t root path needle new raw.foldNewlines ↔
      ∀ i, raw.foldNewlines.SoleAt needle i →
        new.HasEncoding ∧ raw.foldNewlines.OnlyAt needle i := by
  constructor
  · intro h i hi
    have hpositions : ∃ j, raw.foldNewlines.OnlyAt needle j := by
      refine Classical.byContradiction fun hnone => ?_
      -- it would be turned down, but all occurrences begin inside one
      obtain ⟨q, hrefused, -⟩ := h.refuses hnone
      by_cases hcode : new.HasEncoding
      · obtain ⟨r, t', hrun, -⟩ := edit_of_soleAt hread hne hnew hcode hi
        rw [hrun] at hrefused
        cases hrefused
      · obtain ⟨t', hbreaks⟩ := edit_unencodable hread hne hnew hcode hi
        rw [hbreaks] at hrefused
        cases hrefused
    obtain ⟨hcode, -⟩ := (edits_iff hread hne hnew).mp (h.edits.mpr hpositions)
    obtain ⟨j, hj⟩ := hpositions
    obtain rfl := (hj.soleAt hne).unique hi
    exact ⟨hcode, hj⟩
  · intro h
    have hsole : ∀ i, raw.foldNewlines.OnlyAt needle i ↔ raw.foldNewlines.SoleAt needle i :=
      fun i => ⟨fun hi => hi.soleAt hne, fun hi => (h i hi).2⟩
    refine ⟨?_, fun i hi r t' hrun => ?_, fun hnone => ?_⟩
    · simp only [edits_iff hread hne hnew, hsole]
      exact ⟨fun hdone => hdone.2, fun ⟨i, hi⟩ => ⟨(h i hi).1, i, hi⟩⟩
    · exact (text_of_edit hread hne hnew ((hsole i).mp hi) hrun).2
    · simp only [hsole] at hnone
      exact edit_ambiguous hread hne hnew hnone

/-- **Editing a file.** A text is replaced exactly when all its occurrences begin inside one and the
new text has an encoding; the new text is then put in the place of the first occurrence. Where the
occurrences do not all begin inside one, the edit is turned down as ambiguous. So an edit goes by the
positions of the text exactly when it does not overlap itself there and the new text can be
stored. -/
theorem edit_on_file (hread : textAt? t root path = some raw) (hne : needle ≠ [])
    (hnew : needle ≠ new) :
    (Edits t root path needle new ↔
      new.HasEncoding ∧ ∃ i, raw.foldNewlines.SoleAt needle i) ∧
    (∀ i, raw.foldNewlines.SoleAt needle i → ∀ r t',
      (edit root path (some needle) new).run t = (.ok r, t') →
        textAt? t' root path = some
          (raw.foldNewlines.take i ++ new ++ raw.foldNewlines.drop (i + needle.length))) ∧
    ((¬ ∃ i, raw.foldNewlines.SoleAt needle i) →
      ∃ q, (edit root path (some needle) new).run t = (.error (.refused q), t) ∧
        q.kind = .ambiguousEdit) ∧
    (GoesByPosition t root path needle new raw.foldNewlines ↔
      ∀ i, raw.foldNewlines.SoleAt needle i →
        new.HasEncoding ∧ raw.foldNewlines.OnlyAt needle i) :=
  ⟨edits_iff hread hne hnew, fun _ hi _ _ hrun => (text_of_edit hread hne hnew hi hrun).2,
    edit_ambiguous hread hne hnew, goesByPosition_iff hread hne hnew⟩

end File

/-! ### A text that overlaps itself -/

/-- The project at `/p` with one file. -/
def noteTree (bytes : Bytes) : Tree := ⟨[(["p"], .directory), (["p", "a.txt"], .file bytes)]⟩

/-- A text that occurs once and does not overlap itself is replaced. -/
theorem edit_on_file_abc :
    textAt? (noteTree [0x61, 0x62, 0x63]) ["p"] "a.txt" = some "abc" ∧
      (Text.ofString "b" ≠ [] ∧ Text.ofString "b" ≠ "x") ∧
      Edits (noteTree [0x61, 0x62, 0x63]) ["p"] "a.txt" "b" "x" ∧
      GoesByPosition (noteTree [0x61, 0x62, 0x63]) ["p"] "a.txt" "b" "x" "abc" := by
  have hread : textAt? (noteTree [0x61, 0x62, 0x63]) ["p"] "a.txt" = some "abc" := rfl
  have hne : Text.ofString "b" ≠ [] := by decide
  have hnew : Text.ofString "b" ≠ "x" := by decide
  have hinside : ∀ j < 3, Text.OccursAt "abc" "b" j → j = 1 := by decide
  have honly : Text.OnlyAt "abc" "b" 1 := ⟨by decide, fun j hj => hinside j (hj.lt_length hne) hj⟩
  obtain ⟨hedits, -, -, hpositions⟩ := edit_on_file hread hne hnew
  refine ⟨hread, ⟨hne, hnew⟩, hedits.mpr ⟨Text.hasEncoding_ofString "x", 1, honly.soleAt hne⟩,
    hpositions.mpr fun i hi => ?_⟩
  obtain rfl := (honly.soleAt hne).unique hi
  exact ⟨Text.hasEncoding_ofString "x", honly⟩

/-- A text that occurs at two positions is replaced at the first of them. -/
theorem edit_overlapping :
    Text.OccursAt "aaa" "aa" 0 ∧ Text.OccursAt "aaa" "aa" 1 ∧
      textAt? (noteTree [0x61, 0x61, 0x61]) ["p"] "a.txt" = some "aaa" ∧
      (edit ["p"] "a.txt" (some "aa") "b").run (noteTree [0x61, 0x61, 0x61]) =
        (.ok ⟨"a.txt", .edited⟩, noteTree [0x62, 0x61]) ∧
      ¬ GoesByPosition (noteTree [0x61, 0x61, 0x61]) ["p"] "a.txt" "aa" "b" "aaa" := by
  have hzero : Text.OccursAt "aaa" "aa" 0 := ⟨"a", rfl⟩
  have hone : Text.OccursAt "aaa" "aa" 1 := ⟨[], rfl⟩
  have hrun : (edit ["p"] "a.txt" (some "aa") "b").run (noteTree [0x61, 0x61, 0x61]) =
      (.ok ⟨"a.txt", .edited⟩, noteTree [0x62, 0x61]) := rfl
  refine ⟨hzero, hone, rfl, hrun, fun h => ?_⟩
  obtain ⟨i, hi⟩ := h.edits.mp ⟨_, _, hrun, rfl⟩
  have hfirst : 0 = i := hi.only 0 hzero
  have hsecond : 1 = i := hi.only 1 hone
  omega

end Project

end Tablewright
