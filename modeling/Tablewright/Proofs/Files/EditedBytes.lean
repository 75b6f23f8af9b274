/-
What an edit does to the bytes of a file.

An edit works on the text of a file with its line ends folded, and what it stores is encoded again
(`FileEdit`). So what it replaces is one stretch of the bytes of the folded text, and every other
location is as it was. It is one stretch of the bytes of the file exactly when they hold no carriage
return (`edited_bytes`): with one in them, the folded line ends are stored as line feeds, and the
carriage returns of the file are gone.
-/
import Tablewright.Proofs.Files.Replacement

set_option autoImplicit false

namespace Tablewright

/-! ## Stretches of bytes -/

/-- From the bytes before to the bytes after, one stretch of bytes was replaced by another. -/
def Bytes.Replaced (old new before after : Bytes) : Prop :=
  ∃ p s, before = p ++ old ++ s ∧ after = p ++ new ++ s

/-- Where the same stretch was replaced with the same outcome, a byte that stood in the one stood in
the other. -/
theorem Bytes.Replaced.mem_of_mem {old new before before' after : Bytes} {b : UInt8}
    (h : Replaced old new before after) (h' : Replaced old new before' after) (hb : b ∈ before') :
    b ∈ before := by
  obtain ⟨p, s, rfl, hafter⟩ := h
  obtain ⟨p', s', rfl, hafter'⟩ := h'
  -- outside the stretch the byte occurs as often before as before the other replacement
  have hcount := congrArg (List.count b) (hafter.symm.trans hafter')
  rw [← List.count_pos_iff] at hb ⊢
  simp only [List.count_append] at hcount hb ⊢
  omega

namespace Project

variable {t t' : Tree} {root : Location} {path new : Text} {old : Option Text}

/-- An edited file: what it held before and after, and the stretch of bytes that was replaced, which
is one of the text as it was read, its line ends folded. -/
structure FileEdit (t t' : Tree) (root : Location) (path : Text) (old new : Bytes)
    (place : Location) (before after : Bytes) : Prop where
  leads : LeadsTo t root path place (.file before)
  leads_after : LeadsTo t' root path place (.file after)
  elsewhere : ∀ l, Location.stored l ≠ place → t'.get? l = t.get? l
  folded : ∃ raw text, Bytes.text? before = some raw ∧ raw.foldNewlines.utf8? = some text ∧
    Bytes.Replaced old new text after

/-- A text that is replaced in a text is replaced in its bytes. -/
theorem replaced_of_soleAt {contents needle : Text} {i : Nat} (h : contents.SoleAt needle i)
    {folded after : Bytes} (hfolded : contents.utf8? = some folded)
    (hafter : Text.utf8? (contents.take i ++ new ++ contents.drop (i + needle.length))
      = some after) :
    ∃ o n, needle.utf8? = some o ∧ new.utf8? = some n ∧ Bytes.Replaced o n folded after := by
  have hcontents : contents.HasEncoding := Option.isSome_of_eq_some hfolded
  have hstored : Text.HasEncoding (contents.take i ++ new ++ contents.drop (i + needle.length)) :=
    Option.isSome_of_eq_some hafter
  rw [h.occurs.eq_append] at hcontents hfolded
  simp only [Text.hasEncoding_append] at hcontents hstored
  obtain ⟨p, hp⟩ := Option.isSome_iff_exists.mp hcontents.1.1
  obtain ⟨o, ho⟩ := Option.isSome_iff_exists.mp hcontents.1.2
  obtain ⟨s, hs⟩ := Option.isSome_iff_exists.mp hcontents.2
  obtain ⟨n, hn⟩ := Option.isSome_iff_exists.mp hstored.1.2
  refine ⟨o, n, ho, hn, p, s, ?_, ?_⟩
  · exact Option.some.inj (hfolded.symm.trans
      (Text.utf8?_append (Text.utf8?_append hp ho) hs))
  · exact Option.some.inj (hafter.symm.trans
      (Text.utf8?_append (Text.utf8?_append hp hn) hs))

/-- An edit that stored the new contents is an edit of the file its path leads to. -/
theorem Replaces.fileEdit {target : Location} {contents text : Text}
    (h : Replaces t root path old new target contents text)
    (hwrite : (FileAction.writeText target text).run t = (.ok (), t')) :
    ∃ place before after o n, (Text.orEmpty old).utf8? = some o ∧ new.utf8? = some n ∧
      FileEdit t t' root path o n place before after := by
  obtain ⟨place, before, raw, hwalk, hraw, rfl⟩ := readText_ok_iff.mp h.reads
  obtain ⟨i, hsole, rfl⟩ := (replaceOnce_ok_iff h.needle_ne_nil).mp h.replaced
  obtain ⟨later, after, hafter, hevolves, hlater, helse⟩ := FileAction.writeText_ok hwrite
  -- the file is where it was
  obtain ⟨n', hsame, -⟩ := Tree.walk_evolves hevolves hwalk
  rw [hlater] at hsame
  cases hsame
  obtain ⟨folded, hfolded⟩ :=
    Option.isSome_iff_exists.mp (hasEncoding_of_text? hraw).foldNewlines
  obtain ⟨o, n, ho, hn, hreplaced⟩ := replaced_of_soleAt hsole hfolded hafter
  exact ⟨place, before, after, o, n, ho, hn, {
    leads := ⟨target, h.comes.resolves, hwalk⟩
    leads_after := ⟨target, resolveInProject_evolves hevolves h.comes.resolves hlater, hlater⟩
    elsewhere := helse
    folded := ⟨raw, folded, hraw, hfolded, hreplaced⟩ }⟩

/-- A stretch of the bytes of an edited file was replaced exactly when no carriage return is among
them. -/
theorem FileEdit.replaced_iff {o n : Bytes} {place : Location} {before after : Bytes}
    (h : FileEdit t t' root path o n place before after) :
    Bytes.Replaced o n before after ↔ 0x0D ∉ before := by
  obtain ⟨raw, folded, hraw, hfolded, hreplaced⟩ := h.folded
  have hbytes := Bytes.utf8?_of_text? hraw
  constructor
  · intro hfile hreturn
    exact Text.not_mem_of_foldNewlines hfolded (hreplaced.mem_of_mem hfile hreturn)
  · intro hreturn
    rw [Text.foldNewlines_of_bytes hbytes hreturn, hbytes] at hfolded
    cases hfolded
    exact hreplaced

/-- **An edit in bytes.** A file that was edited is the file its path led to, nothing else has
changed, and one stretch of the folded text, the encoding of the text to replace, was replaced by the
encoding of the new one. It was a stretch of the file itself exactly when the file held no carriage
return. -/
theorem edited_bytes {r : Written} (h : (edit root path old new).run t = (.ok r, t'))
    (hr : r.kind = .edited) :
    ∃ place before after o n, (Text.orEmpty old).utf8? = some o ∧ new.utf8? = some n ∧
      FileEdit t t' root path o n place before after ∧
      (Bytes.Replaced o n before after ↔ 0x0D ∉ before) := by
  obtain ⟨target, contents, text, hreplaces, hwrite⟩ := replaces_of_edited h hr
  obtain ⟨place, before, after, o, n, ho, hn, hedit⟩ := hreplaces.fileEdit hwrite
  exact ⟨place, before, after, o, n, ho, hn, hedit, hedit.replaced_iff⟩

/-- In a file without carriage returns the bytes around the text that was replaced are kept. -/
theorem edited_bytes_abc :
    (edit ["p"] "a.txt" (some "b") "x").run (noteTree [0x61, 0x62, 0x63]) =
        (.ok ⟨"a.txt", .edited⟩, noteTree [0x61, 0x78, 0x63]) ∧
      Bytes.Replaced [0x62] [0x78] [0x61, 0x62, 0x63] [0x61, 0x78, 0x63] := by
  have hrun : (edit ["p"] "a.txt" (some "b") "x").run (noteTree [0x61, 0x62, 0x63]) =
      (.ok ⟨"a.txt", .edited⟩, noteTree [0x61, 0x78, 0x63]) := rfl
  refine ⟨hrun, ?_⟩
  obtain ⟨place, before, after, o, n, ho, hn, hedit, hiff⟩ := edited_bytes hrun rfl
  obtain rfl : [0x62] = o := Option.some.inj ho
  obtain rfl : [0x78] = n := Option.some.inj hn
  have hbefore : LeadsTo (noteTree [0x61, 0x62, 0x63]) ["p"] "a.txt" ["p", "a.txt"]
      (.file [0x61, 0x62, 0x63]) := ⟨_, rfl, rfl⟩
  have hafter : LeadsTo (noteTree [0x61, 0x78, 0x63]) ["p"] "a.txt" ["p", "a.txt"]
      (.file [0x61, 0x78, 0x63]) := ⟨_, rfl, rfl⟩
  obtain ⟨-, hb⟩ := hbefore.unique hedit.leads
  obtain ⟨-, ha⟩ := hafter.unique hedit.leads_after
  cases hb
  cases ha
  exact hiff.mpr (by decide)

/-- The carriage return behind the first line is gone, although it stands outside the text that was
replaced. -/
theorem edit_folds_file :
    (edit ["p"] "a.txt" (some "b") "c").run (noteTree [0x61, 0x0D, 0x0A, 0x62]) =
        (.ok ⟨"a.txt", .edited⟩, noteTree [0x61, 0x0A, 0x63]) ∧
      Text.utf8? "b" = some [0x62] ∧ Text.utf8? "c" = some [0x63] ∧
      ¬ Bytes.Replaced [0x62] [0x63] [0x61, 0x0D, 0x0A, 0x62] [0x61, 0x0A, 0x63] := by
  refine ⟨rfl, rfl, rfl, ?_⟩
  rintro ⟨p, s, hbefore, hafter⟩
  -- a stretch of one byte was replaced by one byte, but the file is shorter
  have hlength := congrArg List.length hbefore
  have hlength' := congrArg List.length hafter
  simp at hlength hlength'
  omega

end Project

end Tablewright
