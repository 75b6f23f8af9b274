/-
The body of a class in a generated module.

A class is declared on a line at the margin, and its body are the lines behind that one which are
indented or empty (`Text.classBody`). In a module that is put together from a header and from
classes with different names, the body of each class is found (`Text.classBody_unlines`).
-/
import Tablewright.Proofs.Artifact.Imports
import Tablewright.Proofs.Text.Occurrence
import Tablewright.Text.Blank

set_option autoImplicit false

namespace Tablewright

/-! ## Line ends -/

namespace CodePoint

/-- The numbers of the code points that end a line. -/
def lineEnds : List Nat := [0xA, 0xB, 0xC, 0xD, 0x1C, 0x1D, 0x1E, 0x85, 0x2028, 0x2029]

variable {c : CodePoint}

theorem val_mem_lineEnds (h : c.endsLine = true) : c.val ∈ lineEnds := by
  simp only [endsLine, Bool.or_eq_true, Bool.and_eq_true, decide_eq_true_eq] at h
  simp only [lineEnds, List.mem_cons, List.not_mem_nil, or_false]
  omega

/-- What holds of the ten code points holds of every one that ends a line. -/
theorem forall_of_lineEnds {p : CodePoint → Prop} (hp : ∀ n ∈ lineEnds, p (ofNat n))
    (h : c.endsLine = true) : p c :=
  ofNat_val c ▸ hp c.val (val_mem_lineEnds h)

/-- A code point that ends a line is a blank. -/
theorem isBlank_of_endsLine (h : c.endsLine = true) : c.isBlank = true :=
  forall_of_lineEnds (p := fun c => c.isBlank = true) (by decide +kernel) h

/-- A code point that ends a line stands in no name. -/
theorem not_named_of_endsLine (h : c.endsLine = true) :
    c.isNameLetter = false ∧ c.isAsciiUpper = false ∧ c ≠ '_' ∧ c.startsIdentifier = false ∧
      c.continuesIdentifier = false :=
  forall_of_lineEnds (p := fun c => c.isNameLetter = false ∧ c.isAsciiUpper = false ∧ c ≠ '_' ∧
    c.startsIdentifier = false ∧ c.continuesIdentifier = false) (by decide +kernel) h

end CodePoint

namespace Text

/-! ## Single lines -/

/-- Nothing in the text ends a line. -/
def IsLine (t : Text) : Prop := ∀ c ∈ t, c.endsLine = false

instance (t : Text) : Decidable t.IsLine :=
  inferInstanceAs (Decidable (∀ c ∈ t, c.endsLine = false))

theorem isLine_nil : IsLine [] := List.forall_mem_nil _

/-- A text that is given by characters is one line if none of them ends one. -/
theorem isLine_ofString {s : String} {l : List Char} (h : s = String.ofList l)
    (hl : (l.any fun c => (CodePoint.ofChar c).endsLine) = false) : IsLine (ofString s) := by
  rw [ofString_eq h]
  intro c hc
  obtain ⟨d, hd, rfl⟩ := List.mem_map.mp hc
  exact Bool.eq_false_iff.mpr (List.any_eq_false.mp hl d hd)

theorem IsLine.append {t u : Text} (ht : t.IsLine) (hu : u.IsLine) : (t ++ u).IsLine :=
  fun c hc => (List.mem_append.mp hc).elim (ht c) (hu c)

theorem IsLine.newline_not_mem {t : Text} (h : t.IsLine) : newline ∉ t :=
  fun hmem => absurd (h newline hmem) (by decide)

theorem IsLine.join {sep : Text} {ts : List Text} (hsep : sep.IsLine) (hts : ∀ t ∈ ts, t.IsLine) :
    (join sep ts).IsLine := fun c hc => by
  rcases mem_join hc with hc | ⟨t, ht, hc⟩
  · exact hsep c hc
  · exact hts t ht c hc

/-- A text with its blanks collapsed is one line. -/
theorem isLine_collapse (t : Text) : (collapse t).IsLine := fun c hc => by
  rw [Bool.eq_false_iff]
  intro hends
  obtain rfl := eq_space_of_mem_collapse hc (CodePoint.isBlank_of_endsLine hends)
  exact absurd hends (by decide)

/-- A text without a code point that the needle holds is not cut at the needle. -/
theorem cutAtFirst?_of_not_mem {c : CodePoint} {needle t : Text} (hneedle : c ∈ needle)
    (h : c ∉ t) : cutAtFirst? needle t = none := by
  rw [Option.eq_none_iff_forall_ne_some]
  rintro ⟨before, after⟩ hcut
  rw [(cutAtFirst?_some hcut).1] at h
  exact h (List.mem_append_left after (List.mem_append_right before hneedle))

/-- An indented line without its indentation, cut where a text first stands in it. -/
def cutIndented? (needle line : Text) : Option (Text × Text) :=
  (dropStart? "    " line).bind (cutAtFirst? needle)

theorem cutIndented?_of_passes {line : Text} (h : Passes "    " line) (needle : Text) :
    cutIndented? needle line = none := by
  rw [cutIndented?, h.dropStart?_eq]
  rfl

theorem cutIndented?_of_not_mem {c : CodePoint} {needle line : Text} (hneedle : c ∈ needle)
    (h : c ∉ line) : cutIndented? needle line = none := by
  cases hrest : dropStart? "    " line with
  | none => rw [cutIndented?, hrest, Option.bind_none]
  | some rest =>
    have hnot : c ∉ rest := fun hmem =>
      h (dropStart?_eq_some_iff.mp hrest ▸ List.mem_append_right _ hmem)
    rw [cutIndented?, hrest, Option.bind_some, cutAtFirst?_of_not_mem hneedle hnot]

theorem cutIndented?_append {c : CodePoint} {needle before : Text} (h : c ∉ before)
    (after : Text) : cutIndented? (c :: needle) ("    " ++ (before ++ (c :: needle ++ after)))
      = some (before, after) := by
  rw [cutIndented?, dropStart?_append, Option.bind_some, cutAtFirst?_append h]

/-- What remains of a text before a given end, if it ends so. -/
def dropEnd? (tail t : Text) : Option Text := (dropStart? tail.reverse t.reverse).map List.reverse

theorem dropEnd?_append (tail t : Text) : dropEnd? tail (t ++ tail) = some t := by
  rw [dropEnd?, List.reverse_append, dropStart?_append, Option.map_some, List.reverse_reverse]

/-! ## Bodies -/

/-- Whether a line stands in a body: it is indented or empty. -/
def isIndented (line : Text) : Bool := line.head?.all fun c => c = CodePoint.ofChar ' '

/-- Whether a line declares the class of a name. -/
def declares (name line : Text) : Bool := startsWith line ("class " ++ name ++ "(")

/-- The lines of the body of a class in a module. -/
def classBody (name t : Text) : List Text :=
  let behind := (splitOn newline t).dropWhile fun line => !declares name line
  (behind.drop 1).takeWhile isIndented

/-- A line that begins otherwise declares no class. -/
theorem declares_of_passes {line : Text} (h : Passes "class " line) (name : Text) :
    declares name line = false := by
  rw [Bool.eq_false_iff]
  intro hdeclares
  obtain ⟨rest, hrest⟩ := startsWith_iff.mp hdeclares
  have hnone := h.dropStart?_eq
  rw [← hrest, List.append_assoc, List.append_assoc, dropStart?_append] at hnone
  cases hnone

/-- An indented line declares no class. -/
theorem declares_of_isIndented {line : Text} (h : isIndented line = true) (name : Text) :
    declares name line = false := by
  rw [Bool.eq_false_iff]
  intro hdeclares
  obtain ⟨rest, rfl⟩ := startsWith_iff.mp hdeclares
  exact absurd h Bool.false_ne_true

end Text

/-- A class of a module. -/
structure ModuleClass where
  /-- The name. -/
  name : Text
  /-- The class it extends. -/
  base : Text
  /-- The lines of the body. -/
  body : List Text

namespace ModuleClass

/-- The line that declares the class. -/
def head (k : ModuleClass) : Text := "class " ++ k.name ++ "(" ++ k.base ++ "):"

/-- The lines of the class. -/
def lines (k : ModuleClass) : List Text := k.head :: k.body

/-- A class that is found where it stands. -/
structure IsSound (k : ModuleClass) : Prop where
  /-- The name ends before the parenthesis. -/
  name : CodePoint.ofChar '(' ∉ k.name
  /-- Every line of the body is indented or empty. -/
  body : ∀ line ∈ k.body, Text.isIndented line = true

variable {k l : ModuleClass}

theorem declares_head (k : ModuleClass) : Text.declares k.name k.head = true :=
  Text.startsWith_iff.mpr ((List.prefix_append _ k.base).trans (List.prefix_append _ _))

theorem isLine_head (hname : k.name.IsLine) (hbase : k.base.IsLine) : k.head.IsLine :=
  .append (.append (.append (.append (by decide) hname) (by decide)) hbase) (by decide)

/-- The line of a class declares no class of another name. -/
theorem declares_head_of_ne (hk : k.IsSound) (hl : l.IsSound) (hne : k.name ≠ l.name) :
    Text.declares k.name l.head = false := by
  rw [Bool.eq_false_iff]
  intro hdeclares
  obtain ⟨rest, hrest⟩ := Text.startsWith_iff.mp hdeclares
  simp only [head, List.append_assoc] at hrest
  -- both names end at the first parenthesis
  have hcut : Text.cutAtFirst? "(" (k.name ++ (Text.ofString "(" ++ rest)) = some (k.name, rest) :=
    Text.cutAtFirst?_append hk.name rest
  rw [List.append_cancel_left hrest,
    show Text.cutAtFirst? "(" (l.name ++ (Text.ofString "(" ++ (l.base ++ Text.ofString "):")))
      = some (l.name, l.base ++ Text.ofString "):") from Text.cutAtFirst?_append hl.name _] at hcut
  exact hne (congrArg Prod.fst (Option.some.inj hcut)).symm

end ModuleClass

namespace Text

variable {header : List Text} {classes : List ModuleClass}

/-- **Bodies.** In a module of classes with different names the body of each of them is found. -/
theorem classBody_unlines (hheader : ∀ line ∈ header, Passes "class " line)
    (hsound : ∀ k ∈ classes, k.IsSound) (hnames : (classes.map ModuleClass.name).Nodup)
    (hlines : ∀ line ∈ header ++ classes.flatMap ModuleClass.lines, newline ∉ line)
    {k : ModuleClass} (hk : k ∈ classes) :
    classBody k.name (unlines (header ++ classes.flatMap ModuleClass.lines)) = k.body := by
  obtain ⟨first, last, rfl⟩ := List.append_of_mem hk
  have hflat : header ++ (first ++ k :: last).flatMap ModuleClass.lines
      = (header ++ first.flatMap ModuleClass.lines)
        ++ k.head :: (k.body ++ last.flatMap ModuleClass.lines) := by
    simp only [List.flatMap_append, List.flatMap_cons, ModuleClass.lines, List.append_assoc,
      List.cons_append]
  have hsplit : splitOn newline
      (unlines (header ++ (first ++ k :: last).flatMap ModuleClass.lines))
      = header ++ (first ++ k :: last).flatMap ModuleClass.lines :=
    splitOn_join (by rw [hflat]; exact List.append_ne_nil_of_right_ne_nil _ (List.cons_ne_nil _ _))
      hlines
  -- nothing before the class declares it
  have hpassed : ∀ line ∈ header ++ first.flatMap ModuleClass.lines,
      (!declares k.name line) = true := fun line hline => by
    rw [Bool.not_eq_true']
    rcases List.mem_append.mp hline with hline | hline
    · exact declares_of_passes (hheader line hline) k.name
    · obtain ⟨l, hl, hline⟩ := List.mem_flatMap.mp hline
      have hlsound := hsound l (List.mem_append_left _ hl)
      rcases List.mem_cons.mp hline with rfl | hline
      · refine ModuleClass.declares_head_of_ne (hsound k hk) hlsound fun hname => ?_
        rw [List.map_append, List.map_cons] at hnames
        exact (List.nodup_append.mp hnames).2.2 l.name (List.mem_map_of_mem hl) k.name
          List.mem_cons_self hname.symm
      · exact declares_of_isIndented (hlsound.body line hline) k.name
  -- what follows begins at the margin
  have hends : (last.flatMap ModuleClass.lines).takeWhile isIndented = [] := by
    cases last with
    | nil => rfl
    | cons l last => exact List.takeWhile_cons_of_neg Bool.false_ne_true
  rw [classBody, hsplit, hflat, List.dropWhile_append_of_pos hpassed,
    List.dropWhile_cons_of_neg (by rw [k.declares_head]; exact Bool.false_ne_true), List.drop_one,
    List.tail_cons, List.takeWhile_append_of_pos (hsound k hk).body, hends, List.append_nil]

end Text

/-! ## Names on a line -/

/-- What names are made of may stand in an identifier. -/
theorem CodePoint.continuesIdentifier_of_name {c : CodePoint}
    (h : c.isNameLetter = true ∨ c.isAsciiUpper = true ∨ c = '_') :
    c.continuesIdentifier = true := by
  rcases h with hletter | hcapital | rfl
  · have hascii := isAscii_of_isNameLetter hletter
    rw [isNameLetter, Bool.or_eq_true] at hletter
    rw [continuesIdentifier, if_pos hascii]
    rcases hletter with h | h <;> simp [h]
  · rw [continuesIdentifier, if_pos (isAscii_of_isAsciiUpper hcapital), hcapital]
    simp
  · decide

theorem Names.isLine_canonical (label : Text) : (Names.ofLabel label).canonical.IsLine :=
  fun c hc => by
    rw [Bool.eq_false_iff]
    intro h
    obtain ⟨hletter, -, hmark, -⟩ := CodePoint.not_named_of_endsLine h
    exact not_mem_canonical hletter hmark label hc

theorem Names.isLine_typeName (label : Text) : (Names.ofLabel label).typeName.IsLine :=
  fun c hc => by
    rw [Bool.eq_false_iff]
    intro h
    obtain ⟨hletter, hcapital, -⟩ := CodePoint.not_named_of_endsLine h
    exact not_mem_typeName hletter hcapital label hc

theorem Field.isLine_column (f : Field) : f.column.IsLine := fun c hc => by
  rw [Bool.eq_false_iff]
  intro h
  obtain ⟨hletter, -, hmark, -⟩ := CodePoint.not_named_of_endsLine h
  exact f.not_mem_column hletter hmark hc

theorem Field.IsBuilt.isLine_name {f : Field} (h : f.IsBuilt) : f.name.IsLine := fun c hc => by
  rw [Bool.eq_false_iff]
  intro hends
  obtain ⟨-, -, -, hstart, hfollow⟩ := CodePoint.not_named_of_endsLine hends
  exact h.not_mem_name hstart hfollow hc

end Tablewright
