/-
Reading a generated model back.

A model module has quotes in four places: around the first line, in the comment with the
description, in the declaration of the table and in the columns. What is read in it is therefore
what was written but for the comment, which may open a name of its own, and for a column without a
name, which is passed. `Entity.IsLegible` excludes the two, and it is exactly what is needed
(`columns_modelText_iff`, `table?_modelText_iff`).
-/
import Tablewright.Artifact.Model
import Tablewright.Proofs.Entity.Built
import Tablewright.Proofs.Text.Newline
import Tablewright.Proofs.Tool.Models

set_option autoImplicit false

namespace Tablewright

open ModelSource

/-! ## Lines -/

namespace Text

/-- Lines, each with the line feed that closes it. -/
def closeLines (lines : List Text) : Text := lines.flatMap fun line => line ++ "\n"

@[simp] theorem closeLines_cons (line : Text) (lines : List Text) :
    closeLines (line :: lines) = line ++ CodePoint.ofChar '\n' :: closeLines lines := by
  rw [closeLines, List.flatMap_cons, List.append_assoc]
  rfl

@[simp] theorem closeLines_nil : closeLines [] = [] := rfl

@[simp] theorem closeLines_append (lines more : List Text) :
    closeLines (lines ++ more) = closeLines lines ++ closeLines more :=
  List.flatMap_append

/-- Lines that end with an empty one are all closed. -/
theorem unlines_concat_nil (lines : List Text) : unlines (lines ++ [[]]) = closeLines lines := by
  induction lines with
  | nil => rfl
  | cons line lines ih =>
    rw [closeLines_cons, ← ih]
    cases lines with
    | nil => exact unlines_cons line [] []
    | cons next rest => exact unlines_cons line next _

theorem mem_closeLines {lines : List Text} {c : CodePoint} (h : c ∈ closeLines lines) :
    c = '\n' ∨ ∃ line ∈ lines, c ∈ line := by
  obtain ⟨line, hline, hc⟩ := List.mem_flatMap.mp h
  rcases List.mem_append.mp hc with hc | hend
  · exact .inr ⟨line, hline, hc⟩
  · exact .inl (List.mem_singleton.mp hend)

/-- A code point no identifier holds stands in none. -/
theorem not_mem_of_isIdentifier {t : Text} (h : isIdentifier t = true) {c : CodePoint}
    (hstart : c.startsIdentifier = false) (hfollow : c.continuesIdentifier = false) : c ∉ t := by
  cases t with
  | nil => exact List.not_mem_nil
  | cons d r =>
    obtain ⟨hd, hr⟩ := Bool.and_eq_true_iff.mp h
    intro hc
    rcases List.mem_cons.mp hc with rfl | hmem
    · exact absurd hd (by rw [hstart]; exact Bool.false_ne_true)
    · exact absurd (List.all_eq_true.mp hr c hmem) (by rw [hfollow]; exact Bool.false_ne_true)

/-- A text with its blanks collapsed holds no blank but the space. -/
theorem eq_space_of_mem_collapse {t : Text} {c : CodePoint} (hc : c ∈ collapse t)
    (hblank : c.isBlank = true) : c = ' ' := by
  rcases mem_join hc with hspace | ⟨word, hword, hmem⟩
  · exact List.mem_singleton.mp hspace
  · rw [not_sep_of_mem_pieces hword hmem] at hblank
    cases hblank

end Text

/-! ## Names -/

variable {c : CodePoint}

theorem Names.not_mem_canonical (hletter : c.isNameLetter = false) (hmark : c ≠ '_')
    (label : Text) : c ∉ (Names.ofLabel label).canonical := fun hc => by
  rcases Naming.mem_canonical hc with h | h
  · rw [hletter] at h
    cases h
  · exact hmark h

theorem Names.canonical_ne_nil (label : Text) : (Names.ofLabel label).canonical ≠ [] := by
  obtain ⟨_, h⟩ := Naming.exists_spells_canonical label
  intro hnil
  have hstart : Naming.startsLower (Naming.canonical label) = true := h.startsLower
  rw [show Naming.canonical label = [] from hnil] at hstart
  cases hstart

theorem Names.not_mem_typeName (hletter : c.isNameLetter = false)
    (hcapital : c.isAsciiUpper = false) (label : Text) :
    c ∉ (Names.ofLabel label).typeName := fun hc => by
  rcases Naming.mem_pascal hc with h | h
  · rw [hletter] at h
    cases h
  · rw [hcapital] at h
    cases h

theorem Field.not_mem_column (hletter : c.isNameLetter = false) (hmark : c ≠ '_') (f : Field) :
    c ∉ f.column := fun hc => by
  rcases Naming.mem_snake hc with h | h
  · rw [hletter] at h
    cases h
  · exact hmark h

/-! ## The parts of a module -/

namespace Model

/-- The comment with a description, as it stands in a module. -/
def commentText (description : Text) : Text := Text.closeLines (comment description)

/-- What stands between the comment and the name of the table. -/
def opening (n : Names) : Text :=
  "class " ++ n.typeName ++ "(Base):" ++ CodePoint.ofChar '\n' :: ("    __tablename__ =" ++ " ")

/-- The names of the columns every table has. -/
def implicitNames : List Text := ["id", "created_at", "updated_at"]

/-- The columns, as they stand in a module. -/
def columnsText (fields : List Field) : Text :=
  Text.closeLines (fields.map Field.columnLine) ++ Text.closeLines implicitColumns

/-- What stands behind the quote that opens the name of the table. -/
def tail (e : Entity) : Text :=
  (Names.ofLabel e.name).canonical ++ quote :: ("\n\n" ++ columnsText e.fields)

end Model

/-- A module is its header, the comment, and the class from its name on. -/
theorem Entity.modelText_eq (e : Entity) :
    e.modelText
      = Text.closeLines (Model.header (Names.ofLabel e.name)) ++ Model.commentText e.description
        ++ (Model.opening (Names.ofLabel e.name) ++ quote :: Model.tail e) := by
  have hquote : Text.ofString "    __tablename__ = \""
      = Text.ofString "    __tablename__ =" ++ (Text.ofString " " ++ [quote]) := rfl
  have hend : Text.ofString "\n\n" = [CodePoint.ofChar '\n', CodePoint.ofChar '\n'] := rfl
  have hlast : Text.ofString "\"" = [quote] := rfl
  have hblank : Text.ofString "" = [] := rfl
  rw [modelText, Model.lines, Text.unlines_concat_nil, names]
  simp only [Text.closeLines_append, Model.classHead, Text.closeLines_cons, Model.opening,
    Model.tail, Model.columnsText, Model.commentText, hquote, hend, hlast, hblank,
    List.append_assoc, List.cons_append, List.nil_append]

namespace Model

/-! ## Columns -/

/-- Text that begins with a space is not reached into. -/
theorem stops_of_space {next : Text} (h : next.head? = some (CodePoint.ofChar ' ')) :
    Stops columnOpening? next :=
  stops_column fun c hc => by
    rw [h] at hc
    obtain rfl := Option.some.inj hc
    decide

/-- A text without the first letter of an opening is passed. -/
theorem columns_append_of_not_mem {t next : Text} (hnext : next.head? = some (CodePoint.ofChar ' '))
    (h : CodePoint.ofChar 'C' ∉ t) : columns (t ++ next) = columns next :=
  columns_append_of_none (stops_of_space hnext)
    (opened?_eq_none (mem_of_columnOpening? (by decide)) h)

/-- What follows the name of a column on its line. -/
def rest (f : Field) : Text :=
  ", " ++ Text.join ", " (f.kind.columnType :: f.constraints.map Constraint.columnArgument) ++ ")"

theorem columnLine_eq (f : Field) : f.columnLine
    = "    " ++ f.name ++ " =" ++ (" " ++ ("Column(\"" ++ (f.column ++ quote :: rest f))) := by
  have hopen : Text.ofString " = Column("
      = Text.ofString " =" ++ (Text.ofString " " ++ Text.ofString "Column(") := rfl
  have hfirst : Text.ofString "Column(\"" = Text.ofString "Column(" ++ [quote] := rfl
  have hlast : Text.ofString "\"" = [quote] := rfl
  rw [Field.columnLine]
  simp only [Text.join, rest, hopen, hfirst, hlast, List.append_assoc, List.cons_append,
    List.nil_append]

/-- What stands in no word for a type and no argument of a column does not stand behind the name of
one on its line. -/
theorem not_mem_rest {c : CodePoint} (hjoint : c ∉ Text.ofString ", )")
    (hkind : ∀ k : FieldKind, c ∉ k.columnType)
    (hconstraint : ∀ k : Constraint, c ∉ k.columnArgument) (f : Field) : c ∉ rest f := by
  have hcomma : c ∉ Text.ofString ", " := fun h => hjoint (List.mem_append_left [_] h)
  intro h
  rcases List.mem_append.mp h with h | h
  · rcases List.mem_append.mp h with h | h
    · exact hcomma h
    · rcases Text.mem_join h with h | ⟨t, ht, h⟩
      · exact hcomma h
      · rcases List.mem_cons.mp ht with rfl | ht
        · exact hkind f.kind h
        · obtain ⟨k, -, rfl⟩ := List.mem_map.mp ht
          exact hconstraint k h
  · exact hjoint (List.mem_append_right (Text.ofString ", ") h)

/-- On the line of a field its column is found, if it has a name. -/
theorem columns_columnLine {f : Field} (hname : quote ∉ f.name) {next : Text}
    (hnext : next.head? = some (CodePoint.ofChar ' ')) :
    columns (f.columnLine ++ CodePoint.ofChar '\n' :: next)
      = [f.column].filter (fun name => !name.isEmpty) ++ columns next := by
  have hopened : opened? columnOpening? ("    " ++ f.name ++ " =") = none := by
    refine opened?_eq_none (@mem_of_columnOpening? quote (by decide)) fun h => ?_
    rcases List.mem_append.mp h with h | h
    · exact (List.mem_append.mp h).elim (by decide) hname
    · exact absurd h (by decide)
  have hrest : CodePoint.ofChar 'C' ∉ rest f :=
    not_mem_rest (by decide) (fun k => by cases k <;> decide) (fun k => by cases k <;> decide) f
  -- behind the name nothing more is found on the line
  have hbehind (before : Text) (h : CodePoint.ofChar 'C' ∉ before) :
      columns (before ++ (rest f ++ CodePoint.ofChar '\n' :: next)) = columns next := by
    have hall : CodePoint.ofChar 'C' ∉ before ++ (rest f ++ [CodePoint.ofChar '\n']) := fun hmem =>
      (List.mem_append.mp hmem).elim h fun hmem =>
        (List.mem_append.mp hmem).elim hrest (by decide)
    rw [← columns_append_of_not_mem hnext hall]
    simp only [List.append_assoc, List.singleton_append]
  have hline : columns (f.columnLine ++ CodePoint.ofChar '\n' :: next)
      = columns
        ("Column(\"" ++ (f.column ++ quote :: (rest f ++ CodePoint.ofChar '\n' :: next))) := by
    rw [columnLine_eq]
    simp only [List.append_assoc, List.cons_append]
    rw [← List.append_assoc, ← List.append_assoc,
      columns_append_of_none (stops_of_space rfl) hopened]
    exact columns_cons_of_none rfl
  rw [hline]
  cases hcolumn : f.column with
  | nil =>
    exact (columns_cons_of_none rfl).trans (hbehind ("olumn(\"" ++ [quote]) (by decide))
  | cons c r =>
    have hquote : quote ∉ c :: r := hcolumn ▸ f.not_mem_column (by decide) (by decide)
    rw [columns_of_column (column?_eq_some_iff.mpr ⟨rfl, hquote, List.cons_ne_nil c r⟩)]
    exact congrArg (List.cons (c :: r)) (hbehind [] List.not_mem_nil)

/-- The columns' text begins with a space. -/
theorem head?_columnsText (fields : List Field) :
    (columnsText fields).head? = some (CodePoint.ofChar ' ') := by
  cases fields with
  | nil => rfl
  | cons f fields => rfl

/-- In the columns' text every column that has a name is found, and then those every table has. -/
theorem columns_columnsText {fields : List Field} (h : ∀ f ∈ fields, quote ∉ f.name) :
    columns (columnsText fields)
      = (fields.map Field.column).filter (fun name => !name.isEmpty) ++ implicitNames := by
  induction fields with
  | nil => decide +kernel
  | cons f fields ih =>
    have hsplit : columnsText (f :: fields)
        = f.columnLine ++ CodePoint.ofChar '\n' :: columnsText fields := by
      simp [columnsText]
    rw [hsplit, columns_columnLine (h f List.mem_cons_self) (head?_columnsText fields),
      ih fun g hg => h g (List.mem_cons_of_mem f hg), ← List.append_assoc, ← List.filter_append]
    rfl

/-! ## The header and the class -/

/-- The header is the name of the table between two fixed texts, and then the imports. -/
theorem header_eq (n : Names) : ∃ before behind imports : Text,
    Text.closeLines (header n) = before ++ n.canonical ++ behind ++ imports ∧
      CodePoint.ofChar 'C' ∉ before ++ behind ∧ quote ∉ imports ∧
      imports.head? = some (CodePoint.ofChar 'f') ∧
      ∀ c ∈ before ++ behind ++ imports, c ≠ '=' ∧ c ≠ '\r' := by
  refine ⟨"\"\"\"SQLAlchemy model for ",
    " (generated by schemapilot).\"\"\"" ++ [CodePoint.ofChar '\n'],
    Text.closeLines (header ⟨[], [], [], []⟩).tail, ?_, by decide, by decide, rfl,
    by decide +kernel⟩
  simp only [header, List.tail_cons, Text.closeLines_cons, List.append_assoc, List.cons_append,
    List.nil_append]

variable (label : Text)

/-- The header opens no column. -/
theorem opened?_columns_header {next : Text} (hnext : Stops columnOpening? next) :
    opened? columnOpening? (Text.closeLines (header (Names.ofLabel label)) ++ next)
      = opened? columnOpening? next := by
  obtain ⟨before, behind, imports, hheader, hfirst, hquote, hhead, -⟩ :=
    header_eq (Names.ofLabel label)
  have hstops : Stops columnOpening? (imports ++ next) := stops_column fun c hc => by
    obtain ⟨r, rfl⟩ := List.head?_eq_some_iff.mp hhead
    obtain rfl := Option.some.inj hc
    decide
  have hname := @Names.not_mem_canonical (CodePoint.ofChar 'C') (by decide) (by decide) label
  rw [hheader, List.append_assoc, opened?_append_of_none hstops,
    opened?_append_of_none hnext (opened?_eq_none (mem_of_columnOpening? (by decide)) hquote)]
  -- the imports hold the letter `C`, but no quote; before them it is the other way round
  refine opened?_eq_none (@mem_of_columnOpening? (CodePoint.ofChar 'C') (by decide)) fun h => ?_
  simp only [List.mem_append] at h hfirst
  tauto

/-- The header opens no table. -/
theorem opened?_table_header {next : Text} (hnext : Stops tableOpening? next) :
    opened? tableOpening? (Text.closeLines (header (Names.ofLabel label)) ++ next)
      = opened? tableOpening? next := by
  obtain ⟨before, behind, imports, hheader, -, -, -, hsign⟩ := header_eq (Names.ofLabel label)
  have hname := @Names.not_mem_canonical (CodePoint.ofChar '=') (by decide) (by decide) label
  refine opened?_append_of_none hnext (opened?_eq_none mem_of_tableOpening? fun h => ?_)
  have hfixed : CodePoint.ofChar '=' ∉ before ++ behind ++ imports := fun h => (hsign _ h).1 rfl
  rw [hheader] at h
  simp only [List.mem_append] at h hfixed
  tauto

theorem opening_ne_nil (n : Names) : opening n ≠ [] := List.cons_ne_nil _ _

/-- What no name of a type holds and no fixed text does not stand between the comment and the name
of the table. -/
theorem not_mem_opening {c : CodePoint} (hletter : c.isNameLetter = false)
    (hcapital : c.isAsciiUpper = false) (hfixed : c ∉ opening ⟨[], [], [], []⟩) :
    c ∉ opening (Names.ofLabel label) := by
  have htype := Names.not_mem_typeName hletter hcapital label
  simp only [opening, List.mem_append, not_or] at hfixed ⊢
  tauto

theorem stops_opening (rest : Text) :
    Stops columnOpening? (opening (Names.ofLabel label) ++ rest) ∧
      Stops tableOpening? (opening (Names.ofLabel label) ++ rest) := by
  constructor
  · refine stops_column fun c hc => ?_
    obtain rfl := Option.some.inj hc
    decide
  · refine stops_table fun c hc => ?_
    obtain rfl := Option.some.inj hc
    decide

/-- The class declares its table by the canonical name. -/
theorem table?_opening (rest : Text) :
    table? (opening (Names.ofLabel label)
        ++ quote :: ((Names.ofLabel label).canonical ++ quote :: rest))
      = some (Names.ofLabel label).canonical := by
  have hbefore : CodePoint.ofChar '_'
      ∉ "class " ++ (Names.ofLabel label).typeName ++ "(Base):\n    " := by
    have htype := @Names.not_mem_typeName (CodePoint.ofChar '_') (by decide) (by decide) label
    simp [htype, Text.ofString, CodePoint.ofChar_inj]
  have hsplit : ∀ next, opening (Names.ofLabel label) ++ quote :: next
      = "class " ++ (Names.ofLabel label).typeName ++ "(Base):\n    "
        ++ ("__tablename__ = \"" ++ next) := by
    intro next
    rw [opening]
    simp only [List.append_assoc]
    rfl
  have hquote := @Names.not_mem_canonical quote (by decide) (by decide) label
  -- up to the declaration there is no underscore to begin one
  rw [hsplit, table?_append_of_not_mem hbefore]
  refine table?_of_declaration ?_
  rw [declaration?_eq, show ∀ next, tableOpening? ("__tablename__ = \"" ++ next) = some next from
    fun next => rfl, Option.bind_some,
    untilQuote?_append hquote (Names.canonical_ne_nil label)]
  rfl

/-- Before the name of the table the class lists no column. -/
theorem columns_opening (rest : Text) :
    columns (opening (Names.ofLabel label) ++ quote :: rest) = columns rest := by
  have hbefore : quote ∉ "class " ++ (Names.ofLabel label).typeName ++ "(Base):"
      ++ CodePoint.ofChar '\n' :: "    __tablename__ =" := by
    have htype := @Names.not_mem_typeName quote (by decide) (by decide) label
    simp [htype, Text.ofString, CodePoint.ofChar_inj]
  have hsplit : opening (Names.ofLabel label) ++ quote :: rest
      = "class " ++ (Names.ofLabel label).typeName ++ "(Base):"
        ++ CodePoint.ofChar '\n' :: "    __tablename__ =" ++ (" " ++ quote :: rest) := by
    rw [opening]
    simp only [List.append_assoc, List.cons_append]
  rw [hsplit, columns_append_of_none (stops_of_space rfl)
    (opened?_eq_none (mem_of_columnOpening? (by decide)) hbefore)]
  exact (columns_cons_of_none rfl).trans (columns_cons_of_none rfl)

end Model

/-! ## What is read -/

namespace Field

/-- What no identifier holds does not stand in the name of a field. -/
theorem IsBuilt.not_mem_name {f : Field} (h : f.IsBuilt) (hstart : c.startsIdentifier = false)
    (hfollow : c.continuesIdentifier = false) : c ∉ f.name :=
  Text.not_mem_of_isIdentifier (Bool.and_eq_true_iff.mp h.isName).1 hstart hfollow

end Field

namespace Entity

variable {e : Entity}

/-- An entity whose model is read back as it was written. -/
structure IsLegible (e : Entity) : Prop where
  /-- The comment with the description opens no column. -/
  columns : opened? columnOpening? (Model.commentText e.description) = none
  /-- It opens no table, or the entity's own first. -/
  table : ∀ s, opened? tableOpening? (Model.commentText e.description) = some s →
    e.name ++ [quote] <+: s
  /-- Every field has a column with a name. -/
  named : ∀ f ∈ e.fields, f.column ≠ []

/-- The columns of an entity's table: those of its fields in their order, and then those every table
has. -/
def columnNames (e : Entity) : List Text := e.fields.map Field.column ++ Model.implicitNames

/-- A comment is reached into by no opening that begins before it. -/
theorem stops_comment (description : Text) :
    Stops columnOpening? (Model.commentText description) ∧
      Stops tableOpening? (Model.commentText description) := by
  have hhead : ∀ c ∈ (Model.commentText description).head?, c = CodePoint.ofChar '#' := by
    intro c hc
    rw [Model.commentText, Model.comment] at hc
    split at hc
    · cases hc
    · exact (Option.some.inj hc).symm
  constructor
  · refine stops_column fun c hc => ?_
    obtain rfl := hhead c hc
    decide
  · refine stops_table fun c hc => ?_
    obtain rfl := hhead c hc
    decide

/-- **Columns read back.** In the model of an entity its columns are found, exactly when the comment
opens none and none is without a name. -/
theorem columns_modelText_iff (h : e.IsBuilt) :
    columns e.modelText = e.columnNames ↔
      opened? columnOpening? (Model.commentText e.description) = none ∧
        ∀ f ∈ e.fields, f.column ≠ [] := by
  have hquotes : ∀ f ∈ e.fields, quote ∉ f.name := fun f hf =>
    (h.fields f hf).not_mem_name (by decide) (by decide)
  have hname := @Names.not_mem_canonical (CodePoint.ofChar 'C') (by decide) (by decide) e.name
  have htail : columns (Model.tail e)
      = (e.fields.map Field.column).filter (fun name => !name.isEmpty) ++ Model.implicitNames := by
    have hbefore : CodePoint.ofChar 'C' ∉ (Names.ofLabel e.name).canonical ++ quote :: "\n\n" :=
      fun hmem => (List.mem_append.mp hmem).elim hname (by decide)
    rw [← Model.columns_columnsText hquotes, Model.tail,
      ← Model.columns_append_of_not_mem (Model.head?_columnsText e.fields) hbefore]
    simp only [List.append_assoc, List.cons_append]
  -- all that the comment adds stands before the columns of the class
  obtain ⟨more, hmore, hempty⟩ := columns_append (Model.stops_opening e.name _).1
    (Model.not_mem_opening e.name (by decide) (by decide) (by decide)) (Model.opening_ne_nil _)
    (Model.columns_opening e.name (Model.tail e))
    (Text.closeLines (Model.header (Names.ofLabel e.name)) ++ Model.commentText e.description)
  rw [Model.opened?_columns_header e.name (stops_comment e.description).1] at hempty
  rw [← modelText_eq, htail, ← List.append_assoc] at hmore
  rw [hmore, columnNames, List.append_left_inj, ← hempty]
  have hfilter : (∀ f ∈ e.fields, f.column ≠ []) →
      (e.fields.map Field.column).filter (fun name => !name.isEmpty)
        = e.fields.map Field.column := by
    intro hnamed
    refine List.filter_eq_self.mpr fun name hmem => ?_
    obtain ⟨f, hf, rfl⟩ := List.mem_map.mp hmem
    simpa using hnamed f hf
  constructor
  · intro hall
    -- nothing that is found is empty, so no column is
    have hnamed : ∀ f ∈ e.fields, f.column ≠ [] := fun f hf => by
      refine ne_nil_of_mem_columns (t := e.modelText) ?_
      rw [hmore, hall]
      exact List.mem_append_left _ (List.mem_map_of_mem hf)
    rw [hfilter hnamed] at hall
    exact ⟨List.self_eq_append_left.mp hall.symm, hnamed⟩
  · rintro ⟨rfl, hnamed⟩
    rw [hfilter hnamed, List.nil_append]

/-- **The table read back.** The model of an entity declares the entity's table, exactly when the
comment opens none or the same one first. -/
theorem table?_modelText_iff (h : e.IsBuilt) :
    table? e.modelText = some e.name ↔
      ∀ s, opened? tableOpening? (Model.commentText e.description) = some s →
        e.name ++ [quote] <+: s := by
  have hcanonical : (Names.ofLabel e.name).canonical = e.name := h.canonical
  have hquote : quote ∉ e.name :=
    hcanonical ▸ Names.not_mem_canonical (by decide) (by decide) e.name
  -- a name that runs on over the class line has spaces in it, and the entity's has none
  have hother : ¬ Model.opening (Names.ofLabel e.name) <:+ e.name := fun hsuffix => by
    have hspace : CodePoint.ofChar ' ' ∉ e.name :=
      hcanonical ▸ Names.not_mem_canonical (by decide) (by decide) e.name
    exact hspace (hsuffix.subset (List.mem_append_right _ (by decide)))
  have htable := Model.table?_opening e.name ("\n\n" ++ Model.columnsText e.fields)
  rw [hcanonical] at htable
  have htail : Model.tail e = e.name ++ quote :: ("\n\n" ++ Model.columnsText e.fields) := by
    rw [Model.tail, hcanonical]
  rw [modelText_eq, htail, table?_append (Model.stops_opening e.name _).2
      (Model.not_mem_opening e.name (by decide) (by decide) (by decide)) htable hquote hother,
    Model.opened?_table_header e.name (stops_comment e.description).2]

/-- An entity is legible exactly when its model is read back as it was written. -/
theorem isLegible_iff (h : e.IsBuilt) :
    e.IsLegible ↔ table? e.modelText = some e.name ∧ columns e.modelText = e.columnNames := by
  rw [table?_modelText_iff h, columns_modelText_iff h]
  constructor
  · exact fun hl => ⟨hl.table, hl.columns, hl.named⟩
  · exact fun ⟨htable, hcolumns, hnamed⟩ => ⟨hcolumns, htable, hnamed⟩

/-- A model always declares a table. -/
theorem exists_table?_modelText (e : Entity) : ∃ name, table? e.modelText = some name := by
  rw [modelText_eq, Model.tail]
  exact exists_table?_append ⟨_, Model.table?_opening e.name _⟩ _

/-- No carriage return stands in a comment, which is one line. -/
theorem return_not_mem_commentText (description : Text) :
    CodePoint.ofChar '\r' ∉ Model.commentText description := by
  intro h
  rcases Text.mem_closeLines h with h | ⟨line, hline, h⟩
  · exact absurd h (by decide)
  · rw [Model.comment] at hline
    split at hline
    · cases hline
    · obtain rfl := List.mem_singleton.mp hline
      rcases List.mem_append.mp h with h | h
      · exact absurd h (by decide)
      · exact absurd (Text.eq_space_of_mem_collapse h (by decide)) (by decide)

/-- No carriage return stands among the columns. -/
theorem IsBuilt.return_not_mem_columnsText (h : e.IsBuilt) :
    CodePoint.ofChar '\r' ∉ Model.columnsText e.fields := by
  intro hmem
  rcases List.mem_append.mp hmem with hmem | hmem
  · rcases Text.mem_closeLines hmem with hmem | ⟨line, hline, hmem⟩
    · exact absurd hmem (by decide)
    · obtain ⟨f, hf, rfl⟩ := List.mem_map.mp hline
      have hname := (h.fields f hf).not_mem_name (c := CodePoint.ofChar '\r') (by decide)
        (by decide)
      have hcolumn := f.not_mem_column (c := CodePoint.ofChar '\r') (by decide) (by decide)
      have hrest := Model.not_mem_rest (c := CodePoint.ofChar '\r') (by decide)
        (fun k => by cases k <;> decide) (fun k => by cases k <;> decide) f
      have hfixed : CodePoint.ofChar '\r' ∉ Text.ofString "    " ∧
          CodePoint.ofChar '\r' ∉ Text.ofString " =" ∧ CodePoint.ofChar '\r' ∉ Text.ofString " " ∧
          CodePoint.ofChar '\r' ∉ Text.ofString "Column(\"" ∧ CodePoint.ofChar '\r' ≠ quote := by
        decide
      rw [Model.columnLine_eq] at hmem
      simp only [List.mem_append, List.mem_cons] at hmem
      tauto
  · exact absurd hmem (by decide +kernel)

/-- No carriage return stands in a model. -/
theorem IsBuilt.return_not_mem_modelText (h : e.IsBuilt) :
    CodePoint.ofChar '\r' ∉ e.modelText := by
  obtain ⟨before, behind, imports, hheader, -, -, -, hreturn⟩ :=
    Model.header_eq (Names.ofLabel e.name)
  have hfixed : CodePoint.ofChar '\r' ∉ before ++ behind ++ imports := fun h => (hreturn _ h).2 rfl
  have hname := Names.not_mem_canonical (c := CodePoint.ofChar '\r') (by decide) (by decide) e.name
  have hcomment := return_not_mem_commentText e.description
  have hopening := Model.not_mem_opening (c := CodePoint.ofChar '\r') e.name (by decide) (by decide)
    (by decide)
  have hcolumns := h.return_not_mem_columnsText
  have hmarks : CodePoint.ofChar '\r' ≠ quote ∧ CodePoint.ofChar '\r' ∉ Text.ofString "\n\n" := by
    decide
  intro hmem
  rw [modelText_eq, hheader, Model.tail] at hmem
  simp only [List.mem_append, List.mem_cons] at hmem hfixed
  tauto

end Entity

end Tablewright
