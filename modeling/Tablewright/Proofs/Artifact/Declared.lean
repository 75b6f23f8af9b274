/-
The columns a model declares.

`Column.ofLine?` reads a line of a class as a column: the attribute, the quoted name, the type and
the further arguments in their order. A model is read back by it: the body of its class declares one
column for each field and then the three every table has, and no other line of the module declares
any (`Model.columns_modelText`). So the text determines the fields, and a description can add
nothing but the one comment line before the class.
-/
import Tablewright.Proofs.Artifact.Body
import Tablewright.Proofs.Artifact.Columns

set_option autoImplicit false

namespace Tablewright

open Text (newline)

/-! ## Columns on a line -/

/-- A column, as a line of a class declares it. -/
structure Column where
  /-- The attribute of the class. -/
  member : Text
  /-- The name in quotes. -/
  name : Text
  /-- The type. -/
  type : Text
  /-- The further arguments, in their order. -/
  options : List Text
deriving DecidableEq

namespace Column

/-- A text in quotes, without them. -/
def unquote? (t : Text) : Option Text := (Text.dropStart? "\"" t).bind (Text.dropEnd? "\"")

/-- The column a line declares, if it declares one. -/
def ofLine? (line : Text) : Option Column := do
  let (member, call) ← Text.cutIndented? " = Column(" line
  let inside ← Text.dropEnd? ")" call
  match (Text.splitOn ',' inside).map Text.trim with
  | quoted :: type :: options =>
    (unquote? quoted).map fun name => { member, name, type, options }
  | _ => none

/-- The columns that are declared on the lines of a text. -/
def inText (t : Text) : List Column := (Text.splitOn newline t).filterMap ofLine?

/-- The columns that are declared in the body of a class. -/
def inClass (name t : Text) : List Column := (Text.classBody name t).filterMap ofLine?

/-- Whether a column is marked as a key. -/
def isKey (c : Column) : Bool := c.options.contains "primary_key=True"

/-- The columns every table has. -/
def implicit : List Column := [
  ⟨"id", "id", "Integer", ["primary_key=True", "autoincrement=True"]⟩,
  ⟨"createdAt", "created_at", "DateTime", ["nullable=False", "server_default=func.now()"]⟩,
  ⟨"updatedAt", "updated_at", "DateTime",
    ["nullable=False", "server_default=func.now()", "onupdate=func.now()"]⟩]

theorem unquote?_quoted (t : Text) : unquote? ("\"" ++ t ++ "\"") = some t := by
  rw [unquote?, List.append_assoc, Text.dropStart?_append, Option.bind_some, Text.dropEnd?_append]

/-- A line that is not indented declares no column. -/
theorem ofLine?_of_passes {line : Text} (h : Text.Passes "    " line) : ofLine? line = none := by
  rw [ofLine?, Text.cutIndented?_of_passes h]
  rfl

/-- A line without a parenthesis declares no column. -/
theorem ofLine?_of_not_mem {line : Text} (h : CodePoint.ofChar '(' ∉ line) :
    ofLine? line = none := by
  rw [ofLine?, Text.cutIndented?_of_not_mem (by decide) h]
  rfl

end Column

/-- The column of a field. -/
def Field.asColumn (f : Field) : Column :=
  ⟨f.name, f.column, f.kind.columnType, f.constraints.map Constraint.columnArgument⟩

/-- Nothing stands in the name of a column at which a line is cut. -/
theorem Field.isWhole_column (f : Field) : Names.IsWhole f.column where
  newline := f.not_mem_column (by decide) (by decide)
  comma := f.not_mem_column (by decide) (by decide)
  blank c hc := by
    rcases Naming.mem_snake hc with hletter | rfl
    · have hrange := CodePoint.isNameLetter_iff.mp hletter
      exact CodePoint.isBlank_of_visible (by omega) (by omega)
    · decide

/-- The arguments of a column can be told apart. -/
theorem Field.isWhole_arguments (f : Field) :
    ∀ x ∈ ("\"" ++ f.column ++ "\"") :: f.kind.columnType
        :: f.constraints.map Constraint.columnArgument, Names.IsWhole x := by
  have hquote : Names.IsWhole "\"" := ⟨by decide, by decide, by decide⟩
  simp only [List.forall_mem_cons]
  refine ⟨.append (.append hquote f.isWhole_column) hquote, ?_, fun x hx => ?_⟩
  · cases f.kind <;> exact ⟨by decide, by decide, by decide⟩
  · obtain ⟨k, -, rfl⟩ := List.mem_map.mp hx
    cases k <;> exact ⟨by decide, by decide, by decide⟩

/-- The line of a field declares its column. -/
theorem Field.IsBuilt.ofLine?_columnLine {f : Field} (h : f.IsBuilt) :
    Column.ofLine? f.columnLine = some f.asColumn := by
  have hname : CodePoint.ofChar ' ' ∉ f.name := h.not_mem_name (by decide) (by decide)
  obtain ⟨arguments, harguments⟩ : ∃ arguments, arguments = ("\"" ++ f.column ++ "\"")
    :: f.kind.columnType :: f.constraints.map Constraint.columnArgument := ⟨_, rfl⟩
  have hline : f.columnLine
      = "    " ++ (f.name ++ (" = Column(" ++ (Text.join ", " arguments ++ ")"))) := by
    rw [Field.columnLine, harguments]
    simp only [List.append_assoc]
  have hcut : Text.cutIndented? " = Column("
      ("    " ++ (f.name ++ (" = Column(" ++ (Text.join ", " arguments ++ ")"))))
      = some (f.name, Text.join ", " arguments ++ ")") := Text.cutIndented?_append hname _
  have hread : (Text.splitOn ',' (Text.join ", " arguments)).map Text.trim = arguments := by
    rw [harguments]
    exact Text.trim_splitOn_join_names (fun x hx => (f.isWhole_arguments x hx).comma)
      fun x hx => (f.isWhole_arguments x hx).blank
  rw [Column.ofLine?, hline, hcut, Option.bind_eq_bind, Option.bind_some]
  dsimp only
  rw [Text.dropEnd?_append, Option.bind_eq_bind, Option.bind_some, hread, harguments]
  dsimp only
  rw [Column.unquote?_quoted]
  rfl

/-! ## The lines of a model -/

namespace Model

variable {e : Entity}

/-- The class of a model. -/
def tableClass (e : Entity) : ModuleClass where
  name := e.names.model
  base := "Base"
  body := ("    __tablename__ = \"" ++ e.names.canonical ++ "\"") :: [] ::
    (e.fields.map Field.columnLine ++ implicitColumns ++ [[]])

/-- A model is its header, the comment, and the class. -/
theorem lines_eq (e : Entity) :
    lines e = (header e.names ++ comment e.description) ++ (tableClass e).lines := by
  have hclass : Text.ofString "class " ++ e.names.typeName ++ "(Base):" = (tableClass e).head := by
    rw [ModuleClass.head]
    simp only [List.append_assoc]
    rfl
  have hblank : Text.ofString "" = [] := rfl
  simp only [lines, classHead, tableClass, ModuleClass.lines, hclass, hblank, List.append_assoc,
    List.cons_append, List.nil_append]

theorem isLine_comment (description : Text) : ∀ line ∈ comment description, line.IsLine := by
  rw [comment]
  split
  case isTrue => exact List.forall_mem_nil _
  case isFalse =>
    exact List.forall_mem_singleton.mpr
      (.append (by decide) (Text.isLine_collapse description))

theorem isLine_header (label : Text) : ∀ line ∈ header (Names.ofLabel label), line.IsLine := by
  have hname := Names.isLine_canonical label
  simp only [header, List.forall_mem_cons]
  refine ⟨.append (.append (by decide) hname) (by decide), ?_⟩
  and_intros
  all_goals first | exact Text.isLine_ofString rfl rfl | exact List.forall_mem_nil _

theorem isLine_implicitColumns : ∀ line ∈ implicitColumns, line.IsLine := by
  simp only [implicitColumns, List.forall_mem_cons]
  and_intros
  all_goals first | exact Text.isLine_ofString rfl rfl | exact List.forall_mem_nil _

theorem isLine_columnLine {f : Field} (h : f.IsBuilt) : f.columnLine.IsLine := by
  have harguments : (Text.join ", " (("\"" ++ f.column ++ "\"") :: f.kind.columnType
      :: f.constraints.map Constraint.columnArgument)).IsLine := by
    refine .join (by decide) fun t ht => ?_
    rcases List.mem_cons.mp ht with rfl | ht
    · exact .append (.append (by decide) f.isLine_column) (by decide)
    rcases List.mem_cons.mp ht with rfl | ht
    · cases f.kind <;> decide
    · obtain ⟨k, -, rfl⟩ := List.mem_map.mp ht
      cases k <;> decide
  exact .append (.append (.append (.append (by decide) h.isLine_name) (by decide)) harguments)
    (by decide)

/-- No line of a model is ended before its end. -/
theorem isLine_lines (h : e.IsBuilt) : ∀ line ∈ lines e, line.IsLine := by
  have hbase : Text.IsLine "Base" := by decide
  have hclass : (tableClass e).head.IsLine :=
    ModuleClass.isLine_head (Names.isLine_typeName e.name) hbase
  have htable : Text.IsLine ("    __tablename__ = \"" ++ e.names.canonical ++ "\"") :=
    .append (.append (by decide) (Names.isLine_canonical e.name)) (by decide)
  have hfields : ∀ line ∈ e.fields.map Field.columnLine, line.IsLine := fun line hline => by
    obtain ⟨f, hf, rfl⟩ := List.mem_map.mp hline
    exact isLine_columnLine (h.fields f hf)
  rw [lines_eq]
  simp only [ModuleClass.lines, List.forall_mem_append, List.forall_mem_cons]
  refine ⟨⟨isLine_header e.name, isLine_comment e.description⟩, hclass, ?_⟩
  simp only [tableClass, List.forall_mem_append, List.forall_mem_cons]
  exact ⟨htable, Text.isLine_nil, ⟨hfields, isLine_implicitColumns⟩, by decide⟩

/-- Only line feeds end lines in a model. -/
theorem eq_newline_of_endsLine (h : e.IsBuilt) {c : CodePoint} (hc : c ∈ e.modelText)
    (hends : c.endsLine = true) : c = newline := by
  rcases Text.mem_join hc with hc | ⟨line, hline, hc⟩
  · exact List.mem_singleton.mp hc
  · rw [isLine_lines h line hline c hc] at hends
    cases hends

/-- The lines before the class neither declare it nor are indented. -/
theorem passes_before (label description : Text) :
    ∀ line ∈ header (Names.ofLabel label) ++ comment description,
      Text.Passes "class " line ∧ Text.Passes "    " line := by
  have hname := Names.newline_not_mem_canonical label
  have hblank : Text.ofString "" = [] := rfl
  refine List.forall_mem_append.mpr ⟨?_, ?_⟩
  · simp only [header, hblank, List.append_assoc, List.forall_mem_cons]
    and_intros
    all_goals
      first
      | exact List.forall_mem_nil _
      | with_reducible apply Text.Passes.append
      | with_reducible apply Text.Passes.fixed
      | exact Text.Passes.blank rfl
    all_goals first | rfl | simp only [List.mem_append, not_or]
    all_goals
      and_intros
      all_goals first | with_reducible assumption | exact Text.not_mem_ofString rfl rfl
  · rw [comment]
    split
    case isTrue => exact List.forall_mem_nil _
    case isFalse =>
      have hline := (Text.isLine_collapse description).newline_not_mem
      exact List.forall_mem_singleton.mpr
        ⟨.append rfl rfl rfl rfl hline, .append rfl rfl rfl rfl hline⟩

/-- The class is found where it stands. -/
theorem isSound_tableClass (e : Entity) : (tableClass e).IsSound where
  name := Names.not_mem_typeName (by decide) (by decide) e.name
  body := by
    simp only [tableClass, List.forall_mem_cons, List.forall_mem_append]
    refine ⟨rfl, rfl, ⟨fun line hline => ?_, by decide +kernel⟩, by decide⟩
    obtain ⟨f, -, rfl⟩ := List.mem_map.mp hline
    rfl

/-- The body of the class is found in the model. -/
theorem classBody_modelText (h : e.IsBuilt) :
    Text.classBody e.names.model e.modelText = (tableClass e).body := by
  have hlines := isLine_lines h
  rw [lines_eq, ← List.flatMap_singleton ModuleClass.lines] at hlines
  rw [Entity.modelText, lines_eq, ← List.flatMap_singleton ModuleClass.lines]
  exact Text.classBody_unlines (k := tableClass e)
    (fun line hline => (passes_before e.name e.description line hline).1)
    (List.forall_mem_singleton.mpr (isSound_tableClass e)) (List.nodup_singleton _)
    (fun line hline => (hlines line hline).newline_not_mem) (List.mem_singleton_self _)

/-- The body declares the columns of the fields and then those every table has. -/
theorem filterMap_body (h : e.IsBuilt) :
    (tableClass e).body.filterMap Column.ofLine?
      = e.fields.map Field.asColumn ++ Column.implicit := by
  have htable : CodePoint.ofChar '('
      ∉ Text.ofString "    __tablename__ = \"" ++ e.names.canonical ++ "\"" := by
    have hname := Names.not_mem_canonical (c := CodePoint.ofChar '(') (by decide) (by decide) e.name
    simp only [List.mem_append, not_or]
    exact ⟨⟨by decide, hname⟩, by decide⟩
  have hfields : (e.fields.map Field.columnLine).filterMap Column.ofLine?
      = e.fields.map Field.asColumn := by
    rw [List.filterMap_map, ← List.filterMap_eq_map]
    exact List.filterMap_congr fun f hf => (h.fields f hf).ofLine?_columnLine
  have himplicit : implicitColumns.filterMap Column.ofLine? = Column.implicit := by decide +kernel
  have hempty : Column.ofLine? [] = none := rfl
  rw [tableClass, List.filterMap_cons_none (Column.ofLine?_of_not_mem htable),
    List.filterMap_cons_none hempty, List.filterMap_append, List.filterMap_append, hfields,
    himplicit, List.filterMap_cons_none hempty, List.filterMap_nil, List.append_nil]

/-- A model is split into its lines. -/
theorem splitOn_modelText (h : e.IsBuilt) : Text.splitOn newline e.modelText = lines e :=
  Text.splitOn_join (List.append_ne_nil_of_right_ne_nil _ (List.cons_ne_nil _ _))
    fun line hline => (isLine_lines h line hline).newline_not_mem

/-- **Reading a model.** The body of its class declares the columns of the fields, in their order,
and then those every table has, and no other line of the module declares a column. -/
theorem columns_modelText (h : e.IsBuilt) :
    Column.inClass e.names.model e.modelText = e.fields.map Field.asColumn ++ Column.implicit ∧
      Column.inText e.modelText = e.fields.map Field.asColumn ++ Column.implicit := by
  have hbefore : (header e.names ++ comment e.description).filterMap Column.ofLine? = [] :=
    List.filterMap_eq_nil_iff.mpr fun line hline =>
      Column.ofLine?_of_passes (passes_before e.name e.description line hline).2
  have hclass : Column.ofLine? (tableClass e).head = none := rfl
  constructor
  · rw [Column.inClass, classBody_modelText h, filterMap_body h]
  · rw [Column.inText, splitOn_modelText h, lines_eq, List.filterMap_append, hbefore,
      ModuleClass.lines, List.filterMap_cons_none hclass, filterMap_body h, List.nil_append]

end Model

/-! ## What a model determines -/

theorem FieldKind.columnType_injective : Function.Injective columnType := fun k l h => by
  cases k <;> cases l <;> first | rfl | exact absurd h (by decide)

theorem Constraint.columnArgument_injective : Function.Injective columnArgument := fun k l h => by
  cases k <;> cases l <;> first | rfl | exact absurd h (by decide)

/-- A field can be told from its column. -/
theorem Field.asColumn_injective : Function.Injective Field.asColumn := by
  rintro ⟨name, kind, constraints⟩ ⟨name', kind', constraints'⟩ h
  obtain ⟨hname, -, hkind, hoptions⟩ := Column.mk.inj h
  dsimp only at hname hkind hoptions
  rw [hname, FieldKind.columnType_injective hkind,
    Constraint.columnArgument_injective.list_map hoptions]

/-- A field stands in the arguments of its column with its constraints, and with no others. -/
theorem Field.contains_options (f : Field) (k : Constraint) :
    f.asColumn.options.contains k.columnArgument = f.constraints.contains k := by
  rw [Bool.eq_iff_iff, List.contains_iff_mem, List.contains_iff_mem]
  exact List.mem_map_of_injective Constraint.columnArgument_injective

/-- Two texts that are one line apart: the second has it put in before a given line. -/
def Text.InsertsBefore (next line t u : Text) : Prop :=
  ∃ before after, splitOn newline t = before ++ next :: after ∧
    splitOn newline u = before ++ line :: next :: after

namespace Model

variable {e : Entity}

/-- A text that declares the columns of an entity and nothing else. -/
structure Declares (e : Entity) (t : Text) : Prop where
  /-- The class declares the columns of the fields in their order, then those every table has. -/
  columns : Column.inClass e.names.model t = e.fields.map Field.asColumn ++ Column.implicit
  /-- Nothing outside the class declares a column. -/
  complete : Column.inText t = Column.inClass e.names.model t
  /-- No two columns have one name. -/
  nodup : ((Column.inClass e.names.model t).map Column.name).Nodup
  /-- Only line feeds end lines. -/
  lineFeeds : ∀ c ∈ t, c.endsLine = true → c = newline

/-- Where the columns are apart, a model declares them and nothing else. -/
theorem declares_modelText (h : e.IsBuilt) (hapart : e.ColumnsApart) : Declares e e.modelText where
  columns := (columns_modelText h).1
  complete := (columns_modelText h).2.trans (columns_modelText h).1.symm
  nodup := by
    have himplicit : Column.implicit.map Column.name ⊆ reservedNames := by decide
    rw [(columns_modelText h).1, List.map_append, List.map_map, List.nodup_append]
    refine ⟨hapart.nodup, by decide, fun name hname reserved hreserved => ?_⟩
    obtain ⟨f, hf, rfl⟩ := List.mem_map.mp hname
    rintro rfl
    exact hapart.column f hf (himplicit hreserved)
  lineFeeds _ hc := eq_newline_of_endsLine h hc

/-- A description is one line before the class. -/
theorem insertsBefore_modelText (h : e.IsBuilt) (hdescription : e.description ≠ []) :
    Text.InsertsBefore (tableClass e).head ("# " ++ Text.collapse e.description)
      { e with description := [] }.modelText e.modelText := by
  have hplain : Entity.IsBuilt { e with description := [] } := ⟨h.canonical, h.fields, h.nodup⟩
  have hcomment : comment e.description = ["# " ++ Text.collapse e.description] := by
    rw [comment, if_neg (mt List.isEmpty_iff.mp hdescription)]
  have hnone : comment [] = [] := rfl
  refine ⟨header e.names, (tableClass e).body, ?_, ?_⟩
  · rw [splitOn_modelText hplain, lines_eq, hnone, List.append_nil]
    rfl
  · rw [splitOn_modelText h, lines_eq, hcomment, List.append_assoc, List.singleton_append]
    rfl

end Model

namespace Entity

variable {label description : Text} {raws : List Json} {e : Entity}

/-- An entity is built without its description as with it. -/
theorem build_without_description (h : build label description raws = .ok e) :
    build label [] raws = .ok { e with description := [] } := by
  obtain ⟨fs, hfs, hlast⟩ := Effect.result_bind_ok_iff.mp h
  obtain rfl := Except.ok.inj hlast
  exact Effect.result_bind_ok_iff.mpr ⟨fs, hfs, rfl⟩

/-- **The text determines the columns.** A schema is compiled exactly when the columns are apart.
Its model then declares the columns of the fields, those every table has, and no others, each under
a name of its own. Models of one text have the same fields, with the same kinds and the same
constraints in the same order, and a description comes to one comment line before the class. -/
theorem text_determines_columns (hbuild : build label description raws = .ok e) :
    ((∃ schema, e.compileSchema = .ok schema) ↔ e.ColumnsApart) ∧
    ∀ schema, e.compileSchema = .ok schema →
      Model.Declares e schema.model.content ∧
      (∀ label' description' raws' e' schema', build label' description' raws' = .ok e' →
        e'.compileSchema = .ok schema' → schema'.model.content = schema.model.content →
        e'.fields = e.fields) ∧
      (description ≠ [] → ∃ bare plain line, build label [] raws = .ok bare ∧
        bare.compileSchema = .ok plain ∧
        Text.InsertsBefore (Model.tableClass e).head line plain.model.content
          schema.model.content ∧
        Text.ofString "# " <+: line ∧ line.IsLine) := by
  refine ⟨exists_compileSchema_iff, fun schema hschema => ?_⟩
  obtain ⟨hcheck, rfl⟩ := compileSchema_ok_iff.mp hschema
  obtain ⟨hbuilt, rfl⟩ := isBuilt_of_build hbuild
  refine ⟨Model.declares_modelText hbuilt (checkColumns_ok_iff.mp hcheck), ?_, ?_⟩
  · intro label' description' raws' e' schema' hbuild' hschema' htext
    obtain ⟨-, rfl⟩ := compileSchema_ok_iff.mp hschema'
    have hcolumns := (Model.columns_modelText hbuilt).2
    rw [← show e'.modelText = e.modelText from htext,
      (Model.columns_modelText (isBuilt_of_build hbuild').1).2] at hcolumns
    exact Field.asColumn_injective.list_map (List.append_cancel_right hcolumns)
  · intro hdescription
    have hplain : compileSchema { e with description := [] } = _ :=
      compileSchema_ok_iff.mpr ⟨hcheck, rfl⟩
    exact ⟨_, _, _, build_without_description hbuild, hplain,
      Model.insertsBefore_modelText hbuilt hdescription, List.prefix_append _ _,
      .append (by decide) (Text.isLine_collapse e.description)⟩

/-- A description that spells a column comes to one comment line, and no column is added. -/
theorem text_determines_columns_of_book :
    ∃ schema, compileSchema ⟨"book", "Books.\n    owner = Column(\"owner\", Text)",
        [⟨"title", .longText, [.unique, .required]⟩]⟩ = .ok schema ∧
      Column.inText schema.model.content
        = ⟨"title", "title", "Text", ["unique=True", "nullable=False"]⟩
          :: Column.implicit := by
  have hbuild : build "book" "Books.\n    owner = Column(\"owner\", Text)" [.obj [
      ("name", .str "title"), ("constraints", .arr [.str "unique", .str "required"])]]
      = .ok ⟨"book", "Books.\n    owner = Column(\"owner\", Text)",
        [⟨"title", .longText, [.unique, .required]⟩]⟩ := rfl
  obtain ⟨hwhen, hthen⟩ := text_determines_columns hbuild
  obtain ⟨schema, hschema⟩ := hwhen.mpr
    { name := by decide, column := by decide, nodup := by decide }
  have hdeclares := (hthen schema hschema).1
  exact ⟨schema, hschema, hdeclares.complete.trans hdeclares.columns⟩

end Entity

end Tablewright
