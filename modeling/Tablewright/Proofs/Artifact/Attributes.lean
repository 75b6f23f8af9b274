/-
The attributes the shapes declare, beside the columns of the model.

`Attribute.ofLine?` reads a line of a shape as an attribute: its name, the type of its values, and
whether it may be left out. The model and the three shapes go through the fields one by one, each
with tables of its own for the kinds and the constraints. They come to the same attributes line by
line: the shape of a new row and that of a stored row describe the columns of the model, and in the
shape of a change every attribute may be left out (`Schema.Agrees`).

What the classes are left with when they are executed is another matter: there a name goes by
`Text.memberOf`, and two lines that come to one name are one attribute, that of the later line. The
check of the columns compares names as they are spelled, and `compileSchema` has no other. So the
classes agree in their names only under a condition on the fields (`Schema.AgreesByName`).
-/
import Tablewright.Proofs.Artifact.Declared
import Tablewright.Proofs.Text.Normal

set_option autoImplicit false

namespace Tablewright

/-! ## Attributes on a line -/

/-- An attribute, as a line of a shape declares it. -/
structure Attribute where
  /-- The name. -/
  name : Text
  /-- The type of the values. -/
  type : Text
  /-- Whether it may be left out. -/
  optional : Bool
deriving DecidableEq

namespace Attribute

/-- The type in the spelling of a type that may be left out. -/
def optional? (spelling : Text) : Option Text :=
  (Text.dropStart? "Optional[" spelling).bind (Text.dropEnd? "] = None")

/-- The attribute a line declares, if it declares one. -/
def ofLine? (line : Text) : Option Attribute := do
  let (name, spelling) ← Text.cutIndented? ": " line
  match optional? spelling with
  | some type => return { name, type, optional := true }
  | none => return { name, type := spelling, optional := false }

/-- The attributes that are declared in the body of a class. -/
def inClass (name t : Text) : List Attribute := (Text.classBody name t).filterMap ofLine?

/-- The attributes every stored row has. -/
def implicit : List Attribute :=
  [⟨"id", "int", false⟩, ⟨"createdAt", "datetime", false⟩, ⟨"updatedAt", "datetime", false⟩]

/-- A line without a colon declares no attribute. -/
theorem ofLine?_of_not_mem {line : Text} (h : CodePoint.ofChar ':' ∉ line) :
    ofLine? line = none := by
  rw [ofLine?, Text.cutIndented?_of_not_mem (by decide) h]
  rfl

end Attribute

/-- The attribute of a field. -/
def Field.asAttribute (optional : Bool) (f : Field) : Attribute :=
  ⟨f.name, f.kind.attributeType, optional⟩

/-- The line of a field declares its attribute. -/
theorem Field.IsBuilt.ofLine?_attributeLine {f : Field} (h : f.IsBuilt) (optional : Bool) :
    Attribute.ofLine? (f.attributeLine optional) = some (f.asAttribute optional) := by
  have hname : CodePoint.ofChar ':' ∉ f.name := h.not_mem_name (by decide) (by decide)
  have hcut (spelling : Text) : Text.cutIndented? ": " ("    " ++ (f.name ++ (": " ++ spelling)))
      = some (f.name, spelling) := Text.cutIndented?_append hname spelling
  cases optional with
  | false =>
    have hline : f.attributeLine false = "    " ++ (f.name ++ (": " ++ f.kind.attributeType)) := by
      rw [Field.attributeLine, if_neg Bool.false_ne_true, List.append_assoc, List.append_assoc]
    have htype : Attribute.optional? f.kind.attributeType = none := by
      cases f.kind <;> decide +kernel
    rw [Attribute.ofLine?, hline, hcut, Option.bind_eq_bind, Option.bind_some]
    dsimp only
    rw [htype]
    rfl
  | true =>
    have hline : f.attributeLine true = "    " ++ (f.name ++ (": " ++
        ("Optional[" ++ (f.kind.attributeType ++ "] = None")))) := by
      have hopen : Text.ofString ": Optional[" = Text.ofString ": " ++ "Optional[" := rfl
      rw [Field.attributeLine, if_pos rfl, hopen]
      simp only [List.append_assoc]
    have htype : Attribute.optional? ("Optional[" ++ (f.kind.attributeType ++ "] = None"))
        = some f.kind.attributeType := by
      rw [Attribute.optional?, Text.dropStart?_append, Option.bind_some, Text.dropEnd?_append]
    rw [Attribute.ofLine?, hline, hcut, Option.bind_eq_bind, Option.bind_some]
    dsimp only
    rw [htype]
    rfl

/-! ## The lines of the shapes -/

namespace Shapes

variable {e : Entity}

/-- A class of a shape, with the empty lines behind it. -/
def shapeClass (name configuration : Text) (attributes gap : List Text) : ModuleClass where
  name := name
  base := "BaseModel"
  body := ("    model_config = ConfigDict(" ++ configuration ++ ")") :: [] :: (attributes ++ gap)

/-- What a client sends to create a row. -/
def insertClass (e : Entity) : ModuleClass :=
  shapeClass e.names.insertShape strict (e.fields.map fun f => f.attributeLine !f.required) [[], []]

/-- What a client sends to change a row. -/
def updateClass (e : Entity) : ModuleClass :=
  shapeClass e.names.updateShape strict (e.fields.map (Field.attributeLine true)) [[], []]

/-- What a stored row looks like. -/
def selectClass (e : Entity) : ModuleClass :=
  shapeClass e.names.selectShape "from_attributes=True"
    (e.fields.map (fun f => f.attributeLine !f.required) ++ implicitAttributes) [[]]

/-- The classes of the shapes. -/
def classes (e : Entity) : List ModuleClass := [insertClass e, updateClass e, selectClass e]

/-- The shapes are a header and three classes. -/
theorem lines_eq (e : Entity) :
    lines e = header e.names ++ (classes e).flatMap ModuleClass.lines := by
  have hhead (name : Text) : Text.ofString "class " ++ name ++ "(BaseModel):"
      = "class " ++ name ++ "(" ++ "BaseModel" ++ "):" := by
    simp only [List.append_assoc]
    rfl
  have hblank : Text.ofString "" = [] := rfl
  simp only [lines, insertLines, updateLines, selectLines, classHead, classes, insertClass,
    updateClass, selectClass, shapeClass, ModuleClass.lines, ModuleClass.head, hhead, hblank,
    List.append_assoc, List.cons_append, List.nil_append, List.append_nil, List.flatMap_cons,
    List.flatMap_nil]

/-- A line of a shape: it is indented or empty, and nothing ends it. -/
def IsBodyLine (line : Text) : Prop := Text.isIndented line = true ∧ line.IsLine

instance (line : Text) : Decidable (IsBodyLine line) :=
  inferInstanceAs (Decidable (Text.isIndented line = true ∧ line.IsLine))

theorem isBodyLine_attributeLine {f : Field} (h : f.IsBuilt) (optional : Bool) :
    IsBodyLine (f.attributeLine optional) := by
  have htype : f.kind.attributeType.IsLine := by cases f.kind <;> decide
  cases optional with
  | false =>
    exact ⟨rfl, .append (.append (.append (by decide) h.isLine_name) (by decide)) htype⟩
  | true =>
    exact ⟨rfl, .append (.append (.append (.append (by decide) h.isLine_name) (by decide)) htype)
      (by decide)⟩

section

variable {name configuration : Text} {attributes gap : List Text}

/-- A class of a shape is found where it stands, and nothing ends one of its lines. -/
theorem isSound_shapeClass (hname : CodePoint.ofChar '(' ∉ name) (hline : name.IsLine)
    (hconfiguration : configuration.IsLine)
    (hbody : ∀ line ∈ attributes ++ gap, IsBodyLine line) :
    (shapeClass name configuration attributes gap).IsSound ∧
      ∀ line ∈ (shapeClass name configuration attributes gap).lines, line.IsLine := by
  have hbase : Text.IsLine "BaseModel" := by decide
  refine ⟨⟨hname, ?_⟩, ?_⟩
  · exact List.forall_mem_cons.mpr ⟨rfl, List.forall_mem_cons.mpr ⟨rfl, fun l hl => (hbody l hl).1⟩⟩
  · refine List.forall_mem_cons.mpr ⟨ModuleClass.isLine_head hline hbase, ?_⟩
    exact List.forall_mem_cons.mpr ⟨.append (.append (by decide) hconfiguration) (by decide),
      List.forall_mem_cons.mpr ⟨Text.isLine_nil, fun l hl => (hbody l hl).2⟩⟩

/-- The attributes of a shape are those on its lines of attributes. -/
theorem filterMap_shapeClass (hconfiguration : CodePoint.ofChar ':' ∉ configuration)
    (hgap : ∀ line ∈ gap, line = []) :
    (shapeClass name configuration attributes gap).body.filterMap Attribute.ofLine?
      = attributes.filterMap Attribute.ofLine? := by
  have hfirst : CodePoint.ofChar ':'
      ∉ Text.ofString "    model_config = ConfigDict(" ++ configuration ++ Text.ofString ")" := by
    simp only [List.mem_append, not_or]
    exact ⟨⟨by decide, hconfiguration⟩, by decide⟩
  have hempty : Attribute.ofLine? [] = none := rfl
  have hnone : gap.filterMap Attribute.ofLine? = [] :=
    List.filterMap_eq_nil_iff.mpr fun line hline => by rw [hgap line hline, hempty]
  rw [shapeClass, List.filterMap_cons_none (Attribute.ofLine?_of_not_mem hfirst),
    List.filterMap_cons_none hempty, List.filterMap_append, hnone, List.append_nil]

end

/-- The classes of the shapes are found where they stand, and nothing ends one of their lines. -/
theorem isSound_classes (h : e.IsBuilt) :
    ∀ k ∈ classes e, k.IsSound ∧ ∀ line ∈ k.lines, line.IsLine := by
  have hparen := Names.not_mem_typeName (c := CodePoint.ofChar '(') (by decide) (by decide) e.name
  have hline := Names.isLine_typeName e.name
  have hfields (optional : Field → Bool) :
      ∀ line ∈ e.fields.map fun f => f.attributeLine (optional f), IsBodyLine line := by
    intro line hline
    obtain ⟨f, hf, rfl⟩ := List.mem_map.mp hline
    exact isBodyLine_attributeLine (h.fields f hf) (optional f)
  have hblank : IsBodyLine [] := ⟨rfl, Text.isLine_nil⟩
  have himplicit : ∀ line ∈ implicitAttributes, IsBodyLine line := by decide +kernel
  simp only [classes, List.forall_mem_cons]
  refine ⟨isSound_shapeClass ?_ (.append (by decide) hline) (by decide) ?_,
    isSound_shapeClass ?_ (.append (by decide) hline) (by decide) ?_,
    isSound_shapeClass ?_ (.append (by decide) hline) (by decide) ?_, List.forall_mem_nil _⟩
  case refine_1 | refine_3 | refine_5 =>
    exact fun hmem => (List.mem_append.mp hmem).elim (by decide) hparen
  case refine_2 | refine_4 =>
    exact List.forall_mem_append.mpr ⟨hfields _, List.forall_mem_cons.mpr
      ⟨hblank, List.forall_mem_singleton.mpr hblank⟩⟩
  case refine_6 =>
    exact List.forall_mem_append.mpr ⟨List.forall_mem_append.mpr ⟨hfields _, himplicit⟩,
      List.forall_mem_singleton.mpr hblank⟩

/-- No two of the classes have one name. -/
theorem nodup_classes (e : Entity) : ((classes e).map ModuleClass.name).Nodup := by
  have hne {x y : Text} (h : x ≠ y) : x ++ e.names.typeName ≠ y ++ e.names.typeName :=
    fun heq => h (List.append_cancel_right heq)
  have hnames : (classes e).map ModuleClass.name
      = ["Insert" ++ e.names.typeName, "Update" ++ e.names.typeName, "Select" ++ e.names.typeName]
    := rfl
  rw [hnames, List.nodup_cons, List.nodup_cons]
  simp only [List.mem_cons, List.not_mem_nil, or_false, not_or]
  exact ⟨⟨hne (by decide), hne (by decide)⟩, hne (by decide), List.nodup_singleton _⟩

/-- The lines before the classes declare none. -/
theorem passes_header (label : Text) :
    ∀ line ∈ header (Names.ofLabel label), Text.Passes "class " line := by
  have hname := Names.newline_not_mem_canonical label
  have hblank : Text.ofString "" = [] := rfl
  simp only [header, hblank, List.append_assoc, List.forall_mem_cons]
  and_intros
  all_goals
    first
    | exact List.forall_mem_nil _
    | with_reducible apply Text.Passes.append
    | with_reducible apply Text.Passes.fixed
    | exact Text.Passes.blank rfl
  all_goals first | rfl | simp only [List.mem_append, not_or]
  exact ⟨hname, Text.not_mem_ofString rfl rfl⟩

/-- No line of the shapes is ended before its end. -/
theorem newline_not_mem_lines (h : e.IsBuilt) :
    ∀ line ∈ header e.names ++ (classes e).flatMap ModuleClass.lines, Text.newline ∉ line := by
  refine List.forall_mem_append.mpr ⟨fun line hline => ?_, fun line hline => ?_⟩
  · exact (passes_header e.name line hline).not_mem
  · obtain ⟨l, hl, hline⟩ := List.mem_flatMap.mp hline
    exact ((isSound_classes h l hl).2 line hline).newline_not_mem

/-- The body of each class is found in the shapes. -/
theorem classBody_shapesText (h : e.IsBuilt) {k : ModuleClass} (hk : k ∈ classes e) :
    Text.classBody k.name e.shapesText = k.body := by
  rw [Entity.shapesText, lines_eq]
  exact Text.classBody_unlines (passes_header e.name) (fun l hl => (isSound_classes h l hl).1)
    (nodup_classes e) (newline_not_mem_lines h) hk

/-- The lines of fields declare the attributes of the fields. -/
theorem filterMap_fields (h : e.IsBuilt) (optional : Field → Bool) :
    (e.fields.map fun f => f.attributeLine (optional f)).filterMap Attribute.ofLine?
      = e.fields.map fun f => f.asAttribute (optional f) := by
  rw [List.filterMap_map, ← List.filterMap_eq_map]
  exact List.filterMap_congr fun f hf => (h.fields f hf).ofLine?_attributeLine (optional f)

/-- **Reading the shapes.** The shape of a new row declares one attribute for each field, that of a
change declares the same as optional, and that of a stored row declares those every row has
besides. -/
theorem attributes_shapesText (h : e.IsBuilt) :
    Attribute.inClass e.names.insertShape e.shapesText
        = e.fields.map (fun f => f.asAttribute !f.required) ∧
      Attribute.inClass e.names.updateShape e.shapesText
        = e.fields.map (Field.asAttribute true) ∧
      Attribute.inClass e.names.selectShape e.shapesText
        = e.fields.map (fun f => f.asAttribute !f.required) ++ Attribute.implicit := by
  have hinsert := classBody_shapesText (k := insertClass e) h List.mem_cons_self
  have hupdate := classBody_shapesText (k := updateClass e) h
    (List.mem_cons_of_mem _ List.mem_cons_self)
  have hselect := classBody_shapesText (k := selectClass e) h
    (List.mem_cons_of_mem _ (List.mem_cons_of_mem _ List.mem_cons_self))
  have himplicit : implicitAttributes.filterMap Attribute.ofLine? = Attribute.implicit := by
    decide +kernel
  refine ⟨?_, ?_, ?_⟩
  · exact (congrArg (List.filterMap Attribute.ofLine?) hinsert).trans
      ((filterMap_shapeClass (by decide) (by decide)).trans (filterMap_fields h _))
  · exact (congrArg (List.filterMap Attribute.ofLine?) hupdate).trans
      ((filterMap_shapeClass (by decide) (by decide)).trans (filterMap_fields h fun _ => true))
  · refine (congrArg (List.filterMap Attribute.ofLine?) hselect).trans
      ((filterMap_shapeClass (by decide) (by decide)).trans ?_)
    rw [List.filterMap_append, filterMap_fields h, himplicit]

end Shapes

/-! ## Columns and attributes -/

namespace Column

/-- The types of the values in columns, by the types of the columns. -/
def valueTypes : List (Text × Text) := [
  ("String(255)", "str"), ("Text", "str"), ("Integer", "int"), ("Boolean", "bool"),
  ("DateTime", "datetime")]

/-- The type of the values in a column. -/
def valueType? (c : Column) : Option Text := valueTypes.lookup c.type

/-- Whether a column takes no row without a value: it is marked so, or it is a key. -/
def isRequired (c : Column) : Bool := c.options.contains "nullable=False" || c.isKey

end Column

/-- The attribute by which a row gives its value for a column. -/
structure Attribute.Describes (a : Attribute) (c : Column) : Prop where
  /-- It goes by the attribute of the model. -/
  name : a.name = c.member
  /-- Its type is that of the values in the column. -/
  type : c.valueType? = some a.type
  /-- It may be left out where the column takes a row without a value. -/
  optional : a.optional = !c.isRequired

theorem Field.isRequired_asColumn (f : Field) : f.asColumn.isRequired = f.required := by
  have hrequired := f.contains_options .required
  have hprimary := f.contains_options .primary
  rw [Column.isRequired, Field.required, ← hrequired, ← hprimary]
  rfl

/-- The attribute of a field describes its column. -/
theorem Field.describes (f : Field) : (f.asAttribute !f.required).Describes f.asColumn where
  name := rfl
  type := by
    have htypes (k : FieldKind) : Column.valueTypes.lookup k.columnType = some k.attributeType := by
      cases k <;> decide +kernel
    exact htypes f.kind
  optional := by rw [f.isRequired_asColumn, asAttribute]

/-- A model and shapes that agree, line by line, on the columns users have declared. -/
structure Schema.Agrees (s : Schema) (n : Names) (user : List Column) : Prop where
  /-- The model declares the columns, and those every table has. -/
  model : Column.inClass n.model s.model.content = user ++ Column.implicit
  /-- None of them is declared as one that every table has. -/
  apart : ∀ c ∈ user, c.member ∉ Column.implicit.map Column.member
  /-- The shape of a new row describes the columns one by one. -/
  insert : List.Forall₂ Attribute.Describes (Attribute.inClass n.insertShape s.shapes.content) user
  /-- The shape of a change declares the same attributes, and each may be left out. -/
  update : Attribute.inClass n.updateShape s.shapes.content
    = (Attribute.inClass n.insertShape s.shapes.content).map fun a => { a with optional := true }
  /-- The shape of a stored row describes all columns of the model. -/
  select : List.Forall₂ Attribute.Describes (Attribute.inClass n.selectShape s.shapes.content)
    (user ++ Column.implicit)

/-! ## Names in the classes -/

/-- What the name of a field is looked up by. -/
def Field.identifier (f : Field) : Text := f.name.identifier

/-- The name by which a class knows a field. -/
def Field.memberOf (name : Text) (f : Field) : Text := Text.memberOf name f.name

/-- The names the columns of a class are known by. -/
def Column.namesIn (name t : Text) : List Text :=
  (Column.inClass name t).map fun c => Text.memberOf name c.member

/-- The names the attributes of a class are known by. -/
def Attribute.namesIn (name t : Text) : List Text :=
  (Attribute.inClass name t).map fun a => Text.memberOf name a.name

/-- The names of the columns every table has. -/
def Column.implicitNames : List Text := Column.implicit.map Column.member

/-- A model and shapes that agree on the names by which their classes know their attributes. -/
structure Schema.AgreesByName (s : Schema) (n : Names) : Prop where
  /-- Every column of the model is an attribute of its own. -/
  nodup : (Column.namesIn n.model s.model.content).Nodup
  /-- The shape of a new row has all of them but those every table has. -/
  insert : Attribute.namesIn n.insertShape s.shapes.content ++ Column.implicitNames
    = Column.namesIn n.model s.model.content
  /-- So has the shape of a change. -/
  update : Attribute.namesIn n.updateShape s.shapes.content ++ Column.implicitNames
    = Column.namesIn n.model s.model.content
  /-- The shape of a stored row has all of them. -/
  select : Attribute.namesIn n.selectShape s.shapes.content
    = Column.namesIn n.model s.model.content

/-- Fields that every class knows by names of their own: those they are looked up by. -/
structure Field.KnownApart (fs : List Field) : Prop where
  /-- No two of them are looked up by one name. -/
  nodup : (fs.map Field.identifier).Nodup
  /-- None is looked up by the name of a column every table has. -/
  apart : ∀ f ∈ fs, f.identifier ∉ Column.implicitNames
  /-- None is private to the class it is in. -/
  shared : ∀ f ∈ fs, ¬ f.identifier.IsPrivate

/-- Every class knows the columns every table has by their names. -/
theorem Column.memberOf_implicit (name : Text) :
    Column.implicit.map (fun c => Text.memberOf name c.member) = Column.implicitNames := by
  have hplain : ∀ n ∈ implicitNames, n.IsPlain := by decide
  have hnames : implicitNames.map (Text.memberOf name) = _ := Text.map_memberOf hplain
  rwa [implicitNames, List.map_map] at hnames

/-- The class of a shape puts more in front of a private name than that of the model: its name begins
with a letter and goes on with the name of the model. -/
theorem Names.privateStart_ne (n : Names) : ∀ shape ∈ [n.insertShape, n.updateShape, n.selectShape],
    (Text.privateStart shape).length ≠ (Text.privateStart n.model).length := by
  have hmodel : (Text.privateStart n.model).length ≤ n.typeName.length + 1 := by
    have hrest := (List.dropWhile_suffix (l := n.typeName)
      fun c => decide (c = CodePoint.ofChar '_')).length_le
    rw [Text.privateStart, Names.model]
    split
    · exact Nat.zero_le _
    · rw [List.length_append, Nat.add_comm]
      exact Nat.add_le_add_right hrest 1
  have hshape : ∀ shape ∈ [n.insertShape, n.updateShape, n.selectShape],
      (Text.privateStart shape).length = n.typeName.length + 7 := by
    simp only [List.forall_mem_cons]
    exact ⟨rfl, rfl, rfl, List.forall_mem_nil _⟩
  intro shape hmem
  rw [hshape shape hmem]
  omega

namespace Entity

variable {label description : Text} {raws : List Json} {e : Entity}

/-- The names by which the classes of an accepted schema know what they declare. -/
theorem names_compileSchema (hbuilt : e.IsBuilt) {s : Schema} (hschema : e.compileSchema = .ok s) :
    Column.namesIn e.names.model s.model.content
        = e.fields.map (Field.memberOf e.names.model) ++ Column.implicitNames ∧
      Attribute.namesIn e.names.insertShape s.shapes.content
        = e.fields.map (Field.memberOf e.names.insertShape) ∧
      Attribute.namesIn e.names.updateShape s.shapes.content
        = e.fields.map (Field.memberOf e.names.updateShape) ∧
      Attribute.namesIn e.names.selectShape s.shapes.content
        = e.fields.map (Field.memberOf e.names.selectShape) ++ Column.implicitNames := by
  obtain ⟨-, rfl⟩ := compileSchema_ok_iff.mp hschema
  obtain ⟨hinsert, hupdate, hselect⟩ := Shapes.attributes_shapesText hbuilt
  have himplicit : Attribute.implicit.map Attribute.name = Column.implicit.map Column.member := rfl
  have hstored (name : Text) : Attribute.implicit.map (fun a => Text.memberOf name a.name)
      = Column.implicitNames := by
    have hmap := congrArg (List.map (Text.memberOf name)) himplicit
    rw [List.map_map, List.map_map] at hmap
    exact hmap.trans (Column.memberOf_implicit name)
  refine ⟨?_, ?_, ?_, ?_⟩
  · rw [Column.namesIn, (Model.columns_modelText hbuilt).1, List.map_append,
      Column.memberOf_implicit, List.map_map]
    rfl
  · rw [Attribute.namesIn, hinsert, List.map_map]
    rfl
  · rw [Attribute.namesIn, hupdate, List.map_map]
    rfl
  · rw [Attribute.namesIn, hselect, List.map_append, hstored, List.map_map]
    rfl

/-- The classes of an accepted schema agree on the names of their attributes exactly when every field
is known by a name of its own. -/
theorem agreesByName_iff (hbuilt : e.IsBuilt) {s : Schema} (hschema : e.compileSchema = .ok s) :
    s.AgreesByName e.names ↔ Field.KnownApart e.fields := by
  obtain ⟨hmodel, hinsert, hupdate, hselect⟩ := names_compileSchema hbuilt hschema
  have hshape : ∀ shape ∈ [e.names.insertShape, e.names.updateShape, e.names.selectShape],
      e.fields.map (Field.memberOf shape) = e.fields.map (Field.memberOf e.names.model) ↔
        ∀ f ∈ e.fields, ¬ f.identifier.IsPrivate := by
    intro shape hmem
    rw [List.map_inj_left]
    exact forall₂_congr fun f _ => Text.memberOf_eq_memberOf_iff (e.names.privateStart_ne shape hmem)
  simp only [List.forall_mem_cons] at hshape
  -- a class knows a field that is not private by what it is looked up by
  have hknown (hshared : ∀ f ∈ e.fields, ¬ f.identifier.IsPrivate) :
      e.fields.map (Field.memberOf e.names.model) = e.fields.map Field.identifier :=
    List.map_congr_left fun f hf => if_neg (hshared f hf)
  constructor
  · intro h
    have hshared := hshape.1.mp (by
      have hnames := h.insert
      rw [hinsert, hmodel] at hnames
      exact List.append_cancel_right hnames)
    have hnodup := h.nodup
    rw [hmodel, hknown hshared, List.nodup_append] at hnodup
    exact ⟨hnodup.1, fun f hf hmem => hnodup.2.2 _ (List.mem_map_of_mem hf) _ hmem rfl, hshared⟩
  · intro h
    have hnames := hknown h.shared
    obtain ⟨hfirst, hsecond, hthird, -⟩ := hshape
    constructor
    · rw [hmodel, hnames, List.nodup_append]
      refine ⟨h.nodup, by decide, ?_⟩
      rintro _ hmem n hn rfl
      obtain ⟨f, hf, rfl⟩ := List.mem_map.mp hmem
      exact h.apart f hf hn
    · rw [hinsert, hmodel, hfirst.mpr h.shared]
    · rw [hupdate, hmodel, hsecond.mpr h.shared]
    · rw [hselect, hmodel, hthird.mpr h.shared]

/-- **Agreement.** The schema of an entity is turned down as a naming conflict, or there are a model
and shapes that agree, line by line, on the fields of the entity, in their order. As classes they agree
on the names of their attributes exactly when every field is known by a name of its own: the fields
are looked up by different names, none by that of a column every table has, and none is private. -/
theorem shapes_agree (hbuild : build label description raws = .ok e) :
    (∃ r, e.compileSchema = .error r ∧ r.kind = .namingConflict) ∨
      ∃ s user, e.compileSchema = .ok s ∧ user.map Column.member = e.fields.map Field.name ∧
        s.Agrees e.names user ∧ (s.AgreesByName e.names ↔ Field.KnownApart e.fields) := by
  obtain ⟨hbuilt, -⟩ := isBuilt_of_build hbuild
  rcases hschema : e.compileSchema with r | s
  · exact .inl ⟨r, rfl, kind_of_checkColumns (compileSchema_error_iff.mp hschema)⟩
  · have hnames := agreesByName_iff hbuilt hschema
    obtain ⟨hcheck, rfl⟩ := compileSchema_ok_iff.mp hschema
    have hapart := checkColumns_ok_iff.mp hcheck
    obtain ⟨hinsert, hupdate, hselect⟩ := Shapes.attributes_shapesText hbuilt
    have hfields : List.Forall₂ Attribute.Describes
        (e.fields.map fun f => f.asAttribute !f.required) (e.fields.map Field.asColumn) := by
      rw [List.forall₂_map_left_iff, List.forall₂_map_right_iff]
      exact List.forall₂_same.mpr fun f _ => f.describes
    have himplicit : List.Forall₂ Attribute.Describes Attribute.implicit Column.implicit :=
      .cons ⟨rfl, rfl, rfl⟩ (.cons ⟨rfl, rfl, rfl⟩ (.cons ⟨rfl, rfl, rfl⟩ .nil))
    refine .inr ⟨_, e.fields.map Field.asColumn, rfl, ?_, ?_, hnames⟩
    · rw [List.map_map]
      rfl
    · exact {
        model := (Model.columns_modelText hbuilt).1
        apart := fun c hc => by
          have hreserved : Column.implicit.map Column.member ⊆ reservedNames := by decide
          obtain ⟨f, hf, rfl⟩ := List.mem_map.mp hc
          exact fun hmem => hapart.name f hf (hreserved hmem)
        insert := by rw [hinsert]; exact hfields
        update := by
          rw [hinsert, hupdate, List.map_map]
          rfl
        select := by rw [hselect]; exact List.rel_append hfields himplicit }

/-- A required title and a unique rank, which a new row may leave out: the classes agree line by line
and by name. -/
theorem shapes_agree_of_note :
    let e : Entity :=
      ⟨"note", [], [⟨"title", .longText, [.required]⟩, ⟨"rank", .integer, [.unique]⟩]⟩
    build "note" [] [.obj [("name", .str "title"), ("constraints", .arr [.str "required"])],
        .obj [("name", .str "rank"), ("kind", .str "integer"),
          ("constraints", .arr [.str "unique"])]] = .ok e ∧
      ∃ s user, e.compileSchema = .ok s ∧
        user.map Column.member = [Text.ofString "title", Text.ofString "rank"] ∧
        s.Agrees e.names user ∧ s.AgreesByName e.names := by
  intro e
  have hbuild : build "note" [] [
      .obj [("name", .str "title"), ("constraints", .arr [.str "required"])],
      .obj [("name", .str "rank"), ("kind", .str "integer"), ("constraints", .arr [.str "unique"])]]
      = .ok e := rfl
  have hapart : e.ColumnsApart := { name := by decide, column := by decide, nodup := by decide }
  have hknown : Field.KnownApart e.fields :=
    { nodup := by decide, apart := by decide, shared := by decide }
  obtain ⟨schema, hschema⟩ := exists_compileSchema_iff.mpr hapart
  refine ⟨hbuild, ?_⟩
  rcases shapes_agree hbuild with ⟨r, hr, -⟩ | ⟨s, user, hs, huser, hlines, hnames⟩
  · cases hschema.symm.trans hr
  · exact ⟨s, user, hs, huser, hlines, hnames.mpr hknown⟩

/-- A field called `id` with an `i` of full width is accepted, and the classes do not agree on its
name: in the model it is the key every table has. -/
theorem shapes_disagree_on_wide_id :
    let e : Entity := ⟨"a", [], [⟨"\uff49d", .longText, []⟩]⟩
    build "a" [] [.obj [("name", .str "\uff49d")]] = .ok e ∧
      ∃ s, e.compileSchema = .ok s ∧ ¬ s.AgreesByName e.names := by
  intro e
  have hbuild : build "a" [] [.obj [("name", .str "\uff49d")]] = .ok e :=
    Effect.result_ok_of_toOption (by decide +kernel)
  obtain ⟨schema, hschema⟩ := exists_compileSchema_iff.mpr
    (show e.ColumnsApart from { name := by decide, column := by decide, nodup := by decide })
  have hread : Text.identifier "\uff49d" = "id" := by decide +kernel
  refine ⟨hbuild, schema, hschema, fun hagrees => ?_⟩
  have hknown := (agreesByName_iff (isBuilt_of_build hbuild).1 hschema).mp hagrees
  refine hknown.apart ⟨"\uff49d", .longText, []⟩ List.mem_cons_self ?_
  rw [Field.identifier, hread]
  decide

end Entity

end Tablewright
