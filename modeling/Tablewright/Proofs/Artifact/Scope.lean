/-
The names a class body reads, and the fields that stand in their way.

A body is run line by line in a scope of its own. A line may bind a name there, and it reads names:
those of a value before it binds, those of a type hint after that. A name that is bound already is
read from the body and no longer from the module (`Statement.shadowed`).

The generated classes import what they read, and a field binds its own name in them, or rather the
name by which the class knows it (`Field.memberOf`): a field spelled with a letter of another width
binds the plain name. The check of the columns knows the names of the three columns every table has,
but not the names the templates use, so a field may take one of these. Where that does harm depends on
what follows: `String` is free in a model unless a later field is a short text
(`Entity.captures_nothing_iff`).
-/
import Tablewright.Proofs.Artifact.Attributes

set_option autoImplicit false

namespace Tablewright

/-! ## Names in an expression -/

/-- Whether a code point ends a piece of an expression: a name with what is taken from it, an
argument with its keyword, or a text in quotes. -/
def CodePoint.endsPiece (c : CodePoint) : Bool :=
  !(c.continuesIdentifier || c = '.' || c = '=' || c = '"')

namespace Text

/-- The name a piece of an expression reads, if it reads one. It stands behind the keyword of an
argument, and before what is taken from it. -/
def nameRead? (piece : Text) : Option Text :=
  let value := ((cutAtFirst? "=" piece).map Prod.snd).getD piece
  some (cutBefore (fun c => c = '.') value).1 |>.filter Field.isName

/-- The names an expression reads, in their order. -/
def namesRead (t : Text) : List Text := (pieces CodePoint.endsPiece t).filterMap nameRead?

variable {c : CodePoint} {t u : Text}

/-- An expression reads what its parts read. -/
theorem namesRead_append_cons (hc : c.endsPiece = true) (t u : Text) :
    namesRead (t ++ c :: u) = namesRead t ++ namesRead u := by
  rw [namesRead, pieces_append_cons t hc, List.filterMap_append]
  rfl

theorem namesRead_join (ts : List Text) : namesRead (join ", " ts) = ts.flatMap namesRead := by
  induction ts with
  | nil => rfl
  | cons t ts ih =>
    cases ts with
    | nil => exact (List.append_nil _).symm
    | cons u ts =>
      have hcut : join ", " (t :: u :: ts)
          = t ++ (',' : CodePoint) :: ([] ++ (' ' : CodePoint) :: join ", " (u :: ts)) := by
        rw [join, List.append_assoc]
        rfl
      rw [hcut, namesRead_append_cons (by decide), namesRead_append_cons (by decide), ih,
        List.flatMap_cons]
      rfl

/-- A text in quotes reads nothing. -/
theorem namesRead_quoted (h : ∀ c ∈ t, c.continuesIdentifier = true) :
    namesRead ("\"" ++ t ++ "\"") = [] := by
  have hwithin : ∀ c ∈ Text.ofString "\"" ++ t ++ Text.ofString "\"", c.endsPiece = false := by
    intro c hc
    simp only [List.mem_append] at hc
    rcases hc with (hc | hc) | hc
    · obtain rfl := List.mem_singleton.mp hc
      decide
    · rw [CodePoint.endsPiece, h c hc]
      rfl
    · obtain rfl := List.mem_singleton.mp hc
      decide
  have hequals : CodePoint.ofChar '=' ∉ Text.ofString "\"" ++ t ++ Text.ofString "\"" := by
    simp only [List.mem_append, not_or]
    exact ⟨⟨by decide, fun hmem => absurd (h _ hmem) (by decide)⟩, by decide⟩
  have hcut : cutAtFirst? "=" ("\"" ++ t ++ "\"") = none :=
    cutAtFirst?_of_not_mem (c := CodePoint.ofChar '=') List.mem_cons_self hequals
  have hwhole : nameRead? ("\"" ++ t ++ "\"") = none := by
    rw [nameRead?, hcut]
    rfl
  have hne : Text.ofString "\"" ++ t ++ Text.ofString "\"" ≠ [] := List.cons_ne_nil _ _
  rw [namesRead, pieces_of_not_sep hne hwithin, List.filterMap_cons_none hwhole]
  rfl

end Text

/-! ## Statements -/

/-- A line of a class body. -/
structure Statement where
  /-- The name that is bound, if one is. -/
  target : Option Text
  /-- The names that are read before that. -/
  value : List Text
  /-- The names of the type hint, which are read after that. -/
  hint : List Text
deriving DecidableEq

namespace Statement

/-- All names a line reads. -/
def reads (s : Statement) : List Text := s.value ++ s.hint

/-- The name a line binds, as a list. -/
def binds (s : Statement) : List Text := s.target.toList

/-- The statement on an indented line, if there is one, with its names as they are spelled. A type
hint without a value binds nothing. -/
def ofLine? (line : Text) : Option Statement :=
  match Text.cutIndented? ": " line with
  | some (name, rest) =>
    match Text.cutAtFirst? " = " rest with
    | some (hint, value) =>
      some ⟨some name, Text.namesRead value, Text.namesRead hint⟩
    | none => some ⟨none, [], Text.namesRead rest⟩
  | none =>
    (Text.cutIndented? " = " line).map fun parts => ⟨some parts.1, Text.namesRead parts.2, []⟩

/-- A statement with the names by which a class knows those it is spelled with. -/
def within (name : Text) (s : Statement) : Statement where
  target := s.target.map (Text.memberOf name)
  value := s.value.map (Text.memberOf name)
  hint := s.hint.map (Text.memberOf name)

/-- The statements in the body of a class. -/
def inClass (name t : Text) : List Statement :=
  ((Text.classBody name t).filterMap ofLine?).map (within name)

/-- The names that are read once the body has bound them, with those given bound at the start. -/
def shadowed : List Text → List Statement → List Text
  | _, [] => []
  | bound, s :: r =>
    let after := s.binds ++ bound
    s.value.filter (· ∈ bound) ++ (s.hint.filter (· ∈ after) ++ shadowed after r)

/-- A body that reads nothing it has bound, and binds no name twice. -/
structure IsClean (ss : List Statement) : Prop where
  /-- Everything is read from the module. -/
  shadowed : shadowed [] ss = []
  /-- No name is bound twice. -/
  nodup : (ss.flatMap binds).Nodup

/-- Every name in a body is one of those given. -/
def Mentions (ss : List Statement) (names : List Text) : Prop :=
  ∀ s ∈ ss, ∀ n ∈ s.binds ++ s.reads, n ∈ names

instance (ss : List Statement) (names : List Text) : Decidable (Mentions ss names) :=
  inferInstanceAs (Decidable (∀ s ∈ ss, ∀ n ∈ s.binds ++ s.reads, n ∈ names))

/-- A class knows the names of a statement as they are written if they are plain. -/
theorem within_of_isPlain {s : Statement} (name : Text)
    (h : ∀ n ∈ s.binds ++ s.reads, n.IsPlain) : s.within name = s := by
  obtain ⟨htarget, hvalue, hhint⟩ : (∀ n ∈ s.binds, n.IsPlain) ∧ (∀ n ∈ s.value, n.IsPlain) ∧
      ∀ n ∈ s.hint, n.IsPlain := by
    simpa only [reads, List.forall_mem_append] using h
  have hbound : s.target.map (Text.memberOf name) = s.target := by
    rcases hs : s.target with _ | t
    · rfl
    · have hplain := htarget t (by rw [binds, hs]; exact List.mem_singleton_self t)
      exact congrArg some ((Text.memberOf_eq_iff hplain.1).mpr hplain.2)
  rw [within, hbound, Text.map_memberOf hvalue, Text.map_memberOf hhint]

section

variable {bound : List Text} {s u : Statement} {ss : List Statement}

/-- What a line binds is not what another one reads. -/
def Spares (s u : Statement) : Prop := ∀ n ∈ s.binds, n ∉ u.reads

instance (s u : Statement) : Decidable (s.Spares u) :=
  inferInstanceAs (Decidable (∀ n ∈ s.binds, n ∉ u.reads))

/-- Nothing is read from a body exactly when no line reads what is bound at the start, what a line
before it binds or, in its type hint, what it binds itself. -/
theorem shadowed_eq_nil_iff :
    shadowed bound ss = [] ↔ (∀ u ∈ ss, ∀ n ∈ bound, n ∉ u.reads) ∧
      (∀ u ∈ ss, ∀ n ∈ u.binds, n ∉ u.hint) ∧ ss.Pairwise Spares := by
  induction ss generalizing bound with
  | nil => simp [shadowed]
  | cons s ss ih =>
    have hfilter (names known : List Text) :
        names.filter (· ∈ known) = [] ↔ ∀ n ∈ known, n ∉ names := by
      simp only [List.filter_eq_nil_iff, decide_eq_true_eq]
      exact ⟨fun h n hn hmem => h n hmem hn, fun h n hmem hn => h n hn hmem⟩
    have hreads (n : Text) : n ∉ s.reads ↔ n ∉ s.value ∧ n ∉ s.hint := by
      rw [reads, List.mem_append, not_or]
    simp only [shadowed, List.append_eq_nil_iff, hfilter, ih, List.forall_mem_append,
      List.forall_mem_cons, List.pairwise_cons, Spares, hreads, forall_and]
    -- the lines behind come in two parts: what is bound at the start, and what this line binds
    constructor
    · rintro ⟨hvalue, ⟨hown, hbound⟩, ⟨hnew, hold⟩, hself, hpairs⟩
      exact ⟨⟨⟨hvalue, hbound⟩, hold⟩, ⟨hown, hself⟩, hnew, hpairs⟩
    · rintro ⟨⟨⟨hvalue, hbound⟩, hold⟩, ⟨hown, hself⟩, hnew, hpairs⟩
      exact ⟨hvalue, ⟨hown, hbound⟩, ⟨hnew, hold⟩, hself, hpairs⟩

end

end Statement

/-! ## The statements of a model -/

/-- The class of the type of a column, as the model imports it. -/
def FieldKind.columnClass : FieldKind → Text
  | shortText => "String"
  | longText => "Text"
  | integer => "Integer"
  | boolean => "Boolean"
  | timestamp => "DateTime"

/-- The statement of a field's column, which binds the name a field is known by. -/
def Field.columnStatement (known : Field → Text) (f : Field) : Statement :=
  ⟨some (known f), ["Column", f.kind.columnClass], []⟩

/-- The statement of a field's attribute. -/
def Field.attributeStatement (known : Field → Text) (optional : Bool) (f : Field) : Statement :=
  if optional then ⟨some (known f), [], ["Optional", f.kind.attributeType]⟩
  else ⟨none, [], [f.kind.attributeType]⟩

/-- The classes of the types of columns are plain names. -/
theorem FieldKind.isPlain_columnClass (k : FieldKind) : k.columnClass.IsPlain := by
  cases k <;> decide

/-- The types of attributes are plain names. -/
theorem FieldKind.isPlain_attributeType (k : FieldKind) : k.attributeType.IsPlain := by
  cases k <;> decide

theorem Field.within_columnStatement (name : Text) (f : Field) :
    (f.columnStatement Field.name).within name = f.columnStatement (memberOf name) := by
  have hreads : ∀ n ∈ [Text.ofString "Column", f.kind.columnClass], n.IsPlain :=
    List.forall_mem_cons.mpr ⟨by decide, List.forall_mem_singleton.mpr f.kind.isPlain_columnClass⟩
  rw [Statement.within, columnStatement, Text.map_memberOf hreads]
  rfl

theorem Field.within_attributeStatement (name : Text) (optional : Bool) (f : Field) :
    (f.attributeStatement Field.name optional).within name
      = f.attributeStatement (memberOf name) optional := by
  have htype : ∀ n ∈ [f.kind.attributeType], n.IsPlain :=
    List.forall_mem_singleton.mpr f.kind.isPlain_attributeType
  cases optional with
  | false =>
    rw [attributeStatement, if_neg Bool.false_ne_true, Statement.within, Text.map_memberOf htype]
    rfl
  | true =>
    have hreads : ∀ n ∈ [Text.ofString "Optional", f.kind.attributeType], n.IsPlain :=
      List.forall_mem_cons.mpr ⟨by decide, htype⟩
    rw [attributeStatement, if_pos rfl, Statement.within, Text.map_memberOf hreads]
    rfl

/-- The arguments of a column read the class of its type, and nothing else. -/
theorem Field.namesRead_arguments (f : Field) :
    (("\"" ++ f.column ++ "\"") :: f.kind.columnType
      :: f.constraints.map Constraint.columnArgument).flatMap Text.namesRead
      = [f.kind.columnClass] := by
  have hcolumn : Text.namesRead ("\"" ++ f.column ++ "\"") = [] :=
    Text.namesRead_quoted fun _ hc =>
      CodePoint.continuesIdentifier_of_name ((Naming.mem_snake hc).imp_right .inr)
  have htype : Text.namesRead f.kind.columnType = [f.kind.columnClass] := by
    cases f.kind <;> decide
  have hconstraint (k : Constraint) : Text.namesRead k.columnArgument = [] := by
    cases k <;> decide
  have hconstraints : (f.constraints.map Constraint.columnArgument).flatMap Text.namesRead = [] :=
    List.flatMap_eq_nil_iff.mpr fun t ht => by
      obtain ⟨k, -, rfl⟩ := List.mem_map.mp ht
      exact hconstraint k
  rw [List.flatMap_cons, List.flatMap_cons, hcolumn, htype, hconstraints]
  rfl

/-- The line of a field's column is its statement. -/
theorem Field.IsBuilt.statement_columnLine {f : Field} (h : f.IsBuilt) :
    Statement.ofLine? f.columnLine = some (f.columnStatement Field.name) := by
  have hspace : CodePoint.ofChar ' ' ∉ f.name := h.not_mem_name (by decide) (by decide)
  have hcolon : CodePoint.ofChar ':' ∉ f.columnLine := by
    have hname : CodePoint.ofChar ':' ∉ f.name := h.not_mem_name (by decide) (by decide)
    have hcolumn : CodePoint.ofChar ':' ∉ f.column := f.not_mem_column (by decide) (by decide)
    have hrest : CodePoint.ofChar ':' ∉ Model.rest f := Model.not_mem_rest (by decide)
      (fun k => by cases k <;> decide) (fun k => by cases k <;> decide) f
    rw [Model.columnLine_eq]
    simp only [List.mem_append, List.mem_cons, not_or]
    exact ⟨⟨⟨by decide, hname⟩, by decide⟩, by decide, by decide, hcolumn, by decide, hrest⟩
  obtain ⟨arguments, harguments⟩ : ∃ arguments, arguments = ("\"" ++ f.column ++ "\"")
    :: f.kind.columnType :: f.constraints.map Constraint.columnArgument := ⟨_, rfl⟩
  have hline : f.columnLine
      = "    " ++ (f.name ++ (" = " ++ ("Column(" ++ (Text.join ", " arguments ++ ")")))) := by
    have hequals : Text.ofString " = Column("
        = Text.ofString " = " ++ Text.ofString "Column(" := rfl
    rw [Field.columnLine, harguments]
    simp only [hequals, List.append_assoc]
  have hcut : Text.cutIndented? " = " f.columnLine
      = some (f.name, "Column(" ++ (Text.join ", " arguments ++ ")")) := by
    rw [hline]
    exact Text.cutIndented?_append hspace _
  have hread : Text.namesRead ("Column(" ++ (Text.join ", " arguments ++ ")"))
      = [Text.ofString "Column", f.kind.columnClass] := by
    have hopen : Text.ofString "Column(" ++ (Text.join ", " arguments ++ Text.ofString ")")
        = "Column" ++ ('(' : CodePoint) :: (Text.join ", " arguments ++ (')' : CodePoint) :: []) :=
      rfl
    have hnothing : Text.namesRead [] = [] := rfl
    have hcallee : Text.namesRead "Column" = [Text.ofString "Column"] := by decide
    rw [hopen, Text.namesRead_append_cons (by decide), Text.namesRead_append_cons (by decide),
      Text.namesRead_join, harguments, f.namesRead_arguments, hnothing, hcallee]
    rfl
  rw [Statement.ofLine?, Text.cutIndented?_of_not_mem (by decide) hcolon]
  dsimp only
  rw [hcut, Option.map_some, hread]
  rfl

/-- The line of a field's attribute is its statement. -/
theorem Field.IsBuilt.statement_attributeLine {f : Field} (h : f.IsBuilt) (optional : Bool) :
    Statement.ofLine? (f.attributeLine optional)
      = some (f.attributeStatement Field.name optional) := by
  have hname : CodePoint.ofChar ':' ∉ f.name := h.not_mem_name (by decide) (by decide)
  have hcut (rest : Text) : Text.cutIndented? ": " ("    " ++ (f.name ++ (": " ++ rest)))
      = some (f.name, rest) := Text.cutIndented?_append hname rest
  cases optional with
  | false =>
    have hline : f.attributeLine false = "    " ++ (f.name ++ (": " ++ f.kind.attributeType)) := by
      rw [Field.attributeLine, if_neg Bool.false_ne_true, List.append_assoc, List.append_assoc]
    have hvalue : Text.cutAtFirst? " = " f.kind.attributeType = none := by
      cases f.kind <;> decide
    have hread : Text.namesRead f.kind.attributeType = [f.kind.attributeType] := by
      cases f.kind <;> decide
    rw [Statement.ofLine?, hline, hcut]
    dsimp only
    rw [hvalue]
    dsimp only
    rw [hread]
    rfl
  | true =>
    have hline : f.attributeLine true
        = "    " ++ (f.name ++ (": " ++ ("Optional[" ++ f.kind.attributeType ++ "] = None"))) := by
      have hopen : Text.ofString ": Optional[" = Text.ofString ": " ++ Text.ofString "Optional[" :=
        rfl
      rw [Field.attributeLine, if_pos rfl]
      simp only [hopen, List.append_assoc]
    have hvalue : Text.cutAtFirst? " = " ("Optional[" ++ f.kind.attributeType ++ "] = None")
        = some ("Optional[" ++ f.kind.attributeType ++ "]", Text.ofString "None") := by
      cases f.kind <;> decide
    have hread : Text.namesRead ("Optional[" ++ f.kind.attributeType ++ "]")
        = [Text.ofString "Optional", f.kind.attributeType] := by
      cases f.kind <;> decide
    have hnone : Text.namesRead "None" = [] := by decide
    rw [Statement.ofLine?, hline, hcut]
    dsimp only
    rw [hvalue]
    dsimp only
    rw [hread, hnone]
    rfl

namespace Statement

/-- The statement that names the table. -/
def table : Statement := ⟨some "__tablename__", [], []⟩

/-- The statements of the columns every table has. -/
def implicitColumns : List Statement := [
  ⟨some "id", ["Column", "Integer"], []⟩,
  ⟨some "createdAt", ["Column", "DateTime", "func"], []⟩,
  ⟨some "updatedAt", ["Column", "DateTime", "func", "func"], []⟩]

/-- The statement that sets a shape up. -/
def configuration : Statement := ⟨some "model_config", ["ConfigDict"], []⟩

/-- The statements of the attributes every stored row has. -/
def implicitAttributes : List Statement :=
  [⟨none, [], ["int"]⟩, ⟨none, [], ["datetime"]⟩, ⟨none, [], ["datetime"]⟩]

end Statement

/-- The statements of the class of a model: it names the table and then binds the fields, in their
order, and the columns every table has. -/
def Model.statements (known : Field → Text) (fs : List Field) : List Statement :=
  Statement.table :: (fs.map (Field.columnStatement known) ++ Statement.implicitColumns)

/-- The statements of the class of a shape: it is set up and then goes through the fields, some of
which may be left out, and through further attributes. -/
def Shapes.statements (known : Field → Text) (optional : Field → Bool) (fs : List Field)
    (further : List Statement) : List Statement :=
  Statement.configuration
    :: (fs.map (fun f => f.attributeStatement known (optional f)) ++ further)

/-- The statements of the three shapes. -/
def Shapes.classStatements (n : Names) (fs : List Field) : List (List Statement) := [
  statements (Field.memberOf n.insertShape) (fun f => !f.required) fs [],
  statements (Field.memberOf n.updateShape) (fun _ => true) fs [],
  statements (Field.memberOf n.selectShape) (fun f => !f.required) fs Statement.implicitAttributes]

/-- A class knows the statements of fields by the names of these in it, and statements around them as
they are written if their names are plain. -/
theorem Statement.within_around (name : Text) (fs : List Field)
    (made : (Field → Text) → Field → Statement) {first : Statement} {further : List Statement}
    (hfixed : ∀ s ∈ first :: further, ∀ n ∈ s.binds ++ s.reads, n.IsPlain)
    (hmade : ∀ f, (made Field.name f).within name = made (Field.memberOf name) f) :
    (first :: (fs.map (made Field.name) ++ further)).map (within name)
      = first :: (fs.map (made (Field.memberOf name)) ++ further) := by
  obtain ⟨hfirst, hlast⟩ := List.forall_mem_cons.mp hfixed
  have hfurther := List.map_congr_left fun s hs => within_of_isPlain name (hlast s hs)
  have hfields : (fs.map (made Field.name)).map (within name)
      = fs.map (made (Field.memberOf name)) := by
    rw [List.map_map]
    exact List.map_congr_left fun f _ => hmade f
  rw [List.map_cons, List.map_append, hfields, hfurther, List.map_id', within_of_isPlain name hfirst]

/-- A class knows the statements of a model by the names of its fields in it. -/
theorem Model.within_statements (name : Text) (fs : List Field) :
    (statements Field.name fs).map (Statement.within name)
      = statements (Field.memberOf name) fs :=
  Statement.within_around name fs Field.columnStatement (by decide) fun f =>
    f.within_columnStatement name

/-- A class knows the statements of a shape by the names of its fields in it. -/
theorem Shapes.within_statements (name : Text) (optional : Field → Bool) (fs : List Field)
    {further : List Statement} (h : ∀ s ∈ further, ∀ n ∈ s.binds ++ s.reads, n.IsPlain) :
    (statements Field.name optional fs further).map (Statement.within name)
      = statements (Field.memberOf name) optional fs further := by
  have hfixed : ∀ s ∈ Statement.configuration :: further, ∀ n ∈ s.binds ++ s.reads, n.IsPlain :=
    List.forall_mem_cons.mpr ⟨by decide, h⟩
  exact Statement.within_around name fs (fun known f => f.attributeStatement known (optional f))
    hfixed fun f => f.within_attributeStatement name (optional f)

namespace Model

/-- The line that names the table is its statement. -/
theorem statement_tableLine (e : Entity) :
    Statement.ofLine? ("    __tablename__ = \"" ++ e.names.canonical ++ "\"")
      = some Statement.table := by
  have hname := Names.not_mem_canonical (c := CodePoint.ofChar ':') (by decide) (by decide) e.name
  have hcolon : CodePoint.ofChar ':'
      ∉ Text.ofString "    __tablename__ = \"" ++ e.names.canonical ++ "\"" := by
    simp only [List.mem_append, not_or]
    exact ⟨⟨by decide, hname⟩, by decide⟩
  have hline : Text.ofString "    __tablename__ = \"" ++ e.names.canonical ++ "\""
      = "    " ++ ("__tablename__" ++ (" = " ++ ("\"" ++ e.names.canonical ++ "\""))) := by
    rw [← List.append_assoc, ← List.append_assoc, ← List.append_assoc]
    rfl
  have hcut : Text.cutIndented? " = " ("    __tablename__ = \"" ++ e.names.canonical ++ "\"")
      = some (Text.ofString "__tablename__", "\"" ++ e.names.canonical ++ "\"") := by
    rw [hline]
    exact Text.cutIndented?_append (by decide) _
  have hread : Text.namesRead ("\"" ++ e.names.canonical ++ "\"") = [] :=
    Text.namesRead_quoted fun _ hc =>
      CodePoint.continuesIdentifier_of_name ((Naming.mem_canonical hc).imp_right .inr)
  rw [Statement.ofLine?, Text.cutIndented?_of_not_mem (by decide) hcolon]
  dsimp only
  rw [hcut, Option.map_some, hread]
  rfl

/-- **The statements of a model.** They are read in the body of its class. -/
theorem statements_modelText {e : Entity} (h : e.IsBuilt) :
    Statement.inClass e.names.model e.modelText
      = statements (Field.memberOf e.names.model) e.fields := by
  have hfields : (e.fields.map Field.columnLine).filterMap Statement.ofLine?
      = e.fields.map (Field.columnStatement Field.name) := by
    rw [List.filterMap_map, ← List.filterMap_eq_map]
    exact List.filterMap_congr fun f hf => (h.fields f hf).statement_columnLine
  have himplicit : implicitColumns.filterMap Statement.ofLine? = Statement.implicitColumns := by
    decide +kernel
  have hempty : Statement.ofLine? [] = none := rfl
  rw [Statement.inClass, classBody_modelText h, tableClass,
    List.filterMap_cons_some (statement_tableLine e), List.filterMap_cons_none hempty,
    List.filterMap_append, List.filterMap_append, hfields, himplicit,
    List.filterMap_cons_none hempty, List.filterMap_nil, List.append_nil]
  exact within_statements e.names.model e.fields

end Model

namespace Shapes

variable {e : Entity}

theorem statements_fields (h : e.IsBuilt) (optional : Field → Bool) :
    (e.fields.map fun f => f.attributeLine (optional f)).filterMap Statement.ofLine?
      = e.fields.map fun f => f.attributeStatement Field.name (optional f) := by
  rw [List.filterMap_map, ← List.filterMap_eq_map]
  exact List.filterMap_congr fun f hf => (h.fields f hf).statement_attributeLine (optional f)

/-- The statements of a shape are the one that sets it up and those of its attributes. -/
theorem statements_shapeClass (h : e.IsBuilt) (optional : Field → Bool)
    {name configuration : Text} {further attributes gap : List Text}
    (hattributes : attributes = e.fields.map (fun f => f.attributeLine (optional f)) ++ further)
    (hconfiguration : Statement.ofLine? ("    model_config = ConfigDict(" ++ configuration ++ ")")
      = some Statement.configuration) (hgap : ∀ line ∈ gap, line = []) :
    (shapeClass name configuration attributes gap).body.filterMap Statement.ofLine?
      = statements Field.name optional e.fields (further.filterMap Statement.ofLine?) := by
  have hempty : Statement.ofLine? [] = none := rfl
  have hnone : gap.filterMap Statement.ofLine? = [] :=
    List.filterMap_eq_nil_iff.mpr fun line hline => by rw [hgap line hline, hempty]
  rw [shapeClass, List.filterMap_cons_some hconfiguration, List.filterMap_cons_none hempty,
    List.filterMap_append, hnone, List.append_nil, hattributes, List.filterMap_append,
    statements_fields h optional, statements]

/-- **The statements of the shapes.** They are read in the bodies of the three classes. -/
theorem statements_shapesText (h : e.IsBuilt) :
    [e.names.insertShape, e.names.updateShape, e.names.selectShape].map
        (fun name => Statement.inClass name e.shapesText) = classStatements e.names e.fields := by
  have hbody {k : ModuleClass} (hk : k ∈ classes e) {optional : Field → Bool}
      {further : List Statement} (hplain : ∀ s ∈ further, ∀ n ∈ s.binds ++ s.reads, n.IsPlain)
      (hlines : k.body.filterMap Statement.ofLine?
        = statements Field.name optional e.fields further) :
      Statement.inClass k.name e.shapesText
        = statements (Field.memberOf k.name) optional e.fields further := by
    rw [Statement.inClass, classBody_shapesText h hk, hlines, within_statements k.name _ _ hplain]
  have himplicit : implicitAttributes.filterMap Statement.ofLine?
      = Statement.implicitAttributes := by decide +kernel
  have hinsert : Statement.inClass e.names.insertShape e.shapesText
      = statements (Field.memberOf e.names.insertShape) (fun f => !f.required) e.fields [] :=
    hbody List.mem_cons_self (by decide)
      (statements_shapeClass h _ (List.append_nil _).symm (by decide +kernel) (by decide))
  have hupdate : Statement.inClass e.names.updateShape e.shapesText
      = statements (Field.memberOf e.names.updateShape) (fun _ => true) e.fields [] :=
    hbody (List.mem_cons_of_mem _ List.mem_cons_self) (by decide)
      (statements_shapeClass h (fun _ => true) (List.append_nil _).symm (by decide +kernel)
        (by decide))
  have hselect : Statement.inClass e.names.selectShape e.shapesText
      = statements (Field.memberOf e.names.selectShape) (fun f => !f.required) e.fields
          Statement.implicitAttributes :=
    hbody (List.mem_cons_of_mem _ (List.mem_cons_of_mem _ List.mem_cons_self)) (by decide)
      (himplicit ▸ statements_shapeClass h _ rfl (by decide +kernel) (by decide))
  rw [List.map_cons, List.map_cons, List.map_singleton, hinsert, hupdate, hselect, classStatements]

end Shapes

/-! ## Fields that spare the names a class uses -/

/-- The names the class of a model uses, apart from its columns. -/
def Model.usedNames : List Text :=
  ["__tablename__", "Column", "String", "Text", "Integer", "Boolean", "DateTime", "func"]

/-- The names the classes of the shapes use, apart from their attributes. -/
def Shapes.usedNames : List Text :=
  ["model_config", "ConfigDict", "Optional", "datetime", "str", "int", "bool"]

/-- Fields that take nothing from the class of a model that is needed behind them. What a field takes
is what it is looked up by. -/
structure Model.Spared (fs : List Field) : Prop where
  /-- No field takes the name of the table, or what the columns every table has are made with. -/
  fixed : ∀ f ∈ fs,
    f.identifier ∉ [Text.ofString "__tablename__", "Column", "Integer", "DateTime", "func"]
  /-- No field takes the class of the type of a later one. -/
  later : fs.Pairwise fun f g => f.identifier ≠ g.kind.columnClass

/-- Fields that the class of a model binds under names of their own. -/
def Model.BindsApart (n : Names) (fs : List Field) : Prop :=
  (fs.map (Field.memberOf n.model) ++ Column.implicitNames).Nodup

/-- Fields that take nothing from the classes of the shapes that is needed with them or behind
them. -/
structure Shapes.Spared (fs : List Field) : Prop where
  /-- No field takes what every optional attribute is made with. -/
  fixed : ∀ f ∈ fs, f.identifier ∉ [Text.ofString "model_config", "Optional"]
  /-- No field takes its own type. -/
  own : ∀ f ∈ fs, f.identifier ≠ f.kind.attributeType
  /-- No field takes the type of a later one. -/
  later : fs.Pairwise fun f g => f.identifier ≠ g.kind.attributeType
  /-- No field that may be left out takes a type of the attributes every stored row has. -/
  stored : ∀ f ∈ fs, f.required = false → f.identifier ∉ [Text.ofString "int", "datetime"]

/-- Fields that the classes of the shapes bind under names of their own: each binds those that may be
left out in it. -/
structure Shapes.BindsApart (n : Names) (fs : List Field) : Prop where
  /-- In the shape of a new row. -/
  insert : ((fs.filter fun f => !f.required).map (Field.memberOf n.insertShape)).Nodup
  /-- In the shape of a change, where every field may be left out. -/
  update : (fs.map (Field.memberOf n.updateShape)).Nodup
  /-- In the shape of a stored row. -/
  select : ((fs.filter fun f => !f.required).map (Field.memberOf n.selectShape)).Nodup

section

variable {fs : List Field} {known : Field → Text} {name : Text}

open Statement

/-- A class knows a field by one of some plain names exactly when the field is looked up by it. -/
theorem Field.memberOf_mem_iff {ns : List Text} (h : ∀ n ∈ ns, n.IsPlain) (f : Field) :
    f.memberOf name ∈ ns ↔ f.identifier ∈ ns :=
  Text.memberOf_mem_iff h

theorem Field.memberOf_eq_iff {n : Text} (h : n.IsPlain) (f : Field) :
    f.memberOf name = n ↔ f.identifier = n :=
  Text.memberOf_eq_iff h.1

theorem Field.binds_attributeStatement (optional : Bool) (f : Field) :
    (f.attributeStatement known optional).binds = if optional then [known f] else [] := by
  cases optional <;> rfl

theorem Field.reads_attributeStatement (optional : Bool) (f : Field) :
    (f.attributeStatement known optional).reads
      = (if optional then [Text.ofString "Optional"] else []) ++ [f.kind.attributeType] := by
  cases optional <;> rfl

theorem Field.hint_attributeStatement (optional : Bool) (f : Field) :
    (f.attributeStatement known optional).hint = (f.attributeStatement known optional).reads := by
  cases optional <;> rfl

/-- In the class of a model no name is bound twice exactly when no field is known by the name of the
table, and no two columns by one name. -/
theorem Model.nodup_binds_iff :
    ((Model.statements known fs).flatMap binds).Nodup ↔
      (∀ f ∈ fs, known f ≠ Text.ofString "__tablename__") ∧
        (fs.map known ++ Column.implicitNames).Nodup := by
  have hbinds : (Model.statements known fs).flatMap binds
      = Text.ofString "__tablename__" :: (fs.map known ++ Column.implicitNames) := by
    rw [statements, List.flatMap_cons, List.flatMap_append, List.flatMap_map, List.map_eq_flatMap]
    rfl
  have himplicit : Text.ofString "__tablename__" ∉ Column.implicitNames := by decide
  rw [hbinds, List.nodup_cons]
  refine and_congr_left fun _ => ?_
  simp only [List.mem_append, himplicit, or_false, List.mem_map, not_exists, not_and, ne_eq]

/-- What the columns read that every table has. -/
theorem Statement.exists_reads_implicitColumns {n : Text} :
    (∃ u ∈ Statement.implicitColumns, n ∈ u.reads)
      ↔ n ∈ [Text.ofString "Column", "Integer", "DateTime", "func"] := by
  have hall : ∀ u ∈ Statement.implicitColumns, ∀ n ∈ u.reads,
      n ∈ [Text.ofString "Column", "Integer", "DateTime", "func"] := by decide
  have hsome : ∀ n ∈ [Text.ofString "Column", "Integer", "DateTime", "func"],
      ∃ u ∈ Statement.implicitColumns, n ∈ u.reads := by decide
  exact ⟨fun ⟨u, hu, hn⟩ => hall u hu n hn, hsome n⟩

/-- The class of a model reads nothing from itself exactly when no field is known by what the columns
every table has are made with, or by the class of the type of a later field. -/
theorem Model.shadowed_eq_nil_iff :
    shadowed [] (statements known fs) = [] ↔
      (∀ f ∈ fs, known f ∉ [Text.ofString "Column", "Integer", "DateTime", "func"]) ∧
        fs.Pairwise fun f g => known f ≠ g.kind.columnClass := by
  rw [Statement.shadowed_eq_nil_iff, statements]
  constructor
  · rintro ⟨-, -, hpairs⟩
    obtain ⟨-, hrest⟩ := List.pairwise_cons.mp hpairs
    obtain ⟨hfields, -, hcross⟩ := List.pairwise_append.mp hrest
    refine ⟨fun f hf hmem => ?_, (List.pairwise_map.mp hfields).imp fun h hname => ?_⟩
    · obtain ⟨u, hu, hread⟩ := Statement.exists_reads_implicitColumns.mpr hmem
      exact hcross _ (List.mem_map_of_mem hf) u hu (known f) (List.mem_singleton_self _) hread
    · exact h _ (List.mem_singleton_self _) (hname ▸ List.mem_cons_of_mem _ List.mem_cons_self)
  · rintro ⟨hfixed, hlater⟩
    have hcolumn {f : Field} (hf : f ∈ fs) : known f ≠ Text.ofString "Column" := fun hname =>
      hfixed f hf (hname ▸ List.mem_cons_self)
    have htable (k : FieldKind) :
        Text.ofString "__tablename__" ∉ [Text.ofString "Column", k.columnClass] := by
      cases k <;> decide
    refine ⟨fun _ _ n hn => absurd hn List.not_mem_nil, ?_, List.pairwise_cons.mpr ⟨?_,
      List.pairwise_append.mpr ⟨List.pairwise_map.mpr (hlater.imp_of_mem ?_), by decide, ?_⟩⟩⟩
    -- nothing in a model is annotated
    · simp only [List.forall_mem_cons, List.forall_mem_append, List.forall_mem_map]
      exact ⟨fun _ _ => List.not_mem_nil, fun _ _ _ _ => List.not_mem_nil, by decide⟩
    · simp only [List.forall_mem_append, List.forall_mem_map]
      refine ⟨fun f _ n hn => ?_, by decide⟩
      rw [List.mem_singleton.mp hn]
      exact htable f.kind
    · intro f g hf _ hname n hn hread
      rw [List.mem_singleton.mp hn] at hread
      rcases List.mem_cons.mp hread with hread | hread
      · exact hcolumn hf hread
      · exact hname (List.mem_singleton.mp hread)
    · intro s hs u hu n hn hread
      obtain ⟨f, hf, rfl⟩ := List.mem_map.mp hs
      rw [List.mem_singleton.mp hn] at hread
      exact hfixed f hf (Statement.exists_reads_implicitColumns.mp ⟨u, hu, hread⟩)

/-- The fields spare what the class of a model uses exactly when none is known in it by the name of
the table and the class reads nothing from itself. -/
theorem Model.spared_iff (name : Text) :
    Spared fs ↔ (∀ f ∈ fs, f.memberOf name ≠ Text.ofString "__tablename__") ∧
      shadowed [] (statements (Field.memberOf name) fs) = [] := by
  have htable : (Text.ofString "__tablename__").IsPlain := by decide
  have hreads : ∀ n ∈ [Text.ofString "Column", "Integer", "DateTime", "func"], n.IsPlain := by
    decide
  have hlater : (fs.Pairwise fun f g => f.memberOf name ≠ g.kind.columnClass) ↔
      fs.Pairwise fun f g => f.identifier ≠ g.kind.columnClass :=
    List.Pairwise.iff fun f g => not_congr (f.memberOf_eq_iff g.kind.isPlain_columnClass)
  rw [Model.shadowed_eq_nil_iff, hlater]
  simp only [ne_eq, Field.memberOf_eq_iff htable, Field.memberOf_mem_iff hreads]
  constructor
  · intro h
    exact ⟨fun f hf hname => h.fixed f hf (hname ▸ List.mem_cons_self),
      fun f hf hmem => h.fixed f hf (List.mem_cons_of_mem _ hmem), h.later⟩
  · rintro ⟨hname, hfixed, hlater⟩
    exact ⟨fun f hf hmem => (List.mem_cons.mp hmem).elim (hname f hf) (hfixed f hf), hlater⟩

/-- The class of a model is clean exactly when its fields spare what it uses and it binds them under
names of their own. -/
theorem Model.isClean_iff (n : Names) :
    IsClean (statements (Field.memberOf n.model) fs) ↔ Spared fs ∧ BindsApart n fs := by
  rw [spared_iff n.model, BindsApart]
  constructor
  · intro h
    obtain ⟨hname, hnodup⟩ := Model.nodup_binds_iff.mp h.nodup
    exact ⟨⟨hname, h.shadowed⟩, hnodup⟩
  · rintro ⟨⟨hname, hshadowed⟩, hnodup⟩
    exact ⟨hshadowed, Model.nodup_binds_iff.mpr ⟨hname, hnodup⟩⟩

/-- The class of a shape binds the fields that may be left out. -/
theorem Field.flatMap_binds (fs : List Field) (optional : Field → Bool) :
    (fs.map fun f => f.attributeStatement known (optional f)).flatMap binds
      = (fs.filter optional).map known := by
  induction fs with
  | nil => rfl
  | cons f fs ih =>
    rw [List.map_cons, List.flatMap_cons, ih, Field.binds_attributeStatement, List.filter_cons]
    split <;> rfl

/-- In the class of a shape no name is bound twice exactly when no field that may be left out is known
by what sets the shape up, and no two of them by one name. -/
theorem Shapes.nodup_binds_iff (optional : Field → Bool) {further : List Statement}
    (hbinds : ∀ u ∈ further, u.binds = []) :
    ((statements known optional fs further).flatMap binds).Nodup ↔
      (∀ f ∈ fs, optional f = true → known f ≠ Text.ofString "model_config") ∧
        ((fs.filter optional).map known).Nodup := by
  have hnone : further.flatMap binds = [] := List.flatMap_eq_nil_iff.mpr hbinds
  have hlist : (statements known optional fs further).flatMap binds
      = Text.ofString "model_config" :: (fs.filter optional).map known := by
    rw [statements, List.flatMap_cons, List.flatMap_append, Field.flatMap_binds, hnone,
      List.append_nil]
    rfl
  rw [hlist, List.nodup_cons]
  refine and_congr_left fun _ => ?_
  simp only [List.mem_map, List.mem_filter, not_exists, not_and, and_imp, ne_eq]

/-- The class of a shape reads nothing from itself if its fields spare what the shapes use, and those
that may be left out what follows them. -/
theorem Shapes.shadowed_eq_nil_of_spared (h : Spared fs) (name : Text) (optional : Field → Bool)
    {further : List Statement} (hbinds : ∀ u ∈ further, u.binds = [])
    (hset : ∀ u ∈ further, Text.ofString "model_config" ∉ u.reads)
    (hfurther : ∀ f ∈ fs, optional f = true → ∀ u ∈ further, f.memberOf name ∉ u.reads) :
    shadowed [] (statements (Field.memberOf name) optional fs further) = [] := by
  have hbound {f : Field} {n : Text}
      (hn : n ∈ (f.attributeStatement (Field.memberOf name) (optional f)).binds) :
      optional f = true ∧ n = f.memberOf name := by
    rw [Field.binds_attributeStatement] at hn
    split at hn
    case isTrue hoptional => exact ⟨hoptional, List.mem_singleton.mp hn⟩
    case isFalse => cases hn
  have hspares {f g : Field} (hf : f ∈ fs) (hname : f.identifier ≠ g.kind.attributeType) :
      ∀ n ∈ (f.attributeStatement (Field.memberOf name) (optional f)).binds,
        n ∉ (g.attributeStatement (Field.memberOf name) (optional g)).reads := by
    have hplain : ∀ n ∈ [Text.ofString "Optional"], n.IsPlain := by decide
    intro n hn hread
    obtain ⟨-, rfl⟩ := hbound hn
    rw [Field.reads_attributeStatement] at hread
    rcases List.mem_append.mp hread with hread | hread
    · split at hread
      case isTrue =>
        exact h.fixed f hf (List.mem_cons_of_mem _ ((f.memberOf_mem_iff hplain).mp hread))
      case isFalse => cases hread
    · exact hname ((f.memberOf_eq_iff g.kind.isPlain_attributeType).mp (List.mem_singleton.mp hread))
  rw [Statement.shadowed_eq_nil_iff, statements]
  refine ⟨fun _ _ n hn => absurd hn List.not_mem_nil, ?_, List.pairwise_cons.mpr ⟨?_,
    List.pairwise_append.mpr ⟨List.pairwise_map.mpr (h.later.imp_of_mem ?_), ?_, ?_⟩⟩⟩
  · simp only [List.forall_mem_cons, List.forall_mem_append, List.forall_mem_map]
    refine ⟨fun _ _ => List.not_mem_nil, fun f hf => ?_, fun u hu n hn => ?_⟩
    · rw [Field.hint_attributeStatement]
      exact hspares hf (h.own f hf)
    · rw [hbinds u hu] at hn
      cases hn
  · simp only [List.forall_mem_append, List.forall_mem_map]
    refine ⟨fun f _ n hn => ?_, fun u hu n hn => ?_⟩
    · rw [List.mem_singleton.mp hn, Field.reads_attributeStatement]
      cases optional f <;> cases f.kind <;> decide
    · rw [List.mem_singleton.mp hn]
      exact hset u hu
  · exact fun hf _ hname => hspares hf hname
  · refine List.pairwise_of_forall_mem_list fun u hu _ _ n hn => ?_
    rw [hbinds u hu] at hn
    cases hn
  · intro s hs u hu n hn
    obtain ⟨f, hf, rfl⟩ := List.mem_map.mp hs
    obtain ⟨hoptional, rfl⟩ := hbound hn
    exact hfurther f hf hoptional u hu

/-- The classes of the shapes read nothing from themselves if their fields spare what they use. -/
theorem Shapes.shadowed_classStatements (h : Spared fs) (n : Names) :
    ∀ ss ∈ classStatements n fs, shadowed [] ss = [] := by
  have hread : ∀ u ∈ Statement.implicitAttributes, ∀ n ∈ u.reads,
      n ∈ [Text.ofString "int", "datetime"] := by decide
  have hplain : ∀ n ∈ [Text.ofString "int", "datetime"], n.IsPlain := by decide
  have hempty (name : Text) (optional : Field → Bool) :
      shadowed [] (statements (Field.memberOf name) optional fs []) = [] :=
    shadowed_eq_nil_of_spared h name optional (List.forall_mem_nil _) (List.forall_mem_nil _)
      fun _ _ _ => List.forall_mem_nil _
  simp only [classStatements, List.forall_mem_cons]
  refine ⟨hempty _ _, hempty _ _, ?_, List.forall_mem_nil _⟩
  refine shadowed_eq_nil_of_spared h _ _ (by decide) (by decide) fun f hf hoptional u hu hn => ?_
  have hrequired : f.required = false := by simpa using hoptional
  exact h.stored f hf hrequired ((f.memberOf_mem_iff hplain).mp (hread u hu _ hn))

/-- The classes of the shapes are clean only if the fields spare what they use: in that of a change
every field may be left out, and that of a stored row has more attributes behind the fields. -/
theorem Shapes.spared_of_isClean {other : Text}
    (hupdate : IsClean (statements (Field.memberOf name) (fun _ => true) fs []))
    (hselect : IsClean (statements (Field.memberOf other) (fun f => !f.required) fs
      Statement.implicitAttributes)) :
    Spared fs := by
  have hplain : (∀ n ∈ [Text.ofString "model_config", "Optional"], n.IsPlain) ∧
      ∀ n ∈ [Text.ofString "int", "datetime"], n.IsPlain := by decide
  have hset := ((Shapes.nodup_binds_iff _ (List.forall_mem_nil _)).mp hupdate.nodup).1
  have hshadowed := hupdate.shadowed
  rw [statements, List.append_nil] at hshadowed
  obtain ⟨-, hown, hpairs⟩ := Statement.shadowed_eq_nil_iff.mp hshadowed
  obtain ⟨-, -, hstored⟩ := Statement.shadowed_eq_nil_iff.mp hselect.shadowed
  have hself {f : Field} (hf : f ∈ fs) :
      f.memberOf name ∉ [Text.ofString "Optional", f.kind.attributeType] :=
    hown _ (List.mem_cons_of_mem _ (List.mem_map_of_mem hf)) _ (List.mem_singleton_self _)
  constructor
  case fixed =>
    intro f hf hmem
    have hknown : f.memberOf name ∈ _ := (f.memberOf_mem_iff hplain.1).mpr hmem
    rcases List.mem_cons.mp hknown with h | h
    · exact hset f hf rfl h
    · exact hself hf (List.mem_singleton.mp h ▸ List.mem_cons_self)
  case own =>
    intro f hf hname
    have hknown : f.memberOf name = _ :=
      (f.memberOf_eq_iff f.kind.isPlain_attributeType).mpr hname
    exact hself hf (hknown ▸ List.mem_cons_of_mem _ (List.mem_singleton_self _))
  case later =>
    refine (List.pairwise_map.mp (List.pairwise_cons.mp hpairs).2).imp fun {f g} h hname => ?_
    have hknown : f.memberOf name = _ :=
      (f.memberOf_eq_iff g.kind.isPlain_attributeType).mpr hname
    exact h _ (List.mem_singleton_self _)
      (hknown ▸ List.mem_cons_of_mem _ (List.mem_singleton_self _))
  case stored =>
    intro f hf hrequired hmem
    obtain ⟨-, -, hcross⟩ := List.pairwise_append.mp (List.pairwise_cons.mp hstored).2
    have hread : ∀ n ∈ [Text.ofString "int", "datetime"],
        ∃ u ∈ Statement.implicitAttributes, n ∈ u.reads := by decide
    have hknown : f.memberOf other ∈ _ := (f.memberOf_mem_iff hplain.2).mpr hmem
    obtain ⟨u, hu, hn⟩ := hread _ hknown
    have hbinds : f.memberOf other
        ∈ (f.attributeStatement (Field.memberOf other) !f.required).binds := by
      rw [hrequired]
      exact List.mem_singleton_self _
    exact hcross _ (List.mem_map_of_mem hf) u hu _ hbinds hn

/-- The classes of the shapes are clean exactly when the fields spare what they use and the classes
bind them under names of their own. -/
theorem Shapes.isClean_iff (n : Names) :
    (∀ ss ∈ classStatements n fs, IsClean ss) ↔ Spared fs ∧ BindsApart n fs := by
  have hall : fs.filter (fun _ => true) = fs := List.filter_eq_self.mpr fun _ _ => rfl
  have hnothing : ∀ u ∈ ([] : List Statement), u.binds = [] := List.forall_mem_nil _
  have hstored : ∀ u ∈ Statement.implicitAttributes, u.binds = [] := by decide
  constructor
  · intro h
    simp only [classStatements, List.forall_mem_cons] at h
    obtain ⟨hinsert, hupdate, hselect, -⟩ := h
    refine ⟨spared_of_isClean hupdate hselect, ?_, ?_, ?_⟩
    · exact ((nodup_binds_iff _ hnothing).mp hinsert.nodup).2
    · have hnodup := ((nodup_binds_iff _ hnothing).mp hupdate.nodup).2
      rwa [hall] at hnodup
    · exact ((nodup_binds_iff _ hstored).mp hselect.nodup).2
  · rintro ⟨h, hapart⟩
    have hset (name : Text) (optional : Field → Bool) : ∀ f ∈ fs, optional f = true →
        f.memberOf name ≠ Text.ofString "model_config" := fun f hf _ hname =>
      h.fixed f hf ((f.memberOf_eq_iff (by decide)).mp hname ▸ List.mem_cons_self)
    have hclear := shadowed_classStatements h n
    simp only [classStatements, List.forall_mem_cons] at hclear ⊢
    obtain ⟨hinsert, hupdate, hselect, -⟩ := hclear
    refine ⟨⟨hinsert, ?_⟩, ⟨hupdate, ?_⟩, ⟨hselect, ?_⟩, List.forall_mem_nil _⟩
    · exact (nodup_binds_iff _ hnothing).mpr ⟨hset _ _, hapart.insert⟩
    · exact (nodup_binds_iff _ hnothing).mpr ⟨hset _ _, by rw [hall]; exact hapart.update⟩
    · exact (nodup_binds_iff _ hstored).mpr ⟨hset _ _, hapart.select⟩

/-- A body with fixed lines around others mentions what these do, and what the fixed ones do. -/
theorem Statement.mentions_of_parts {s : Statement} {ss tt : List Statement} {own fixed : List Text}
    (hfixed : Mentions (s :: tt) fixed) (hown : Mentions ss (own ++ fixed)) :
    Mentions (s :: (ss ++ tt)) (own ++ fixed) := by
  obtain ⟨hfirst, hlast⟩ := List.forall_mem_cons.mp hfixed
  refine List.forall_mem_cons.mpr ⟨fun n hn => List.mem_append_right own (hfirst n hn),
    List.forall_mem_append.mpr ⟨hown, fun u hu n hn => ?_⟩⟩
  exact List.mem_append_right own (hlast u hu n hn)

/-- The class of a model mentions its fields, the columns every table has, and the names listed. -/
theorem Model.mentions (fs : List Field) :
    Mentions (statements known fs) (fs.map known ++ (reservedNames ++ usedNames)) := by
  refine Statement.mentions_of_parts (by decide) (List.forall_mem_map.mpr fun f hf n hn => ?_)
  have hreads : ∀ n ∈ [Text.ofString "Column", f.kind.columnClass], n ∈ usedNames := by
    cases f.kind <;> decide
  rcases List.mem_cons.mp hn with rfl | hn
  · exact List.mem_append_left _ (List.mem_map_of_mem hf)
  · exact List.mem_append_right _ (List.mem_append_right _ (hreads n hn))

/-- The class of a shape mentions its fields and the names listed. -/
theorem Shapes.mentions (fs : List Field) (optional : Field → Bool) {further : List Statement}
    (hfurther : Mentions further usedNames) :
    Mentions (statements known optional fs further) (fs.map known ++ usedNames) := by
  have hset : ∀ n ∈ configuration.binds ++ configuration.reads, n ∈ usedNames := by decide
  refine Statement.mentions_of_parts (List.forall_mem_cons.mpr ⟨hset, hfurther⟩)
    (List.forall_mem_map.mpr fun f hf n hn => ?_)
  have hreads : ∀ n ∈ [Text.ofString "Optional", f.kind.attributeType], n ∈ usedNames := by
    cases f.kind <;> decide
  generalize optional f = mayBeLeftOut at hn
  cases mayBeLeftOut with
  | false => exact List.mem_append_right _ (hreads n (List.mem_cons_of_mem _ hn))
  | true =>
    rcases List.mem_cons.mp hn with rfl | hn
    · exact List.mem_append_left _ (List.mem_map_of_mem hf)
    · exact List.mem_append_right _ (hreads n hn)

/-- Fields that take none of the names a model uses spare what is needed. -/
theorem Model.spared_of_not_mem (h : ∀ f ∈ fs, f.identifier ∉ usedNames) : Spared fs where
  fixed f hf hmem := by
    have hused : ∀ n ∈ [Text.ofString "__tablename__", "Column", "Integer", "DateTime", "func"],
        n ∈ usedNames := by decide
    exact h f hf (hused _ hmem)
  later := List.pairwise_of_forall_mem_list fun f hf g _ hname => by
    have hused : g.kind.columnClass ∈ usedNames := by cases g.kind <;> decide
    exact h f hf (hname ▸ hused)

/-- Fields that take none of the names the shapes use spare what is needed. -/
theorem Shapes.spared_of_not_mem (h : ∀ f ∈ fs, f.identifier ∉ usedNames) : Spared fs := by
  have htype (k : FieldKind) : k.attributeType ∈ usedNames := by cases k <;> decide
  have hused : (∀ n ∈ [Text.ofString "model_config", "Optional"], n ∈ usedNames) ∧
      ∀ n ∈ [Text.ofString "int", "datetime"], n ∈ usedNames := by decide
  exact {
    fixed := fun f hf hmem => h f hf (hused.1 _ hmem)
    own := fun f hf hname => h f hf (hname ▸ htype f.kind)
    later := List.pairwise_of_forall_mem_list fun f hf g _ hname => h f hf (hname ▸ htype g.kind)
    stored := fun f hf _ hmem => h f hf (hused.2 _ hmem) }

end

/-! ## The bodies of a schema -/

/-- The body of the class of a model. -/
def Schema.modelBody (s : Schema) (n : Names) : List Statement :=
  Statement.inClass n.model s.model.content

/-- The bodies of the classes of the shapes. -/
def Schema.shapeBodies (s : Schema) (n : Names) : List (List Statement) :=
  [n.insertShape, n.updateShape, n.selectShape].map fun name =>
    Statement.inClass name s.shapes.content

namespace Entity

variable {label description : Text} {raws : List Json} {e : Entity} {schema : Schema}

/-- The bodies of a schema hold the statements of its fields. -/
theorem IsBuilt.bodies_compileSchema (h : e.IsBuilt) (hschema : e.compileSchema = .ok schema) :
    schema.modelBody e.names = Model.statements (Field.memberOf e.names.model) e.fields ∧
      schema.shapeBodies e.names = Shapes.classStatements e.names e.fields := by
  obtain ⟨-, rfl⟩ := compileSchema_ok_iff.mp hschema
  exact ⟨Model.statements_modelText h, Shapes.statements_shapesText h⟩

end Entity

end Tablewright
