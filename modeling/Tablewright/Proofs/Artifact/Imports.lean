/-
What generated modules import from one another.

`Import.ofLine?` reads a line as an import, wherever it stands and however it is indented, and
`Artifact.imports` collects the imports of generated modules: those from `app.models` and
`app.schemas`. The templates of the endpoint and of the seed module are gone through line by line.
Apart from their heads no line begins like an import (`Import.Idle`), and neither a route nor the
rows can add one, so the import lines of a module are those of its template
(`importLines_compileEndpoint`, `importLines_compileSeed`). Two of them are for generated modules.
-/
import Tablewright.Artifact.Endpoint
import Tablewright.Proofs.Artifact.Place
import Tablewright.Proofs.Artifact.Rows
import Tablewright.Proofs.Tool.Legible

set_option autoImplicit false

namespace Tablewright

open Text (newline)

/-! ## Reading imports -/

/-- What is imported: a module, and the names taken from it. -/
structure Import where
  /-- The module. -/
  module : Text
  /-- The names. -/
  names : List Text
deriving DecidableEq

namespace Import

/-- The import on a line, if it is one. The line may be indented. -/
def ofLine? (line : Text) : Option Import := do
  let rest ← Text.dropStart? "from " (line.dropWhile CodePoint.isBlank)
  let (module, names) ← Text.cutAtFirst? " import " rest
  return { module, names := (Text.splitOn ',' names).map Text.trim }

/-- Whether the module is one that is generated for an entity: a model, or shapes. -/
def isGenerated (i : Import) : Bool :=
  Text.startsWith i.module "app.models." || Text.startsWith i.module "app.schemas."

/-- The import of a generated module on a line, if it is one. -/
def generated? (line : Text) : Option Import := (ofLine? line).filter isGenerated

/-- The imports of generated modules in a text, in the order of their lines. -/
def inText (t : Text) : List Import := (Text.splitOn newline t).filterMap generated?

/-- The file of the module, relative to the project. -/
def path (i : Import) : Text := i.module.substitute '.' '/' ++ ".py"

end Import

/-- The lines of a generated file. -/
def Artifact.lines (a : Artifact) : List Text := Text.splitOn newline a.content

/-- The imports of generated modules in a file. -/
def Artifact.imports (a : Artifact) : List Import := Import.inText a.content

/-- A line of the file declares a class of the name. -/
def Artifact.Declares (a : Artifact) (name : Text) : Prop :=
  ∃ line ∈ a.lines, Text.startsWith line ("class " ++ name ++ "(") = true

/-! ## Cutting and trimming -/

namespace Text

/-- A text is cut at another one where that stands, if nothing before begins like it. -/
theorem cutAtFirst?_append {c : CodePoint} {needle before : Text} (h : c ∉ before) (after : Text) :
    cutAtFirst? (c :: needle) (before ++ (c :: needle ++ after)) = some (before, after) := by
  induction before with
  | nil =>
    rw [List.nil_append, List.cons_append, cutAtFirst?, ← List.cons_append, dropStart?_append]
  | cons d before ih =>
    have hd : c ≠ d := fun hcd => h (hcd ▸ List.mem_cons_self)
    rw [List.cons_append, cutAtFirst?, dropStart?, if_neg hd,
      ih fun hmem => h (List.mem_cons_of_mem d hmem)]
    rfl

/-- A blank in front is trimmed. -/
theorem trim_cons_blank {c : CodePoint} (hc : c.isBlank = true) (t : Text) :
    trim (c :: t) = trim t := by
  rw [trim, trim, stripWhere, stripWhere, List.dropWhile_cons, if_pos hc]

/-- The first of the characters that is no space can be seen. -/
def startsVisible (l : List Char) : Bool :=
  (l.dropWhile (· = ' ')).head?.any fun c => 32 < c.toNat && c.toNat < 127

/-- The blanks before a line that is given by characters are the spaces before the first one that
can be seen. -/
theorem dropWhile_isBlank_of_visible {s : String} {l : List Char} (h : s = String.ofList l)
    (hvisible : startsVisible l = true) (t : Text) :
    (ofString s ++ t).dropWhile CodePoint.isBlank
      = (l.dropWhile (· = ' ')).map CodePoint.ofChar ++ t := by
  rw [ofString_eq h]
  clear h
  rw [startsVisible] at hvisible
  induction l with
  | nil => cases hvisible
  | cons c l ih =>
    by_cases hc : c = ' '
    · have hblank : (CodePoint.ofChar c).isBlank = true := by rw [hc]; decide
      rw [List.dropWhile_cons, if_pos (by simpa using hc)] at hvisible ⊢
      rw [List.map_cons, List.cons_append, List.dropWhile_cons, if_pos hblank]
      exact ih hvisible
    · rw [List.dropWhile_cons, if_neg (by simpa using hc)] at hvisible ⊢
      have hrange : 32 < c.toNat ∧ c.toNat < 127 := by simpa using hvisible
      have hblank : (CodePoint.ofChar c).isBlank = false :=
        CodePoint.isBlank_of_visible hrange.1 hrange.2
      rw [List.map_cons, List.cons_append, List.dropWhile_cons,
        if_neg (by rw [hblank]; exact Bool.false_ne_true)]

/-- Names with commas and spaces between them are cut at the commas. -/
theorem splitOn_join_names {x : Text} {xs : List Text} (h : ∀ y ∈ x :: xs, (',' : CodePoint) ∉ y) :
    splitOn ',' (join ", " (x :: xs)) = x :: xs.map ((' ' : CodePoint) :: ·) := by
  cases xs with
  | nil => exact splitOn_eq_singleton (h x List.mem_cons_self)
  | cons y ys =>
    have hcut : join ", " (x :: y :: ys)
        = x ++ (',' : CodePoint) :: ((' ' : CodePoint) :: join ", " (y :: ys)) := by
      rw [join, List.append_assoc]
      rfl
    have hrest : splitOn ',' ((' ' : CodePoint) :: join ", " (y :: ys))
        = (y :: ys).map ((' ' : CodePoint) :: ·) :=
      splitOn_cons_join_pair (by decide) (List.cons_ne_nil y ys) fun z hz =>
        h z (List.mem_cons_of_mem x hz)
    rw [hcut, splitOn_cons_of_not_mem (h x List.mem_cons_self), hrest]

/-- Names that were listed are read in the list. -/
theorem trim_splitOn_join_names {x : Text} {xs : List Text}
    (hcomma : ∀ y ∈ x :: xs, (',' : CodePoint) ∉ y)
    (hblank : ∀ y ∈ x :: xs, ∀ c ∈ y, c.isBlank = false) :
    (splitOn ',' (join ", " (x :: xs))).map trim = x :: xs := by
  rw [splitOn_join_names hcomma, List.map_cons, trim_of_not_blank (hblank x List.mem_cons_self),
    List.map_map]
  refine congrArg (x :: ·) ((List.map_congr_left fun y hy => ?_).trans (List.map_id xs))
  rw [Function.comp_apply, trim_cons_blank (by decide),
    trim_of_not_blank (hblank y (List.mem_cons_of_mem x hy))]
  rfl

end Text

/-! ## Lines without an import -/

namespace Import

/-- The line begins, behind its blanks, like an import. -/
def opens (line : Text) : Bool :=
  Text.startsWith (line.dropWhile CodePoint.isBlank) "from " ||
    Text.startsWith (line.dropWhile CodePoint.isBlank) "import "

theorem opens_eq_false_iff {line : Text} :
    opens line = false ↔ ¬ Text.ofString "from " <+: line.dropWhile CodePoint.isBlank ∧
      ¬ Text.ofString "import " <+: line.dropWhile CodePoint.isBlank := by
  rw [opens, Bool.or_eq_false_iff, ← Bool.not_eq_true, ← Bool.not_eq_true, Text.startsWith_iff,
    Text.startsWith_iff]

/-- An import is read on lines that begin so only. -/
theorem ofLine?_of_not_opens {line : Text} (h : opens line = false) : ofLine? line = none := by
  rw [ofLine?, Option.bind_eq_bind, Option.bind_eq_none_iff]
  intro rest hfrom
  rw [Text.dropStart?_eq_some_iff] at hfrom
  exact absurd (hfrom ▸ List.prefix_append _ rest) (opens_eq_false_iff.mp h).1

theorem inText_eq (t : Text) : inText t = (Text.linesWhere opens t).filterMap generated? := by
  rw [inText, Text.linesWhere, List.filterMap_filter]
  refine List.filterMap_congr fun line _ => ?_
  by_cases h : opens line = true
  · rw [if_pos h]
  · rw [if_neg h, generated?, ofLine?_of_not_opens (Bool.eq_false_iff.mpr h)]
    rfl

/-- A beginning of a line that makes it no import, whatever follows. -/
def idles (l : List Char) : Bool :=
  Text.startsVisible l && Text.clash "from ".toList (l.dropWhile (· = ' '))
    && Text.clash "import ".toList (l.dropWhile (· = ' '))

/-- A line that begins otherwise is no import, whatever follows. -/
theorem opens_of_idles {s : String} {l : List Char} (h : s = String.ofList l)
    (hl : idles l = true) (t : Text) : opens (Text.ofString s ++ t) = false := by
  rw [idles, Bool.and_eq_true_iff, Bool.and_eq_true_iff] at hl
  obtain ⟨⟨hvisible, hfrom⟩, himport⟩ := hl
  rw [opens_eq_false_iff, Text.dropWhile_isBlank_of_visible h hvisible]
  exact ⟨Text.not_prefix_of_clash hfrom t, Text.not_prefix_of_clash himport t⟩

/-- No line of the text begins like an import. -/
def Idle (t : Text) : Prop := Text.linesWhere opens t = []

theorem idle_of_line {t : Text} (hline : newline ∉ t) (h : opens t = false) : Idle t := by
  rw [Idle, Text.linesWhere_of_line hline, List.filter_cons_of_neg (Bool.eq_false_iff.mp h)]
  rfl

namespace Idle

theorem blank : Idle (Text.ofString "") := rfl

/-- A line whose beginning makes it no import. -/
theorem append {s : String} {l : List Char} (h : s = String.ofList l) (hidles : idles l = true)
    (hl : l.contains '\n' = false) {t : Text} (ht : newline ∉ t) :
    Idle (Text.ofString s ++ t) :=
  idle_of_line (fun hmem => (List.mem_append.mp hmem).elim (Text.not_mem_ofString h hl) ht)
    (opens_of_idles h hidles t)

/-- A fixed line. -/
theorem fixed {s : String} {l : List Char} (h : s = String.ofList l) (hidles : idles l = true)
    (hl : l.contains '\n' = false) : Idle (Text.ofString s) := by
  have happend := append h hidles hl (List.not_mem_nil (a := newline))
  rwa [List.append_nil] at happend

/-- A line with one name in it. -/
theorem one {s s' : String} {l l' : List Char} {x : Text} (h : s = String.ofList l)
    (hidles : idles l = true) (hl : l.contains '\n' = false) (hx : newline ∉ x)
    (h' : s' = String.ofList l') (hl' : l'.contains '\n' = false) :
    Idle (Text.ofString s ++ x ++ Text.ofString s') := by
  rw [List.append_assoc]
  refine append h hidles hl fun hmem => ?_
  exact (List.mem_append.mp hmem).elim hx (Text.not_mem_ofString h' hl')

/-- A line with two names in it. -/
theorem two {s s' s'' : String} {l l' l'' : List Char} {x y : Text} (h : s = String.ofList l)
    (hidles : idles l = true) (hl : l.contains '\n' = false) (hx : newline ∉ x)
    (h' : s' = String.ofList l') (hl' : l'.contains '\n' = false) (hy : newline ∉ y)
    (h'' : s'' = String.ofList l'') (hl'' : l''.contains '\n' = false) :
    Idle (Text.ofString s ++ x ++ Text.ofString s' ++ y ++ Text.ofString s'') := by
  simp only [List.append_assoc]
  refine append h hidles hl ?_
  simp only [List.mem_append, not_or]
  exact ⟨hx, Text.not_mem_ofString h' hl', hy, Text.not_mem_ofString h'' hl''⟩

end Idle

end Import

/-! ## Lines with an import -/

namespace Import

/-- The line that imports names from a module. -/
def line (module : Text) (names : List Text) : Text :=
  "from " ++ module ++ " import " ++ Text.join ", " names

/-- A line that imports names from a module is read so. -/
theorem ofLine?_line {module x : Text} {xs : List Text} (hmodule : (' ' : CodePoint) ∉ module)
    (hcomma : ∀ y ∈ x :: xs, (',' : CodePoint) ∉ y)
    (hblank : ∀ y ∈ x :: xs, ∀ c ∈ y, c.isBlank = false) :
    ofLine? (line module (x :: xs)) = some ⟨module, x :: xs⟩ := by
  have hline : (line module (x :: xs)).dropWhile CodePoint.isBlank
      = "from " ++ (module ++ ((' ' : CodePoint) :: "import " ++ Text.join ", " (x :: xs))) := by
    have hspace : Text.ofString " import " = (' ' : CodePoint) :: Text.ofString "import " := rfl
    have hfrom : Text.ofString "from " = CodePoint.ofChar 'f' :: Text.ofString "rom " := rfl
    rw [line, List.append_assoc, List.append_assoc, hspace, hfrom]
    exact List.dropWhile_cons_of_neg (by decide)
  have hcut : Text.cutAtFirst? " import "
      (module ++ ((' ' : CodePoint) :: "import " ++ Text.join ", " (x :: xs)))
      = some (module, Text.join ", " (x :: xs)) := Text.cutAtFirst?_append hmodule _
  rw [ofLine?, hline, Text.dropStart?_append, Option.bind_eq_bind, Option.bind_some, hcut,
    Option.bind_eq_bind, Option.bind_some]
  dsimp only
  rw [Text.trim_splitOn_join_names hcomma hblank]
  rfl

end Import

/-! ## The names of an entity -/

namespace Names

/-- The module of the model. -/
def modelModule (n : Names) : Text := "app.models." ++ n.canonical

/-- The module of the shapes. -/
def shapesModule (n : Names) : Text := "app.schemas." ++ n.canonical

/-- The import of the model. -/
def modelImport (n : Names) : Import := ⟨n.modelModule, [n.model]⟩

/-- The import of shapes. -/
def shapesImport (n : Names) (shapes : List Text) : Import := ⟨n.shapesModule, shapes⟩

/-- Nothing stands in a name at which a line or an import is cut. -/
structure IsWhole (name : Text) : Prop where
  newline : Text.newline ∉ name
  comma : (',' : CodePoint) ∉ name
  blank : ∀ c ∈ name, c.isBlank = false

theorem IsWhole.append {x y : Text} (hx : IsWhole x) (hy : IsWhole y) : IsWhole (x ++ y) where
  newline hmem := (List.mem_append.mp hmem).elim hx.newline hy.newline
  comma hmem := (List.mem_append.mp hmem).elim hx.comma hy.comma
  blank c hmem := (List.mem_append.mp hmem).elim (hx.blank c) (hy.blank c)

theorem isWhole_typeName (label : Text) : IsWhole (ofLabel label).typeName where
  newline := newline_not_mem_typeName label
  comma := not_mem_typeName (by decide) (by decide) label
  blank c hc := by
    have hfile : c ∈ ArtifactKind.hook.fileName label :=
      List.mem_append_left _ (List.mem_append_right (Text.ofString "use") hc)
    obtain ⟨hlow, hhigh, -⟩ := ArtifactKind.visible_of_mem_fileName hfile
    exact CodePoint.isBlank_of_visible hlow hhigh

/-- The names of an entity, as far as its modules import them from one another. -/
structure Linkable (n : Names) : Prop where
  newline : Text.newline ∉ n.canonical
  space : (' ' : CodePoint) ∉ n.canonical
  dot : ('.' : CodePoint) ∉ n.canonical
  model : IsWhole n.model
  insertShape : IsWhole n.insertShape
  updateShape : IsWhole n.updateShape
  selectShape : IsWhole n.selectShape

theorem linkable_ofLabel (label : Text) : (ofLabel label).Linkable where
  newline := newline_not_mem_canonical label
  space := not_mem_canonical (by decide) (by decide) label
  dot := not_mem_canonical (by decide) (by decide) label
  model := isWhole_typeName label
  insertShape := .append ⟨by decide, by decide, by decide⟩ (isWhole_typeName label)
  updateShape := .append ⟨by decide, by decide, by decide⟩ (isWhole_typeName label)
  selectShape := .append ⟨by decide, by decide, by decide⟩ (isWhole_typeName label)

variable {n : Names}

/-- The line that imports whole names from a generated module of the entity is a line, and it is read
as that import. -/
theorem Linkable.line_read (h : n.Linkable) {folder x : Text} {xs : List Text}
    (hfolder : folder = "app.models." ∨ folder = "app.schemas.")
    (hnames : ∀ y ∈ x :: xs, IsWhole y) :
    Text.linesWhere Import.opens (Import.line (folder ++ n.canonical) (x :: xs))
        = [Import.line (folder ++ n.canonical) (x :: xs)] ∧
      Import.ofLine? (Import.line (folder ++ n.canonical) (x :: xs))
        = some ⟨folder ++ n.canonical, x :: xs⟩ ∧
      Import.isGenerated ⟨folder ++ n.canonical, x :: xs⟩ = true := by
  have hfixed : Text.newline ∉ folder ∧ (' ' : CodePoint) ∉ folder := by
    rcases hfolder with rfl | rfl <;> decide
  have hgenerated : Import.isGenerated ⟨folder ++ n.canonical, x :: xs⟩ = true := by
    rw [Import.isGenerated, Bool.or_eq_true_iff]
    refine hfolder.imp ?_ ?_
    all_goals
      rintro rfl
      exact Text.startsWith_iff.mpr (List.prefix_append _ _)
  have hspace : (' ' : CodePoint) ∉ folder ++ n.canonical := fun hmem =>
    (List.mem_append.mp hmem).elim hfixed.2 h.space
  have hline : Text.newline ∉ Import.line (folder ++ n.canonical) (x :: xs) := by
    have hjoin : Text.newline ∉ Text.join ", " (x :: xs) := fun hmem => by
      rcases Text.mem_join hmem with hsep | ⟨y, hy, hc⟩
      · exact absurd hsep (by decide)
      · exact (hnames y hy).newline hc
    rw [Import.line]
    simp only [List.mem_append, not_or]
    exact ⟨⟨⟨by decide, hfixed.1, h.newline⟩, by decide⟩, hjoin⟩
  have hread := Import.ofLine?_line hspace (fun y hy => (hnames y hy).comma)
    fun y hy => (hnames y hy).blank
  have hopens : Import.opens (Import.line (folder ++ n.canonical) (x :: xs)) = true := by
    by_contra hnot
    rw [Import.ofLine?_of_not_opens (Bool.eq_false_iff.mpr hnot)] at hread
    cases hread
  refine ⟨?_, hread, hgenerated⟩
  rw [Text.linesWhere_of_line hline, List.filter_cons_of_pos hopens]
  rfl

theorem Linkable.generated?_line (h : n.Linkable) {folder x : Text} {xs : List Text}
    (hfolder : folder = "app.models." ∨ folder = "app.schemas.")
    (hnames : ∀ y ∈ x :: xs, IsWhole y) :
    Import.generated? (Import.line (folder ++ n.canonical) (x :: xs))
      = some ⟨folder ++ n.canonical, x :: xs⟩ := by
  obtain ⟨-, hread, hgenerated⟩ := h.line_read hfolder hnames
  rw [Import.generated?, hread, Option.filter_some, if_pos hgenerated]

/-- The model is imported from where its artifact belongs. -/
theorem Linkable.path_modelImport (label : Text) :
    (ofLabel label).modelImport.path = ArtifactKind.schema.path label := by
  have hfolder : Text.substitute '.' '/' "app.models." = Text.ofString "app/models/" := by decide
  rw [Import.path, modelImport, modelModule, Text.substitute, List.map_append]
  exact congrArg₂ (· ++ · ++ Text.ofString ".py") hfolder
    (Text.substitute_of_not_mem (linkable_ofLabel label).dot)

/-- Shapes are imported from where their artifact belongs. -/
theorem Linkable.path_shapesImport (label : Text) (shapes : List Text) :
    ((ofLabel label).shapesImport shapes).path = ArtifactKind.typeDefinitions.path label := by
  have hfolder : Text.substitute '.' '/' "app.schemas." = Text.ofString "app/schemas/" := by decide
  rw [Import.path, shapesImport, shapesModule, Text.substitute, List.map_append]
  exact congrArg₂ (· ++ · ++ Text.ofString ".py") hfolder
    (Text.substitute_of_not_mem (linkable_ofLabel label).dot)

end Names

/-! ## Endpoints -/

open Import

/-- The lines of a file that begin like an import. -/
def Artifact.importLines (a : Artifact) : List Text := a.lines.filter Import.opens

namespace Endpoint

variable {n : Names}

/-- What the head of an endpoint module imports for its handlers. -/
def needs (n : Names) : List Import :=
  [n.modelImport, n.shapesImport [n.insertShape, n.selectShape, n.updateShape]]

/-- What every endpoint module imports, blank lines between. -/
def libraryLines : List Text := [
    "import logging",
    "from typing import Optional",
    "",
    "from fastapi import APIRouter, Depends, Query, Request",
    "from fastapi.responses import JSONResponse",
    "from sqlalchemy.exc import IntegrityError, SQLAlchemyError",
    "from sqlalchemy.orm import Session",
    "",
    "from app.db.session import get_db"]

/-- The lines for what is generated. -/
def neededLines (n : Names) : List Text :=
  [Import.line n.modelModule [n.model],
    Import.line n.shapesModule [n.insertShape, n.selectShape, n.updateShape]]

/-- The imports stand behind the first line of the head. -/
theorem head_eq_imports (n : Names) (route : Text) :
    head n route = ("\"\"\"CRUD endpoint for " ++ n.canonical ++ " (generated by schemapilot).\"\"\"")
      :: libraryLines ++ neededLines n ++ (head n route).drop 12 := by
  have hmodels : Text.ofString "from app.models."
      = Text.ofString "from " ++ Text.ofString "app.models." := rfl
  have hschemas : Text.ofString "from app.schemas."
      = Text.ofString "from " ++ Text.ofString "app.schemas." := rfl
  simp only [head, libraryLines, neededLines, List.drop, Import.line, Names.modelModule,
    Names.shapesModule, Text.join, hmodels, hschemas, List.append_assoc, List.cons_append,
    List.nil_append]

/-- Behind the imports the head imports nothing. -/
theorem idle_head (h : n.Linkable) {route : Text} (hroute : Text.newline ∉ route) :
    ∀ line ∈ (head n route).drop 12, Idle line := by
  have hcanonical := h.newline
  have hmodel := h.model.newline
  have hselect := h.selectShape.newline
  simp only [head, List.drop, List.forall_mem_cons]
  and_intros
  all_goals
    first
    | exact List.forall_mem_nil _
    | with_reducible exact Idle.blank
    | with_reducible apply Idle.two
    | with_reducible apply Idle.one
    | with_reducible apply Idle.fixed
  all_goals first | with_reducible assumption | rfl

/-- A handler imports nothing. -/
theorem idle_handler (h : n.Linkable) (m : Method) : ∀ line ∈ handler n m, Idle line := by
  have hcanonical := h.newline
  have hmodel := h.model.newline
  have hinsert := h.insertShape.newline
  have hupdate := h.updateShape.newline
  cases m
  all_goals
    simp only [handler, readHandler, createHandler, updateHandler, deleteHandler,
      List.forall_mem_cons]
    and_intros
  all_goals
    first
    | exact List.forall_mem_nil _
    | with_reducible apply Idle.two
    | with_reducible apply Idle.one
    | with_reducible apply Idle.fixed
  all_goals first | with_reducible assumption | rfl

theorem isWhole_shapes (h : n.Linkable) :
    ∀ y ∈ [n.insertShape, n.selectShape, n.updateShape], Names.IsWhole y := by
  simp only [List.forall_mem_cons]
  exact ⟨h.insertShape, h.selectShape, h.updateShape, List.forall_mem_nil _⟩

/-- The lines for what is generated are import lines. -/
theorem linesWhere_neededLines (h : n.Linkable) :
    (neededLines n).flatMap (Text.linesWhere opens) = neededLines n := by
  have hmodel : Text.linesWhere opens (Import.line n.modelModule [n.model]) = _ :=
    (h.line_read (.inl rfl) (List.forall_mem_singleton.mpr h.model)).1
  have hshapes : Text.linesWhere opens
      (Import.line n.shapesModule [n.insertShape, n.selectShape, n.updateShape]) = _ :=
    (h.line_read (.inr rfl) (isWhole_shapes h)).1
  rw [neededLines, List.flatMap_cons, List.flatMap_singleton, hmodel, hshapes]
  rfl

/-- The lines of what every endpoint module imports are import lines, but for the blank ones. -/
theorem linesWhere_libraryLines :
    libraryLines.flatMap (Text.linesWhere opens) = libraryLines.filter fun line => line ≠ [] := by
  decide +kernel

end Endpoint

/-- **The imports of an endpoint.** Whatever its operations and its route, the lines of an endpoint
module that begin like an import are those for the libraries, the model and the three shapes. -/
theorem importLines_compileEndpoint {entity : Text} {methods : List Json} {route : Option Text}
    {a : Artifact} (h : compileEndpoint entity methods route = .ok a) :
    a.importLines = (Endpoint.libraryLines.filter fun line => line ≠ [])
      ++ Endpoint.neededLines (Names.ofLabel entity) := by
  obtain ⟨selected, -, hlast⟩ := Effect.result_bind_ok_iff.mp h
  obtain rfl := Except.ok.inj hlast
  have hn := Names.linkable_ofLabel entity
  have hroute : newline ∉ Route.path entity route := Route.not_mem_path (by decide) entity route
  have hfirst : Text.linesWhere opens ("\"\"\"CRUD endpoint for " ++ (Names.ofLabel entity).canonical
      ++ " (generated by schemapilot).\"\"\"") = [] := Idle.one rfl rfl rfl hn.newline rfl rfl
  have hafter := Text.flatMap_linesWhere_eq_nil (Endpoint.idle_head hn hroute)
  have hhandlers : ∀ line ∈ selected.flatMap (fun m =>
      [[], []] ++ Endpoint.handler (Names.ofLabel entity) m), Idle line := by
    intro line hline
    obtain ⟨m, -, hm⟩ := List.mem_flatMap.mp hline
    rcases List.mem_append.mp hm with hblank | hhandler
    · obtain rfl : line = [] := by simpa using hblank
      exact Idle.blank
    · exact Endpoint.idle_handler hn m line hhandler
  have hend : [([] : Text)].flatMap (Text.linesWhere opens) = [] := rfl
  have hne : Endpoint.lines (Names.ofLabel entity) (Route.path entity route) selected ≠ [] :=
    List.append_ne_nil_of_right_ne_nil _ (List.cons_ne_nil _ _)
  change Text.linesWhere opens (Text.unlines
    (Endpoint.lines (Names.ofLabel entity) (Route.path entity route) selected)) = _
  rw [Text.linesWhere_unlines hne, Endpoint.lines, Endpoint.head_eq_imports]
  simp only [List.flatMap_append, List.flatMap_cons, hfirst, Endpoint.linesWhere_libraryLines,
    Endpoint.linesWhere_neededLines hn, hafter, Text.flatMap_linesWhere_eq_nil hhandlers, hend,
    List.append_nil, List.nil_append]

/-- Of what is generated an endpoint module imports the model and the three shapes of its entity, and
nothing else. -/
theorem imports_compileEndpoint {entity : Text} {methods : List Json} {route : Option Text}
    {a : Artifact} (h : compileEndpoint entity methods route = .ok a) :
    a.imports = Endpoint.needs (Names.ofLabel entity) := by
  have hn := Names.linkable_ofLabel entity
  have hlibrary : (Endpoint.libraryLines.filter fun line => line ≠ []).filterMap generated? = [] := by
    decide +kernel
  have hlines : Text.linesWhere opens a.content = _ := importLines_compileEndpoint h
  have hmodel : generated? (Import.line (Names.ofLabel entity).modelModule _) = some _ :=
    hn.generated?_line (.inl rfl) (List.forall_mem_singleton.mpr hn.model)
  have hshapes : generated? (Import.line (Names.ofLabel entity).shapesModule _) = some _ :=
    hn.generated?_line (.inr rfl) (Endpoint.isWhole_shapes hn)
  rw [Artifact.imports, inText_eq, hlines, List.filterMap_append, hlibrary, Endpoint.neededLines,
    List.filterMap_cons_some hmodel, List.filterMap_cons_some hshapes]
  rfl

/-! ## Seeds -/

namespace Seed

variable {n : Names}

/-- What a seed module imports to insert its rows. -/
def needs (n : Names) : List Import := [n.modelImport, n.shapesImport [n.insertShape]]

/-- The lines of a seed module that import. -/
def importLines (n : Names) : List Text :=
  ["from app.db.session import SessionLocal", Import.line n.modelModule [n.model],
    Import.line n.shapesModule [n.insertShape]]

/-- The imports stand behind the first line, and the rows behind them. -/
theorem lines_eq_imports (n : Names) (rows : Text) :
    lines n rows = ("\"\"\"Sample rows for " ++ n.canonical ++ " (generated by schemapilot).\"\"\"")
      :: importLines n ++ (Text.ofString "" :: ("ROWS = " ++ rows) :: (lines n rows).drop 6) := by
  have hmodels : Text.ofString "from app.models."
      = Text.ofString "from " ++ Text.ofString "app.models." := rfl
  have hschemas : Text.ofString "from app.schemas."
      = Text.ofString "from " ++ Text.ofString "app.schemas." := rfl
  simp only [lines, importLines, List.drop, Import.line, Names.modelModule, Names.shapesModule,
    Text.join, hmodels, hschemas, List.append_assoc, List.cons_append, List.nil_append]

/-- Behind the rows nothing is imported. -/
theorem idle_lines (h : n.Linkable) (rows : Text) : ∀ line ∈ (lines n rows).drop 6, Idle line := by
  have hcanonical := h.newline
  have hmodel := h.model.newline
  have hinsert := h.insertShape.newline
  simp only [lines, List.drop, List.forall_mem_cons]
  and_intros
  all_goals
    first
    | exact List.forall_mem_nil _
    | with_reducible exact Idle.blank
    | with_reducible apply Idle.two
    | with_reducible apply Idle.one
    | with_reducible apply Idle.fixed
  all_goals first | with_reducible assumption | rfl

theorem linesWhere_importLines (h : n.Linkable) :
    (importLines n).flatMap (Text.linesWhere opens) = importLines n := by
  have hsession : Text.linesWhere opens "from app.db.session import SessionLocal"
      = [Text.ofString "from app.db.session import SessionLocal"] := by decide +kernel
  have hmodel : Text.linesWhere opens (Import.line n.modelModule [n.model]) = _ :=
    (h.line_read (.inl rfl) (List.forall_mem_singleton.mpr h.model)).1
  have hinsert : Text.linesWhere opens (Import.line n.shapesModule [n.insertShape]) = _ :=
    (h.line_read (.inr rfl) (List.forall_mem_singleton.mpr h.insertShape)).1
  rw [importLines, List.flatMap_cons, List.flatMap_cons, List.flatMap_singleton, hsession, hmodel,
    hinsert]
  rfl

/-- A line that continues a row is no import. -/
theorem opens_of_isOpening {c : CodePoint} (hc : RowsLiteral.isOpening c = true) (k : Nat)
    (r : Text) : opens (Text.spaces k ++ c :: r) = false := by
  have hvisible : c.isBlank = false ∧ c ≠ 'f' ∧ c ≠ 'i' := by
    have hcases : (c = '\'' ∨ c = '"') ∨ c = '\x7b' := by
      simpa [RowsLiteral.isOpening] using hc
    rcases hcases with (rfl | rfl) | rfl <;> decide
  have hdrop : (Text.spaces k ++ c :: r).dropWhile CodePoint.isBlank = c :: r := by
    have hspaces : ∀ d ∈ Text.spaces k, CodePoint.isBlank d = true := fun d hd => by
      rw [List.eq_of_mem_replicate hd]
      decide
    rw [List.dropWhile_append_of_pos hspaces]
    exact List.dropWhile_cons_of_neg (by rw [hvisible.1]; exact Bool.false_ne_true)
  rw [opens_eq_false_iff, hdrop]
  constructor
  · exact fun hfrom => hvisible.2.1 (List.cons_prefix_cons.mp hfrom).1.symm
  · exact fun himport => hvisible.2.2 (List.cons_prefix_cons.mp himport).1.symm

/-- The rows import nothing, whatever they hold. -/
theorem idle_rows {rows : List Members} (h : ∀ ms ∈ rows, ∀ m ∈ ms, m.2.IsPlain) :
    Idle (Text.ofString "ROWS = " ++ RowsLiteral.rows rows) := by
  have hlaid : RowsLiteral.LaidOut (Text.ofString "ROWS = " ++ RowsLiteral.rows rows) :=
    (RowsLiteral.laidOut_of_not_mem (by decide)).append (RowsLiteral.laidOut_rows h)
  have hstart : newline ∉ Text.ofString "ROWS = " := by decide
  obtain ⟨rest, more, hsplit⟩ := Text.splitOn_of_not_mem hstart (RowsLiteral.rows rows)
  have hmore : ∀ line ∈ more, opens line = false := by
    intro line hline
    have htail : line ∈ (Text.splitOn newline
        (Text.ofString "ROWS = " ++ RowsLiteral.rows rows)).tail := by
      rw [hsplit]
      exact hline
    obtain ⟨a, b, hab, hhead⟩ := Text.mem_tail_splitOn htail
    -- the line begins behind a line feed, so with blanks and an opening
    obtain ⟨k, _, rfl, c, r, rfl, hc⟩ := hlaid a b hab
    have hstart : newline ∉ Text.spaces k ++ [c] := fun hmem => by
      rcases List.mem_append.mp hmem with hmem | hmem
      · exact absurd (List.eq_of_mem_replicate hmem) (by decide)
      · rw [← List.mem_singleton.mp hmem] at hc
        exact absurd hc (by decide)
    obtain ⟨rest', more', hcut⟩ := Text.splitOn_of_not_mem hstart r
    rw [List.append_assoc, List.singleton_append] at hcut
    rw [hcut, List.head?_cons, Option.some.injEq] at hhead
    rw [← hhead, List.append_assoc, List.singleton_append]
    exact opens_of_isOpening hc k rest'
  rw [Idle, Text.linesWhere, hsplit, List.filter_eq_nil_iff, List.forall_mem_cons]
  refine ⟨?_, fun line hline => Bool.eq_false_iff.mp (hmore line hline)⟩
  exact Bool.eq_false_iff.mp (opens_of_idles rfl rfl rest)

end Seed

/-- **The imports of a seed module.** Whatever the rows hold, the lines of a seed module that begin
like an import are those for the session, the model and the shape of new rows. -/
theorem Entity.importLines_compileSeed {e : Entity} {rows : List Members} {a : Artifact}
    (h : e.compileSeed rows = .ok a) : a.importLines = Seed.importLines e.names := by
  obtain ⟨_, -, h⟩ := Effect.result_bind_ok_iff.mp h
  obtain ⟨accepted, haccepted, hlast⟩ := Effect.result_bind_ok_iff.mp h
  obtain rfl := Except.ok.inj hlast
  have hn : e.names.Linkable := Names.linkable_ofLabel e.name
  have hfirst : Text.linesWhere opens ("\"\"\"Sample rows for " ++ e.names.canonical
      ++ " (generated by schemapilot).\"\"\"") = [] := Idle.one rfl rfl rfl hn.newline rfl rfl
  have hrows : Text.linesWhere opens _ = [] := Seed.idle_rows (Seed.isPlain_of_checkRows haccepted)
  have hblank : Text.linesWhere opens (Text.ofString "") = [] := rfl
  have hafter := Text.flatMap_linesWhere_eq_nil (Seed.idle_lines hn (RowsLiteral.rows accepted))
  have hne : Seed.lines e.names (RowsLiteral.rows accepted) ≠ [] := List.cons_ne_nil _ _
  change Text.linesWhere opens (Text.unlines (Seed.lines e.names (RowsLiteral.rows accepted))) = _
  rw [Text.linesWhere_unlines hne, Seed.lines_eq_imports]
  simp only [List.flatMap_append, List.flatMap_cons, hfirst, Seed.linesWhere_importLines hn, hblank,
    hrows, hafter, List.append_nil, List.nil_append]

/-- Of what is generated a seed module imports the model and the shape of new rows of its entity, and
nothing else. -/
theorem Entity.imports_compileSeed {e : Entity} {rows : List Members} {a : Artifact}
    (h : e.compileSeed rows = .ok a) : a.imports = Seed.needs e.names := by
  have hn : e.names.Linkable := Names.linkable_ofLabel e.name
  have hlines : Text.linesWhere opens a.content = _ := importLines_compileSeed h
  have hsession : generated? "from app.db.session import SessionLocal" = none := by decide +kernel
  have hmodel : generated? (Import.line e.names.modelModule _) = some _ :=
    hn.generated?_line (.inl rfl) (List.forall_mem_singleton.mpr hn.model)
  have hinsert : generated? (Import.line e.names.shapesModule _) = some _ :=
    hn.generated?_line (.inr rfl) (List.forall_mem_singleton.mpr hn.insertShape)
  rw [Artifact.imports, inText_eq, hlines, Seed.importLines, List.filterMap_cons_none hsession,
    List.filterMap_cons_some hmodel, List.filterMap_cons_some hinsert]
  rfl

end Tablewright
