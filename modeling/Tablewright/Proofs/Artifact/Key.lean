/-
The keys of a table, and the key by which an endpoint looks its rows up.

A model marks its keys in the arguments of the columns, and `Lookup.ofLine?` reads a statement of an
endpoint as the lookup of a row by the values of the keys. Every handler but the one that creates
rows looks up one row by the single value `int(id)`. The model has the one key `id` for that exactly
when no field is declared as a key of its own.
-/
import Tablewright.Proofs.Artifact.Declared
import Tablewright.Proofs.Artifact.Linking

set_option autoImplicit false

namespace Tablewright

open Text (newline)

/-! ## Keys -/

/-- The attributes of the columns that a class marks as keys. -/
def Column.keys (name t : Text) : List Text := ((inClass name t).filter isKey).map member

/-- The keys of a model are the fields that are declared as keys, and then the one every table
has. -/
theorem Model.keys_modelText {e : Entity} (h : e.IsBuilt) :
    Column.keys e.names.model e.modelText
      = (e.fields.filter fun f => f.constraints.contains .primary).map Field.name
        ++ [Text.ofString "id"] := by
  have himplicit : (Column.implicit.filter Column.isKey).map Column.member
      = [Text.ofString "id"] := by decide +kernel
  have hkey : Column.isKey ∘ Field.asColumn = fun f => f.constraints.contains .primary :=
    funext fun f => f.contains_options .primary
  rw [Column.keys, (columns_modelText h).1, List.filter_append, List.map_append, himplicit,
    List.filter_map, hkey, List.map_map]
  rfl

/-! ## Lookups -/

/-- The lookup of a row: the model, and the values of its keys. -/
structure Lookup where
  /-- The model. -/
  model : Text
  /-- The values of the keys. -/
  keys : List Text
deriving DecidableEq

namespace Lookup

/-- The lookup on a line, if it holds one. The line may be indented. -/
def ofLine? (line : Text) : Option Lookup := do
  let call ← Text.dropStart? "row = db.get(" (line.dropWhile CodePoint.isBlank)
  let inside ← Text.dropEnd? ")" call
  match (Text.splitOn ',' inside).map Text.trim with
  | model :: keys => some ⟨model, keys⟩
  | [] => none

/-- The lookups in a text, in the order of its lines. -/
def inText (t : Text) : List Lookup := (Text.splitOn newline t).filterMap ofLine?

/-- The lookup of a row of a model by one integer. -/
def byId (n : Names) : Lookup := ⟨n.model, ["int(id)"]⟩

/-- A line with the lookup of a row by one integer is read so. -/
theorem ofLine?_byId {n : Names} (hn : n.Linkable) {s : String} {l : List Char}
    (h : s = String.ofList l) (hvisible : Text.startsVisible l = true)
    (hstart : l.dropWhile (· = ' ') = "row = db.get(".toList) :
    ofLine? (Text.ofString s ++ n.model ++ Text.ofString ", int(id))") = some (byId n) := by
  have hkey : Text.ofString ", int(id))" = Text.ofString ", " ++ ("int(id)" ++ Text.ofString ")") :=
    rfl
  have hline :
      (Text.ofString s ++ n.model ++ Text.ofString ", int(id))").dropWhile CodePoint.isBlank
        = "row = db.get(" ++ (Text.join ", " [n.model, Text.ofString "int(id)"] ++ ")") := by
    rw [List.append_assoc, Text.dropWhile_isBlank_of_visible h hvisible, hstart,
      ← Text.ofString_eq String.ofList_toList.symm, hkey]
    simp only [Text.join, List.append_assoc]
  have hread : (Text.splitOn ',' (Text.join ", " [n.model, Text.ofString "int(id)"])).map Text.trim
      = [n.model, Text.ofString "int(id)"] :=
    Text.trim_splitOn_join_names
      (List.forall_mem_cons.mpr ⟨hn.model.comma, List.forall_mem_singleton.mpr (by decide)⟩)
      (List.forall_mem_cons.mpr ⟨hn.model.blank, List.forall_mem_singleton.mpr (by decide)⟩)
  rw [ofLine?, hline, Text.dropStart?_append, Option.bind_eq_bind, Option.bind_some,
    Text.dropEnd?_append, Option.bind_some, hread]
  rfl

theorem ofLine?_of_not_prefix {line : Text}
    (h : ¬ Text.ofString "row = db.get(" <+: line.dropWhile CodePoint.isBlank) :
    ofLine? line = none := by
  rw [ofLine?]
  cases hcall : Text.dropStart? "row = db.get(" (line.dropWhile CodePoint.isBlank) with
  | none => rfl
  | some call => exact absurd ⟨call, (Text.dropStart?_eq_some_iff.mp hcall).symm⟩ h

/-- A single line without a lookup. -/
structure Lacks (line : Text) : Prop where
  newline_not_mem : newline ∉ line
  ofLine?_eq : ofLine? line = none

namespace Lacks

variable {s : String} {l : List Char} {x : Text}

theorem blank : Lacks [] := ⟨List.not_mem_nil, rfl⟩

/-- A line that begins otherwise behind its blanks, whatever follows. -/
theorem append (h : s = String.ofList l) (hvisible : Text.startsVisible l = true)
    (hclash : Text.clash "row = db.get(".toList (l.dropWhile (· = ' ')) = true)
    (hl : l.contains '\n' = false) (hx : newline ∉ x) : Lacks (Text.ofString s ++ x) where
  newline_not_mem hmem := (List.mem_append.mp hmem).elim (Text.not_mem_ofString h hl) hx
  ofLine?_eq := ofLine?_of_not_prefix (by
    rw [Text.dropWhile_isBlank_of_visible h hvisible]
    exact Text.not_prefix_of_clash hclash x)

theorem fixed (h : s = String.ofList l) (hvisible : Text.startsVisible l = true)
    (hclash : Text.clash "row = db.get(".toList (l.dropWhile (· = ' ')) = true)
    (hl : l.contains '\n' = false) : Lacks (Text.ofString s) := by
  rw [← List.append_nil (Text.ofString s)]
  exact append h hvisible hclash hl List.not_mem_nil

/-- A line with one name in it. -/
theorem one {s' : String} {l' : List Char} (h : s = String.ofList l)
    (hvisible : Text.startsVisible l = true)
    (hclash : Text.clash "row = db.get(".toList (l.dropWhile (· = ' ')) = true)
    (hl : l.contains '\n' = false) (hx : newline ∉ x) (h' : s' = String.ofList l')
    (hl' : l'.contains '\n' = false) : Lacks (Text.ofString s ++ x ++ Text.ofString s') := by
  rw [List.append_assoc]
  refine append h hvisible hclash hl fun hmem => ?_
  exact (List.mem_append.mp hmem).elim hx (Text.not_mem_ofString h' hl')

/-- A line with two names in it. -/
theorem two {y : Text} {s' s'' : String} {l' l'' : List Char} (h : s = String.ofList l)
    (hvisible : Text.startsVisible l = true)
    (hclash : Text.clash "row = db.get(".toList (l.dropWhile (· = ' ')) = true)
    (hl : l.contains '\n' = false) (hx : newline ∉ x) (h' : s' = String.ofList l')
    (hl' : l'.contains '\n' = false) (hy : newline ∉ y) (h'' : s'' = String.ofList l'')
    (hl'' : l''.contains '\n' = false) :
    Lacks (Text.ofString s ++ x ++ Text.ofString s' ++ y ++ Text.ofString s'') := by
  simp only [List.append_assoc]
  refine append h hvisible hclash hl ?_
  simp only [List.mem_append, not_or]
  exact ⟨hx, Text.not_mem_ofString h' hl', hy, Text.not_mem_ofString h'' hl''⟩

/-- The line that creates a row holds no lookup, because no name of a model holds a full stop. -/
theorem creation (label : Text) :
    Lacks ("        row = " ++ (Names.ofLabel label).model ++ "(**data.model_dump())") where
  newline_not_mem := by
    have hmodel := (Names.linkable_ofLabel label).model.newline
    simp only [List.mem_append, not_or]
    exact ⟨⟨by decide, hmodel⟩, by decide⟩
  ofLine?_eq := ofLine?_of_not_prefix (by
    have hname : ∀ c ∈ (Names.ofLabel label).model,
        (c.isNameLetter || c.isAsciiUpper) = true := fun c hc => by
      rw [Bool.or_eq_true]
      exact Naming.mem_pascal hc
    have hdrop (name t : Text) : (Text.ofString "        row = " ++ name
        ++ t).dropWhile CodePoint.isBlank = Text.ofString "row = " ++ (name ++ t) := by
      rw [List.append_assoc, Text.dropWhile_isBlank_of_visible rfl rfl]
      rfl
    rw [hdrop]
    intro hprefix
    have hprefix : Text.ofString "db.get("
        <+: (Names.ofLabel label).model ++ Text.ofString "(**data.model_dump())" :=
      (List.prefix_append_right_inj (Text.ofString "row = ")).mp hprefix
    -- behind the letters there is a full stop in the one and a parenthesis in the other
    obtain ⟨rest, hrest⟩ := hprefix
    have hbehind := congrArg (List.dropWhile fun c => c.isNameLetter || c.isAsciiUpper) hrest
    rw [List.dropWhile_append_of_pos hname] at hbehind
    exact absurd (List.head_eq_of_cons_eq hbehind) (by decide))

end Lacks

/-- Single lines that hold given lookups. -/
structure Held (ks : List Lookup) (lines : List Text) : Prop where
  newline_not_mem : ∀ line ∈ lines, newline ∉ line
  filterMap_eq : lines.filterMap ofLine? = ks

namespace Held

variable {ks ks' : List Lookup} {lines lines' : List Text}

theorem of_lacks (h : ∀ line ∈ lines, Lacks line) : Held [] lines where
  newline_not_mem line hline := (h line hline).newline_not_mem
  filterMap_eq := List.filterMap_eq_nil_iff.mpr fun line hline => (h line hline).ofLine?_eq

theorem append (h : Held ks lines) (h' : Held ks' lines') : Held (ks ++ ks') (lines ++ lines') where
  newline_not_mem := List.forall_mem_append.mpr ⟨h.newline_not_mem, h'.newline_not_mem⟩
  filterMap_eq := by rw [List.filterMap_append, h.filterMap_eq, h'.filterMap_eq]

/-- What holds of the lines of each item holds of the lines of all. -/
theorem flatMap {α : Type} {f : α → List Lookup} {g : α → List Text} (h : ∀ x, Held (f x) (g x))
    (xs : List α) : Held (xs.flatMap f) (xs.flatMap g) := by
  induction xs with
  | nil => exact of_lacks (List.forall_mem_nil _)
  | cons x xs ih => exact (h x).append ih

/-- Lines with one lookup by an integer among them. -/
theorem byId {label : Text} {s : String} {l : List Char} (h : s = String.ofList l)
    (hvisible : Text.startsVisible l = true)
    (hstart : l.dropWhile (· = ' ') = "row = db.get(".toList) (hl : l.contains '\n' = false)
    (hlines : ∀ line ∈ lines ++ lines', Lacks line) :
    Held [Lookup.byId (Names.ofLabel label)]
      (lines ++ (Text.ofString s ++ (Names.ofLabel label).model ++ Text.ofString ", int(id))")
        :: lines') := by
  obtain ⟨hbefore, hbehind⟩ := List.forall_mem_append.mp hlines
  have hn := Names.linkable_ofLabel label
  have hline := ofLine?_byId hn h hvisible hstart
  refine (of_lacks hbefore).append ((?_ : Held [_] [_]).append (of_lacks hbehind))
  exact {
    newline_not_mem := by
      have hmodel := hn.model.newline
      simp only [List.forall_mem_singleton, List.mem_append, not_or]
      exact ⟨⟨Text.not_mem_ofString h hl, hmodel⟩, by decide⟩
    filterMap_eq := by rw [List.filterMap_cons_some hline, List.filterMap_nil] }

/-- The lookups in lines are those in the text they are put together to. -/
theorem inText_unlines (h : Held ks lines) (hne : lines ≠ []) :
    inText (Text.unlines lines) = ks := by
  have hsplit : Text.splitOn newline (Text.unlines lines) = lines :=
    Text.splitOn_join hne h.newline_not_mem
  rw [inText, hsplit, h.filterMap_eq]

end Held

end Lookup

/-! ## The lookups of an endpoint -/

namespace Endpoint

open Lookup

/-- The lines of the head hold no lookup. -/
theorem lacks_head (label : Text) {route : Text} (hroute : newline ∉ route) :
    ∀ line ∈ head (Names.ofLabel label) route, Lacks line := by
  have hn := Names.linkable_ofLabel label
  have hcanonical := hn.newline
  have hmodel := hn.model.newline
  have hinsert := hn.insertShape.newline
  have hselect := hn.selectShape.newline
  have hupdate := hn.updateShape.newline
  have hblank : Text.ofString "" = [] := rfl
  simp only [head, hblank, List.append_assoc, List.forall_mem_cons]
  and_intros
  all_goals
    first
    | exact List.forall_mem_nil _
    | exact Lacks.blank
    | with_reducible apply Lacks.append
    | with_reducible apply Lacks.fixed
  all_goals first | rfl | simp only [List.mem_append, not_or]
  all_goals
    and_intros
    all_goals first | with_reducible assumption | exact Text.not_mem_ofString rfl rfl

/-- The lookups of a handler: one, by an integer, but none to create a row. -/
def lookups (n : Names) (m : Method) : List Lookup := if m = .post then [] else [byId n]

/-- Which line of a handler holds its lookup. The handler that creates rows has fewer lines. -/
def lookupAt : Method → Nat
  | .get => 6
  | .put => 11
  | .delete => 7
  | .post => 20

/-- The other lines of a handler hold no lookup. -/
theorem lacks_handler (label : Text) (m : Method) :
    ∀ line ∈ (handler (Names.ofLabel label) m).take (lookupAt m)
      ++ (handler (Names.ofLabel label) m).drop (lookupAt m + 1), Lacks line := by
  have hn := Names.linkable_ofLabel label
  have hcanonical := hn.newline
  have hmodel := hn.model.newline
  have hinsert := hn.insertShape.newline
  have hupdate := hn.updateShape.newline
  cases m
  all_goals
    simp only [handler, readHandler, createHandler, updateHandler, deleteHandler, lookupAt,
      List.take, List.drop, List.cons_append, List.nil_append, List.forall_mem_cons]
    and_intros
  all_goals
    first
    | exact List.forall_mem_nil _
    | with_reducible exact Lacks.creation label
    | with_reducible apply Lacks.two
    | with_reducible apply Lacks.one
    | with_reducible apply Lacks.fixed
  all_goals first | with_reducible assumption | rfl

/-- Every handler but the one that creates rows looks up one row, by one integer. -/
theorem held_handler (label : Text) (m : Method) :
    Held (lookups (Names.ofLabel label) m) (handler (Names.ofLabel label) m) := by
  have hother := lacks_handler label m
  cases m with
  | get => exact Held.byId (s := "            row = db.get(") rfl rfl rfl rfl hother
  | post => exact Held.of_lacks fun line hline => hother line (List.mem_append_left _ hline)
  | put => exact Held.byId (s := "        row = db.get(") rfl rfl rfl rfl hother
  | delete => exact Held.byId (s := "        row = db.get(") rfl rfl rfl rfl hother

theorem flatMap_lookups (n : Names) (ms : List Method) :
    ms.flatMap (lookups n) = (ms.filter (· ≠ .post)).map fun _ => byId n := by
  induction ms with
  | nil => rfl
  | cons m ms ih => cases m <;> simp [lookups, ih]

end Endpoint

/-- **The lookups of an endpoint.** Whatever its operations and its route, the handlers of an
endpoint look rows up by one integer, and nothing else in it looks rows up. -/
theorem lookups_compileEndpoint {label : Text} {methods : List Json} {route : Option Text}
    {a : Artifact} (h : compileEndpoint label methods route = .ok a) :
    ∃ selected, Method.select methods = .ok selected ∧
      Lookup.inText a.content = selected.flatMap (Endpoint.lookups (Names.ofLabel label)) := by
  obtain ⟨selected, hselect, hlast⟩ := Effect.result_bind_ok_iff.mp h
  obtain rfl := Except.ok.inj hlast
  have hroute : newline ∉ Route.path label route := Route.not_mem_path (by decide) label route
  have hblank : Lookup.Held [] [[], []] :=
    .of_lacks (List.forall_mem_cons.mpr ⟨.blank, List.forall_mem_singleton.mpr .blank⟩)
  have hhandlers := Lookup.Held.flatMap
    (fun m => hblank.append (Endpoint.held_handler label m)) selected
  have hlines := ((Lookup.Held.of_lacks (Endpoint.lacks_head label hroute)).append
    hhandlers).append (.of_lacks (List.forall_mem_singleton.mpr .blank))
  rw [List.nil_append, List.append_nil] at hlines
  exact ⟨selected, hselect,
    hlines.inText_unlines (List.append_ne_nil_of_right_ne_nil _ (List.cons_ne_nil _ _))⟩

/-! ## One key -/

namespace Entity

variable {label description : Text} {raws : List Json} {e : Entity} {schema : Schema}

/-- **One key.** The keys of a model are the fields declared as keys, in their order, and then `id`,
so there is one key exactly when no field is declared as one. Every endpoint for the entity looks
rows up by a single integer, once in each handler but the one that creates rows. -/
theorem one_key_iff_no_primary (hbuild : build label description raws = .ok e)
    (hschema : e.compileSchema = .ok schema) :
    Column.keys e.names.model schema.model.content
        = (e.fields.filter fun f => f.constraints.contains .primary).map Field.name
          ++ [Text.ofString "id"] ∧
      ((∃ key, Column.keys e.names.model schema.model.content = [key]) ↔
        ∀ f ∈ e.fields, .primary ∉ f.constraints) ∧
      ∀ other methods route a, Naming.canonical other = e.name →
        compileEndpoint other methods route = .ok a →
        ∃ selected, Method.select methods = .ok selected ∧
          Lookup.inText a.content
            = (selected.filter (· ≠ .post)).map fun _ => ⟨e.names.model, ["int(id)"]⟩ := by
  obtain ⟨-, rfl⟩ := compileSchema_ok_iff.mp hschema
  obtain ⟨hbuilt, -⟩ := isBuilt_of_build hbuild
  have hkeys := Model.keys_modelText hbuilt
  refine ⟨hkeys, ?_, ?_⟩
  · have hnone : (e.fields.filter fun f => f.constraints.contains .primary) = [] ↔
        ∀ f ∈ e.fields, .primary ∉ f.constraints := by
      rw [List.filter_eq_nil_iff]
      simp only [List.contains_iff_mem]
    rw [← hnone]
    constructor
    · rintro ⟨key, hkey⟩
      have hlength := congrArg List.length (hkeys.symm.trans hkey)
      simpa using hlength
    · intro h
      exact ⟨"id", by rw [hkeys, h]; rfl⟩
  · intro other methods route a hother hcompile
    obtain ⟨selected, hselect, hlookups⟩ := lookups_compileEndpoint hcompile
    have hnames : Names.ofLabel other = e.names :=
      Names.ofLabel_congr (hother.trans hbuilt.canonical.symm)
    refine ⟨selected, hselect, ?_⟩
    rw [hlookups, hnames, Endpoint.flatMap_lookups]
    rfl

/-- The key of a book is `id`, and of two handlers for it one looks rows up. -/
theorem one_key_of_book :
    let e : Entity := ⟨"book", [], [⟨"title", .longText, [.required]⟩]⟩
    build "book" [] [.obj [("name", .str "title"), ("constraints", .arr [.str "required"])]]
        = .ok e ∧
      ∃ schema a, e.compileSchema = .ok schema ∧
        Column.keys e.names.model schema.model.content = [Text.ofString "id"] ∧
        compileEndpoint "Book" [.str "POST", .str "read"] none = .ok a ∧
        Lookup.inText a.content = [⟨e.names.model, ["int(id)"]⟩] := by
  intro e
  have hbuild : build "book" []
      [.obj [("name", .str "title"), ("constraints", .arr [.str "required"])]] = .ok e := rfl
  obtain ⟨schema, hschema⟩ := exists_compileSchema_iff.mpr
    (show e.ColumnsApart from { name := by decide, column := by decide, nodup := by decide })
  have hselect : Method.select [.str "POST", .str "read"] = .ok [.get, .post] := rfl
  obtain ⟨a, hcompile⟩ : ∃ a, compileEndpoint "Book" [.str "POST", .str "read"] none = .ok a :=
    ⟨_, Effect.result_bind_ok_iff.mpr ⟨_, hselect, rfl⟩⟩
  obtain ⟨hkeys, -, hlookups⟩ := one_key_iff_no_primary hbuild hschema
  obtain ⟨selected, hselected, hfound⟩ := hlookups "Book" _ none a (by decide +kernel) hcompile
  obtain rfl := Except.ok.inj (hselect.symm.trans hselected)
  exact ⟨hbuild, schema, a, hschema, hkeys, hcompile, hfound⟩

/-- A code that is declared as a key is accepted, and the model has two keys. -/
theorem declared_key_is_second :
    let e : Entity := ⟨"a", [], [⟨"code", .longText, [.required, .primary]⟩]⟩
    build "a" [] [.obj [("name", .str "code"),
        ("constraints", .arr [.str "required", .str "primary"])]] = .ok e ∧
      ∃ schema, e.compileSchema = .ok schema ∧
        Column.keys e.names.model schema.model.content
          = [Text.ofString "code", Text.ofString "id"] ∧
        ¬ ∃ key, Column.keys e.names.model schema.model.content = [key] := by
  intro e
  have hbuild : build "a" [] [.obj [("name", .str "code"),
      ("constraints", .arr [.str "required", .str "primary"])]] = .ok e := rfl
  have hkeys : Column.keys e.names.model e.modelText = [Text.ofString "code", Text.ofString "id"] :=
    Model.keys_modelText (isBuilt_of_build hbuild).1
  refine ⟨hbuild, _, compileSchema_ok_iff.mpr ⟨rfl, rfl⟩, hkeys, ?_⟩
  rintro ⟨key, hkey⟩
  cases hkeys.symm.trans hkey

end Entity

end Tablewright
