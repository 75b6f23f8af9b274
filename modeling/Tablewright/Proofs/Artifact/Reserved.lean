/-
Names that are reserved words, and the headers they stand in.

The names of an entity are identifiers, whatever its label is, but nothing keeps them from being
words of the generated language. That happens for a label of a single word and for no other: no
reserved word has an underscore, a digit or two capitals in it. The word may be one that is
reserved in small letters, and then the canonical name is this word, or one of the three with a
capital, and then the type name is.

A canonical name stands in headers as a part of a module, a type name as that of a class. So an
endpoint and a seed module can be read exactly when both names are free, a model when its type name
is, and the shapes always, because their names are longer (`Entity.headers_readable_iff`).
-/
import Tablewright.Proofs.Artifact.Attributes
import Tablewright.Proofs.Naming.Spelling

set_option autoImplicit false

namespace Tablewright

/-! ## Single words -/

namespace Naming

variable {w : Text}

/-- A word of letters spells itself. -/
theorem IsLetters.spells (h : IsLetters w) : Spells [w] w where
  eq_join := rfl
  isWord := List.forall_mem_singleton.mpr h.isWord
  startsLower := h.startsLower

/-- A word of letters is the canonical name of the labels that come to this word alone. The word for
labels that come to nothing is the exception. -/
theorem canonical_eq_letters_iff (h : IsLetters w) (hfallback : w ≠ fallback) (label : Text) :
    canonical label = w ↔ words label = [w] := by
  constructor
  · intro hname
    have hsnake : snake label = w := by
      rw [canonical] at hname
      split at hname
      case h_1 => exact absurd hname.symm hfallback
      case h_2 hsnake =>
        split at hname
        case isTrue =>
          have hmark : CodePoint.ofChar '_' ∈ w := by
            rw [← hname]
            exact List.mem_append_left _ (List.mem_append_right fallback List.mem_cons_self)
          exact absurd (h.2 _ hmark) (by decide)
        case isFalse => exact hsnake.trans hname
    have hwords := words_snake label
    rw [hsnake, h.spells.words_eq] at hwords
    exact hwords.symm
  · intro hwords
    exact canonical_of_words hwords (List.cons_ne_nil _ _)
      (List.forall_mem_singleton.mpr h.startsLower)

/-! ## Reserved words -/

/-- A label of a single word that is reserved, apart from capitals. -/
def IsReserved (label : Text) : Prop := ∃ k ∈ Text.reservedWords, words label = [Text.lower k]

instance (label : Text) : Decidable (IsReserved label) :=
  inferInstanceAs (Decidable (∃ k ∈ Text.reservedWords, words label = [Text.lower k]))

/-- The reserved words are words of letters, and some of them have a capital: such a word is the type
name of the word in small letters. -/
theorem letters_of_mem_reservedWords {k : String} (hk : k ∈ Text.reservedWords) :
    IsLetters (Text.lower k) ∧ Text.lower k ≠ fallback ∧
      (startsLower k = true → Text.lower k = k) ∧
      (startsLower k = false → pascal (Text.lower k) = k) := by
  have htable : ∀ k ∈ Text.reservedWords,
      (Text.lower k ≠ [] ∧ ∀ c ∈ Text.lower k, c.isAsciiLower = true) ∧
        Text.lower k ≠ fallback ∧ (startsLower k = true → Text.lower k = k) ∧
        (startsLower k = false → pascal (Text.lower k) = k) := by
    decide +kernel
  exact htable k hk

theorem isReservedWord_iff {t : Text} :
    Text.isReservedWord t = true ↔ ∃ k ∈ Text.reservedWords, t = Text.ofString k := by
  rw [Text.isReservedWord, List.any_eq_true]
  simp only [decide_eq_true_eq, @eq_comm _ t]

/-- The canonical name of a label is reserved exactly when the label comes to a reserved word without
a capital. -/
theorem isReservedWord_canonical_iff (label : Text) :
    Text.isReservedWord (canonical label) = true ↔
      ∃ k ∈ Text.reservedWords, startsLower k = true ∧ words label = [Text.lower k] := by
  rw [isReservedWord_iff]
  refine exists_congr fun k => and_congr_right fun hk => ?_
  obtain ⟨hletters, hfallback, hsmall, -⟩ := letters_of_mem_reservedWords hk
  constructor
  · intro hname
    obtain ⟨_, hspells⟩ := exists_spells_canonical label
    have hlower : startsLower k = true := hname ▸ hspells.startsLower
    rw [← hsmall hlower] at hname
    exact ⟨hlower, (canonical_eq_letters_iff hletters hfallback label).mp hname⟩
  · rintro ⟨hlower, hwords⟩
    rw [← hsmall hlower]
    exact (canonical_eq_letters_iff hletters hfallback label).mpr hwords

/-- The type name of a label is reserved exactly when the label comes to a reserved word with a
capital. -/
theorem isReservedWord_pascal_iff (label : Text) :
    Text.isReservedWord (pascal (canonical label)) = true ↔
      ∃ k ∈ Text.reservedWords, startsLower k = false ∧ words label = [Text.lower k] := by
  rw [isReservedWord_iff]
  refine exists_congr fun k => and_congr_right fun hk => ?_
  obtain ⟨hletters, hfallback, -, hcapital⟩ := letters_of_mem_reservedWords hk
  have hself : canonical (Text.lower k) = Text.lower k := hletters.spells.canonical_eq
  constructor
  · intro hname
    obtain ⟨c, r, hpascal, hupper⟩ := exists_pascal_canonical label
    have hlower : startsLower k = false := by
      have hrange := CodePoint.isAsciiUpper_iff.mp hupper
      rw [← hname, hpascal, startsLower, Bool.eq_false_iff, ne_eq, CodePoint.isAsciiLower_iff]
      omega
    have hclosed : closeDigits (canonical label) = Text.lower k := by
      have hword : closeDigits (Text.lower k ++ []) = Text.lower k ++ closeDigits [] :=
        closeDigits_append hletters.isWord.2 []
      rw [List.append_nil, closeDigits, List.append_nil] at hword
      rw [← hcapital hlower, ← hself, pascal_canonical_eq_iff, hself, hword] at hname
      exact hname
    have hdigits : ∀ c ∈ closeDigits (canonical label), c.isAsciiDigit = false := fun c hc =>
      CodePoint.isAsciiDigit_of_isAsciiLower (hletters.2 c (hclosed ▸ hc))
    rw [closeDigits_eq_self hdigits] at hclosed
    exact ⟨hlower, (canonical_eq_letters_iff hletters hfallback label).mp hclosed⟩
  · rintro ⟨hlower, hwords⟩
    rw [(canonical_eq_letters_iff hletters hfallback label).mpr hwords]
    exact hcapital hlower

/-- **Free names.** Both names of a label are free unless it comes to a single reserved word. -/
theorem not_isReserved_iff (label : Text) :
    ¬ IsReserved label ↔ Text.isReservedWord (canonical label) = false ∧
      Text.isReservedWord (pascal (canonical label)) = false := by
  rw [← Bool.not_eq_true, ← Bool.not_eq_true, isReservedWord_canonical_iff,
    isReservedWord_pascal_iff, ← not_or, not_iff_not]
  constructor
  · rintro ⟨k, hk, hwords⟩
    cases hlower : startsLower k with
    | true => exact .inl ⟨k, hk, hlower, hwords⟩
    | false => exact .inr ⟨k, hk, hlower, hwords⟩
  · rintro (⟨k, hk, -, hwords⟩ | ⟨k, hk, -, hwords⟩)
    · exact ⟨k, hk, hwords⟩
    · exact ⟨k, hk, hwords⟩

end Naming

/-! ## Names that may be used -/

/-- A letter with what names are made of behind it is an identifier. -/
theorem Text.isIdentifier_cons {c : CodePoint} {r : Text}
    (hfirst : c.isAsciiLower = true ∨ c.isAsciiUpper = true)
    (hrest : ∀ d ∈ r, d.isNameLetter = true ∨ d.isAsciiUpper = true ∨ d = '_') :
    isIdentifier (c :: r) = true := by
  have hstart : c.startsIdentifier = true := by
    rcases hfirst with h | h
    · have hletter : c.isNameLetter = true := Bool.or_eq_true_iff.mpr (.inl h)
      rw [CodePoint.startsIdentifier, if_pos (CodePoint.isAscii_of_isNameLetter hletter), h]
      rfl
    · rw [CodePoint.startsIdentifier, if_pos (CodePoint.isAscii_of_isAsciiUpper h), h]
      simp
  rw [isIdentifier, hstart, Bool.true_and, List.all_eq_true]
  exact fun d hd => CodePoint.continuesIdentifier_of_name (hrest d hd)

namespace Names

theorem isIdentifier_canonical (label : Text) :
    Text.isIdentifier (ofLabel label).canonical = true := by
  have hname {c : CodePoint} (hc : c ∈ (ofLabel label).canonical) :
      c.isNameLetter = true ∨ c.isAsciiUpper = true ∨ c = '_' :=
    (Naming.mem_canonical hc).imp_right .inr
  obtain ⟨_, hspells⟩ := Naming.exists_spells_canonical label
  have hlower : Naming.startsLower (ofLabel label).canonical = true := hspells.startsLower
  obtain ⟨c, r, hcons⟩ := List.exists_cons_of_ne_nil (canonical_ne_nil label)
  rw [hcons] at hname hlower ⊢
  exact Text.isIdentifier_cons (.inl hlower) fun d hd => hname (List.mem_cons_of_mem c hd)

/-- A type name is an identifier, and so is one behind letters. -/
theorem isIdentifier_append_typeName (label start : Text)
    (hstart : ∀ c ∈ start.head?, c.isAsciiUpper = true)
    (hletters : ∀ c ∈ start, c.isNameLetter = true ∨ c.isAsciiUpper = true) :
    Text.isIdentifier (start ++ (ofLabel label).typeName) = true := by
  obtain ⟨c, r, htype, hupper⟩ := Naming.exists_pascal_canonical label
  have hname : ∀ d ∈ c :: r, d.isNameLetter = true ∨ d.isAsciiUpper = true ∨ d = '_' :=
    fun d hd => (Naming.mem_pascal (htype ▸ hd)).imp_right .inl
  have htypeName : (ofLabel label).typeName = c :: r := htype
  rw [htypeName]
  cases start with
  | nil => exact Text.isIdentifier_cons (.inr hupper) (List.forall_mem_cons.mp hname).2
  | cons d s =>
    refine Text.isIdentifier_cons (.inr (hstart d rfl)) (List.forall_mem_append.mpr ⟨?_, hname⟩)
    exact fun x hx => (hletters x (List.mem_cons_of_mem d hx)).imp_right .inl

/-- The canonical name may be used unless it is reserved. -/
theorem isName_canonical_iff (label : Text) :
    Field.isName (ofLabel label).canonical = true ↔
      Text.isReservedWord (ofLabel label).canonical = false := by
  rw [Field.isName, isIdentifier_canonical, Bool.true_and, Bool.not_eq_true_eq_eq_false]

/-- So may the type name. -/
theorem isName_typeName_iff (label : Text) :
    Field.isName (ofLabel label).typeName = true ↔
      Text.isReservedWord (ofLabel label).typeName = false := by
  have hidentifier := isIdentifier_append_typeName label [] (by decide) (by decide)
  rw [List.nil_append] at hidentifier
  rw [Field.isName, hidentifier, Bool.true_and, Bool.not_eq_true_eq_eq_false]

/-- The name of a shape may be used, because no reserved word begins like it. -/
theorem isName_append_typeName (label start : Text)
    (hstart : ∀ c ∈ start.head?, c.isAsciiUpper = true)
    (hletters : ∀ c ∈ start, c.isNameLetter = true ∨ c.isAsciiUpper = true)
    (hfree : ∀ k ∈ Text.reservedWords, ¬ start <+: Text.ofString k) :
    Field.isName (start ++ (ofLabel label).typeName) = true := by
  have hreserved : Text.isReservedWord (start ++ (ofLabel label).typeName) = false := by
    rw [← Bool.not_eq_true, Naming.isReservedWord_iff]
    rintro ⟨k, hk, hname⟩
    exact hfree k hk (hname ▸ List.prefix_append start _)
  rw [Field.isName, isIdentifier_append_typeName label start hstart hletters, hreserved]
  rfl

theorem isName_shapes (label : Text) : ∀ name ∈ [(ofLabel label).insertShape,
    (ofLabel label).updateShape, (ofLabel label).selectShape], Field.isName name = true := by
  simp only [List.forall_mem_cons]
  refine ⟨?_, ?_, ?_, List.forall_mem_nil _⟩
  all_goals
    exact isName_append_typeName label _ (by decide) (by decide) (by decide +kernel)

end Names

/-! ## Imports -/

/-- An import that can be read: the module is a path of names, and names are taken from it. -/
structure Import.IsReadable (i : Import) : Prop where
  /-- Every part of the module is a name. -/
  module : ∀ part ∈ Text.splitOn '.' i.module, Field.isName part = true
  /-- What is imported are names. -/
  names : ∀ name ∈ i.names, Field.isName name = true

namespace Names

variable {label folder : Text} {names : List Text}

/-- An import from a generated module can be read if the canonical name is free and names are
imported. -/
theorem isReadable_iff (hfolder : folder = "app.models." ∨ folder = "app.schemas.") :
    Import.IsReadable ⟨folder ++ (ofLabel label).canonical, names⟩ ↔
      Text.isReservedWord (ofLabel label).canonical = false ∧
        ∀ name ∈ names, Field.isName name = true := by
  have hdot := (linkable_ofLabel label).dot
  have hsplit (place : Text) (hplace : ('.' : CodePoint) ∉ place) :
      Text.splitOn '.'
        ("app" ++ ('.' : CodePoint) :: (place ++ ('.' : CodePoint) :: (ofLabel label).canonical))
        = [Text.ofString "app", place, (ofLabel label).canonical] := by
    rw [Text.splitOn_cons_of_not_mem (by decide), Text.splitOn_cons_of_not_mem hplace,
      Text.splitOn_eq_singleton hdot]
  obtain ⟨place, hplace, hparts⟩ : ∃ place, Field.isName place = true ∧
      Text.splitOn '.' (folder ++ (ofLabel label).canonical)
        = [Text.ofString "app", place, (ofLabel label).canonical] := by
    rcases hfolder with rfl | rfl
    · exact ⟨"models", by decide +kernel, hsplit "models" (by decide)⟩
    · exact ⟨"schemas", by decide +kernel, hsplit "schemas" (by decide)⟩
  have happ : Field.isName "app" = true := by decide +kernel
  rw [← isName_canonical_iff]
  constructor
  · intro h
    have hmodule := h.module
    rw [hparts] at hmodule
    exact ⟨hmodule _ (List.mem_cons_of_mem _ (List.mem_cons_of_mem _ List.mem_cons_self)), h.names⟩
  · rintro ⟨hcanonical, hnames⟩
    refine ⟨?_, hnames⟩
    rw [hparts]
    simp only [List.forall_mem_cons]
    exact ⟨happ, hplace, hcanonical, List.forall_mem_nil _⟩

/-- The import of a model and any import of shapes can be read exactly when both names are free. -/
theorem isReadable_imports_iff {shapes : List Text} (hshapes : shapes ⊆
      [(ofLabel label).insertShape, (ofLabel label).updateShape, (ofLabel label).selectShape]) :
    (∀ i ∈ [(ofLabel label).modelImport, (ofLabel label).shapesImport shapes], i.IsReadable) ↔
      ¬ Naming.IsReserved label := by
  have hmodel : (ofLabel label).modelImport.IsReadable ↔
      Text.isReservedWord (ofLabel label).canonical = false ∧
        Text.isReservedWord (ofLabel label).typeName = false := by
    rw [modelImport, modelModule, isReadable_iff (.inl rfl), List.forall_mem_singleton, model,
      isName_typeName_iff]
  have hshape : ((ofLabel label).shapesImport shapes).IsReadable ↔
      Text.isReservedWord (ofLabel label).canonical = false := by
    rw [shapesImport, shapesModule, isReadable_iff (.inr rfl), and_iff_left_iff_imp]
    exact fun _ name hname => isName_shapes label name (hshapes hname)
  have hfree : ¬ Naming.IsReserved label ↔ _ := Naming.not_isReserved_iff label
  simp only [List.forall_mem_cons]
  rw [hmodel, hshape, hfree]
  constructor
  · rintro ⟨hboth, -, -⟩
    exact hboth
  · intro hboth
    exact ⟨hboth, hboth.1, List.forall_mem_nil _⟩

end Names

/-! ## Declared classes -/

namespace Text

/-- The name of the class that is declared on a line, if one is. -/
def className? (line : Text) : Option Text :=
  (dropStart? "class " line).bind fun rest => (cutAtFirst? "(" rest).map Prod.fst

/-- The classes that are declared in a text, in the order of its lines. -/
def classNames (t : Text) : List Text := (splitOn newline t).filterMap className?

theorem className?_of_passes {line : Text} (h : Passes "class " line) : className? line = none := by
  rw [className?, h.dropStart?_eq]
  rfl

theorem className?_of_isIndented {line : Text} (h : isIndented line = true) :
    className? line = none := by
  cases hrest : dropStart? "class " line with
  | none => rw [className?, hrest, Option.bind_none]
  | some rest =>
    obtain rfl := dropStart?_eq_some_iff.mp hrest
    exact absurd h Bool.false_ne_true

theorem className?_head {k : ModuleClass} (h : k.IsSound) : className? k.head = some k.name := by
  have hhead : k.head = "class " ++ (k.name ++ ("(" ++ (k.base ++ "):"))) := by
    rw [ModuleClass.head]
    simp only [List.append_assoc]
  have hcut : cutAtFirst? "(" (k.name ++ ("(" ++ (k.base ++ "):")))
      = some (k.name, k.base ++ "):") := cutAtFirst?_append h.name _
  rw [className?, hhead, dropStart?_append, Option.bind_some, hcut, Option.map_some]

/-- A module of classes declares these classes. -/
theorem classNames_unlines {header : List Text} {classes : List ModuleClass}
    (hheader : ∀ line ∈ header, Passes "class " line) (hsound : ∀ k ∈ classes, k.IsSound)
    (hne : header ++ classes.flatMap ModuleClass.lines ≠ [])
    (hlines : ∀ line ∈ header ++ classes.flatMap ModuleClass.lines, newline ∉ line) :
    classNames (unlines (header ++ classes.flatMap ModuleClass.lines))
      = classes.map ModuleClass.name := by
  have hsplit : splitOn newline (unlines (header ++ classes.flatMap ModuleClass.lines))
      = header ++ classes.flatMap ModuleClass.lines := splitOn_join hne hlines
  have hnone : header.filterMap className? = [] :=
    List.filterMap_eq_nil_iff.mpr fun line hline => className?_of_passes (hheader line hline)
  have hclass : ∀ k ∈ classes, k.lines.filterMap className? = [k.name] := fun k hk => by
    have hbody : k.body.filterMap className? = [] :=
      List.filterMap_eq_nil_iff.mpr fun line hline =>
        className?_of_isIndented ((hsound k hk).body line hline)
    rw [ModuleClass.lines, List.filterMap_cons_some (className?_head (hsound k hk)), hbody]
  rw [classNames, hsplit, List.filterMap_append, hnone, List.nil_append, List.filterMap_flatMap,
    List.flatMap_congr hclass, ← List.map_eq_flatMap]

end Text

/-- A model declares the class of the entity. -/
theorem Model.classNames_modelText {e : Entity} (h : e.IsBuilt) :
    Text.classNames e.modelText = [e.names.model] := by
  have hlines := isLine_lines h
  rw [lines_eq, ← List.flatMap_singleton ModuleClass.lines] at hlines
  rw [Entity.modelText, lines_eq, ← List.flatMap_singleton ModuleClass.lines]
  exact Text.classNames_unlines
    (fun line hline => (passes_before e.name e.description line hline).1)
    (List.forall_mem_singleton.mpr (isSound_tableClass e))
    (List.append_ne_nil_of_right_ne_nil _ (List.cons_ne_nil _ _))
    fun line hline => (hlines line hline).newline_not_mem

/-- The shapes declare the three classes of shapes. -/
theorem Shapes.classNames_shapesText {e : Entity} (h : e.IsBuilt) :
    Text.classNames e.shapesText
      = [e.names.insertShape, e.names.updateShape, e.names.selectShape] := by
  rw [Entity.shapesText, lines_eq]
  exact Text.classNames_unlines (passes_header e.name) (fun l hl => (isSound_classes h l hl).1)
    (List.append_ne_nil_of_right_ne_nil _ (List.cons_ne_nil _ _)) (newline_not_mem_lines h)

/-! ## Headers -/

/-- Every import of a generated module in a file can be read. -/
def Artifact.ImportsReadably (a : Artifact) : Prop := ∀ i ∈ a.imports, i.IsReadable

/-- Every class that a file declares has a name. -/
def Artifact.DeclaresReadably (a : Artifact) : Prop :=
  ∀ name ∈ Text.classNames a.content, Field.isName name = true

namespace Entity

variable {label description : Text} {raws : List Json} {e : Entity}

/-- An entity has the names of the label it is built from. -/
theorem names_of_build (h : build label description raws = .ok e) :
    e.names = Names.ofLabel label := by
  obtain ⟨_, -, hlast⟩ := Effect.result_bind_ok_iff.mp h
  obtain rfl := Except.ok.inj hlast
  exact Names.ofLabel_canonical label

/-- **Headers.** The canonical name and the type name of an entity are both free exactly when its
label does not come to a single reserved word. The shapes can always be read. A model can be read
exactly when the type name is free, and an endpoint and a seed module exactly when both names are,
whatever the operations, the route and the rows. -/
theorem headers_readable_iff (hbuild : build label description raws = .ok e) :
    (¬ Naming.IsReserved label ↔ Text.isReservedWord e.names.canonical = false ∧
      Text.isReservedWord e.names.typeName = false) ∧
    (∀ schema, e.compileSchema = .ok schema →
      (schema.model.DeclaresReadably ↔ Text.isReservedWord e.names.typeName = false) ∧
      schema.shapes.DeclaresReadably ∧ Text.classNames schema.shapes.content
        = [e.names.insertShape, e.names.updateShape, e.names.selectShape]) ∧
    (∀ methods route a, compileEndpoint label methods route = .ok a →
      (a.ImportsReadably ↔ ¬ Naming.IsReserved label)) ∧
    ∀ rows a, e.compileSeed rows = .ok a → (a.ImportsReadably ↔ ¬ Naming.IsReserved label) := by
  have hnames := names_of_build hbuild
  obtain ⟨hbuilt, -⟩ := isBuilt_of_build hbuild
  refine ⟨?_, fun schema hschema => ?_, fun methods route a hcompile => ?_,
    fun rows a hcompile => ?_⟩
  · rw [hnames]
    exact Naming.not_isReserved_iff label
  · obtain ⟨-, rfl⟩ := compileSchema_ok_iff.mp hschema
    have hmodel := Model.classNames_modelText hbuilt
    have hshapes := Shapes.classNames_shapesText hbuilt
    refine ⟨?_, ?_, hshapes⟩
    · rw [Artifact.DeclaresReadably, hmodel, List.forall_mem_singleton]
      exact Names.isName_typeName_iff e.name
    · rw [Artifact.DeclaresReadably, hshapes]
      exact Names.isName_shapes e.name
  · rw [Artifact.ImportsReadably, imports_compileEndpoint hcompile]
    exact Names.isReadable_imports_iff (by simp)
  · rw [Artifact.ImportsReadably, imports_compileSeed hcompile, hnames]
    exact Names.isReadable_imports_iff (by simp)

/-- The modules for blog posts can be read. -/
theorem headers_readable_of_blogPost :
    let e : Entity := ⟨"blog_post", [], [⟨"title", .longText, []⟩]⟩
    build "Blog Post" [] [.obj [("name", .str "title")]] = .ok e ∧
      ∃ schema a b, e.compileSchema = .ok schema ∧
        compileEndpoint "Blog Post" Method.everything none = .ok a ∧
        e.compileSeed [[("title", .str "first")]] = .ok b ∧
        schema.model.DeclaresReadably ∧ a.ImportsReadably ∧ b.ImportsReadably := by
  intro e
  have hbuild : build "Blog Post" [] [.obj [("name", .str "title")]] = .ok e := rfl
  have hcolumns : e.checkColumns = .ok () := rfl
  have hselect : Method.select Method.everything = .ok Method.all := rfl
  have hrows : Seed.checkRows e [[("title", .str "first")]] = .ok [[("title", .str "first")]] := rfl
  obtain ⟨schema, hschema⟩ : ∃ schema, e.compileSchema = .ok schema :=
    ⟨_, compileSchema_ok_iff.mpr ⟨hcolumns, rfl⟩⟩
  obtain ⟨a, ha⟩ : ∃ a, compileEndpoint "Blog Post" Method.everything none = .ok a :=
    ⟨_, Effect.result_bind_ok_iff.mpr ⟨_, hselect, rfl⟩⟩
  obtain ⟨b, hb⟩ : ∃ b, e.compileSeed [[("title", .str "first")]] = .ok b :=
    ⟨_, Effect.result_bind_ok_iff.mpr ⟨(), hcolumns,
      Effect.result_bind_ok_iff.mpr ⟨_, hrows, rfl⟩⟩⟩
  obtain ⟨hfree, hclasses, hendpoint, hseed⟩ := headers_readable_iff hbuild
  have hlabel : ¬ Naming.IsReserved "Blog Post" := by decide +kernel
  exact ⟨hbuild, schema, a, b, hschema, ha, hb, (hclasses schema hschema).1.mpr (hfree.mp hlabel).2,
    (hendpoint _ none a ha).mpr hlabel, (hseed _ b hb).mpr hlabel⟩

/-- An entity that is called `class` is accepted, and its endpoint imports from a module of this
name. -/
theorem class_is_reserved :
    Text.isReservedWord (Names.ofLabel "class").canonical = true ∧
      ∃ a, compileEndpoint "class" [.str "GET"] none = .ok a ∧ ¬ a.ImportsReadably := by
  have hselect : Method.select [.str "GET"] = .ok [.get] := rfl
  obtain ⟨a, ha⟩ : ∃ a, compileEndpoint "class" [.str "GET"] none = .ok a :=
    ⟨_, Effect.result_bind_ok_iff.mpr ⟨_, hselect, rfl⟩⟩
  have hreserved : Text.isReservedWord (Names.ofLabel "class").canonical = true := by
    decide +kernel
  refine ⟨hreserved, a, ha, fun himports => ?_⟩
  rw [Artifact.ImportsReadably, imports_compileEndpoint ha] at himports
  have hmodule := himports (Names.ofLabel "class").modelImport List.mem_cons_self
  rw [Names.modelImport, Names.modelModule, Names.isReadable_iff (.inl rfl), hreserved] at hmodule
  exact Bool.false_ne_true hmodule.1.symm

end Entity

end Tablewright
