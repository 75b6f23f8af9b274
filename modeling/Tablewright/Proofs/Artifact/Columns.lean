/-
When the columns of an entity are in order.

The check goes through the fields once and knows the columns of those before. What it comes to does
not depend on the order of the fields: it passes exactly when no field takes a reserved name, none
has a reserved column and no two have one column (`Entity.checkColumns_ok_iff`). A schema is
compiled exactly then, and whatever is turned down is a naming conflict.

What the columns are called is not looked at. A field from whose name no word is left passes with
the empty text for its column, and it is the only one that does.
-/
import Mathlib.Data.List.Nodup
import Tablewright.Artifact.Bundle
import Tablewright.Proofs.Action
import Tablewright.Proofs.Naming.Snake

set_option autoImplicit false

namespace Tablewright

/-- The names no field and no column of a field may have. -/
def reservedNames : List Text := reservedFields.map Text.ofString

theorem isReservedField_iff {name : Text} : isReservedField name = true ↔ name ∈ reservedNames := by
  simp [isReservedField, reservedNames]

/-- An entity whose fields keep clear of the columns every table has and of one another. -/
structure Entity.ColumnsApart (e : Entity) : Prop where
  /-- No field is called by a reserved name. -/
  name : ∀ f ∈ e.fields, f.name ∉ reservedNames
  /-- No field comes to a reserved column. -/
  column : ∀ f ∈ e.fields, f.column ∉ reservedNames
  /-- No two fields come to one column. -/
  nodup : (e.fields.map Field.column).Nodup

/-! ## The check -/

section

variable {entity : Text} {taken : List (Text × Text)} {fs : List Field} {f : Field}

theorem find?_taken_eq_none_iff {column : Text} :
    (taken.find? fun t => t.1 = column) = none ↔ column ∉ taken.map Prod.fst := by
  rw [List.find?_eq_none, List.mem_map]
  constructor
  · rintro h ⟨t, ht, rfl⟩
    exact h t ht (decide_eq_true rfl)
  · intro h t ht hcolumn
    exact h ⟨t, ht, of_decide_eq_true hcolumn⟩

/-- A field passes the check exactly when its name and its column are free, and the check goes on
with its column taken. -/
theorem checkColumnsFrom_cons_ok_iff :
    checkColumnsFrom entity taken (f :: fs) = .ok () ↔
      (f.name ∉ reservedNames ∧ f.column ∉ reservedNames ∧ f.column ∉ taken.map Prod.fst) ∧
        checkColumnsFrom entity (taken ++ [(f.column, f.name)]) fs = .ok () := by
  rw [checkColumnsFrom, ← isReservedField_iff, ← isReservedField_iff, ← find?_taken_eq_none_iff]
  by_cases hname : isReservedField f.name = true
  · simp [hname]
  · rw [if_neg hname]
    dsimp only
    cases htaken : taken.find? fun t => t.1 = f.column with
    | some holder => simp
    | none =>
      by_cases hcolumn : isReservedField f.column = true
      · simp [hcolumn]
      · simp [hname, hcolumn]

/-- The check from given columns on passes exactly when the names and the columns of the fields are
free and the columns differ. -/
theorem checkColumnsFrom_ok_iff :
    checkColumnsFrom entity taken fs = .ok () ↔
      (∀ f ∈ fs, f.name ∉ reservedNames ∧ f.column ∉ reservedNames ∧
        f.column ∉ taken.map Prod.fst) ∧ (fs.map Field.column).Nodup := by
  induction fs generalizing taken with
  | nil => simp [checkColumnsFrom]
  | cons f fs ih =>
    rw [checkColumnsFrom_cons_ok_iff, ih, List.forall_mem_cons, List.map_cons, List.nodup_cons,
      List.map_append, List.map_singleton]
    -- a later field differs from this one and from those before
    have hlater : (∀ g ∈ fs, g.name ∉ reservedNames ∧ g.column ∉ reservedNames ∧
          g.column ∉ taken.map Prod.fst ++ [f.column]) ↔
        (∀ g ∈ fs, g.name ∉ reservedNames ∧ g.column ∉ reservedNames ∧
          g.column ∉ taken.map Prod.fst) ∧ f.column ∉ fs.map Field.column := by
      simp only [List.mem_append, List.mem_singleton, not_or, List.mem_map, not_exists, not_and]
      constructor
      · intro h
        exact ⟨fun g hg => ⟨(h g hg).1, (h g hg).2.1, (h g hg).2.2.1⟩, fun g hg => (h g hg).2.2.2⟩
      · rintro ⟨hfree, hother⟩ g hg
        obtain ⟨hname, hcolumn, htaken⟩ := hfree g hg
        exact ⟨hname, hcolumn, htaken, hother g hg⟩
    rw [hlater]
    simp only [and_assoc]

/-- Columns that are turned down are a naming conflict. -/
theorem kind_of_checkColumnsFrom {r : Refusal} (h : checkColumnsFrom entity taken fs = .error r) :
    r.kind = .namingConflict := by
  induction fs generalizing taken with
  | nil => cases h
  | cons f fs ih =>
    rw [checkColumnsFrom] at h
    split at h
    case isTrue =>
      cases h
      rfl
    case isFalse =>
      dsimp only at h
      split at h
      case h_1 =>
        cases h
        rfl
      case h_2 =>
        split at h
        case isTrue =>
          cases h
          rfl
        case isFalse => exact ih h

end

namespace Entity

variable {e : Entity} {schema : Schema} {r : Refusal}

/-- **The columns of an entity.** They pass the check exactly when the fields keep clear of the
columns every table has and of one another. -/
theorem checkColumns_ok_iff : e.checkColumns = .ok () ↔ e.ColumnsApart := by
  rw [checkColumns, checkColumnsFrom_ok_iff]
  constructor
  · rintro ⟨hfree, hnodup⟩
    exact ⟨fun f hf => (hfree f hf).1, fun f hf => (hfree f hf).2.1, hnodup⟩
  · intro h
    exact ⟨fun f hf => ⟨h.name f hf, h.column f hf, List.not_mem_nil⟩, h.nodup⟩

theorem kind_of_checkColumns (h : e.checkColumns = .error r) : r.kind = .namingConflict :=
  kind_of_checkColumnsFrom h

/-! ## The schema -/

/-- What is compiled as a schema. -/
theorem compileSchema_ok_iff :
    e.compileSchema = .ok schema ↔
      e.checkColumns = .ok () ∧
        schema = { model := ⟨.schema, e.name, ArtifactKind.schema.path e.name, e.modelText⟩
                   shapes := ⟨.typeDefinitions, e.name, ArtifactKind.typeDefinitions.path e.name,
                     e.shapesText⟩ } := by
  constructor
  · intro h
    obtain ⟨_, hcheck, hlast⟩ := Effect.result_bind_ok_iff.mp h
    exact ⟨hcheck, (Except.ok.inj hlast).symm⟩
  · rintro ⟨hcheck, rfl⟩
    exact Effect.result_bind_ok_iff.mpr ⟨(), hcheck, rfl⟩

/-- A schema is refused exactly where its columns are turned down. -/
theorem compileSchema_error_iff : e.compileSchema = .error r ↔ e.checkColumns = .error r := by
  rw [compileSchema, Effect.result_bind_error_iff]
  refine or_iff_left ?_
  rintro ⟨_, -, h⟩
  cases h

/-- A schema is compiled exactly when the columns are apart. -/
theorem exists_compileSchema_iff : (∃ schema, e.compileSchema = .ok schema) ↔ e.ColumnsApart := by
  rw [← checkColumns_ok_iff]
  constructor
  · rintro ⟨_, h⟩
    exact (compileSchema_ok_iff.mp h).1
  · intro h
    exact ⟨_, compileSchema_ok_iff.mpr ⟨h, rfl⟩⟩

/-! ## The names of columns -/

/-- **Usable columns.** Where a schema is compiled, the column of a field has a usable name exactly
if something in the name of the field gives a letter. Otherwise its name is empty, and there is at
most one such field. -/
theorem usable_columns (hschema : e.compileSchema = .ok schema) :
    (∀ f ∈ e.fields, Text.isSnakeCase f.column = true ↔ ∃ c ∈ f.name, c.givesLetter = true) ∧
      (∀ f ∈ e.fields, Text.isSnakeCase f.column = true ∨ f.column = []) ∧
      ∀ f ∈ e.fields, ∀ g ∈ e.fields, f.column = [] → g.column = [] → f = g := by
  have hapart := exists_compileSchema_iff.mp ⟨schema, hschema⟩
  refine ⟨fun f _ => Naming.isSnakeCase_snake_iff f.name, fun f _ => ?_,
    fun f hf g hg hfe hge => ?_⟩
  · rcases em (∃ c ∈ f.name, c.givesLetter = true) with hletter | hnone
    · exact .inl ((Naming.isSnakeCase_snake_iff f.name).mpr hletter)
    · exact .inr (Naming.snake_eq_nil (not_not.mp (mt (Naming.words_ne_nil_iff f.name).mp hnone)))
  · exact List.inj_on_of_nodup_map hapart.nodup hf hg (hfe.trans hge.symm)

/-- A title has a usable column, and an underscore beside it has none. -/
theorem usable_columns_of_title :
    let title : Field := ⟨"mainTitle", .longText, []⟩
    let blank : Field := ⟨"_", .longText, []⟩
    (∃ schema, compileSchema ⟨"book", [], [title, blank]⟩ = .ok schema) ∧
      Text.isSnakeCase title.column = true ∧ ¬ Text.isSnakeCase blank.column = true := by
  intro title blank
  have hcompile : ∃ schema, compileSchema ⟨"book", [], [title, blank]⟩ = .ok schema :=
    exists_compileSchema_iff.mpr { name := by decide, column := by decide, nodup := by decide }
  obtain ⟨_, hschema⟩ := hcompile
  obtain ⟨husable, -, -⟩ := usable_columns hschema
  exact ⟨⟨_, hschema⟩, (husable title List.mem_cons_self).mpr (by decide),
    mt (husable blank (List.mem_cons_of_mem _ List.mem_cons_self)).mp (by decide)⟩

/-- A field that is called by an underscore is accepted, and its column has no name. -/
theorem underscore_has_no_column :
    let f : Field := ⟨"_", .longText, []⟩
    build "a" [] [.obj [("name", .str "_")]] = .ok ⟨"a", [], [f]⟩ ∧
      (∃ schema, compileSchema ⟨"a", [], [f]⟩ = .ok schema) ∧ f.column = [] ∧
      Text.isSnakeCase f.column = false := by
  intro f
  exact ⟨rfl, exists_compileSchema_iff.mpr
    { name := by decide, column := by decide, nodup := by decide }, rfl, by decide⟩

end Entity

end Tablewright
