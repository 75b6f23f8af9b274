/-
Which generated files can be stored.

Names and routes are made of small letters, digits and a few joints, so a generated endpoint and a
generated hook always have an encoding. A schema repeats the user's words in two places, the
description and the names of the fields; it has an encoding when these have one.
-/
import Tablewright.Artifact.Bundle
import Tablewright.Artifact.Endpoint
import Tablewright.Artifact.Hook
import Tablewright.Proofs.Action
import Tablewright.Proofs.Artifact.Filling
import Tablewright.Proofs.Naming.Words
import Tablewright.Proofs.Text.Utf8

set_option autoImplicit false

namespace Tablewright

/-! ## Names -/

/-- Only code points beyond ASCII are surrogates. -/
theorem CodePoint.isSurrogate_of_isAscii {c : CodePoint} (h : c.isAscii = true) :
    c.isSurrogate = false := by
  have hlt : c.val < 128 := by simpa [isAscii] using h
  have hnot : ¬ 0xD800 ≤ c.val := by omega
  simp [isSurrogate, hnot]

/-- An ASCII text has an encoding. -/
theorem Text.hasEncoding_of_isAscii {t : Text} (h : ∀ c ∈ t, c.isAscii = true) : t.HasEncoding :=
  hasEncoding_iff.mpr fun c hc => CodePoint.isSurrogate_of_isAscii (h c hc)

namespace Names

@[simp] theorem hasEncoding_canonical (label : Text) : (ofLabel label).canonical.HasEncoding := by
  refine Text.hasEncoding_of_isAscii fun c hc => ?_
  rcases Naming.mem_canonical hc with hletter | rfl
  · exact CodePoint.isAscii_of_isNameLetter hletter
  · rfl

@[simp] theorem hasEncoding_typeName (label : Text) : (ofLabel label).typeName.HasEncoding := by
  refine Text.hasEncoding_of_isAscii fun c hc => ?_
  rcases Naming.mem_pascal hc with hletter | hcapital
  · exact CodePoint.isAscii_of_isNameLetter hletter
  · exact CodePoint.isAscii_of_isAsciiUpper hcapital

@[simp] theorem hasEncoding_hookName (label : Text) : (ofLabel label).hookName.HasEncoding :=
  Text.hasEncoding_append.mpr ⟨Text.hasEncoding_ofString "use", hasEncoding_typeName label⟩

end Names

@[simp] theorem Route.hasEncoding_path (entity : Text) (route : Option Text) :
    (Route.path entity route).HasEncoding := by
  refine Text.hasEncoding_of_isAscii fun c hc => ?_
  rcases Route.mem_path hc with hletter | rfl | rfl
  · exact CodePoint.isAscii_of_isNameLetter hletter
  · rfl
  · rfl

/-! ## Endpoints and hooks -/

/-- What is put in place of a piece of a hook's template has an encoding. -/
theorem Hook.Piece.hasEncoding_fill (label : Text) {route : Text} (hroute : route.HasEncoding)
    (p : Piece) : (p.fill (Names.ofLabel label) route).HasEncoding := by
  cases p with
  | fixed s => exact Text.hasEncoding_ofString s
  | table => exact Names.hasEncoding_canonical label
  | typeName => exact Names.hasEncoding_typeName label
  | hookName => exact Names.hasEncoding_hookName label
  | route => exact hroute

/-- A generated hook has an encoding. -/
theorem hasEncoding_compileHook (entity : Text) (route : Option Text) :
    (compileHook entity route).content.HasEncoding := by
  rw [Hook.content_compileHook]
  refine Text.HasEncoding.unlines fun line hline => ?_
  obtain ⟨pieces, -, rfl⟩ := List.mem_map.mp hline
  rw [Text.hasEncoding_iff]
  intro c hc
  obtain ⟨p, -, hp⟩ := List.mem_flatMap.mp hc
  exact Text.hasEncoding_iff.mp
    (Hook.Piece.hasEncoding_fill entity (Route.hasEncoding_path entity route) p) c hp

/-- The handlers of an endpoint have encodings. -/
theorem Endpoint.hasEncoding_handler (label : Text) (m : Method) :
    ∀ line ∈ Endpoint.handler (Names.ofLabel label) m, line.HasEncoding := by
  cases m <;> simp [handler, readHandler, createHandler, updateHandler, deleteHandler, Names.model,
    Names.insertShape, Names.updateShape]

/-- The lines before the handlers have encodings. -/
theorem Endpoint.hasEncoding_head (label : Text) {route : Text} (hroute : route.HasEncoding) :
    ∀ line ∈ Endpoint.head (Names.ofLabel label) route, line.HasEncoding := by
  simp [head, hroute, Names.model, Names.insertShape, Names.selectShape, Names.updateShape]

/-- A generated endpoint has an encoding. -/
theorem hasEncoding_compileEndpoint {entity : Text} {methods : List Json} {route : Option Text}
    {a : Artifact} (h : compileEndpoint entity methods route = .ok a) :
    a.content.HasEncoding := by
  obtain ⟨selected, -, hlast⟩ := Effect.result_bind_ok_iff.mp h
  obtain rfl := Except.ok.inj hlast
  refine Text.HasEncoding.unlines fun line hline => ?_
  rcases List.mem_append.mp hline with hbefore | hend
  · rcases List.mem_append.mp hbefore with hhead | hhandlers
    · exact Endpoint.hasEncoding_head entity (Route.hasEncoding_path entity route) line hhead
    · obtain ⟨m, -, hm⟩ := List.mem_flatMap.mp hhandlers
      rcases List.mem_append.mp hm with hblank | hhandler
      · obtain rfl : line = [] := by simpa using hblank
        exact Text.hasEncoding_nil
      · exact Endpoint.hasEncoding_handler entity m line hhandler
  · obtain rfl := List.mem_singleton.mp hend
    exact Text.hasEncoding_nil

/-! ## Schemas -/

/-- A text with its blanks collapsed has an encoding when the text has one. -/
theorem Text.HasEncoding.collapse {t : Text} (h : t.HasEncoding) :
    (Text.collapse t).HasEncoding := by
  refine HasEncoding.join (hasEncoding_ofString " ") fun word hword => ?_
  rw [hasEncoding_iff] at h ⊢
  intro c hc
  exact h c (mem_of_mem_pieces hword hc)

/-- The name of a column is ASCII, whatever the field is called. -/
@[simp] theorem Field.hasEncoding_column (f : Field) : f.column.HasEncoding := by
  refine Text.hasEncoding_of_isAscii fun c hc => ?_
  rcases Naming.mem_snake hc with hletter | rfl
  · exact CodePoint.isAscii_of_isNameLetter hletter
  · rfl

/-- The line of a column has an encoding when the name of its field has one. -/
theorem Field.hasEncoding_columnLine {f : Field} (h : f.name.HasEncoding) :
    f.columnLine.HasEncoding := by
  have harguments : (Text.join ", " (("\"" ++ f.column ++ "\"") :: f.kind.columnType
      :: f.constraints.map Constraint.columnArgument)).HasEncoding := by
    refine Text.HasEncoding.join (Text.hasEncoding_ofString _) fun t ht => ?_
    rcases List.mem_cons.mp ht with rfl | ht
    · simp
    rcases List.mem_cons.mp ht with rfl | ht
    · cases f.kind <;> exact Text.hasEncoding_ofString _
    · obtain ⟨k, -, rfl⟩ := List.mem_map.mp ht
      cases k <;> exact Text.hasEncoding_ofString _
  simp only [columnLine, Text.hasEncoding_append, Text.hasEncoding_ofString, h, harguments,
    and_self]

theorem Field.hasEncoding_attributeLine {f : Field} (h : f.name.HasEncoding) (optional : Bool) :
    (f.attributeLine optional).HasEncoding := by
  have htype : f.kind.attributeType.HasEncoding := by
    cases f.kind <;> exact Text.hasEncoding_ofString _
  cases optional <;> simp [attributeLine, h, htype]

/-- The words of the user that a schema repeats have encodings. -/
structure Entity.HasEncoding (e : Entity) : Prop where
  description : e.description.HasEncoding
  fields : ∀ f ∈ e.fields, f.name.HasEncoding

/-- A generated model has an encoding when the words of the user have one. -/
theorem Entity.HasEncoding.modelText {e : Entity} (h : e.HasEncoding) :
    e.modelText.HasEncoding := by
  refine Text.HasEncoding.unlines ?_
  have hfields : ∀ line ∈ e.fields.map Field.columnLine, line.HasEncoding := by
    intro line hline
    obtain ⟨f, hf, rfl⟩ := List.mem_map.mp hline
    exact Field.hasEncoding_columnLine (h.fields f hf)
  have hcomment : ∀ line ∈ Model.comment e.description, line.HasEncoding := by
    rw [Model.comment]
    split
    · exact List.forall_mem_nil _
    · simp [h.description.collapse]
  simp only [Model.lines, List.forall_mem_append]
  refine ⟨⟨⟨⟨⟨?_, hcomment⟩, ?_⟩, hfields⟩, ?_⟩, ?_⟩
  · simp [Model.header, Entity.names]
  · simp [Model.classHead, Entity.names]
  · simp [Model.implicitColumns]
  · simp

/-- Generated shapes have an encoding when the words of the user have one. -/
theorem Entity.HasEncoding.shapesText {e : Entity} (h : e.HasEncoding) :
    e.shapesText.HasEncoding := by
  refine Text.HasEncoding.unlines ?_
  have hfields : ∀ optional : Field → Bool,
      ∀ line ∈ e.fields.map (fun f => f.attributeLine (optional f)), line.HasEncoding := by
    intro optional line hline
    obtain ⟨f, hf, rfl⟩ := List.mem_map.mp hline
    exact Field.hasEncoding_attributeLine (h.fields f hf) (optional f)
  simp only [Shapes.lines, Shapes.insertLines, Shapes.updateLines, Shapes.selectLines,
    List.forall_mem_append]
  refine ⟨⟨⟨⟨⟨⟨?_, ?_, hfields _⟩, ?_⟩, ?_, hfields _⟩, ?_⟩, ⟨?_, hfields _⟩, ?_⟩, ?_⟩
  all_goals simp [Shapes.header, Shapes.classHead, Shapes.strict, Shapes.implicitAttributes,
    Entity.names, Names.insertShape, Names.updateShape, Names.selectShape]

/-- Both artifacts of a schema have an encoding when the words of the user have one. -/
theorem hasEncoding_compileSchema {e : Entity} {schema : Schema} (h : e.HasEncoding)
    (hcompile : e.compileSchema = .ok schema) :
    schema.model.content.HasEncoding ∧ schema.shapes.content.HasEncoding := by
  obtain ⟨_, -, hlast⟩ := Effect.result_bind_ok_iff.mp hcompile
  obtain rfl := Except.ok.inj hlast
  exact ⟨h.modelText, h.shapesText⟩

end Tablewright
