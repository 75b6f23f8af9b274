/-
The object of an entity is an input of the tool that creates it.

What an entity shows of itself is in full form for the tool's contract, and an entity is built from
this form again. The form is determined by its text, on one line or indented, so the text that the
engine is shown of an entity can be proposed as it stands, and comes back as the very entity
(`Entity.IsBuilt.parse_draft`).
-/
import Tablewright.Conversation.Message
import Tablewright.Proofs.Entity.Built
import Tablewright.Proofs.Json.RoundTrip
import Tablewright.Proofs.Tool.Contract
import Tablewright.Proofs.Text.Split
import Tablewright.Tool.Input

set_option autoImplicit false

namespace Tablewright

/-! ## Fields -/

/-- What a field shows of itself is in full form. -/
theorem Field.isFull_toJson (f : Field) : fieldRecord.IsFull f.toJson :=
  Shape.Fills.isFull (.cons (Shape.isFull_text _) (.cons (Shape.isFull_text _)
    (.cons (Shape.isFull_texts _) .nil))) (by decide) "FieldInput"

/-- What a built field shows of itself is determined by its text. -/
theorem Field.IsBuilt.isDetermined {f : Field} (h : f.IsBuilt) (depth : Nat) :
    f.toJson.IsDetermined (depth + 2) := by
  have hkeys : [Text.ofString "name", "kind", "constraints"].Nodup := by decide
  have hkind : f.kind.label.HasEncoding := by
    cases f.kind <;> exact Text.hasEncoding_ofString _
  refine .obj hkeys (by simp) ?_
  simp only [List.forall_mem_cons]
  refine ⟨.str h.hasEncoding, .str hkind, .arr fun v hv => ?_, List.forall_mem_nil _⟩
  obtain ⟨t, ht, rfl⟩ := List.mem_map.mp hv
  obtain ⟨c, -, rfl⟩ := List.mem_map.mp ht
  cases c <;> exact .str (Text.hasEncoding_ofString _)

/-- A field is given by what it shows of itself. -/
theorem FieldInput.toJson_ofMembers (f : Field) :
    (FieldInput.ofMembers f.toJson.asMembers).toJson = f.toJson := by
  have hinput : FieldInput.ofMembers f.toJson.asMembers
      = ⟨f.name, f.kind.label,
        ((f.constraints.map Constraint.label).map Json.str).map Json.asText⟩ :=
    rfl
  have htexts : ∀ ts : List Text, (ts.map Json.str).map Json.asText = ts := fun ts => by
    rw [List.map_map]
    exact List.map_id' ts
  rw [hinput, htexts]
  rfl

/-! ## Lists -/

namespace JsonWriter

variable {layout : Layout} {d : Nat} {vs : List Json} {v : Json}

theorem infix_items (h : v ∈ vs) : value layout (d + 1) v <:+: items layout d vs := by
  induction vs with
  | nil => cases h
  | cons u us ih =>
    rw [items]
    rcases List.mem_cons.mp h with rfl | hrest
    · exact List.infix_append _ _ _
    · exact (ih hrest).trans (List.suffix_append _ _).isInfix

/-- An item is written inside its list. -/
theorem infix_arr (h : v ∈ vs) : value layout (d + 1) v <:+: value layout d (.arr vs) := by
  cases vs with
  | nil => cases h
  | cons u us =>
    rw [value, List.append_assoc, List.append_assoc]
    rcases List.mem_cons.mp h with rfl | hrest
    · exact List.infix_append _ _ _
    · refine ((infix_items hrest).trans ?_).trans (List.suffix_append _ _).isInfix
      exact (List.prefix_append _ _).isInfix

end JsonWriter

/-! ## Entities -/

namespace Entity

/-- The members an entity shows of itself. -/
def members (e : Entity) : Members := e.toJson.asMembers

/-- What an entity shows of itself is in full form. -/
theorem isFull_toJson (e : Entity) : ToolName.createSchema.contract.IsFull e.toJson :=
  Shape.Fills.isFull (.cons (Shape.isFull_text _) (.cons (Shape.isFull_text _)
    (.cons (Shape.isFull_list fun v hv => by
      obtain ⟨f, -, rfl⟩ := List.mem_map.mp hv
      exact f.isFull_toJson) .nil))) (by decide) "CreateSchemaInput"

/-! ## Texts -/

/-- The texts that stand for an entity between the engine and the program: on one line, and indented
as an item of a list. -/
inductive Draft (e : Entity) : Text → Prop
  | line : Draft e e.toJson.write
  | indented (d : Nat) : Draft e (JsonWriter.value JsonWriter.indented d e.toJson)

/-- A draft is the object in a layout of blanks. -/
theorem Draft.exists_layout {e : Entity} {text : Text} (h : e.Draft text) :
    ∃ layout : JsonWriter.Layout, layout.IsSpaced ∧
      ∃ d, text = JsonWriter.value layout d e.toJson := by
  cases h with
  | line => exact ⟨_, JsonWriter.isSpaced_oneLine, 0, rfl⟩
  | indented d => exact ⟨_, JsonWriter.isSpaced_indented, d, rfl⟩

/-- The opening of a run shows a draft of every entity that was found in the request. -/
theorem exists_draft_of_opening {s : Segmentation} {e : Entity} (h : e ∈ s.entities)
    (dryRun : Bool) : ∃ text, e.Draft text ∧ text <:+: Wording.opening s dryRun := by
  refine ⟨_, .indented 1, ?_⟩
  have hitem : JsonWriter.value JsonWriter.indented 1 e.toJson
      <:+: (Json.arr (s.entities.map Entity.toJson)).writeIndented :=
    JsonWriter.infix_arr (List.mem_map_of_mem h)
  have hsome : s.entities.isEmpty = false := by
    cases hs : s.entities with
    | nil =>
      rw [hs] at h
      cases h
    | cons _ _ => rfl
  refine hitem.trans (Text.infix_join ?_ "\n\n")
  simp [hsome]

variable {e : Entity}

/-- What an entity in normal form shows of itself is determined by its text, if its description has
an encoding. -/
theorem IsBuilt.isDetermined (h : e.IsBuilt) (hdescription : e.description.HasEncoding) :
    e.toJson.IsDetermined argumentDepth := by
  have hkeys : [Text.ofString "name", "description", "fields"].Nodup := by decide
  have hname : e.name.HasEncoding := by
    rw [← h.canonical]
    exact Names.hasEncoding_canonical e.name
  refine .obj hkeys (by simp) ?_
  simp only [List.forall_mem_cons]
  refine ⟨.str hname, .str hdescription, .arr fun v hv => ?_, List.forall_mem_nil _⟩
  obtain ⟨f, hf, rfl⟩ := List.mem_map.mp hv
  exact (h.fields f hf).isDetermined 976

/-- **Drafts.** The text of an entity in normal form is accepted as the arguments of the tool that
creates it, and what is given by them is the entity. -/
theorem IsBuilt.parse_draft (h : e.IsBuilt) (hdescription : e.description.HasEncoding)
    {text : Text} (hdraft : e.Draft text) :
    ToolName.createSchema.parse (.str text) = .ok e.members ∧
      (EntityInput.ofMembers e.members).build = .ok e := by
  obtain ⟨layout, hlayout, d, rfl⟩ := hdraft.exists_layout
  have hdetermined := h.isDetermined hdescription
  have hread : readArguments .createSchema (.str (JsonWriter.value layout d e.toJson))
      = .ok e.toJson := by
    rw [readArguments, Json.isBlank_value hlayout hdetermined, Json.read_value hlayout hdetermined]
    rfl
  constructor
  · refine Effect.result_bind_ok_iff.mpr ⟨e.toJson, hread, ?_⟩
    have hfull := e.isFull_toJson
    obtain ⟨ms, hms⟩ : ∃ ms, e.toJson = .obj ms := ⟨_, rfl⟩
    rw [members]
    rw [hms] at hfull ⊢
    dsimp only
    rw [hfull.problems, hfull.complete]
    rfl
  · -- the fields are handed on as objects again, and these are the ones that were written
    have hfields : (EntityInput.ofMembers e.members).fields.map FieldInput.toJson
        = e.fields.map Field.toJson := by
      have hgiven : (EntityInput.ofMembers e.members).fields
          = (e.fields.map Field.toJson).map fun v => FieldInput.ofMembers v.asMembers := rfl
      rw [hgiven, List.map_map, List.map_map]
      exact List.map_congr_left fun f _ => FieldInput.toJson_ofMembers f
    rw [EntityInput.build, hfields]
    exact h.build_toJson

end Entity

end Tablewright
