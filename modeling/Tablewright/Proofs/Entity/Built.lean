/-
An entity is built again from what it shows of itself.

Building is a reading of loose values, and what it makes is in normal form: the name of a field is
trimmed, its kind is one of the five and its constraints are listed once each, no two fields have
one name, and the entity goes by its canonical name. A value in normal form is read as itself
(`Field.IsBuilt.ofJson_toJson`, `Entity.IsBuilt.build_toJson`).
-/
import Mathlib.Data.List.Nodup
import Tablewright.Proofs.Action
import Tablewright.Proofs.Artifact.Encoding
import Tablewright.Proofs.Naming.Canonical

set_option autoImplicit false

namespace Tablewright

/-! ## Identifiers -/

/-- Whether ranges hold no surrogate. -/
def Ranges.noSurrogates (ranges : Ranges) : Bool :=
  ranges.all fun r => r.2 < 0xD800 || 0xE000 ≤ r.1

theorem Ranges.isSurrogate_of_contains {ranges : Ranges} (h : ranges.noSurrogates = true)
    {c : CodePoint} (hc : ranges.contains c.val = true) : c.isSurrogate = false := by
  obtain ⟨r, hr, hin⟩ := List.any_eq_true.mp hc
  have hbounds := List.all_eq_true.mp h r hr
  simp only [Bool.and_eq_true, Bool.or_eq_true, decide_eq_true_eq] at hin hbounds
  simp only [CodePoint.isSurrogate, Bool.and_eq_false_iff, decide_eq_false_iff_not]
  omega

/-- No surrogate stands in an identifier. -/
theorem Text.hasEncoding_of_isIdentifier {t : Text} (h : isIdentifier t = true) :
    t.HasEncoding := by
  -- the tables of the code points that identifiers hold are checked once
  have hstart : identifierStartRanges.noSurrogates = true := by decide +kernel
  have hextra : identifierExtraRanges.noSurrogates = true := by decide +kernel
  rw [hasEncoding_iff]
  cases t with
  | nil => exact List.forall_mem_nil _
  | cons c r =>
    obtain ⟨hfirst, hrest⟩ := Bool.and_eq_true_iff.mp h
    refine List.forall_mem_cons.mpr ⟨?_, fun d hd => ?_⟩
    · rw [CodePoint.startsIdentifier] at hfirst
      split at hfirst
      case isTrue hascii => exact CodePoint.isSurrogate_of_isAscii hascii
      case isFalse => exact Ranges.isSurrogate_of_contains hstart hfirst
    · have hfollows := List.all_eq_true.mp hrest d hd
      rw [CodePoint.continuesIdentifier] at hfollows
      split at hfollows
      case isTrue hascii => exact CodePoint.isSurrogate_of_isAscii hascii
      case isFalse =>
        rcases Bool.or_eq_true_iff.mp hfollows with hin | hin
        · exact Ranges.isSurrogate_of_contains hstart hin
        · exact Ranges.isSurrogate_of_contains hextra hin

/-! ## Kinds and constraints -/

/-- The word for a kind is read as the kind. -/
theorem FieldKind.ofJson_label (k : FieldKind) : ofJson (.str k.label) = k := by
  cases k <;> decide +kernel

/-- The word for a constraint is read as the constraint. -/
theorem Constraint.ofJson_label (c : Constraint) : ofJson (.str c.label) = .ok c := by
  cases c <;> rfl

namespace Field

/-- Constraints that are read are listed once each. -/
theorem nodup_of_addConstraints {raws : List Json} {known cs : List Constraint}
    (hknown : known.Nodup) (h : addConstraints known raws = .ok cs) : cs.Nodup := by
  induction raws generalizing known with
  | nil =>
    obtain rfl := Except.ok.inj h
    exact hknown
  | cons raw raws ih =>
    obtain ⟨c, -, hrest⟩ := Effect.result_bind_ok_iff.mp h
    refine ih ?_ hrest
    split
    case isTrue => exact hknown
    case isFalse hnew =>
      rw [List.contains_iff_mem] at hnew
      exact List.concat_eq_append ▸ hknown.concat hnew

/-- Constraints listed once each are read as they are listed. -/
theorem addConstraints_labels {known cs : List Constraint} (h : (known ++ cs).Nodup) :
    addConstraints known (cs.map fun c => .str c.label) = .ok (known ++ cs) := by
  induction cs generalizing known with
  | nil =>
    rw [List.append_nil]
    rfl
  | cons c cs ih =>
    have hnew : ¬ known.contains c = true := by
      rw [List.contains_iff_mem]
      exact fun hc => (List.nodup_append.mp h).2.2 c hc c List.mem_cons_self rfl
    have hsame : known ++ [c] ++ cs = known ++ c :: cs := by
      rw [List.append_assoc, List.singleton_append]
    refine Effect.result_bind_ok_iff.mpr ⟨c, Constraint.ofJson_label c, ?_⟩
    rw [if_neg hnew, ih (hsame ▸ h), hsame]

/-! ## Fields -/

/-- A field in the normal form in which fields are built. -/
structure IsBuilt (f : Field) : Prop where
  /-- The name may name a field. -/
  isName : Field.isName f.name = true
  /-- No blank stands at either end of it. -/
  trimmed : Text.trim f.name = f.name
  /-- The constraints are listed once each. -/
  nodup : f.constraints.Nodup

theorem isBuilt_of_build {name kind constraints : Json} {f : Field}
    (h : build name kind constraints = .ok f) : f.IsBuilt := by
  rw [build] at h
  dsimp only at h
  split at h
  case isTrue => cases h
  case isFalse hname =>
    obtain ⟨raw, -, h⟩ := Effect.result_bind_ok_iff.mp h
    obtain ⟨cs, hcs, h⟩ := Effect.result_bind_ok_iff.mp h
    obtain rfl := Except.ok.inj h
    exact {
      isName := by simpa using hname
      trimmed := Text.trim_trim _
      nodup := nodup_of_addConstraints List.nodup_nil (liftRefusal_ok_iff.mp hcs) }

theorem isBuilt_of_ofJson {raw : Json} {f : Field} (h : ofJson raw = .ok f) : f.IsBuilt := by
  cases raw with
  | obj ms => exact isBuilt_of_build h
  | null | bool _ | int _ | float _ | str _ | arr _ => cases h

/-- A trimmed text that is given as a name is the name. -/
theorem nameOf_of_trimmed {name : Text} (h : Text.trim name = name) :
    nameOf (.str name) = name := by
  cases name with
  | nil => rfl
  | cons c r => exact h

/-- A built field is read from its object. -/
theorem IsBuilt.ofJson_toJson {f : Field} (h : f.IsBuilt) : ofJson f.toJson = .ok f := by
  have hparts : ofJson f.toJson
      = build (.str f.name) (.str f.kind.label) (Json.texts (f.constraints.map Constraint.label)) :=
    rfl
  have hconstraints : addConstraints [] ((f.constraints.map Constraint.label).map Json.str)
      = .ok f.constraints := by
    rw [List.map_map]
    exact @addConstraints_labels [] f.constraints h.nodup
  rw [hparts, build]
  dsimp only
  rw [nameOf_of_trimmed h.trimmed, h.isName]
  refine Effect.result_bind_ok_iff.mpr ⟨_, rfl, ?_⟩
  refine Effect.result_bind_ok_iff.mpr ⟨_, liftRefusal_ok_iff.mpr hconstraints, ?_⟩
  rw [FieldKind.ofJson_label]
  rfl

/-- The name of a built field is an identifier, and no surrogate stands in one. -/
theorem IsBuilt.hasEncoding {f : Field} (h : f.IsBuilt) : f.name.HasEncoding :=
  Text.hasEncoding_of_isIdentifier (Bool.and_eq_true_iff.mp h.isName).1

end Field

/-! ## Entities -/

namespace Entity

/-- An entity in the normal form in which entities are built. -/
structure IsBuilt (e : Entity) : Prop where
  /-- It goes by a canonical name. -/
  canonical : Naming.canonical e.name = e.name
  /-- Its fields are in normal form. -/
  fields : ∀ f ∈ e.fields, f.IsBuilt
  /-- No two of them have one name. -/
  nodup : (e.fields.map Field.name).Nodup

/-- Fields that are read one after another are in normal form and differ in their names. -/
theorem isBuilt_of_addFields {label : Json} {raws : List Json} {known fs : List Field}
    (hknown : (∀ f ∈ known, f.IsBuilt) ∧ (known.map Field.name).Nodup)
    (h : addFields label known raws = .ok fs) :
    (∀ f ∈ fs, f.IsBuilt) ∧ (fs.map Field.name).Nodup := by
  induction raws generalizing known with
  | nil =>
    obtain rfl := Except.ok.inj h
    exact hknown
  | cons raw raws ih =>
    obtain ⟨f, hf, h⟩ := Effect.result_bind_ok_iff.mp h
    -- a field whose name is known is turned down, so the names stay apart
    split at h
    case isTrue => cases h
    case isFalse hnew =>
      refine ih ⟨fun g hg => ?_, ?_⟩ h
      · rcases List.mem_append.mp hg with hold | hlast
        · exact hknown.1 g hold
        · obtain rfl := List.mem_singleton.mp hlast
          exact Field.isBuilt_of_ofJson hf
      · rw [List.map_append, List.map_singleton, ← List.concat_eq_append]
        refine hknown.2.concat fun hmem => hnew ?_
        obtain ⟨k, hk, hname⟩ := List.mem_map.mp hmem
        exact List.any_eq_true.mpr ⟨k, hk, decide_eq_true hname⟩

/-- Fields in normal form with different names are read from their objects. -/
theorem addFields_toJson (label : Json) {known fs : List Field} (hfs : ∀ f ∈ fs, f.IsBuilt)
    (hnames : ((known ++ fs).map Field.name).Nodup) :
    addFields label known (fs.map Field.toJson) = .ok (known ++ fs) := by
  induction fs generalizing known with
  | nil =>
    rw [List.append_nil]
    rfl
  | cons f fs ih =>
    have hsame : known ++ [f] ++ fs = known ++ f :: fs := by
      rw [List.append_assoc, List.singleton_append]
    have hnew : ¬ (known.any fun k => k.name = f.name) = true := fun hmem => by
      obtain ⟨k, hk, hname⟩ := List.any_eq_true.mp hmem
      rw [List.map_append] at hnames
      exact (List.nodup_append.mp hnames).2.2 k.name (List.mem_map_of_mem hk) f.name
        List.mem_cons_self (of_decide_eq_true hname)
    refine Effect.result_bind_ok_iff.mpr ⟨f, (hfs f List.mem_cons_self).ofJson_toJson, ?_⟩
    rw [if_neg hnew]
    have hrest := ih (fun g hg => hfs g (List.mem_cons_of_mem f hg)) (hsame ▸ hnames)
    rw [← hsame]
    exact hrest

variable {label description : Text} {raws : List Json} {e : Entity}

/-- What is built is in normal form, and the description is the one that was given. -/
theorem isBuilt_of_build (h : build label description raws = .ok e) :
    e.IsBuilt ∧ e.description = description := by
  obtain ⟨fs, hfs, h⟩ := Effect.result_bind_ok_iff.mp h
  obtain rfl := Except.ok.inj h
  obtain ⟨hfields, hnodup⟩ :=
    isBuilt_of_addFields ⟨List.forall_mem_nil _, List.nodup_nil⟩ hfs
  exact ⟨⟨Naming.canonical_canonical label, hfields, hnodup⟩, rfl⟩

/-- **Rebuilding.** An entity in normal form is built from its own name, description and fields. -/
theorem IsBuilt.build_toJson (h : e.IsBuilt) :
    build e.name e.description (e.fields.map Field.toJson) = .ok e := by
  refine Effect.result_bind_ok_iff.mpr
    ⟨e.fields, @addFields_toJson (.str e.name) [] e.fields h.fields h.nodup, ?_⟩
  rw [h.canonical]
  rfl

/-- What is shown of an entity has an encoding if its description has one. -/
theorem IsBuilt.hasEncoding (h : e.IsBuilt) (hdescription : e.description.HasEncoding) :
    e.HasEncoding where
  description := hdescription
  fields f hf := (h.fields f hf).hasEncoding

end Entity

end Tablewright
