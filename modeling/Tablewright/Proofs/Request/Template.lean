/-
How a table of templates is read.

Reading goes through the loose templates one by one and through the loose triggers of each, and it
keeps their number and their order: a table that is read has one template for each loose template
(`TemplateTable.forall₂_of_ofJson`), and a template has one phrase for each of its loose triggers, of
which there is at least one (`Template.isRead_of_ofJson`). What is turned down is a template without
triggers; whether something is left of a trigger in normal form is not looked at, and `NamesPhrase`
says when this is so.
-/
import Tablewright.Proofs.Action
import Tablewright.Proofs.Request.Normal
import Tablewright.Request.Template

set_option autoImplicit false

namespace Tablewright

/-! ## Loose values -/

namespace Json

/-- What a loose value holds when it is gone through; nothing if that fails. -/
def parts (v : Json) : List Json := v.elements.toOption.getD []

/-- A given value that can be gone through holds something. -/
theorem parts_ne_nil {v : Json} {items : List Json} (hgiven : v.isGiven = true)
    (h : v.elements = .ok items) : v.parts = items ∧ items ≠ [] := by
  refine ⟨by simp [parts, h, Except.toOption], ?_⟩
  cases v with
  | arr items' =>
    obtain rfl := Except.ok.inj h
    simpa [isGiven] using hgiven
  | obj members =>
    obtain rfl := Except.ok.inj h
    simpa [isGiven] using hgiven
  | str s =>
    obtain rfl := Except.ok.inj h
    simpa [isGiven] using hgiven
  | null | bool _ | int _ | float _ =>
    simp [elements, hgiven] at h

theorem whenGiven_eq_some_iff {v u : Json} : v.whenGiven = some u ↔ v.isGiven = true ∧ v = u := by
  simp [whenGiven]

end Json

/-! ## Templates -/

namespace Template

/-- The loose triggers of a loose template. -/
def looseTriggers : Json → List Json
  | .obj ms => ((Members.get? "triggers" ms).getD .null).parts
  | _ => []

/-- A loose trigger that names a phrase: a text that holds more than blanks. -/
def NamesPhrase (v : Json) : Prop := ∃ s, v = .str s ∧ Text.isBlank s = false

/-- Something is left of a trigger exactly if it names a phrase. -/
theorem ne_nil_iff_of_phrase {v : Json} {p : Text} (h : phrase v = .ok p) :
    p ≠ [] ↔ NamesPhrase v := by
  cases v with
  | str s =>
    obtain rfl := Except.ok.inj h
    rw [ne_eq, Request.normal_eq_nil_iff]
    simp [NamesPhrase]
  | null | bool _ | int _ | float _ | arr _ | obj _ =>
    rw [phrase] at h
    split at h
    · cases h
    · obtain rfl := Except.ok.inj h
      simp [NamesPhrase]
    · simp

/-- A template as it comes of a loose one. -/
structure IsRead (raw : Json) (t : Template) : Prop where
  /-- There is a trigger. -/
  some_trigger : looseTriggers raw ≠ []
  /-- The phrases are what the triggers are read as, one by one. -/
  phrases : List.Forall₂ (fun v p => phrase v = .ok p) (looseTriggers raw) t.triggers
  /-- The entity goes by a canonical name. -/
  canonical : Naming.canonical t.entity.name = t.entity.name

theorem canonical_of_entityOf {label description fields : Json} {e : Entity}
    (h : entityOf label description fields = .ok e) : Naming.canonical e.name = e.name := by
  obtain ⟨_, -, h⟩ := Effect.result_bind_ok_iff.mp h
  obtain ⟨_, -, h⟩ := Effect.result_bind_ok_iff.mp h
  cases label with
  | str s =>
    obtain rfl := Except.ok.inj h
    exact Naming.canonical_canonical s
  | null | bool _ | int _ | float _ | arr _ | obj _ =>
    dsimp only at h
    split at h
    · cases h
    · obtain rfl := Except.ok.inj h
      exact Naming.canonical_canonical []

theorem isRead_of_ofJson {raw : Json} {t : Template} (h : ofJson raw = .ok t) : IsRead raw t := by
  cases raw with
  | null | bool _ | int _ | float _ | str _ | arr _ => cases h
  | obj ms =>
    rw [ofJson] at h
    dsimp only at h
    split at h
    case h_1 => cases h
    case h_2 triggers htriggers =>
      obtain ⟨hgiven, htriggers⟩ := Json.whenGiven_eq_some_iff.mp htriggers
      split at h
      case h_1 => cases h
      case h_2 label hlabel =>
        obtain ⟨e, he, h⟩ := Effect.result_bind_ok_iff.mp h
        obtain ⟨items, hitems, h⟩ := Effect.result_bind_ok_iff.mp h
        obtain ⟨phrases, hphrases, h⟩ := Effect.result_bind_ok_iff.mp h
        obtain rfl := Except.ok.inj h
        subst htriggers
        obtain ⟨hparts, hne⟩ := Json.parts_ne_nil hgiven hitems
        have hloose : looseTriggers (.obj ms) = items := hparts
        exact {
          some_trigger := hloose ▸ hne
          phrases := hloose ▸ Effect.result_mapM_ok_iff.mp hphrases
          canonical := canonical_of_entityOf he }

theorem IsRead.triggers_ne_nil {raw : Json} {t : Template} (h : IsRead raw t) :
    t.triggers ≠ [] := by
  intro hnil
  have hphrases := h.phrases
  rw [hnil, List.forall₂_nil_right_iff] at hphrases
  exact h.some_trigger hphrases

/-- The phrases of a template are not empty exactly if its triggers name phrases. -/
theorem IsRead.forall_namesPhrase_iff {raw : Json} {t : Template} (h : IsRead raw t) :
    (∀ v ∈ looseTriggers raw, NamesPhrase v) ↔ ∀ p ∈ t.triggers, p ≠ [] :=
  forall_mem_iff_of_forall₂ h.phrases fun _ _ hp => (ne_nil_iff_of_phrase hp).symm

/-- A bare text for triggers is read as the list of its code points. -/
theorem ofJson_put_str (ms : Members) (s : Text) :
    ofJson (.obj (ms.put "triggers" (.str s)))
      = ofJson (.obj (ms.put "triggers" (.arr (s.map fun c => .str [c])))) := by
  have hother (key : Text) (hkey : key ≠ "triggers") (v : Json) :
      Members.get? key (ms.put "triggers" v) = Members.get? key ms :=
    Members.get?_put_of_ne hkey v ms
  unfold ofJson
  simp only [Members.get?_put_self, hother "name" (by decide), hother "description" (by decide),
    hother "fields" (by decide), Option.getD_some]
  cases s with
  | nil => rfl
  | cons c s => rfl

/-- A template without triggers is turned down, whatever else it has. -/
theorem ofJson_of_no_triggers {ms : Members}
    (h : ((Members.get? "triggers" ms).getD .null).isGiven = false) :
    ofJson (.obj ms) = .error (.refused (.noTriggers ((Members.get? "name" ms).getD .null))) := by
  rw [ofJson]
  dsimp only
  rw [Json.whenGiven, h]
  rfl

end Template

/-! ## Tables -/

namespace TemplateTable

/-- The loose templates under a key of a loose table. -/
def loosePart (ms : Members) (key : Text) : List Json :=
  (((Members.get? key ms).bind Json.whenGiven).getD (.arr [])).parts

/-- The loose templates of a loose table, the rules before the fallbacks. -/
def looseTemplates : Json → List Json
  | .obj ms => loosePart ms "rules" ++ loosePart ms "fallbacks"
  | _ => []

theorem forall₂_of_part {ms : Members} {key : Text} {ts : List Template}
    (h : part ms key = .ok ts) :
    List.Forall₂ (fun v t => Template.ofJson v = .ok t) (loosePart ms key) ts := by
  obtain ⟨items, hitems, h⟩ := Effect.result_bind_ok_iff.mp h
  have hloose : loosePart ms key = items := by
    rw [loosePart, Json.parts, hitems]
    rfl
  exact hloose ▸ Effect.result_mapM_ok_iff.mp h

/-- A table has one template for each loose one. -/
theorem forall₂_of_ofJson {raw : Json} {table : TemplateTable} (h : ofJson raw = .ok table) :
    List.Forall₂ (fun v t => Template.ofJson v = .ok t) (looseTemplates raw)
      (table.rules ++ table.fallbacks) := by
  cases raw with
  | null | bool _ | int _ | float _ | str _ | arr _ => cases h
  | obj ms =>
    obtain ⟨rules, hrules, h⟩ := Effect.result_bind_ok_iff.mp h
    obtain ⟨fallbacks, hfallbacks, h⟩ := Effect.result_bind_ok_iff.mp h
    obtain rfl := Except.ok.inj h
    exact List.rel_append (forall₂_of_part hrules) (forall₂_of_part hfallbacks)

/-- Every loose trigger of a loose table names a phrase. -/
def NamesPhrases (raw : Json) : Prop :=
  ∀ v ∈ looseTemplates raw, ∀ u ∈ Template.looseTriggers v, Template.NamesPhrase u

/-- The phrases of a table are not empty exactly if the triggers name phrases. -/
theorem namesPhrases_iff_of_ofJson {raw : Json} {table : TemplateTable}
    (h : ofJson raw = .ok table) :
    NamesPhrases raw ↔ ∀ t ∈ table.rules ++ table.fallbacks, ∀ p ∈ t.triggers, p ≠ [] :=
  forall_mem_iff_of_forall₂ (forall₂_of_ofJson h) fun _ _ hread =>
    (Template.isRead_of_ofJson hread).forall_namesPhrase_iff

/-- The entities of a table go by canonical names. -/
theorem canonical_of_ofJson {raw : Json} {table : TemplateTable} (h : ofJson raw = .ok table) :
    ∀ t ∈ table.rules ++ table.fallbacks, Naming.canonical t.entity.name = t.entity.name :=
  (forall_mem_iff_of_forall₂ (forall₂_of_ofJson h) fun _ _ hread =>
    iff_of_true trivial (Template.isRead_of_ofJson hread).canonical).mp fun _ _ => trivial

end TemplateTable

end Tablewright
