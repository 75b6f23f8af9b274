/-
Values in full form.

A contract finds no problem in a value in full form and leaves it as it is. Texts are in full form,
lists whose items are, and records that give each argument once, in order and under its own name,
with a value in full form.
-/
import Mathlib.Data.List.Nodup
import Tablewright.Json.Basic
import Tablewright.Proofs.Text.Utf8
import Tablewright.Tool.Contract

set_option autoImplicit false

namespace Tablewright

namespace Shape

variable {shape : Shape} {v : Json} {vs : List Json} {arguments : List Argument} {ms all : Members}

/-- A value in full form: there is no problem with it, and it is its own complete form. -/
structure IsFull (shape : Shape) (v : Json) : Prop where
  problems : shape.problems v = []
  complete : shape.complete v = v

theorem isFull_text (t : Text) : IsFull .text (.str t) where
  problems := by rw [Shape.problems]
  complete := by rw [Shape.complete] <;> exact nofun

/-! ## Lists -/

/-- Items without problems make a list without problems. -/
theorem itemProblems_eq_nil {check : Json → List ArgumentProblem} (h : ∀ v ∈ vs, check v = [])
    (index : Nat) : itemProblems check index vs = [] := by
  induction vs generalizing index with
  | nil => rfl
  | cons v vs ih =>
    rw [itemProblems, h v List.mem_cons_self,
      ih (fun u hu => h u (List.mem_cons_of_mem v hu)) (index + 1)]
    rfl

/-- A list of values in full form is in full form, unless it is empty and must not be. -/
theorem isFull_items {nonEmpty : Bool} (hne : nonEmpty = true → vs ≠ [])
    (h : ∀ v ∈ vs, IsFull shape v) : IsFull (.list nonEmpty shape) (.arr vs) where
  problems := by
    have hempty : ¬ (nonEmpty && vs.isEmpty) = true := by
      rw [Bool.and_eq_true, List.isEmpty_iff]
      exact fun hboth => hne hboth.1 hboth.2
    rw [Shape.problems, if_neg hempty]
    exact itemProblems_eq_nil (fun v hv => (h v hv).problems) 0
  complete := by
    rw [Shape.complete, List.map_congr_left fun v hv => (h v hv).complete, List.map_id']

/-- A list of values in full form is in full form. -/
theorem isFull_list (h : ∀ v ∈ vs, IsFull shape v) : IsFull (.list false shape) (.arr vs) :=
  isFull_items nofun h

/-- A list of texts is in full form. -/
theorem isFull_texts (ts : List Text) : IsFull (.list false .text) (Json.texts ts) :=
  isFull_list fun v hv => by
    obtain ⟨t, -, rfl⟩ := List.mem_map.mp hv
    exact isFull_text t

/-! ## Records -/

/-- Members that give each argument in order, under its own name, with a value in full form. -/
inductive Fills : List Argument → Members → Prop
  | nil : Fills [] []
  | cons {name : String} {other : Option String} {shape : Shape} {default : Option Json}
      {notes : ArgumentNotes} {v : Json} {arguments : List Argument} {ms : Members}
      (hv : IsFull shape v) (h : Fills arguments ms) :
      Fills ((name, other, shape, default, notes) :: arguments) ((Text.ofString name, v) :: ms)

namespace Fills

/-- An argument that stands under its own name is given so. -/
theorem given?_eq {name : String} (other : Option String) (shape : Shape) (default : Option Json)
    (notes : ArgumentNotes) (h : all.get? (Text.ofString name) = some v) :
    Argument.given? (name, other, shape, default, notes) all = some (Text.ofString name, v) := by
  rw [Argument.given?]
  dsimp only [Argument.name]
  rw [h]

theorem argumentProblems (h : Fills arguments ms) (hall : ∀ m ∈ ms, all.get? m.1 = some m.2) :
    Shape.argumentProblems arguments all = [] := by
  induction h with
  | nil => rw [Shape.argumentProblems]
  | cons hv _ ih =>
    obtain ⟨hfirst, hrest⟩ := List.forall_mem_cons.mp hall
    rw [Shape.argumentProblems, given?_eq _ _ _ _ hfirst]
    dsimp only
    rw [hv.problems, ih hrest]
    rfl

theorem completeArguments (h : Fills arguments ms) (hall : ∀ m ∈ ms, all.get? m.1 = some m.2) :
    Shape.completeArguments arguments all = ms := by
  induction h with
  | nil => rw [Shape.completeArguments]
  | cons hv _ ih =>
    obtain ⟨hfirst, hrest⟩ := List.forall_mem_cons.mp hall
    rw [Shape.completeArguments, given?_eq _ _ _ _ hfirst]
    dsimp only
    rw [hv.complete, ih hrest]

/-- The names that are used are those of the members. -/
theorem used (h : Fills arguments ms) (hall : ∀ m ∈ ms, all.get? m.1 = some m.2) :
    arguments.filterMap (fun a => (a.given? all).map (·.1)) = ms.map Prod.fst := by
  induction h with
  | nil => rfl
  | cons _ _ ih =>
    obtain ⟨hfirst, hrest⟩ := List.forall_mem_cons.mp hall
    rw [List.filterMap_cons, given?_eq _ _ _ _ hfirst]
    dsimp only [Option.map_some]
    rw [ih hrest]
    rfl

/-- The members have the names of the arguments. -/
theorem names (h : Fills arguments ms) : ms.map Prod.fst = arguments.map Argument.name := by
  induction h with
  | nil => rfl
  | cons _ _ ih =>
    rw [List.map_cons, List.map_cons, ih]
    rfl

/-- The names of arguments can be encoded. -/
theorem isEncodable (h : Fills arguments ms) : (ms.all fun m => m.1.isEncodable) = true := by
  induction h with
  | nil => rfl
  | @cons name _ _ _ _ _ _ _ _ _ ih =>
    rw [List.all_cons, ih, Text.isEncodable_iff.mpr (Text.hasEncoding_ofString name)]
    rfl

/-- A record of different arguments that is filled is in full form. -/
theorem isFull (h : Fills arguments ms) (hnodup : (arguments.map Argument.name).Nodup)
    (name : String) : IsFull (.record name arguments) (.obj ms) := by
  have hall : ∀ m ∈ ms, ms.get? m.1 = some m.2 := fun m hm =>
    Members.get?_of_mem (h.names ▸ hnodup) hm
  -- every member was asked for, so none is left over
  have hundeclared : undeclared arguments ms = [] := by
    rw [undeclared, h.used hall, List.map_eq_nil_iff, List.filter_eq_nil_iff]
    intro m hm
    rw [Bool.not_eq_true', Bool.eq_false_iff, not_not, List.contains_iff_mem]
    exact List.mem_map.mpr ⟨m, hm, rfl⟩
  constructor
  · rw [Shape.problems, if_pos h.isEncodable, h.argumentProblems hall, hundeclared]
    rfl
  · rw [Shape.complete, h.completeArguments hall]

end Fills

end Shape

end Tablewright
