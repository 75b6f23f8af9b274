/-
The grammar of a contract.

A contract is read once more, as a grammar (`Shape.Accepts`): an object with all required members,
no others, and values of the declared shapes, where an argument with two names is given under one of
them. The check of a contract accepts exactly this grammar, by induction on the shape
(`Shape.problems_eq_nil_iff`), if no key is a name of two arguments and no object holds a key twice.
What it accepts it brings into full form (`Shape.isFull_complete`), which is accepted again and stays
as it is. The contracts of all tools declare their arguments so.
-/
import Tablewright.Proofs.Json.Reader
import Tablewright.Proofs.Run.Call
import Tablewright.Proofs.Tool.Draft

set_option autoImplicit false

namespace Tablewright

/-! ## The grammar -/

namespace Argument

/-- The shape of an argument. -/
def shape (a : Argument) : Shape := a.2.2.1

/-- The names of an argument. -/
def keys (a : Argument) : List Text := a.name :: a.alias?.toList

variable {a : Argument} {key : Text} {ms : Members} {v : Json}

theorem mem_keys_iff : key ∈ a.keys ↔ key = a.name ∨ a.alias? = some key := by
  rw [keys, List.mem_cons, Option.mem_toList]

end Argument

/-- The values that a shape stands for. -/
inductive Shape.Accepts : Shape → Json → Prop
  | text (s : Text) : Accepts .text (.str s)
  | someText (s : Text) : Accepts .optionalText (.str s)
  | noText : Accepts .optionalText .null
  | mapping (ms : Members) : Accepts .mapping (.obj ms)
  | list {nonEmpty : Bool} {item : Shape} {vs : List Json} (hne : nonEmpty = true → vs ≠ [])
      (hvs : ∀ v ∈ vs, Accepts item v) : Accepts (.list nonEmpty item) (.arr vs)
  /-- Every member is declared and its value accepted as declared, every required argument is given,
  and no argument is given under both of its names. -/
  | record {name : String} {arguments : List Argument} {ms : Members}
      (declared : ∀ m ∈ ms, ∃ a ∈ arguments, m.1 ∈ a.keys)
      (typed : ∀ m ∈ ms, ∀ a ∈ arguments, m.1 ∈ a.keys → Accepts a.shape m.2)
      (required : ∀ a ∈ arguments, a.default? = none → ∃ key ∈ a.keys, key ∈ ms.map Prod.fst)
      (once : ∀ a ∈ arguments, ∀ other, a.alias? = some other →
        ¬ (a.name ∈ ms.map Prod.fst ∧ other ∈ ms.map Prod.fst)) :
      Accepts (.record name arguments) (.obj ms)

/-- A shape whose records declare their arguments apart: no key is a name of two of them, or both
names of one, and what counts for an absent argument is in full form. -/
inductive Shape.IsSound : Shape → Prop
  | text : IsSound .text
  | optionalText : IsSound .optionalText
  | mapping : IsSound .mapping
  | list {nonEmpty : Bool} {item : Shape} (hitem : IsSound item) : IsSound (.list nonEmpty item)
  | record {name : String} {arguments : List Argument}
      (hkeys : (arguments.flatMap Argument.keys).Nodup) (hparts : ∀ a ∈ arguments, IsSound a.shape)
      (hdefaults : ∀ a ∈ arguments, ∀ v, a.default? = some v → a.shape.IsFull v) :
      IsSound (.record name arguments)

/-! ## Members and arguments -/

namespace Argument

variable {a : Argument} {key : Text} {ms : Members} {v : Json}

/-- An argument is given under one of its names, by a member. -/
theorem given?_eq_some (h : a.given? ms = some (key, v)) : key ∈ a.keys ∧ ms.get? key = some v := by
  rw [given?] at h
  split at h
  case h_1 u hname =>
    cases h
    exact ⟨mem_keys_iff.mpr (.inl rfl), hname⟩
  case h_2 hname =>
    obtain ⟨other, hother, h⟩ := Option.bind_eq_some_iff.mp h
    obtain ⟨u, hu, h⟩ := Option.map_eq_some_iff.mp h
    cases h
    exact ⟨mem_keys_iff.mpr (.inr hother), hu⟩

/-- An argument is not given exactly when none of its names is there. -/
theorem given?_eq_none_iff : a.given? ms = none ↔ ∀ key ∈ a.keys, key ∉ ms.map Prod.fst := by
  constructor
  · intro h key hkey hmem
    rw [given?] at h
    split at h
    case h_1 => cases h
    case h_2 hname =>
      rcases mem_keys_iff.mp hkey with rfl | hother
      · exact Members.get?_eq_none_iff.mp hname hmem
      · rw [hother, Option.bind_some, Option.map_eq_none_iff] at h
        exact Members.get?_eq_none_iff.mp h hmem
  · intro h
    cases hgiven : a.given? ms with
    | none => rfl
    | some p =>
      obtain ⟨hkey, hget⟩ := given?_eq_some hgiven
      exact absurd (List.mem_map_of_mem (Members.mem_of_get? hget)) (h p.1 hkey)

/-- Of the names of an argument that is not given under both, the one that is there counts. -/
theorem given?_of_mem (hkey : key ∈ a.keys) (hget : ms.get? key = some v)
    (honce : ∀ other, a.alias? = some other →
      ¬ (a.name ∈ ms.map Prod.fst ∧ other ∈ ms.map Prod.fst)) :
    a.given? ms = some (key, v) := by
  have hmem := List.mem_map_of_mem (f := Prod.fst) (Members.mem_of_get? hget)
  rw [given?]
  rcases mem_keys_iff.mp hkey with rfl | hother
  · rw [hget]
  · have hname : ms.get? a.name = none :=
      Members.get?_eq_none_iff.mpr fun hname => honce key hother ⟨hname, hmem⟩
    rw [hname, hother]
    dsimp only [Option.bind_some]
    rw [hget]
    rfl

/-- Where no key is a name of two arguments, a key belongs to one. -/
theorem eq_of_mem_keys {arguments : List Argument} {b : Argument}
    (hkeys : (arguments.flatMap keys).Nodup) (ha : a ∈ arguments) (hb : b ∈ arguments)
    (hkeya : key ∈ a.keys) (hkeyb : key ∈ b.keys) : a = b := by
  have hsymm : Std.Symm (Function.onFun List.Disjoint keys) := ⟨fun _ _ h => List.Disjoint.symm h⟩
  by_contra hne
  exact (List.nodup_flatMap.mp hkeys).2.forall ha hb hne hkeya hkeyb

/-- The two names of an argument differ. -/
theorem alias?_ne_name {arguments : List Argument} (hkeys : (arguments.flatMap keys).Nodup)
    (ha : a ∈ arguments) {other : Text} (hother : a.alias? = some other) : other ≠ a.name := by
  rintro rfl
  have hnodup := (List.nodup_flatMap.mp hkeys).1 a ha
  rw [keys, hother] at hnodup
  exact (List.nodup_cons.mp hnodup).1 List.mem_cons_self

theorem names_sublist_keys (arguments : List Argument) :
    (arguments.map name).Sublist (arguments.flatMap keys) := by
  induction arguments with
  | nil => exact .slnil
  | cons a rest ih =>
    rw [List.map_cons, List.flatMap_cons]
    exact (List.singleton_sublist.mpr (mem_keys_iff.mpr (.inl rfl))).append ih

/-- Every name of an argument has an encoding. -/
theorem isEncodable_of_mem_keys (h : key ∈ a.keys) : key.isEncodable = true := by
  rcases mem_keys_iff.mp h with rfl | hother
  · exact Text.isEncodable_iff.mpr (Text.hasEncoding_ofString _)
  · obtain ⟨s, -, rfl⟩ := Option.map_eq_some_iff.mp hother
    exact Text.isEncodable_iff.mpr (Text.hasEncoding_ofString s)

end Argument

namespace Shape

variable {shape : Shape} {arguments : List Argument} {ms : Members} {v : Json} {vs : List Json}

/-! ## The check -/

theorem itemProblems_eq_nil_iff {check : Json → List ArgumentProblem} (index : Nat) :
    itemProblems check index vs = [] ↔ ∀ v ∈ vs, check v = [] := by
  induction vs generalizing index with
  | nil => exact iff_of_true rfl (List.forall_mem_nil _)
  | cons v vs ih =>
    rw [itemProblems, List.append_eq_nil_iff, ih, List.forall_mem_cons, problemsWithin,
      List.map_eq_nil_iff]

/-- There is no problem with the declared members when each that is given has none, and each that is
not given need not be. -/
theorem argumentProblems_eq_nil_iff :
    argumentProblems arguments ms = [] ↔ ∀ a ∈ arguments,
      (∀ key v, a.given? ms = some (key, v) → a.shape.problems v = []) ∧
        (a.given? ms = none → a.default? ≠ none) := by
  induction arguments with
  | nil =>
    rw [argumentProblems]
    exact iff_of_true rfl (List.forall_mem_nil _)
  | cons a rest ih =>
    obtain ⟨name, other, shape, default, notes⟩ := a
    rw [argumentProblems, List.append_eq_nil_iff, ih, List.forall_mem_cons]
    refine and_congr_left fun _ => ?_
    cases hgiven : Argument.given? (name, other, shape, default, notes) ms with
    | none =>
      have hdefault : (if default.isSome then [] else [⟨[Text.ofString name], .missing⟩])
          = ([] : List ArgumentProblem) ↔ default ≠ none := by
        cases default <;> simp
      refine hdefault.trans ⟨fun h => ⟨fun _ _ hsome => ?_, fun _ => h⟩, fun h => h.2 rfl⟩
      cases hsome
    | some p =>
      obtain ⟨key, v⟩ := p
      dsimp only
      rw [problemsWithin, List.map_eq_nil_iff]
      refine ⟨fun h => ⟨fun _ _ heq => ?_, fun hnone => (by cases hnone)⟩, fun h => h.1 key v rfl⟩
      cases heq
      exact h

/-- No member is left over when each is the one by which some argument is given. -/
theorem undeclared_eq_nil_iff :
    undeclared arguments ms = [] ↔ ∀ m ∈ ms, ∃ a ∈ arguments, ∃ v, a.given? ms = some (m.1, v) := by
  rw [undeclared, List.map_eq_nil_iff, List.filter_eq_nil_iff]
  refine forall₂_congr fun m _ => ?_
  rw [Bool.not_eq_true', Bool.eq_false_iff, not_not, List.contains_iff_mem, List.mem_filterMap]
  refine exists_congr fun a => and_congr_right fun _ => ?_
  simp only [Option.map_eq_some_iff, Prod.exists, exists_and_right, exists_eq_right]

/-- There is no problem with an object when its keys can be encoded, there is none with the declared
members, and no member is left over. -/
theorem problems_record_iff {name : String} :
    (Shape.record name arguments).problems (.obj ms) = [] ↔
      (∀ m ∈ ms, m.1.isEncodable = true) ∧ argumentProblems arguments ms = [] ∧
        undeclared arguments ms = [] := by
  rw [problems, ← List.all_eq_true, ← List.append_eq_nil_iff]
  split
  case isTrue h => exact (and_iff_right h).symm
  case isFalse h => exact iff_of_false (List.cons_ne_nil _ _) fun hall => h hall.1

/-- An object is accepted as a record when there is no problem with it, if the shapes of the
arguments accept what they have no problem with. -/
theorem accepts_record {name : String} (hkeys : (arguments.flatMap Argument.keys).Nodup)
    (hms : (ms.map Prod.fst).Nodup)
    (hparts : ∀ a ∈ arguments, ∀ m ∈ ms, a.shape.problems m.2 = [] → a.shape.Accepts m.2)
    (h : (Shape.record name arguments).problems (.obj ms) = []) :
    (Shape.record name arguments).Accepts (.obj ms) := by
  obtain ⟨-, hproblems, hundeclared⟩ := problems_record_iff.mp h
  rw [argumentProblems_eq_nil_iff] at hproblems
  rw [undeclared_eq_nil_iff] at hundeclared
  -- the argument a member belongs to is the one that is given by it
  have hgiven : ∀ m ∈ ms, ∀ a ∈ arguments, m.1 ∈ a.keys → a.given? ms = some m := by
    intro m hm a ha hkey
    obtain ⟨b, hb, v, hb'⟩ := hundeclared m hm
    obtain ⟨hkeyb, hget⟩ := Argument.given?_eq_some hb'
    obtain rfl := Argument.eq_of_mem_keys hkeys ha hb hkey hkeyb
    rw [Members.get?_of_mem hms hm] at hget
    cases hget
    exact hb'
  refine .record (fun m hm => ?_) (fun m hm a ha hkey => ?_) (fun a ha hdefault => ?_)
    (fun a ha other hother hboth => ?_)
  · obtain ⟨a, ha, v, hgiven⟩ := hundeclared m hm
    exact ⟨a, ha, (Argument.given?_eq_some hgiven).1⟩
  · exact hparts a ha m hm ((hproblems a ha).1 m.1 m.2 (hgiven m hm a ha hkey))
  · by_contra hnone
    refine (hproblems a ha).2 (Argument.given?_eq_none_iff.mpr fun key hkey hmem => ?_) hdefault
    exact hnone ⟨key, hkey, hmem⟩
  · obtain ⟨m, hm, hname⟩ := List.mem_map.mp hboth.1
    obtain ⟨m', hm', hname'⟩ := List.mem_map.mp hboth.2
    have hfirst := hgiven m hm a ha (hname ▸ Argument.mem_keys_iff.mpr (.inl rfl))
    have hsecond := hgiven m' hm' a ha (hname' ▸ Argument.mem_keys_iff.mpr (.inr hother))
    rw [hfirst] at hsecond
    cases hsecond
    exact Argument.alias?_ne_name hkeys ha hother (hname'.symm.trans hname)

/-- There is no problem with an object that is accepted as a record, if the shapes of the arguments
have none with what they accept. -/
theorem problems_of_accepts_record {name : String} (hms : (ms.map Prod.fst).Nodup)
    (hparts : ∀ a ∈ arguments, ∀ m ∈ ms, a.shape.Accepts m.2 → a.shape.problems m.2 = [])
    (h : (Shape.record name arguments).Accepts (.obj ms)) :
    (Shape.record name arguments).problems (.obj ms) = [] := by
  cases h with
  | record declared typed required once =>
    refine problems_record_iff.mpr ⟨fun m hm => ?_, ?_, ?_⟩
    · obtain ⟨a, -, hkey⟩ := declared m hm
      exact Argument.isEncodable_of_mem_keys hkey
    · refine argumentProblems_eq_nil_iff.mpr fun a ha => ⟨fun key v hgiven => ?_, fun hnone => ?_⟩
      · obtain ⟨hkey, hget⟩ := Argument.given?_eq_some hgiven
        have hm := Members.mem_of_get? hget
        exact hparts a ha (key, v) hm (typed (key, v) hm a ha hkey)
      · intro hdefault
        obtain ⟨key, hkey, hmem⟩ := required a ha hdefault
        exact Argument.given?_eq_none_iff.mp hnone key hkey hmem
    · refine undeclared_eq_nil_iff.mpr fun m hm => ?_
      obtain ⟨a, ha, hkey⟩ := declared m hm
      exact ⟨a, ha, m.2, Argument.given?_of_mem hkey (Members.get?_of_mem hms hm) (once a ha)⟩

/-- **The check is the grammar.** There is no problem with a value exactly when the shape accepts it,
if the shape declares its arguments apart and no object holds a key twice. -/
theorem problems_eq_nil_iff (hs : shape.IsSound) (hv : v.KeysDiffer) :
    shape.problems v = [] ↔ shape.Accepts v := by
  induction hs generalizing v with
  | text =>
    cases v with
    | str s => exact iff_of_true (by rw [problems]) (.text s)
    | _ =>
      refine iff_of_false ?_ fun h => by cases h
      rw [problems]
      · exact List.cons_ne_nil _ _
      · rintro _ ⟨⟩
  | optionalText =>
    cases v with
    | str s => exact iff_of_true (by rw [problems]) (.someText s)
    | null => exact iff_of_true (by rw [problems]) .noText
    | _ =>
      refine iff_of_false ?_ fun h => by cases h
      rw [problems]
      · exact List.cons_ne_nil _ _
      · rintro _ ⟨⟩
      · rintro ⟨⟩
  | mapping =>
    cases v with
    | obj ms => exact iff_of_true (by rw [problems]) (.mapping ms)
    | _ =>
      refine iff_of_false ?_ fun h => by cases h
      rw [problems]
      · exact List.cons_ne_nil _ _
      · rintro _ ⟨⟩
  | @list nonEmpty item hitem ih =>
    cases hv with
    | @arr vs hvs =>
      have hitems : itemProblems (problems item) 0 vs = [] ↔ ∀ u ∈ vs, item.Accepts u :=
        (itemProblems_eq_nil_iff 0).trans (forall₂_congr fun u hu => ih (hvs u hu))
      rw [problems]
      split
      case isTrue hempty =>
        obtain ⟨hne, hvs⟩ := Bool.and_eq_true_iff.mp hempty
        refine iff_of_false (List.cons_ne_nil _ _) fun h => ?_
        cases h with
        | list h _ => exact h hne (List.isEmpty_iff.mp hvs)
      case isFalse hempty =>
        refine hitems.trans ⟨fun h => .list (fun hne hnil => hempty ?_) h, fun h => ?_⟩
        · rw [hne, hnil]
          rfl
        · cases h with
          | list _ h => exact h
    | _ =>
      refine iff_of_false ?_ fun h => by cases h
      rw [problems]
      · exact List.cons_ne_nil _ _
      · rintro _ ⟨⟩
  | @record name arguments hkeys hparts hdefaults ih =>
    cases hv with
    | @obj ms hms hvalues =>
      exact ⟨accepts_record hkeys hms fun a ha m hm => (ih a ha (hvalues m hm)).mp,
        problems_of_accepts_record hms fun a ha m hm => (ih a ha (hvalues m hm)).mpr⟩
    | _ =>
      refine iff_of_false ?_ fun h => by cases h
      rw [problems]
      · exact List.cons_ne_nil _ _
      · rintro _ ⟨⟩

/-! ## The full form -/

/-- A value without problems that is its own complete form is in full form. -/
theorem isFull_of_complete_eq (h : shape.problems v = []) (hv : shape.complete v = v) :
    shape.IsFull (shape.complete v) := by
  rw [hv]
  exact ⟨h, hv⟩

/-- The complete members fill the arguments, if what is given for each is completed in full form. -/
theorem fills_completeArguments
    (hdefaults : ∀ a ∈ arguments, ∀ v, a.default? = some v → a.shape.IsFull v)
    (hparts : ∀ a ∈ arguments, ∀ v, a.shape.problems v = [] → a.shape.IsFull (a.shape.complete v))
    (h : argumentProblems arguments ms = []) :
    Fills arguments (completeArguments arguments ms) := by
  rw [argumentProblems_eq_nil_iff] at h
  induction arguments with
  | nil =>
    rw [completeArguments]
    exact .nil
  | cons a rest ih =>
    obtain ⟨hgiven, habsent⟩ := h a List.mem_cons_self
    have hfull := hparts a List.mem_cons_self
    have hdefault := hdefaults a List.mem_cons_self
    have hrest := ih (fun b hb => hdefaults b (List.mem_cons_of_mem a hb))
      (fun b hb => hparts b (List.mem_cons_of_mem a hb))
      (fun b hb => h b (List.mem_cons_of_mem a hb))
    obtain ⟨name, other, shape, default, notes⟩ := a
    rw [completeArguments]
    refine .cons ?_ hrest
    cases hv : Argument.given? (name, other, shape, default, notes) ms with
    | some p => exact hfull p.2 (hgiven p.1 p.2 hv)
    | none =>
      obtain ⟨v, hsome⟩ := Option.ne_none_iff_exists'.mp (habsent hv)
      obtain rfl : default = some v := hsome
      exact hdefault v rfl

/-- The full form of a value without problems is in full form. -/
theorem isFull_complete (hs : shape.IsSound) (h : shape.problems v = []) :
    shape.IsFull (shape.complete v) := by
  induction hs generalizing v with
  | text | optionalText | mapping =>
    refine isFull_of_complete_eq h ?_
    rw [complete] <;> (intros; contradiction)
  | @list nonEmpty item hitem ih =>
    cases v with
    | arr vs =>
      rw [problems] at h
      split at h
      case isTrue => cases h
      case isFalse hempty =>
        rw [itemProblems_eq_nil_iff] at h
        rw [complete]
        refine isFull_items (fun hne hnil => hempty ?_) fun u hu => ?_
        · rw [hne, List.map_eq_nil_iff.mp hnil]
          rfl
        · obtain ⟨v, hv, rfl⟩ := List.mem_map.mp hu
          exact ih (h v hv)
    | _ =>
      refine isFull_of_complete_eq h ?_
      rw [complete] <;> (intros; contradiction)
  | @record name arguments hkeys hparts hdefaults ih =>
    cases v with
    | obj ms =>
      rw [complete]
      exact (fills_completeArguments hdefaults (fun a ha v => ih a ha)
        (problems_record_iff.mp h).2.1).isFull
        (hkeys.sublist (Argument.names_sublist_keys arguments)) name
    | _ =>
      refine isFull_of_complete_eq h ?_
      rw [complete] <;> (intros; contradiction)

end Shape

/-! ## The contracts of the tools -/

namespace Argument

/-- An argument that is well declared: its shape is, and what counts when it is absent is in full
form. -/
structure IsDeclared (a : Argument) : Prop where
  shape : a.shape.IsSound
  default : ∀ v, a.default? = some v → a.shape.IsFull v

variable {shape : Shape} {default : Json}

theorem isDeclared_mandatory (h : shape.IsSound) (name : String) (notes : ArgumentNotes) :
    (mandatory name shape notes).IsDeclared where
  shape := h
  default := fun _ h => by cases h

theorem isDeclared_withDefault (h : shape.IsSound) (hdefault : shape.IsFull default)
    (name : String) (notes : ArgumentNotes) : (withDefault name shape default notes).IsDeclared where
  shape := h
  default := by
    rintro v ⟨⟩
    exact hdefault

theorem isDeclared_text (name description : String) : (text name description).IsDeclared :=
  isDeclared_mandatory .text name _

theorem isFull_null : Shape.optionalText.IsFull .null where
  problems := by rw [Shape.problems]
  complete := by rw [Shape.complete] <;> (intros; contradiction)

theorem isDeclared_optionalText (name description : String) :
    (optionalText name description).IsDeclared :=
  isDeclared_withDefault .optionalText isFull_null name _

end Argument

namespace Shape

open Argument

theorem IsSound.of_isDeclared {name : String} {arguments : List Argument}
    (hkeys : (arguments.flatMap Argument.keys).Nodup) (h : ∀ a ∈ arguments, a.IsDeclared) :
    IsSound (.record name arguments) :=
  .record hkeys (fun a ha => (h a ha).shape) fun a ha => (h a ha).default

theorem isFull_nil (shape : Shape) : IsFull (.list false shape) (.arr []) :=
  isFull_list (List.forall_mem_nil _)

theorem isSound_fieldRecord : fieldRecord.IsSound := by
  refine .of_isDeclared (by decide) ?_
  simp only [List.forall_mem_cons]
  refine ⟨isDeclared_mandatory .text _ _, ⟨.text, ?_⟩,
    isDeclared_withDefault (.list .text) (isFull_nil _) _ _, List.forall_mem_nil _⟩
  rintro v ⟨⟩
  exact isFull_text _

theorem isDeclared_entityArguments : ∀ a ∈ entityArguments, a.IsDeclared := by
  simp only [entityArguments, List.forall_mem_cons]
  exact ⟨isDeclared_mandatory .text _ _, isDeclared_withDefault .text (isFull_text []) _ _,
    isDeclared_withDefault (.list isSound_fieldRecord) (isFull_nil _) _ _, List.forall_mem_nil _⟩

end Shape

namespace ToolName

open Argument Shape

/-- The arguments of every tool are well declared. -/
theorem isDeclared_arguments (tool : ToolName) : ∀ a ∈ tool.arguments, a.IsDeclared := by
  have hnil : ∀ a ∈ ([] : List Argument), a.IsDeclared := List.forall_mem_nil _
  cases tool
  case createSchema => exact isDeclared_entityArguments
  case createMultipleSchemas =>
    have hentity : entityRecord.IsSound := .of_isDeclared (by decide) isDeclared_entityArguments
    exact List.forall_mem_cons.mpr ⟨isDeclared_mandatory (.list hentity) _ _, hnil⟩
  case runMigration => exact hnil
  all_goals simp only [arguments, List.forall_mem_cons]
  case listFiles => exact ⟨isDeclared_optionalText _ _, hnil⟩
  case readFile => exact ⟨isDeclared_text _ _, hnil⟩
  case writeFile => exact ⟨isDeclared_text _ _, isDeclared_text _ _, hnil⟩
  case editFile =>
    exact ⟨isDeclared_text _ _, isDeclared_optionalText _ _, isDeclared_text _ _, hnil⟩
  case analyzeRequest => exact ⟨isDeclared_text _ _, hnil⟩
  case analyzeSchema => exact ⟨isDeclared_optionalText _ _, hnil⟩
  case generateMigration =>
    exact ⟨isDeclared_withDefault .optionalText isFull_null _ _, hnil⟩
  case createApiEndpoint =>
    have hmethods : (Shape.list false .text).IsFull (.arr Method.everything) :=
      isFull_list fun v hv => by
        obtain ⟨m, -, rfl⟩ := List.mem_map.mp hv
        exact isFull_text m.label
    exact ⟨isDeclared_text _ _, isDeclared_withDefault (.list .text) hmethods _ _,
      isDeclared_optionalText _ _, hnil⟩
  case createApiClientHook => exact ⟨isDeclared_text _ _, isDeclared_optionalText _ _, hnil⟩
  case seedDatabase =>
    exact ⟨isDeclared_text _ _, isDeclared_mandatory (.list .mapping) _ _, hnil⟩

/-- The contract of every tool declares its arguments apart. -/
theorem isSound_contract (tool : ToolName) : tool.contract.IsSound :=
  .of_isDeclared (by cases tool <;> decide) tool.isDeclared_arguments

/-! ## Parsing -/

variable {tool : ToolName} {s : Text} {v : Json} {ms : Members}

/-- A text that is read is parsed as the object it stands for, and refused when it stands for
something else. -/
theorem parse_of_read (tool : ToolName) (h : Json.read argumentDepth s = .ok v) :
    tool.parse (.str s) =
      match v with
      | .obj ms => tool.parse (.obj ms)
      | _ => .error (.refused (.argumentsNotObject tool.label)) := by
  have hblank : Text.isBlank s = false := by
    refine Bool.eq_false_iff.mpr fun hblank => ?_
    obtain ⟨what, before, hflaw⟩ := Json.read_of_blank hblank argumentDepth
    rw [h] at hflaw
    cases hflaw
  have hread : readArguments tool (.str s) = .ok v := by
    rw [readArguments, hblank, h]
    rfl
  rw [parse, hread]
  cases v <;> rfl

/-- An object is parsed into its full form, or refused with its problems. -/
theorem parse_obj (tool : ToolName) (ms : Members) :
    tool.parse (.obj ms) =
      match tool.contract.problems (.obj ms) with
      | [] => .ok (tool.contract.complete (.obj ms)).asMembers
      | problems => .error (.refused (.badArguments tool.label problems)) := by
  have hread : readArguments tool (.obj ms) = .ok (.obj ms) := rfl
  rw [parse, hread]
  cases h : tool.contract.problems (.obj ms) with
  | nil =>
    simp only [bind, Except.bind, h]
    rfl
  | cons p ps =>
    simp only [bind, Except.bind, h]
    rfl

/-- An object without problems is parsed into its full form, and its full form into itself. -/
theorem parse_obj_of_no_problems (h : tool.contract.problems (.obj ms) = []) :
    ∃ full, tool.parse (.obj ms) = .ok full ∧ tool.parse (.obj full) = .ok full := by
  have hfull := Shape.isFull_complete tool.isSound_contract h
  have hcomplete : tool.contract.complete (.obj ms)
      = .obj (Shape.completeArguments tool.arguments ms) := by
    rw [contract, Shape.complete]
  rw [hcomplete] at hfull
  refine ⟨Shape.completeArguments tool.arguments ms, ?_, ?_⟩
  · rw [parse_obj, h, hcomplete]
    rfl
  · rw [parse_obj, hfull.problems, hfull.complete]
    rfl

/-- A text that is read is parsed if there is no problem with what it stands for, and refused as
invalid if there is one. -/
theorem parse_cases (tool : ToolName) (h : Json.read argumentDepth s = .ok v) :
    (tool.contract.problems v = [] ∧
        ∃ full, tool.parse (.str s) = .ok full ∧ tool.parse (.obj full) = .ok full) ∨
      (tool.contract.problems v ≠ [] ∧
        ∃ r, tool.parse (.str s) = .error (.refused r) ∧ r.kind = .validation) := by
  rw [parse_of_read tool h]
  cases v with
  | obj ms =>
    cases hproblems : tool.contract.problems (.obj ms) with
    | nil => exact .inl ⟨rfl, parse_obj_of_no_problems hproblems⟩
    | cons p ps =>
      refine .inr ⟨List.cons_ne_nil _ _, .badArguments tool.label (p :: ps), ?_, rfl⟩
      dsimp only
      rw [parse_obj, hproblems]
  | _ =>
    refine .inr ⟨?_, _, rfl, rfl⟩
    rw [contract, Shape.problems]
    · exact List.cons_ne_nil _ _
    · rintro _ ⟨⟩

/-- What is recorded of a successful step are the arguments it was parsed into. -/
theorem input_of_success {cfg : RunConfig} {id arguments : Json} {st : WorkflowState} {n : Nat}
    {done : Executed} {w w' : World}
    (h : (executeTool cfg ⟨id, .str tool.label, arguments⟩ st n).run w = (.ok done, w'))
    (hok : done.step.ok = true) (hparse : tool.parse arguments = .ok ms) :
    done.step.input = .obj ms := by
  rcases executeTool_cases h with ⟨given, outcome, hrun, hfinished⟩ |
    ⟨_, _, _, -, -, hfailed⟩ | ⟨_, -, -, hnone⟩
  · obtain ⟨t, hfind, hgiven, -⟩ := performCall_ok_iff.mp hrun
    obtain rfl : tool = t := ToolName.label_injective (Json.str.inj (findTool_ok_iff.mp hfind))
    obtain ⟨_, -, rfl⟩ := finishedCall_ok_iff.mp hfinished
    change tool.parse arguments = .ok given at hgiven
    rw [hparse] at hgiven
    cases hgiven
    rfl
  · obtain ⟨_, -, rfl⟩ := failedCall_ok_iff.mp hfailed
    cases hok
  · cases hnone

/-- **Contracts.** A text that stands for a value is parsed exactly when the contract of the tool
accepts the value, and refused as invalid otherwise. What it is parsed into is parsed into itself, so
the input that is recorded of a successful step is accepted again and means the same. -/
theorem parse_accepts_iff (tool : ToolName) (h : Json.read argumentDepth s = .ok v) :
    ((∃ ms, tool.parse (.str s) = .ok ms) ↔ tool.contract.Accepts v) ∧
      (∀ f, tool.parse (.str s) = .error f → ∃ r, f = .refused r ∧ r.kind = .validation) ∧
      ∀ ms, tool.parse (.str s) = .ok ms →
        tool.parse (.obj ms) = .ok ms ∧
          ∀ cfg id st n w done w', (executeTool cfg ⟨id, .str tool.label, .str s⟩ st n).run w
            = (.ok done, w') → done.step.ok = true → tool.parse done.step.input = .ok ms := by
  rw [← Shape.problems_eq_nil_iff tool.isSound_contract (Json.keysDiffer_of_read h)]
  rcases parse_cases tool h with ⟨hnone, full, hparse, hagain⟩ | ⟨hsome, r, hparse, hkind⟩
  · refine ⟨iff_of_true ⟨full, hparse⟩ hnone, fun f hf => ?_, fun ms hms => ?_⟩
    · rw [hparse] at hf
      cases hf
    · rw [hparse] at hms
      cases hms
      refine ⟨hagain, fun cfg id st n w done w' hdone hok => ?_⟩
      rw [input_of_success hdone hok hparse, hagain]
  · refine ⟨iff_of_false (fun ⟨ms, hms⟩ => ?_) hsome, fun f hf => ?_, fun ms hms => ?_⟩
    · rw [hparse] at hms
      cases hms
    · rw [hparse] at hf
      cases hf
      exact ⟨r, rfl, hkind⟩
    · rw [hparse] at hms
      cases hms

/-- Arguments for two schemas: one with a field whose kind is given under its other name, one without
fields. -/
def aliasedArguments : Json :=
  .obj [("entities", .arr [
    .obj [("name", .str "song"),
      ("fields", .arr [.obj [("name", .str "title"), ("type", .str "short_text")]])],
    .obj [("name", .str "album")]])]

theorem isDetermined_aliasedArguments : aliasedArguments.IsDetermined argumentDepth := by
  have hfield : Json.IsDetermined 976
      (.obj [("name", .str "title"), ("type", .str "short_text")]) :=
    .obj (by decide) (by simp) (by
      simp only [List.forall_mem_cons]
      exact ⟨.str (Text.hasEncoding_ofString _), .str (Text.hasEncoding_ofString _),
        List.forall_mem_nil _⟩)
  refine .obj (by decide) (by simp) (List.forall_mem_cons.mpr ⟨.arr ?_, List.forall_mem_nil _⟩)
  simp only [List.forall_mem_cons]
  refine ⟨.obj (by decide) (by simp) ?_, .obj (by decide) (by simp) ?_, List.forall_mem_nil _⟩
  · simp only [List.forall_mem_cons]
    refine ⟨.str (Text.hasEncoding_ofString _), .arr ?_, List.forall_mem_nil _⟩
    exact List.forall_mem_cons.mpr ⟨hfield, List.forall_mem_nil _⟩
  · simp only [List.forall_mem_cons]
    exact ⟨.str (Text.hasEncoding_ofString _), List.forall_mem_nil _⟩

/-- The arguments are accepted, and what they are parsed into is accepted again. -/
theorem aliased_arguments_are_replayed :
    Json.read argumentDepth aliasedArguments.write = .ok aliasedArguments ∧
      ∃ ms, createMultipleSchemas.parse (.str aliasedArguments.write) = .ok ms ∧
        createMultipleSchemas.parse (.obj ms) = .ok ms := by
  have hread : Json.read argumentDepth aliasedArguments.write = .ok aliasedArguments :=
    Json.read_value JsonWriter.isSpaced_oneLine isDetermined_aliasedArguments 0
  obtain ⟨haccepts, -, hagain⟩ := createMultipleSchemas.parse_accepts_iff hread
  have hnone : createMultipleSchemas.contract.problems aliasedArguments = [] := by decide +kernel
  have hgrammar := (Shape.problems_eq_nil_iff createMultipleSchemas.isSound_contract
    (Json.keysDiffer_of_read hread)).mp hnone
  obtain ⟨ms, hms⟩ := haccepts.mpr hgrammar
  exact ⟨hread, ms, hms, (hagain ms hms).1⟩

end ToolName

end Tablewright
