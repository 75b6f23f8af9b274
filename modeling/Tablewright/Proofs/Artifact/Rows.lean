/-
Which sample rows are accepted.

`Seed.Fits` says what a row has to be, by the members it holds: every key is a field, a field that
needs a value has one, and a value that is not null is one its field holds (`FieldKind.Holds`). A row
is checked in a pass over its keys and a pass over the fields; both together let through exactly the
rows that fit (`checkRow_ok_iff`), and where they do not, `Seed.RefusedFor` says what the refusal
names. Rows are checked one after another, so the refusal is that of the first row that does not fit
(`checkRowsFrom_error`).

What comes of an accepted row is the row with its members in the order of the fields. It holds the
same members (`perm_arrange`), so it fits as well, and the order in which they were written makes no
difference, for keys are looked up and none of them stands twice.
-/
import Tablewright.Proofs.Entity.Built
import Tablewright.Proofs.Json.Members
import Tablewright.Proofs.Literal.Rows

set_option autoImplicit false

namespace Tablewright

/-! ## Keys that stand once -/

namespace Members

variable {ms ms' : Members} (hkeys : (ms.map Prod.fst).Nodup)
include hkeys

/-- Where no key stands twice, the members are what is found under their keys. -/
theorem get?_eq_some_iff {key : Text} {v : Json} : ms.get? key = some v ↔ (key, v) ∈ ms :=
  ⟨mem_of_get?, get?_of_mem hkeys⟩

/-- The order of the members makes no difference to what is found. -/
theorem get?_of_perm (h : ms.Perm ms') (key : Text) : ms'.get? key = ms.get? key := by
  have hkeys' : (ms'.map Prod.fst).Nodup := (h.map Prod.fst).nodup_iff.mp hkeys
  ext v
  rw [get?_eq_some_iff hkeys', get?_eq_some_iff hkeys, h.mem_iff]

end Members

/-! ## Values -/

namespace Timestamp

/-- A text with a zero offset in the place of a final `Z`. -/
def withOffset (t : Text) : Text :=
  if t.getLast? = some (CodePoint.ofChar 'Z') then t.dropLast ++ "+00:00" else t

theorem isRowTimestamp_eq (t : Text) : isRowTimestamp t = isTimestamp (withOffset t) := by
  induction t using List.reverseRecOn with
  | nil => rfl
  | append_singleton t c _ =>
    rw [isRowTimestamp, List.reverse_concat, withOffset, List.getLast?_concat, List.dropLast_concat]
    simp [List.reverse_reverse]

end Timestamp

/-- A kind of field holds a value. -/
inductive FieldKind.Holds : FieldKind → Json → Prop
  /-- A short text has at most 255 code points. -/
  | shortText {s : Text} (h : s.length ≤ 255) : Holds .shortText (.str s)
  /-- A long text is any text. -/
  | longText {s : Text} : Holds .longText (.str s)
  /-- An integer is one; truth values are none. -/
  | integer {n : Int} : Holds .integer (.int n)
  /-- A truth value. -/
  | boolean {b : Bool} : Holds .boolean (.bool b)
  /-- A timestamp is a text that is one, with a final `Z` for a zero offset. -/
  | timestamp {s : Text} (h : Timestamp.isTimestamp (Timestamp.withOffset s) = true) :
      Holds .timestamp (.str s)

/-- Values are checked for being held. -/
theorem FieldKind.checkValue_ok_iff {k : FieldKind} {v : Json} :
    k.checkValue v = .ok () ↔ k.Holds v := by
  constructor
  · intro h
    cases k with
    | shortText =>
      cases v with
      | str s =>
        rw [checkValue] at h
        split at h
        case isTrue => cases h
        case isFalse hlength => exact .shortText (Nat.le_of_not_lt hlength)
      | null | bool _ | int _ | float _ | arr _ | obj _ => cases h
    | longText =>
      cases v with
      | str s => exact .longText
      | null | bool _ | int _ | float _ | arr _ | obj _ => cases h
    | integer =>
      cases v with
      | int n => exact .integer
      | null | bool _ | float _ | str _ | arr _ | obj _ => cases h
    | boolean =>
      cases v with
      | bool b => exact .boolean
      | null | int _ | float _ | str _ | arr _ | obj _ => cases h
    | timestamp =>
      cases v with
      | str s =>
        rw [checkValue] at h
        split at h
        case isTrue htimestamp => exact .timestamp (Timestamp.isRowTimestamp_eq s ▸ htimestamp)
        case isFalse => cases h
      | null | bool _ | int _ | float _ | arr _ | obj _ => cases h
  · intro h
    cases h with
    | shortText h => exact if_neg (Nat.not_lt.mpr h)
    | longText | integer | boolean => rfl
    | timestamp h => exact if_pos ((Timestamp.isRowTimestamp_eq _).trans h)

/-- A value that a field holds is plain. -/
theorem FieldKind.Holds.isPlain {k : FieldKind} {v : Json} (h : k.Holds v) : v.IsPlain := by
  cases h <;> trivial

theorem Field.required_iff {f : Field} :
    f.required = true ↔ .required ∈ f.constraints ∨ .primary ∈ f.constraints := by
  simp [required]

namespace Seed

/-! ## Rows that fit -/

/-- A row has what the fields ask for. -/
structure Fits (fields : List Field) (row : Members) : Prop where
  /-- Every key is a field. -/
  declared : ∀ m ∈ row, m.1 ∈ fields.map Field.name
  /-- A field that is required or primary has a value. -/
  required : ∀ f ∈ fields, .required ∈ f.constraints ∨ .primary ∈ f.constraints →
    ∃ v, (f.name, v) ∈ row ∧ v ≠ .null
  /-- A value that is not null is one its field holds. -/
  held : ∀ f ∈ fields, ∀ v, (f.name, v) ∈ row → v ≠ .null → f.kind.Holds v

/-- The order of the members makes no difference to whether a row fits. -/
theorem Fits.perm {fields : List Field} {row row' : Members} (h : Fits fields row)
    (hperm : row.Perm row') : Fits fields row' where
  declared m hm := h.declared m (hperm.mem_iff.mpr hm)
  required f hf hneeds := by
    obtain ⟨v, hv, hnull⟩ := h.required f hf hneeds
    exact ⟨v, hperm.mem_iff.mp hv, hnull⟩
  held f hf v hv := h.held f hf v (hperm.mem_iff.mpr hv)

/-- The keys of a row that are no fields. -/
def undeclared (fields : List Field) (row : Members) : List Text :=
  (row.map Prod.fst).filter fun key => !(fields.map Field.name).contains key

theorem undeclared_eq_nil_iff {fields : List Field} {row : Members} :
    undeclared fields row = [] ↔ ∀ m ∈ row, m.1 ∈ fields.map Field.name := by
  rw [undeclared, List.filter_eq_nil_iff, List.forall_mem_map]
  simp

/-- What a refusal of a row names: the keys that are no fields, or a field that needs a value and has
none, or a field with a value that it does not hold. -/
inductive RefusedFor (e : Entity) (index : Nat) (row : Members) : Refusal → Prop
  /-- Some keys are no fields. -/
  | unknown (h : undeclared e.fields row ≠ []) :
      RefusedFor e index row (.unknownRowFields index e.name (undeclared e.fields row))
  /-- A value is missing. -/
  | missing {f : Field} (hf : f ∈ e.fields) (hneeds : f.required = true)
      (hnone : ∀ v, (f.name, v) ∈ row → v = .null) :
      RefusedFor e index row (.missingRowField index e.name f.name)
  /-- A value is not held. -/
  | notHeld {f : Field} {v : Json} {flaw : ValueFlaw} (hf : f ∈ e.fields) (hv : (f.name, v) ∈ row)
      (hnull : v ≠ .null) (hflaw : f.kind.checkValue v = .error flaw) :
      RefusedFor e index row (.badRowValue index e.name f.name flaw)

variable {e : Entity} {index : Nat} {row : Members}

theorem RefusedFor.not_fits {r : Refusal} (h : RefusedFor e index row r) : ¬ Fits e.fields row := by
  intro hfits
  cases h with
  | unknown h => exact h (undeclared_eq_nil_iff.mpr hfits.declared)
  | missing hf hneeds hnone =>
    obtain ⟨v, hv, hnull⟩ := hfits.required _ hf (Field.required_iff.mp hneeds)
    exact hnull (hnone v hv)
  | notHeld hf hv hnull hflaw =>
    rw [FieldKind.checkValue_ok_iff.mpr (hfits.held _ hf _ hv hnull)] at hflaw
    cases hflaw

theorem RefusedFor.kind_eq {r : Refusal} (h : RefusedFor e index row r) : r.kind = .validation := by
  cases h <;> rfl

/-- How a row of an entity is called. -/
def rowLabel (index : Nat) (entity : Text) : Text :=
  "Row " ++ Text.ofNat index ++ " for '" ++ entity ++ "'"

/-- The refusal of a row begins with what the row is called. -/
theorem RefusedFor.names_row {r : Refusal} (h : RefusedFor e index row r) :
    rowLabel index e.name <+: r.message := by
  have hopens {t : Text} (ht : Text.ofString "'" <+: t) :
      rowLabel index e.name <+: "Row " ++ Text.ofNat index ++ " for '" ++ e.name ++ t :=
    (List.prefix_append_right_inj _).mpr ht
  cases h with
  | unknown h => exact (hopens ⟨_, rfl⟩).trans (List.prefix_append _ _)
  | missing hf hneeds hnone =>
    exact ((hopens ⟨_, rfl⟩).trans (List.prefix_append _ _)).trans (List.prefix_append _ _)
  | notHeld hf hv hnull hflaw =>
    exact (((hopens ⟨_, rfl⟩).trans (List.prefix_append _ _)).trans (List.prefix_append _ _)).trans
      (List.prefix_append _ _)

/-! ## Checking a row -/

/-- Check the value a row gives to one field. -/
def checkField (index : Nat) (entity : Text) (row : Members) (f : Field) : Except Refusal Unit :=
  match given? row f with
  | none => if f.required then .error (.missingRowField index entity f.name) else .ok ()
  | some v => (f.kind.checkValue v).mapError (.badRowValue index entity f.name)

theorem checkField_ok_iff_of_given {entity : Text} {f : Field} {v : Json}
    (h : given? row f = some v) : checkField index entity row f = .ok () ↔ f.kind.Holds v := by
  rw [checkField, h, ← FieldKind.checkValue_ok_iff]
  dsimp only
  cases f.kind.checkValue v <;> simp

/-- Values are checked field by field. -/
theorem checkValues_cons (index : Nat) (entity : Text) (row : Members) (f : Field)
    (fields : List Field) :
    checkValues index entity row (f :: fields)
      = checkField index entity row f >>= fun _ => checkValues index entity row fields := by
  rw [checkValues, checkField]
  cases given? row f with
  | none => cases f.required <;> rfl
  | some v =>
    dsimp only
    cases f.kind.checkValue v <;> rfl

theorem checkValues_ok_iff {entity : Text} {fields : List Field} :
    checkValues index entity row fields = .ok () ↔
      ∀ f ∈ fields, checkField index entity row f = .ok () := by
  induction fields with
  | nil => exact iff_of_true rfl (List.forall_mem_nil _)
  | cons f fields ih =>
    rw [checkValues_cons, Effect.result_bind_ok_iff, List.forall_mem_cons, ih]
    exact ⟨fun ⟨_, hf, hfields⟩ => ⟨hf, hfields⟩, fun ⟨hf, hfields⟩ => ⟨(), hf, hfields⟩⟩

theorem exists_of_checkValues_error {entity : Text} {fields : List Field} {r : Refusal}
    (h : checkValues index entity row fields = .error r) :
    ∃ f ∈ fields, checkField index entity row f = .error r := by
  induction fields with
  | nil => cases h
  | cons f fields ih =>
    rw [checkValues_cons] at h
    rcases Effect.result_bind_error_iff.mp h with hf | ⟨_, -, hrest⟩
    · exact ⟨f, List.mem_cons_self, hf⟩
    · obtain ⟨g, hg, herror⟩ := ih hrest
      exact ⟨g, List.mem_cons_of_mem f hg, herror⟩

/-- A row is checked for its keys and then for its values. -/
theorem checkRow_eq (e : Entity) (index : Nat) (row : Members) :
    checkRow e index row =
      if undeclared e.fields row ≠ [] then
        .error (.unknownRowFields index e.name (undeclared e.fields row))
      else (checkValues index e.name row e.fields).map fun _ => arrange e.fields row := by
  have hunknown : (row.map (·.1)).filter (fun key => !(e.fields.any fun f => f.name = key))
      = undeclared e.fields row := by
    unfold undeclared
    apply List.filter_congr
    intro key _
    apply Bool.eq_iff_iff.mpr
    simp
  rw [checkRow, hunknown]
  cases undeclared e.fields row with
  | nil =>
    cases checkValues index e.name row e.fields <;> rfl
  | cons key keys => rfl

theorem checkRow_ok_iff_fields {cleaned : Members} :
    checkRow e index row = .ok cleaned ↔
      undeclared e.fields row = [] ∧ (∀ f ∈ e.fields, checkField index e.name row f = .ok ()) ∧
      arrange e.fields row = cleaned := by
  rw [checkRow_eq, ← checkValues_ok_iff]
  by_cases hunknown : undeclared e.fields row = []
  · rw [if_neg (not_not_intro hunknown)]
    cases checkValues index e.name row e.fields <;> simp [hunknown, Except.map]
  · rw [if_pos hunknown]
    simp [hunknown]

section Row

variable (hkeys : (row.map Prod.fst).Nodup)
include hkeys

theorem given?_eq_some_iff {f : Field} {v : Json} :
    given? row f = some v ↔ (f.name, v) ∈ row ∧ v ≠ .null := by
  rw [given?, ← Members.get?_eq_some_iff hkeys]
  split
  case h_1 hnull =>
    rw [hnull]
    simp [eq_comm]
  case h_2 hother =>
    constructor
    · intro hv
      exact ⟨hv, fun hnull => hother (hnull ▸ hv)⟩
    · exact And.left

theorem given?_eq_none_iff {f : Field} :
    given? row f = none ↔ ∀ v, (f.name, v) ∈ row → v = .null := by
  rw [Option.eq_none_iff_forall_ne_some]
  simp only [ne_eq, given?_eq_some_iff hkeys, not_and, not_not]

theorem checkField_ok_iff {entity : Text} {f : Field} :
    checkField index entity row f = .ok () ↔
      (f.required = true → ∃ v, (f.name, v) ∈ row ∧ v ≠ .null) ∧
      ∀ v, (f.name, v) ∈ row → v ≠ .null → f.kind.Holds v := by
  cases hv : given? row f with
  | none =>
    rw [checkField, hv]
    have hnull := (given?_eq_none_iff hkeys).mp hv
    by_cases hneeds : f.required = true
    · refine iff_of_false (by simp [hneeds]) fun ⟨hvalue, _⟩ => ?_
      obtain ⟨v, hmem, hne⟩ := hvalue hneeds
      exact hne (hnull v hmem)
    · exact iff_of_true (if_neg hneeds)
        ⟨fun h => absurd h hneeds, fun v hmem hne => absurd (hnull v hmem) hne⟩
  | some v =>
    obtain ⟨hmem, hne⟩ := (given?_eq_some_iff hkeys).mp hv
    -- the key stands once, so what holds of the value that is found holds of every one
    have honly : ∀ u, (f.name, u) ∈ row → u ≠ .null → u = v := by
      intro u hu hnull
      have hgiven := (given?_eq_some_iff hkeys).mpr ⟨hu, hnull⟩
      exact Option.some.inj (hgiven.symm.trans hv)
    rw [checkField_ok_iff_of_given hv]
    constructor
    · intro h
      exact ⟨fun _ => ⟨v, hmem, hne⟩, fun u hu hnull => honly u hu hnull ▸ h⟩
    · intro h
      exact h.2 v hmem hne

theorem refusedFor_of_checkField {f : Field} {r : Refusal} (hf : f ∈ e.fields)
    (h : checkField index e.name row f = .error r) : RefusedFor e index row r := by
  rw [checkField] at h
  cases hv : given? row f with
  | none =>
    rw [hv] at h
    dsimp only at h
    split at h
    case isTrue hneeds =>
      cases h
      exact .missing hf hneeds ((given?_eq_none_iff hkeys).mp hv)
    case isFalse => cases h
  | some v =>
    obtain ⟨hmem, hnull⟩ := (given?_eq_some_iff hkeys).mp hv
    rw [hv] at h
    dsimp only at h
    cases hcheck : f.kind.checkValue v with
    | error flaw =>
      rw [hcheck] at h
      cases h
      exact .notHeld hf hmem hnull hcheck
    | ok _ =>
      rw [hcheck] at h
      cases h

/-- A row passes its check exactly if it fits, and its members are then put in order. -/
theorem checkRow_ok_iff {cleaned : Members} :
    checkRow e index row = .ok cleaned ↔ Fits e.fields row ∧ arrange e.fields row = cleaned := by
  rw [checkRow_ok_iff_fields, undeclared_eq_nil_iff, ← and_assoc]
  refine and_congr_left fun _ => ?_
  simp only [checkField_ok_iff hkeys]
  constructor
  · intro h
    exact {
      declared := h.1
      required := fun f hf hneeds => (h.2 f hf).1 (Field.required_iff.mpr hneeds)
      held := fun f hf => (h.2 f hf).2 }
  · intro h
    exact ⟨h.declared, fun f hf =>
      ⟨fun hneeds => h.required f hf (Field.required_iff.mp hneeds), h.held f hf⟩⟩

/-- A row that is refused does not fit, and the refusal names the reason. -/
theorem refusedFor_of_checkRow {r : Refusal} (h : checkRow e index row = .error r) :
    RefusedFor e index row r := by
  rw [checkRow_eq] at h
  split at h
  case isTrue hunknown =>
    cases h
    exact .unknown hunknown
  case isFalse =>
    cases hvalues : checkValues index e.name row e.fields with
    | error r' =>
      rw [hvalues] at h
      cases h
      obtain ⟨f, hf, herror⟩ := exists_of_checkValues_error hvalues
      exact refusedFor_of_checkField hkeys hf herror
    | ok _ =>
      rw [hvalues] at h
      cases h

end Row

/-! ## Plain values

They are what the literal of the rows is laid out for. -/

/-- What an accepted row holds is plain, whatever keys stand twice in it. -/
theorem isPlain_of_checkRow {cleaned : Members} (h : checkRow e index row = .ok cleaned) :
    ∀ m ∈ cleaned, m.2.IsPlain := by
  obtain ⟨-, hfields, rfl⟩ := checkRow_ok_iff_fields.mp h
  intro m hm
  obtain ⟨f, hf, hmember⟩ := List.mem_filterMap.mp hm
  obtain ⟨v, hv, rfl⟩ := Option.map_eq_some_iff.mp hmember
  by_cases hnull : v = .null
  · rw [hnull]
    trivial
  · -- what is not null is the value that was checked
    have hgiven : given? row f = some v := by
      rw [given?, hv]
      split
      case h_1 h => exact absurd (Option.some.inj h) hnull
      case h_2 => rfl
    exact ((checkField_ok_iff_of_given hgiven).mp (hfields f hf)).isPlain

/-- What holds of every row that comes of one accepted row holds of all rows that come of accepted
ones. -/
theorem forall_of_checkRowsFrom {P : Members → Prop}
    (hP : ∀ {index row ms}, checkRow e index row = .ok ms → P ms) {rows accepted : List Members}
    (h : checkRowsFrom e index rows = .ok accepted) : ∀ ms ∈ accepted, P ms := by
  induction rows generalizing index accepted with
  | nil =>
    cases h
    exact List.forall_mem_nil _
  | cons row rest ih =>
    obtain ⟨ms, hrow, h⟩ := Effect.result_bind_ok_iff.mp h
    obtain ⟨others, hothers, hlast⟩ := Effect.result_bind_ok_iff.mp h
    cases hlast
    exact List.forall_mem_cons.mpr ⟨hP hrow, ih hothers⟩

theorem forall_of_checkRows {P : Members → Prop}
    (hP : ∀ {index row ms}, checkRow e index row = .ok ms → P ms) {rows accepted : List Members}
    (h : checkRows e rows = .ok accepted) : ∀ ms ∈ accepted, P ms := by
  rw [checkRows] at h
  split at h
  · cases h
  · exact forall_of_checkRowsFrom hP h

/-- Accepted rows hold plain values. -/
theorem isPlain_of_checkRows {rows accepted : List Members}
    (h : checkRows e rows = .ok accepted) : ∀ ms ∈ accepted, ∀ m ∈ ms, m.2.IsPlain :=
  forall_of_checkRows isPlain_of_checkRow h

/-! ## The order of the members -/

theorem mem_arrange {fields : List Field} (hkeys : (row.map Prod.fst).Nodup) {m : Text × Json} :
    m ∈ arrange fields row ↔ m ∈ row ∧ m.1 ∈ fields.map Field.name := by
  unfold arrange
  simp only [List.mem_filterMap, Option.map_eq_some_iff, Members.get?_eq_some_iff hkeys]
  constructor
  · rintro ⟨f, hf, v, hv, rfl⟩
    exact ⟨hv, List.mem_map_of_mem hf⟩
  · rintro ⟨hm, hname⟩
    obtain ⟨f, hf, hfield⟩ := List.mem_map.mp hname
    exact ⟨f, hf, m.2, hfield ▸ hm, by rw [hfield]⟩

/-- The keys come in the order of the fields. -/
theorem keys_arrange_sublist (fields : List Field) (row : Members) :
    ((arrange fields row).map Prod.fst).Sublist (fields.map Field.name) := by
  induction fields with
  | nil => exact .slnil
  | cons f fields ih =>
    rw [arrange, List.filterMap_cons]
    cases Members.get? f.name row with
    | none => exact ih.cons f.name
    | some v => exact ih.cons_cons f.name

/-- Members that are fields stay when they are put in order. -/
theorem perm_arrange {fields : List Field} (hnames : (fields.map Field.name).Nodup)
    (hkeys : (row.map Prod.fst).Nodup) (h : ∀ m ∈ row, m.1 ∈ fields.map Field.name) :
    (arrange fields row).Perm row := by
  have hcleaned : ((arrange fields row).map Prod.fst).Nodup :=
    hnames.sublist (keys_arrange_sublist fields row)
  rw [List.perm_ext_iff_of_nodup (List.Nodup.of_map _ hcleaned) (List.Nodup.of_map _ hkeys)]
  intro m
  rw [mem_arrange hkeys]
  exact ⟨And.left, fun hm => ⟨hm, h m hm⟩⟩

/-- The order in which the members were makes no difference to the order in which they are put. -/
theorem arrange_of_perm (fields : List Field) {row' : Members} (hkeys : (row.map Prod.fst).Nodup)
    (h : row.Perm row') : arrange fields row' = arrange fields row := by
  unfold arrange
  simp only [Members.get?_of_perm hkeys h]

/-! ## Rows one after another -/

section Rows

variable {rows : List Members} (hkeys : ∀ row ∈ rows, (row.map Prod.fst).Nodup)
include hkeys

theorem checkRowsFrom_ok_iff {cleaned : List Members} :
    checkRowsFrom e index rows = .ok cleaned ↔
      (∀ row ∈ rows, Fits e.fields row) ∧ rows.map (arrange e.fields) = cleaned := by
  induction rows generalizing index cleaned with
  | nil => simp [checkRowsFrom, eq_comm]
  | cons row rows ih =>
    obtain ⟨hrow, hrows⟩ := List.forall_mem_cons.mp hkeys
    rw [checkRowsFrom, Effect.result_bind_ok_iff, List.forall_mem_cons, List.map_cons]
    constructor
    · rintro ⟨first, hfirst, h⟩
      obtain ⟨rest, hrest, hlast⟩ := Effect.result_bind_ok_iff.mp h
      obtain ⟨hfits, rfl⟩ := (checkRow_ok_iff hrow).mp hfirst
      obtain ⟨hfit, rfl⟩ := (ih hrows).mp hrest
      exact ⟨⟨hfits, hfit⟩, Except.ok.inj hlast⟩
    · rintro ⟨⟨hfits, hfit⟩, rfl⟩
      exact ⟨_, (checkRow_ok_iff hrow).mpr ⟨hfits, rfl⟩,
        Effect.result_bind_ok_iff.mpr ⟨_, (ih hrows).mpr ⟨hfit, rfl⟩, rfl⟩⟩

/-- The refusal of rows is that of the first one that does not fit. -/
theorem checkRowsFrom_error {r : Refusal} (h : checkRowsFrom e index rows = .error r) :
    ∃ before row after, rows = before ++ row :: after ∧ (∀ b ∈ before, Fits e.fields b) ∧
      RefusedFor e (index + before.length) row r := by
  induction rows generalizing index with
  | nil => cases h
  | cons row rows ih =>
    obtain ⟨hrow, hrows⟩ := List.forall_mem_cons.mp hkeys
    rw [checkRowsFrom] at h
    rcases Effect.result_bind_error_iff.mp h with hfirst | ⟨first, hfirst, hrest⟩
    -- the first row is refused, or it passes and the others are numbered from the next one on
    · exact ⟨[], row, rows, rfl, List.forall_mem_nil _, refusedFor_of_checkRow hrow hfirst⟩
    · rcases Effect.result_bind_error_iff.mp hrest with hnext | ⟨_, -, hlast⟩
      · obtain ⟨before, bad, after, rfl, hfit, hrefused⟩ := ih hrows hnext
        have hfits := ((checkRow_ok_iff hrow).mp hfirst).1
        refine ⟨row :: before, bad, after, rfl, List.forall_mem_cons.mpr ⟨hfits, hfit⟩, ?_⟩
        rw [List.length_cons, Nat.add_comm before.length, ← Nat.add_assoc]
        exact hrefused
      · cases hlast

theorem checkRows_ok_iff {cleaned : List Members} :
    checkRows e rows = .ok cleaned ↔
      rows ≠ [] ∧ (∀ row ∈ rows, Fits e.fields row) ∧ rows.map (arrange e.fields) = cleaned := by
  rw [checkRows]
  cases rows with
  | nil => simp
  | cons row rows => simpa using checkRowsFrom_ok_iff hkeys

end Rows

theorem map_arrange_of_perm (fields : List Field) {rows rows' : List Members}
    (hkeys : ∀ row ∈ rows, (row.map Prod.fst).Nodup) (hperm : List.Forall₂ List.Perm rows rows') :
    rows'.map (arrange fields) = rows.map (arrange fields) := by
  induction hperm with
  | nil => rfl
  | cons hrow _ ih =>
    obtain ⟨hfirst, hrest⟩ := List.forall_mem_cons.mp hkeys
    rw [List.map_cons, List.map_cons, arrange_of_perm fields hfirst hrow, ih hrest]

theorem nodup_keys_of_perm {rows rows' : List Members}
    (hkeys : ∀ row ∈ rows, (row.map Prod.fst).Nodup) (hperm : List.Forall₂ List.Perm rows rows') :
    ∀ row ∈ rows', (row.map Prod.fst).Nodup :=
  (forall_mem_iff_of_forall₂ hperm fun _ _ hrow => (hrow.map Prod.fst).nodup_iff).mp hkeys

/-- Rows that are accepted are accepted with their members in another order, and the same comes of
them. -/
theorem checkRows_of_perm {rows rows' cleaned : List Members}
    (hkeys : ∀ row ∈ rows, (row.map Prod.fst).Nodup) (hperm : List.Forall₂ List.Perm rows rows')
    (h : checkRows e rows = .ok cleaned) : checkRows e rows' = .ok cleaned := by
  obtain ⟨hne, hfits, hcleaned⟩ := (checkRows_ok_iff hkeys).mp h
  have hfits' : ∀ row ∈ rows', Fits e.fields row :=
    (forall_mem_iff_of_forall₂ hperm fun _ _ hrow =>
      ⟨fun hfit => hfit.perm hrow, fun hfit => hfit.perm hrow.symm⟩).mp hfits
  refine (checkRows_ok_iff (nodup_keys_of_perm hkeys hperm)).mpr ⟨?_, hfits', ?_⟩
  · rintro rfl
    exact hne (List.forall₂_nil_right_iff.mp hperm)
  · rw [map_arrange_of_perm e.fields hkeys hperm, hcleaned]

theorem checkRows_perm_iff {rows rows' cleaned : List Members}
    (hkeys : ∀ row ∈ rows, (row.map Prod.fst).Nodup) (hperm : List.Forall₂ List.Perm rows rows') :
    checkRows e rows = .ok cleaned ↔ checkRows e rows' = .ok cleaned := by
  have hback : List.Forall₂ List.Perm rows' rows := hperm.flip.imp fun _ _ => List.Perm.symm
  exact ⟨checkRows_of_perm hkeys hperm, checkRows_of_perm (nodup_keys_of_perm hkeys hperm) hback⟩

/-- An accepted row is put into the order of the fields and is otherwise left as it is. -/
def Arranged (fields : List Field) (row cleaned : Members) : Prop :=
  cleaned.Perm row ∧ (cleaned.map Prod.fst).Sublist (fields.map Field.name)

theorem forall₂_arranged {fields : List Field} (hnames : (fields.map Field.name).Nodup)
    {rows : List Members} (hkeys : ∀ row ∈ rows, (row.map Prod.fst).Nodup)
    (hfits : ∀ row ∈ rows, Fits fields row) :
    List.Forall₂ (Arranged fields) rows (rows.map (arrange fields)) := by
  rw [List.forall₂_map_right_iff, List.forall₂_same]
  intro row hrow
  exact ⟨perm_arrange hnames (hkeys row hrow) (hfits row hrow).declared,
    keys_arrange_sublist fields row⟩

/-- The seed module is compiled from the rows that were accepted. -/
theorem compileSeed_congr {rows rows' : List Members}
    (h : ∀ cleaned, checkRows e rows = .ok cleaned ↔ checkRows e rows' = .ok cleaned)
    (a : Artifact) : e.compileSeed rows = .ok a ↔ e.compileSeed rows' = .ok a := by
  unfold Entity.compileSeed
  simp only [Effect.result_bind_ok_iff, h]

/-- Sample rows of a built entity are accepted exactly if there are some and each of them fits. They
are refused otherwise, and where there are rows, the refusal is that of the first one that does not
fit and begins with its number and the entity. What comes of accepted rows is the rows themselves,
the members of each put into the order of the fields; it is accepted again and stays as it is. In
which order the members were written changes neither what is accepted nor the seed module. -/
theorem accepted_of_built {label description : Text} {raws : List Json} {e : Entity}
    (h : Entity.build label description raws = .ok e) {rows : List Members}
    (hkeys : ∀ row ∈ rows, (row.map Prod.fst).Nodup) :
    ((∃ cleaned, checkRows e rows = .ok cleaned) ↔
      rows ≠ [] ∧ ∀ row ∈ rows, Fits e.fields row) ∧
    (∀ r, checkRows e rows = .error r → r.kind = .validation ∧
      (rows = [] ∧ r = .noRows e.name ∨
        ∃ before row after, rows = before ++ row :: after ∧ (∀ b ∈ before, Fits e.fields b) ∧
          ¬ Fits e.fields row ∧ RefusedFor e before.length row r ∧
          rowLabel before.length e.name <+: r.message)) ∧
    (∀ cleaned, checkRows e rows = .ok cleaned →
      List.Forall₂ (Arranged e.fields) rows cleaned ∧ checkRows e cleaned = .ok cleaned) ∧
    ∀ rows', List.Forall₂ List.Perm rows rows' →
      (∀ cleaned, checkRows e rows = .ok cleaned ↔ checkRows e rows' = .ok cleaned) ∧
      ∀ a, e.compileSeed rows = .ok a ↔ e.compileSeed rows' = .ok a := by
  have hnames : (e.fields.map Field.name).Nodup := (Entity.isBuilt_of_build h).1.nodup
  refine ⟨?_, fun r hr => ?_, fun cleaned hcleaned => ?_, fun rows' hperm => ?_⟩
  · simp only [checkRows_ok_iff hkeys]
    exact ⟨fun ⟨_, hne, hfits, _⟩ => ⟨hne, hfits⟩, fun ⟨hne, hfits⟩ => ⟨_, hne, hfits, rfl⟩⟩
  · rw [checkRows] at hr
    split at hr
    case isTrue hempty =>
      cases hr
      exact ⟨rfl, .inl ⟨List.isEmpty_iff.mp hempty, rfl⟩⟩
    case isFalse =>
      obtain ⟨before, row, after, hrows, hfits, hrefused⟩ := checkRowsFrom_error hkeys hr
      rw [Nat.zero_add] at hrefused
      exact ⟨hrefused.kind_eq, .inr ⟨before, row, after, hrows, hfits, hrefused.not_fits, hrefused,
        hrefused.names_row⟩⟩
  · obtain ⟨-, hfits, rfl⟩ := (checkRows_ok_iff hkeys).mp hcleaned
    have harranged := forall₂_arranged hnames hkeys hfits
    exact ⟨harranged, checkRows_of_perm hkeys (harranged.imp fun _ _ hrow => hrow.1.symm) hcleaned⟩
  · have hsame (cleaned : List Members) :
        checkRows e rows = .ok cleaned ↔ checkRows e rows' = .ok cleaned :=
      checkRows_perm_iff hkeys hperm
    exact ⟨hsame, compileSeed_congr hsame⟩

/-- A row with a null and a timestamp is put in order; one without a title is named. -/
theorem accepted_of_album :
    let e : Entity := ⟨"album", "", [⟨"title", .shortText, [.required]⟩, ⟨"year", .integer, []⟩,
      ⟨"released", .timestamp, []⟩]⟩
    let row : Members :=
      [("released", .str "1971-06-22T00:00:00Z"), ("year", .null), ("title", .str "Blue")]
    let cleaned : Members :=
      [("title", .str "Blue"), ("year", .null), ("released", .str "1971-06-22T00:00:00Z")]
    Entity.build "Album" [] (e.fields.map Field.toJson) = .ok e ∧
      checkRows e [row] = .ok [cleaned] ∧ checkRows e [cleaned] = .ok [cleaned] ∧
      checkRows e [row, [("year", .int 1971)]] = .error (.missingRowField 1 "album" "title") ∧
      ¬ (∀ r ∈ [row, [("year", .int 1971)]], Fits e.fields r) := by
  intro e row cleaned
  have hbuild : Entity.build "Album" [] (e.fields.map Field.toJson) = .ok e := rfl
  have hgood : checkRows e [row] = .ok [cleaned] := rfl
  have hbad : checkRows e [row, [("year", .int 1971)]]
      = .error (.missingRowField 1 "album" "title") := rfl
  have hkeys : ∀ r ∈ [row, [("year", .int 1971)]], (r.map Prod.fst).Nodup := by decide
  obtain ⟨hfits, -⟩ := accepted_of_built hbuild hkeys
  have hkey : ∀ r ∈ [row], (r.map Prod.fst).Nodup := by decide
  obtain ⟨-, -, hagain, -⟩ := accepted_of_built hbuild hkey
  refine ⟨hbuild, hgood, (hagain [cleaned] hgood).2, hbad, fun hall => ?_⟩
  obtain ⟨others, hothers⟩ := hfits.mpr ⟨by simp, hall⟩
  rw [hbad] at hothers
  cases hothers

end Seed

end Tablewright
