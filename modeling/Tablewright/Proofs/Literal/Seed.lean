/-
What the literal of a seed module denotes.

A row comes in two layouts, on one line or one member a line, and so do the rows; a text may be cut
into pieces besides. In all of them the parts are joined with a comma and blanks, so what is to be
shown is that each part is read: a text as what its pieces make up, and any other value as it is
displayed. The module around the literal is made of fixed lines and of the names of the entity, and
neither holds an equals sign before the rows, so the literal begins where the first one stands
(`Entity.rows_read_compileSeed`).
-/
import Tablewright.Proofs.Artifact.Columns
import Tablewright.Proofs.Artifact.Rows
import Tablewright.Proofs.Literal.Reader
import Tablewright.Proofs.Text.Occurrence
import Tablewright.Proofs.Tool.Legible

set_option autoImplicit false

namespace Tablewright

/-! ## Values on one line -/

namespace Json

/-- A member on one line. -/
def displayMember (m : Text × Json) : Text := Text.quoted m.1 ++ (": " ++ m.2.displayQuoted)

theorem displayItems_eq (v : Json) (vs : List Json) :
    v.displayQuoted ++ displayItems vs = Text.join ", " ((v :: vs).map displayQuoted) := by
  induction vs generalizing v with
  | nil =>
    rw [displayItems, List.append_nil]
    rfl
  | cons u us ih =>
    change _ = v.displayQuoted ++ Text.ofString ", " ++ Text.join ", " ((u :: us).map displayQuoted)
    rw [← ih u, displayItems]
    simp only [List.append_assoc]

theorem displayMembers_eq (m : Text × Json) (ms : Members) :
    displayMember m ++ displayMembers ms = Text.join ", " ((m :: ms).map displayMember) := by
  induction ms generalizing m with
  | nil =>
    rw [displayMembers, List.append_nil]
    rfl
  | cons n ms ih =>
    change _ = displayMember m ++ Text.ofString ", " ++ Text.join ", " ((n :: ms).map displayMember)
    rw [← ih n, displayMembers, displayMember, displayMember]
    simp only [List.append_assoc]

/-- A list on one line is its items, joined. -/
theorem displayQuoted_arr (vs : List Json) : (Json.arr vs).displayQuoted
    = CodePoint.ofChar '[' :: (Text.join ", " (vs.map displayQuoted) ++ [CodePoint.ofChar ']']) := by
  cases vs with
  | nil => rfl
  | cons v vs =>
    rw [← displayItems_eq, displayQuoted]
    simp only [List.append_assoc]
    rfl

/-- An object on one line is its members, joined. -/
theorem displayQuoted_obj (ms : Members) : (Json.obj ms).displayQuoted
    = CodePoint.ofChar '\x7b' :: (Text.join ", " (ms.map displayMember)
      ++ [CodePoint.ofChar '\x7d']) := by
  cases ms with
  | nil => rfl
  | cons m ms =>
    rw [← displayMembers_eq, displayQuoted, displayMember]
    simp only [List.append_assoc]
    rfl

end Json

namespace RowsLiteral

open LiteralReader

variable {v : Json} {ms : Members} {rs : List Members}

/-! ## Values and members -/

/-- A value on one line is read as it is. -/
theorem readsAs_displayQuoted (h : v.IsPlain) : ReadsAs v.displayQuoted v := by
  cases v with
  | null => exact readsAs_null
  | bool b =>
    cases b
    · exact readsAs_false
    · exact readsAs_true
  | int n => exact readsAs_ofInt n
  | str s => exact readsAs_quoted s
  | float _ | arr _ | obj _ => exact absurd h id

/-- A text is read as what its pieces make up. -/
theorem readsAs_text (indent allowance : Int) (t : Text) :
    ReadsAs (text indent allowance t) (.str t) := by
  obtain ⟨ps, hne, rfl, htext⟩ := text_eq_join indent allowance t
  rw [htext]
  exact readsAs_texts (isBlanks_line _) (List.cons_ne_nil _ _) hne

theorem readsAs_value (indent allowance : Int) (h : v.IsPlain) :
    ReadsAs (value indent allowance v) v := by
  cases v with
  | str s => exact readsAs_text indent allowance s
  | null | bool _ | int _ => exact readsAs_displayQuoted h
  | float _ | arr _ | obj _ => exact absurd h id

/-- Members on one line are read one by one. -/
theorem readsAsMember_display (h : ∀ m ∈ ms, m.2.IsPlain) :
    List.Forall₂ ReadsAsMember (ms.map Json.displayMember) ms := by
  induction ms with
  | nil => exact .nil
  | cons m ms ih =>
    obtain ⟨hm, hms⟩ := List.forall_mem_cons.mp h
    exact .cons ⟨_, rfl, readsAs_displayQuoted hm⟩ (ih hms)

/-- Members on lines of their own are read one by one. -/
theorem readsAsMember_memberLines (h : ∀ m ∈ ms, m.2.IsPlain) :
    List.Forall₂ ReadsAsMember (memberLines ms) ms := by
  induction ms with
  | nil => exact .nil
  | cons m ms ih =>
    obtain ⟨key, v⟩ := m
    obtain ⟨hv, hms⟩ := List.forall_mem_cons.mp h
    exact .cons ⟨_, List.append_assoc _ _ _, readsAs_value _ _ hv⟩ (ih hms)

/-! ## Rows -/

/-- A row in the layout of a line is read as the row. -/
theorem readsAs_displayObject (h : ∀ m ∈ ms, m.2.IsPlain) (hkeys : (ms.map Prod.fst).Nodup) :
    ReadsAs (Json.obj ms).displayQuoted (.obj ms) := by
  rw [Json.displayQuoted_obj]
  exact readsAs_obj (isBlanks_spaces 1) (readsAsMember_display h) hkeys

/-- A row is read as the row, in either layout. -/
theorem readsAs_row (h : ∀ m ∈ ms, m.2.IsPlain) (hkeys : (ms.map Prod.fst).Nodup) :
    ReadsAs (row ms) (.obj ms) := by
  rw [row]
  split
  · exact readsAs_displayObject h hkeys
  · exact readsAs_obj (isBlanks_line 2) (readsAsMember_memberLines h) hkeys

/-- Rows one by one, each laid out in some way, are read as the rows. -/
theorem forall₂_readsAs {f : Members → Text} (h : ∀ ms ∈ rs, ReadsAs (f ms) (.obj ms)) :
    List.Forall₂ ReadsAs (rs.map f) (rs.map .obj) := by
  rw [List.forall₂_map_left_iff, List.forall₂_map_right_iff, List.forall₂_same]
  exact h

/-- **Rows are read back.** The literal of rows that hold plain values, each key once, is read as the
rows, and reading stops where it ends. -/
theorem list?_rows (hplain : ∀ ms ∈ rs, ∀ m ∈ ms, m.2.IsPlain)
    (hkeys : ∀ ms ∈ rs, (ms.map Prod.fst).Nodup) (rest : Text) :
    list? (rows rs ++ rest) = some (rs.map .obj, rest) := by
  rw [rows]
  split
  · have hread := forall₂_readsAs fun ms hms => readsAs_displayObject (hplain ms hms) (hkeys ms hms)
    rw [Json.displayQuoted_arr, List.cons_append, List.append_assoc, List.map_map]
    exact list?_join (isBlanks_spaces 1) hread rest
  · have hread := forall₂_readsAs fun ms hms => readsAs_row (hplain ms hms) (hkeys ms hms)
    rw [List.append_assoc, List.append_assoc]
    exact list?_join (isBlanks_line 1) hread rest

end RowsLiteral

/-! ## Seed modules -/

/-- Where columns keep apart, fields do. -/
theorem Entity.ColumnsApart.nodup_names {e : Entity} (h : e.ColumnsApart) :
    (e.fields.map Field.name).Nodup := by
  have hcolumns : e.fields.map Field.column = (e.fields.map Field.name).map Naming.snake :=
    List.map_map.symm
  exact List.Nodup.of_map Naming.snake (hcolumns ▸ h.nodup)

namespace Seed

variable {n : Names}

/-- An accepted row holds each key once. -/
theorem nodup_of_checkRows {e : Entity} (hnames : (e.fields.map Field.name).Nodup)
    {rows cleaned : List Members} (h : checkRows e rows = .ok cleaned) :
    ∀ ms ∈ cleaned, (ms.map Prod.fst).Nodup := by
  refine forall_of_checkRows (fun hrow => ?_) h
  obtain ⟨-, -, rfl⟩ := checkRow_ok_iff_fields.mp hrow
  exact hnames.sublist (keys_arrange_sublist _ _)

/-- What stands before the rows of a seed module. -/
def opening (n : Names) : Text := Text.unlines ((lines n []).take 5) ++ "\n"

/-- What stands behind the rows of a seed module. -/
def closing (n : Names) : Text := "\n" ++ Text.unlines ((lines n []).drop 6)

/-- The lines before the rows and the lines behind them do not depend on the rows. -/
theorem unlines_lines (n : Names) (rows : Text) :
    Text.unlines (lines n rows) = opening n ++ Text.ofString "ROWS = " ++ (rows ++ closing n) := by
  have hlines : lines n rows
      = (lines n []).take 5 ++ ([Text.ofString "ROWS = " ++ rows] ++ (lines n []).drop 6) := rfl
  have hbefore : (lines n []).take 5 ≠ [] := List.cons_ne_nil _ _
  have hafter : (lines n []).drop 6 ≠ [] := List.cons_ne_nil _ _
  rw [Text.unlines, hlines, Text.join_append _ hbefore (List.append_ne_nil_of_right_ne_nil _ hafter),
    Text.join_append _ (List.cons_ne_nil _ _) hafter, opening, closing, Text.unlines, Text.unlines,
    Text.join]
  simp only [List.append_assoc]

/-- Before the rows of a seed module stands no equals sign. -/
theorem not_mem_opening (label : Text) : CodePoint.ofChar '=' ∉ opening (Names.ofLabel label) := by
  have hcanonical := Names.not_mem_canonical (c := '=') (by decide) (by decide) label
  have htype := Names.not_mem_typeName (c := '=') (by decide) (by decide) label
  have hlines : ∀ line ∈ (lines (Names.ofLabel label) []).take 5, CodePoint.ofChar '=' ∉ line := by
    simp only [lines, List.take, Names.model, Names.insertShape, List.forall_mem_cons,
      List.mem_append, not_or]
    and_intros
    all_goals
      first
      | exact List.forall_mem_nil _
      | with_reducible assumption
      | decide
  intro h
  rcases List.mem_append.mp h with h | h
  · rcases Text.mem_join h with hfeed | ⟨line, hline, hmem⟩
    · exact absurd hfeed (by decide)
    · exact hlines line hline hmem
  · exact absurd h (by decide)

end Seed

/-- **The rows of a seed module are read back.** Whatever rows are accepted for an entity, the text
behind the first `ROWS = ` of the module begins with a list, which is read as the rows that were
checked, their members in order, and what is left behind the list depends on the names only. -/
theorem Entity.rows_read_compileSeed {e : Entity} {rows : List Members} {a : Artifact}
    (h : e.compileSeed rows = .ok a) :
    ∃ cleaned after, Seed.checkRows e rows = .ok cleaned ∧
      Text.cutAtFirst? "ROWS = " a.content = some (Seed.opening e.names, after) ∧
      LiteralReader.list? after = some (cleaned.map .obj, Seed.closing e.names) := by
  obtain ⟨_, hcolumns, h⟩ := Effect.result_bind_ok_iff.mp h
  obtain ⟨cleaned, hcleaned, hlast⟩ := Effect.result_bind_ok_iff.mp h
  obtain rfl := Except.ok.inj hlast
  have hnames := (checkColumns_ok_iff.mp hcolumns).nodup_names
  refine ⟨cleaned, RowsLiteral.rows cleaned ++ Seed.closing e.names, hcleaned, ?_, ?_⟩
  · change Text.cutAtFirst? _ (Text.unlines (Seed.lines e.names (RowsLiteral.rows cleaned))) = _
    rw [Seed.unlines_lines]
    refine Text.cutAtFirst?_of_first (List.cons_ne_nil _ _) fun i hi => ?_
    exact Text.length_le_of_occursAt "ROWS " '=' " " (by decide) (Seed.not_mem_opening e.name) hi
  · exact RowsLiteral.list?_rows (Seed.isPlain_of_checkRows hcleaned)
      (Seed.nodup_of_checkRows hnames hcleaned) _

/-- A text with both quotes, a backslash, a line feed and half a surrogate pair is read back. -/
theorem Entity.note_is_read_back :
    let e : Entity := ⟨"note", "", [⟨"body", .longText, [.required]⟩, ⟨"rank", .integer, []⟩]⟩
    let body : Text := "']\"\\\nimport os\n" ++ [CodePoint.ofNat 0xD83D]
    let row : Members := [("rank", .int (-3)), ("body", .str body)]
    ∃ a after, e.compileSeed [row] = .ok a ∧
      Text.cutAtFirst? "ROWS = " a.content = some (Seed.opening e.names, after) ∧
      LiteralReader.list? after
        = some ([.obj [("body", .str body), ("rank", .int (-3))]], Seed.closing e.names) := by
  intro e body row
  obtain ⟨a, ha⟩ : ∃ a, e.compileSeed [row] = .ok a := ⟨_, rfl⟩
  have hchecked : Seed.checkRows e [row] = .ok [[("body", .str body), ("rank", .int (-3))]] := rfl
  obtain ⟨cleaned, after, hcleaned, hcut, hread⟩ := rows_read_compileSeed ha
  obtain rfl := Except.ok.inj (hchecked.symm.trans hcleaned)
  exact ⟨a, after, ha, hcut, hread⟩

end Tablewright
