/-
Reading a correction back.

A final answer that comes too early is answered by a text: a first line, then one line for each
entity that is not finished, then a last line. The line of an entity gives its name and the stages
it lacks, as in `- songs: endpoint_written, hook_written`.

`Wording.row?` reads such a line. It is cut at its first colon, and what stands behind the colon is
cut at commas, which stand in no word for a stage. So the lines that are read are exactly those that
were written, each as its row, when the names hold no colon (`row?_eq_some_iff`). No other row has
the line of such a row, whatever its name (`remainingLine_eq_iff`), since that line holds one colon
only. `Wording.rows?` reads a whole text: its lines are those of its rows when no name ends a line.
-/
import Tablewright.Conversation.Message
import Tablewright.Proofs.Naming.Words
import Tablewright.Proofs.Text.Literal
import Tablewright.Proofs.Text.Split
import Tablewright.Proofs.Workflow

set_option autoImplicit false

namespace Tablewright

/-- A word for a stage holds nothing at which a correction is cut. -/
theorem Stage.not_mem_label (s : Stage) :
    CodePoint.ofChar ',' ∉ s.label ∧ CodePoint.ofChar ':' ∉ s.label ∧
      CodePoint.ofChar '\n' ∉ s.label := by
  cases s <;> decide

namespace Wording

/-! ## Reading -/

/-- The stage whose word stands behind a space. -/
def spacedStage? (piece : Text) : Option Stage := (Text.after? ' ' piece).bind Stage.ofLabel?

/-- The row that a line of a correction says: the name of an entity, and stages. -/
def row? (line : Text) : Option (Text × List Stage) := do
  let rest ← Text.dropStart? "- " line
  let parts := Text.cutBefore (fun c => c = CodePoint.ofChar ':') rest
  let listed ← Text.after? ':' parts.2
  let stages ← (Text.splitOn ',' listed).mapM spacedStage?
  return (parts.1, stages)

/-- The rows that the lines of a correction say, the first line and the last one left out. -/
def rows? (text : Text) : Option (List (Text × List Stage)) :=
  (Text.splitOn '\n' text).tail.dropLast.mapM row?

/-- A row that can be told from the text it is written in. -/
structure IsPlain (row : Text × List Stage) : Prop where
  /-- The name does not end before its own colon. -/
  no_colon : CodePoint.ofChar ':' ∉ row.1
  /-- The name stands on one line. -/
  no_newline : CodePoint.ofChar '\n' ∉ row.1
  /-- There is a stage to list. -/
  remains : row.2 ≠ []

/-! ## The line of an entity -/

/-- The stages as they stand behind the colon. -/
def listed (stages : List Stage) : Text :=
  CodePoint.ofChar ' ' :: Text.join ", " (stages.map Stage.label)

theorem remainingLine_eq (row : Text × List Stage) :
    remainingLine row = Text.ofString "- " ++ (row.1 ++ CodePoint.ofChar ':' :: listed row.2) := by
  rw [remainingLine, List.append_assoc, List.append_assoc]
  rfl

/-- Nothing stands in a list of stages but a space, a comma and what stands in their words. -/
theorem not_mem_listed {c : CodePoint} (hspace : c ≠ CodePoint.ofChar ' ')
    (hcomma : c ≠ CodePoint.ofChar ',') (hwords : ∀ s : Stage, c ∉ s.label) (stages : List Stage) :
    c ∉ listed stages := by
  have hbetween : ∀ d ∈ Text.ofString ", ",
      d = CodePoint.ofChar ',' ∨ d = CodePoint.ofChar ' ' := by decide
  intro h
  rcases List.mem_cons.mp h with heq | hjoin
  · exact hspace heq
  · rcases Text.mem_join hjoin with hsep | ⟨word, hword, hc⟩
    · exact (hbetween c hsep).elim hcomma hspace
    · obtain ⟨s, -, rfl⟩ := List.mem_map.mp hword
      exact hwords s hc

theorem colon_not_mem_listed (stages : List Stage) : CodePoint.ofChar ':' ∉ listed stages :=
  not_mem_listed (by decide) (by decide) (fun s => s.not_mem_label.2.1) stages

theorem newline_not_mem_listed (stages : List Stage) : CodePoint.ofChar '\n' ∉ listed stages :=
  not_mem_listed (by decide) (by decide) (fun s => s.not_mem_label.2.2) stages

theorem spacedStage?_eq_some_iff {piece : Text} {s : Stage} :
    spacedStage? piece = some s ↔ piece = CodePoint.ofChar ' ' :: s.label := by
  rw [spacedStage?, Option.bind_eq_some_iff]
  constructor
  · rintro ⟨rest, hrest, hs⟩
    rw [Text.after?_eq_some_iff.mp hrest, Stage.ofLabel?_eq_some_iff.mp hs]
  · rintro rfl
    exact ⟨s.label, Text.after?_eq_some_iff.mpr rfl, Stage.ofLabel?_label s⟩

/-- The pieces between commas are read as stages exactly when the stages were listed so. -/
theorem mapM_spacedStage?_eq_some_iff {t : Text} {stages : List Stage} :
    (Text.splitOn ',' t).mapM spacedStage? = some stages ↔ t = listed stages ∧ stages ≠ [] := by
  have hpieces : (Text.splitOn ',' t).mapM spacedStage? = some stages ↔
      Text.splitOn ',' t = (stages.map Stage.label).map (CodePoint.ofChar ' ' :: ·) := by
    rw [Effect.option_mapM_eq_some_iff, List.map_map, ← List.forall₂_eq_eq_eq,
      List.forall₂_map_right_iff]
    simp only [spacedStage?_eq_some_iff, Function.comp_apply]
  rw [hpieces]
  constructor
  · intro h
    have hne : stages ≠ [] := by
      rintro rfl
      exact Text.splitOn_ne_nil _ _ h
    refine ⟨?_, hne⟩
    calc t = Text.join [CodePoint.ofChar ','] (Text.splitOn ',' t) := (Text.join_splitOn _ t).symm
      _ = Text.join [CodePoint.ofChar ',']
            ((stages.map Stage.label).map (CodePoint.ofChar ' ' :: ·)) := by rw [h]
      _ = listed stages := (Text.cons_join_pair _ _ (by simpa using hne)).symm
  · rintro ⟨rfl, hne⟩
    refine Text.splitOn_cons_join_pair (by decide) (by simpa using hne) fun word hword => ?_
    obtain ⟨s, -, rfl⟩ := List.mem_map.mp hword
    exact s.not_mem_label.1

/-- **The line of an entity.** A line is read as a row exactly when it was written for the row, the
name holds no colon, and there is a stage. -/
theorem row?_eq_some_iff {line : Text} {row : Text × List Stage} :
    row? line = some row ↔
      line = remainingLine row ∧ CodePoint.ofChar ':' ∉ row.1 ∧ row.2 ≠ [] := by
  obtain ⟨name, stages⟩ := row
  rw [remainingLine_eq, row?]
  simp only [bind, Option.bind_eq_some_iff, Text.dropStart?_eq_some_iff, Text.after?_eq_some_iff,
    mapM_spacedStage?_eq_some_iff, pure, Option.some.injEq, Prod.mk.injEq]
  constructor
  · rintro ⟨rest, rfl, listed, hlisted, _, ⟨rfl, hne⟩, rfl, rfl⟩
    refine ⟨?_, fun hcolon => ?_, hne⟩
    · -- the two parts of a cut text are the text
      rw [← hlisted]
      exact congrArg _ List.takeWhile_append_dropWhile.symm
    · simpa using List.mem_takeWhile_imp hcolon
  · rintro ⟨rfl, hcolon, hne⟩
    refine ⟨_, rfl, listed stages, ?_, stages, ⟨rfl, hne⟩, ?_, rfl⟩
    · rw [Text.cutBefore_append_cons hcolon]
    · rw [Text.cutBefore_append_cons hcolon]

example : row? "- songs: endpoint_written, hook_written"
    = some (Text.ofString "songs", [Stage.endpointWritten, Stage.hookWritten]) := by decide

/-- A list with a stage is the list of no other stages. -/
theorem listed_inj {stages others : List Stage} (hne : stages ≠ [])
    (h : listed others = listed stages) : others = stages := by
  have hread : (Text.splitOn ',' (listed others)).mapM spacedStage? = some stages :=
    mapM_spacedStage?_eq_some_iff.mpr ⟨h, hne⟩
  cases others with
  | nil =>
    have hnone : (Text.splitOn ',' (listed [])).mapM spacedStage? = none := by decide
    rw [hnone] at hread
    cases hread
  | cons s rest =>
    have hown := mapM_spacedStage?_eq_some_iff.mpr ⟨rfl, List.cons_ne_nil s rest⟩
    exact Option.some.inj (hown.symm.trans hread)

/-- A line has one colon more than the name in it. -/
theorem count_colon_remainingLine (row : Text × List Stage) :
    List.count (CodePoint.ofChar ':') (remainingLine row)
      = List.count (CodePoint.ofChar ':') row.1 + 1 := by
  have hstart : List.count (CodePoint.ofChar ':') (Text.ofString "- ") = 0 := by decide
  rw [remainingLine_eq, List.count_append, List.count_append, List.count_cons_self, hstart,
    List.count_eq_zero_of_not_mem (colon_not_mem_listed row.2), Nat.zero_add, Nat.zero_add]

/-- No other row is written like a plain row, whatever the name of the other one. -/
theorem remainingLine_eq_iff {row other : Text × List Stage} (h : IsPlain row) :
    remainingLine other = remainingLine row ↔ other = row := by
  constructor
  · intro heq
    -- the line holds one colon, so the other name has none either
    have hcount := congrArg (List.count (CodePoint.ofChar ':')) heq
    rw [count_colon_remainingLine, count_colon_remainingLine,
      List.count_eq_zero_of_not_mem h.no_colon] at hcount
    have hcolon : CodePoint.ofChar ':' ∉ other.1 := List.count_eq_zero.mp (by omega)
    -- and both lines are cut at it
    rw [remainingLine_eq, remainingLine_eq] at heq
    have hcut := congrArg (Text.cutBefore fun c => c = CodePoint.ofChar ':')
      (List.append_cancel_left heq)
    rw [Text.cutBefore_append_cons hcolon, Text.cutBefore_append_cons h.no_colon] at hcut
    obtain ⟨hname, htail⟩ := Prod.mk.inj hcut
    exact Prod.ext hname (listed_inj h.remains (List.cons.inj htail).2)
  · exact congrArg remainingLine

/-- A line ends nowhere if the name in it does not. -/
theorem newline_not_mem_remainingLine {row : Text × List Stage}
    (h : CodePoint.ofChar '\n' ∉ row.1) : CodePoint.ofChar '\n' ∉ remainingLine row := by
  rw [remainingLine_eq]
  intro hmem
  rcases List.mem_append.mp hmem with hstart | hbehind
  · exact absurd hstart (by decide)
  · rcases List.mem_append.mp hbehind with hname | hlisted
    · exact h hname
    · rcases List.mem_cons.mp hlisted with hcolon | hstages
      · exact absurd hcolon (by decide)
      · exact newline_not_mem_listed row.2 hstages

/-! ## The text -/

/-- The first line of a correction. -/
def opensCorrection : Text := "The workflow is not complete yet. Remaining stages:"

/-- The last line of a correction. -/
def closesCorrection : Text := "Continue with the next tool call."

/-- Between its first line and its last one a correction has one line for each row, in their
order. -/
theorem splitOn_correction {rows : List (Text × List Stage)}
    (h : ∀ row ∈ rows, CodePoint.ofChar '\n' ∉ row.1) :
    Text.splitOn '\n' (correction rows)
      = opensCorrection :: rows.map remainingLine ++ [closesCorrection] := by
  have hlines : ∀ line ∈ opensCorrection :: rows.map remainingLine ++ [closesCorrection],
      CodePoint.ofChar '\n' ∉ line := by
    intro line hline
    rw [List.cons_append] at hline
    rcases List.mem_cons.mp hline with rfl | hrest
    · decide
    · rcases List.mem_append.mp hrest with hrow | hlast
      · obtain ⟨row, hmem, rfl⟩ := List.mem_map.mp hrow
        exact newline_not_mem_remainingLine (h row hmem)
      · obtain rfl := List.mem_singleton.mp hlast
        decide
  exact Text.splitOn_join (List.cons_ne_nil _ _) hlines

/-- **A correction is read back.** A correction with plain rows is read as its rows. -/
theorem rows?_correction {rows : List (Text × List Stage)} (h : ∀ row ∈ rows, IsPlain row) :
    rows? (correction rows) = some rows := by
  rw [rows?, splitOn_correction fun row hrow => (h row hrow).no_newline, List.cons_append,
    List.tail_cons, List.dropLast_concat, Effect.option_mapM_eq_some_iff, List.forall₂_map_left_iff,
    List.forall₂_same]
  exact fun row hrow => row?_eq_some_iff.mpr ⟨rfl, (h row hrow).no_colon, (h row hrow).remains⟩

end Wording

end Tablewright
