/-
The lines of a literal of rows.

Whatever the rows hold, a line feed in their literal comes from its layout: those of the texts are
escaped. Behind every line feed stand blanks, and behind these a quote or a brace. So no line of the
literal but its first one can be anything else than the continuation of a row (`laidOut_rows`).
-/
import Tablewright.Artifact.Seed
import Tablewright.Proofs.Action
import Tablewright.Proofs.Artifact.Route
import Tablewright.Proofs.Text.Split

set_option autoImplicit false

namespace Tablewright

/-- The line feed. -/
abbrev Text.newline : CodePoint := '\n'

open Text (newline)

/-! ## Texts in quotes -/

namespace Text

/-- Numerals are made of digits. -/
theorem mem_toDigits {b : Nat} (hb : 1 < b) {n : Nat} {c : Char} (h : c ∈ Nat.toDigits b n) :
    ∃ k, c = Nat.digitChar k := by
  induction n using Nat.strongRecOn with
  | ind n ih =>
    by_cases hn : n < b
    · rw [Nat.toDigits_of_lt_base hn, List.mem_singleton] at h
      exact ⟨n, h⟩
    · have hle := Nat.le_of_not_lt hn
      rw [Nat.toDigits_of_base_le hb hle] at h
      rcases List.mem_append.mp h with h | h
      · exact ih (n / b) (Nat.div_lt_self (by omega) hb) h
      · exact ⟨n % b, List.mem_singleton.mp h⟩

/-- No numeral holds a line feed. -/
theorem newline_not_mem_digits {b : Nat} (hb : 1 < b) (n : Nat) :
    newline ∉ (Nat.toDigits b n).map CodePoint.ofChar := fun h => by
  obtain ⟨c, hc, heq⟩ := List.mem_map.mp h
  obtain ⟨k, rfl⟩ := mem_toDigits hb hc
  exact Nat.digitChar_ne '\n' (by decide) (CodePoint.ofChar_inj.mp heq)

theorem newline_not_mem_ofInt (n : Int) : newline ∉ ofInt n := by
  cases n with
  | ofNat n => exact newline_not_mem_digits (by decide) n
  | negSucc n =>
    intro h
    rcases List.mem_cons.mp h with h | h
    · exact absurd h (by decide)
    · exact newline_not_mem_digits (by decide) (n + 1) h

theorem newline_not_mem_hex (width n : Nat) : newline ∉ hex width n := fun h => by
  rcases List.mem_append.mp h with h | h
  · exact absurd (List.eq_of_mem_replicate h) (by decide)
  · exact newline_not_mem_digits (by decide) n h

/-- A line feed is escaped inside quotes. -/
theorem newline_not_mem_escaped {quote : CodePoint} (hquote : quote ≠ newline) (c : CodePoint) :
    newline ∉ escaped quote c := by
  have hescape {t s : Text} (ht : newline ∉ t) (hs : newline ∉ s) : newline ∉ t ++ s := fun h =>
    (List.mem_append.mp h).elim ht hs
  by_cases hc : c = newline
  · subst hc
    rw [escaped, if_neg (by simp [hquote.symm, CodePoint.ofChar_inj]), if_neg (by decide),
      if_pos rfl]
    decide
  · have hsingle : newline ∉ [c] := fun h => hc (List.mem_singleton.mp h).symm
    rw [escaped, if_neg hc]
    split
    · exact fun h => (List.mem_cons.mp h).elim (by decide) hsingle
    split
    · decide
    split
    · decide
    split
    · exact hsingle
    split
    · exact hescape (by decide) (newline_not_mem_hex _ _)
    split
    · exact hescape (by decide) (newline_not_mem_hex _ _)
    · exact hescape (by decide) (newline_not_mem_hex _ _)

theorem quoteFor_cases (t : Text) : quoteFor t = '"' ∨ quoteFor t = '\'' := by
  rw [quoteFor]
  split
  · exact .inl rfl
  · exact .inr rfl

/-- A text in quotes stays on its line. -/
theorem newline_not_mem_quoted (t : Text) : newline ∉ quoted t := by
  have hquote : quoteFor t ≠ newline := by
    rcases quoteFor_cases t with h | h
    all_goals
      rw [h]
      decide
  intro h
  rcases List.mem_cons.mp h with h | h
  · exact hquote h.symm
  · rcases List.mem_append.mp h with h | h
    · obtain ⟨c, -, hc⟩ := List.mem_flatMap.mp h
      exact newline_not_mem_escaped hquote c hc
    · exact hquote (List.mem_singleton.mp h).symm

end Text

/-! ## Layout -/

namespace RowsLiteral

/-- What a continued line begins with behind its blanks. -/
def isOpening (c : CodePoint) : Bool := c = '\'' || c = '"' || c = '\x7b'

/-- The text begins as a continued line does. -/
def Opens (t : Text) : Prop := ∃ c r, t = c :: r ∧ isOpening c = true

/-- Behind every line feed stand blanks and then the beginning of a continued line. -/
def LaidOut (t : Text) : Prop :=
  ∀ a b, t = a ++ newline :: b → ∃ n rest, b = Text.spaces n ++ rest ∧ Opens rest

theorem Opens.append {t : Text} (h : Opens t) (u : Text) : Opens (t ++ u) := by
  obtain ⟨c, r, rfl, hc⟩ := h
  exact ⟨c, r ++ u, rfl, hc⟩

theorem laidOut_of_not_mem {t : Text} (h : newline ∉ t) : LaidOut t := fun a _ hab =>
  absurd (hab ▸ List.mem_append_right a List.mem_cons_self) h

/-- What is laid out in two parts is laid out. -/
theorem LaidOut.append {t u : Text} (ht : LaidOut t) (hu : LaidOut u) : LaidOut (t ++ u) := by
  intro a b hab
  rcases List.append_eq_append_iff.mp hab with ⟨c, rfl, hc⟩ | ⟨c, rfl, hc⟩
  · exact hu c b hc
  · -- the line feed stands in the first part, or it begins the second one
    cases c with
    | nil => exact hu [] b (by rw [List.nil_append]; exact hc.symm)
    | cons d c =>
      obtain ⟨rfl, rfl⟩ := List.cons.inj hc
      obtain ⟨n, rest, rfl, hrest⟩ := ht a c rfl
      exact ⟨n, rest ++ u, List.append_assoc _ _ _, hrest.append u⟩

/-- A line feed and blanks may stand before what opens. -/
theorem LaidOut.continued {t : Text} (hopens : Opens t) (h : LaidOut t) (n : Nat) :
    LaidOut (newline :: (Text.spaces n ++ t)) := by
  have hspaces : newline ∉ Text.spaces n := fun hmem =>
    absurd (List.eq_of_mem_replicate hmem) (by decide)
  intro a b hab
  cases a with
  | nil =>
    obtain ⟨-, rfl⟩ := List.cons.inj hab
    exact ⟨n, t, rfl, hopens⟩
  | cons d a =>
    obtain ⟨-, hrest⟩ := List.cons.inj hab
    exact (laidOut_of_not_mem hspaces).append h a b hrest

/-- Parts that open are laid out on lines of their own. -/
theorem laidOut_join {ts : List Text} (h : ∀ t ∈ ts, Opens t ∧ LaidOut t) (sep : Text)
    (hsep : newline ∉ sep) (n : Nat) : LaidOut (Text.join (sep ++ newline :: Text.spaces n) ts) := by
  induction ts with
  | nil => exact laidOut_of_not_mem List.not_mem_nil
  | cons t ts ih =>
    obtain ⟨-, ht⟩ := h t List.mem_cons_self
    cases ts with
    | nil => exact ht
    | cons u us =>
      have hrest := ih fun v hv => h v (List.mem_cons_of_mem t hv)
      have hopens : Opens (Text.join (sep ++ newline :: Text.spaces n) (u :: us)) := by
        obtain ⟨hu, -⟩ := h u (List.mem_cons_of_mem t List.mem_cons_self)
        obtain ⟨v, hv⟩ := Text.exists_join_cons (sep ++ newline :: Text.spaces n) u us
        exact hv ▸ hu.append v
      rw [Text.join, List.append_assoc, List.append_assoc, List.cons_append]
      exact ht.append ((laidOut_of_not_mem hsep).append (.continued hopens hrest n))

theorem opens_quoted (t : Text) : Opens (Text.quoted t) := by
  refine ⟨Text.quoteFor t, _, rfl, ?_⟩
  rcases Text.quoteFor_cases t with h | h
  all_goals
    rw [h]
    decide

/-! ## Values -/

/-- Texts in quotes that make up a text when they are read one after the other. -/
def MakeUp (pieces : List Text) (t : Text) : Prop :=
  ∃ ps : List Text, pieces = ps.map Text.quoted ∧ ps.flatten = t

theorem MakeUp.append {pieces more : List Text} {t u : Text} (ht : MakeUp pieces t)
    (hu : MakeUp more u) : MakeUp (pieces ++ more) (t ++ u) := by
  obtain ⟨ps, rfl, rfl⟩ := ht
  obtain ⟨qs, rfl, rfl⟩ := hu
  exact ⟨ps ++ qs, List.map_append.symm, List.flatten_append⟩

theorem makeUp_singleton (t : Text) : MakeUp [Text.quoted t] t :=
  ⟨[t], rfl, List.flatten_singleton⟩

theorem makeUp_quotedUnlessEmpty (t : Text) : MakeUp (quotedUnlessEmpty t) t := by
  rw [quotedUnlessEmpty]
  split
  case isTrue hempty => exact ⟨[], rfl, (List.isEmpty_iff.mp hempty).symm⟩
  case isFalse => exact makeUp_singleton t

/-- A code point becomes a part of its own, or it is put in front of the first one. -/
theorem flatten_cut (ends : Bool) (c : CodePoint) (ps : List Text) :
    (if ends then [c] :: ps
      else
        match ps with
        | [] => [[c]]
        | p :: rest => (c :: p) :: rest).flatten = c :: ps.flatten := by
  cases ends
  · cases ps <;> rfl
  · rfl

/-- Cutting a text after its blanks loses nothing. -/
theorem flatten_cutAtBlanks (t : Text) : (cutAtBlanks t).flatten = t := by
  induction t with
  | nil => rfl
  | cons c r ih =>
    rw [cutAtBlanks.eq_def]
    exact (flatten_cut _ c (cutAtBlanks r)).trans (congrArg _ ih)

/-- Cutting a text after its lines loses nothing. -/
theorem flatten_linesWithEnds (t : Text) : (Text.linesWithEnds t).flatten = t := by
  induction t with
  | nil => rfl
  | cons c r ih =>
    rw [Text.linesWithEnds]
    exact (flatten_cut _ c (Text.linesWithEnds r)).trans (congrArg _ ih)

theorem makeUp_fill (limit last : Int) (current : Text) (pieces : List Text) :
    MakeUp (fill limit last current pieces) (current ++ pieces.flatten) := by
  induction pieces generalizing current with
  | nil =>
    rw [fill, List.flatten_nil, List.append_nil]
    exact makeUp_quotedUnlessEmpty current
  | cons piece rest ih =>
    rw [fill, List.flatten_cons]
    -- how much room there is does not matter
    generalize (if rest.isEmpty then last else limit) = room
    split
    · exact (makeUp_quotedUnlessEmpty current).append (ih piece)
    · rw [← List.append_assoc]
      exact ih (current ++ piece)

theorem makeUp_linePieces (limit allowance : Int) (lines : List Text) :
    MakeUp (linePieces limit allowance lines) lines.flatten := by
  induction lines with
  | nil => exact ⟨[], rfl, rfl⟩
  | cons line rest ih =>
    rw [linePieces, List.flatten_cons]
    generalize (if rest.isEmpty then limit - allowance else limit) = last
    refine MakeUp.append ?_ ih
    split
    · exact makeUp_singleton line
    · have hpieces := makeUp_fill limit last [] (cutAtBlanks line)
      rwa [flatten_cutAtBlanks, List.nil_append] at hpieces

/-- **Texts in pieces.** However a text is cut, it is one or more texts in quotes that make it up,
each on a line of its own. -/
theorem text_eq_join (indent allowance : Int) (t : Text) :
    ∃ ps : List Text, ps ≠ [] ∧ ps.flatten = t ∧ text indent allowance t
      = Text.join (newline :: Text.spaces indent.toNat) (ps.map Text.quoted) := by
  have hwhole : ∃ ps : List Text, ps ≠ [] ∧ ps.flatten = t ∧ Text.quoted t
      = Text.join (newline :: Text.spaces indent.toNat) (ps.map Text.quoted) :=
    ⟨[t], List.cons_ne_nil _ _, List.flatten_singleton, rfl⟩
  rw [text]
  split
  · exact hwhole
  case isFalse hlong =>
    split
    · exact hwhole
    · obtain ⟨ps, hpieces, hflatten⟩ := makeUp_linePieces (lineWidth - indent) allowance
        (Text.linesWithEnds t)
      rw [flatten_linesWithEnds] at hflatten
      refine ⟨ps, ?_, hflatten, congrArg _ hpieces⟩
      -- no pieces make up the empty text only, and that is not cut
      rintro rfl
      exact hlong (by simp [← hflatten])

/-- A text is laid out, however it is cut. -/
theorem laidOut_text (indent allowance : Int) (t : Text) : LaidOut (text indent allowance t) := by
  obtain ⟨ps, -, -, htext⟩ := text_eq_join indent allowance t
  rw [htext]
  refine laidOut_join (fun piece hpiece => ?_) [] List.not_mem_nil indent.toNat
  obtain ⟨s, -, rfl⟩ := List.mem_map.mp hpiece
  exact ⟨opens_quoted s, laidOut_of_not_mem (Text.newline_not_mem_quoted s)⟩

end RowsLiteral

/-- A value a row may hold: a text, an integer, a truth value or nothing. -/
def Json.IsPlain : Json → Prop
  | .null | .bool _ | .int _ | .str _ => True
  | _ => False

namespace RowsLiteral

theorem newline_not_mem_displayQuoted {v : Json} (h : v.IsPlain) : newline ∉ v.displayQuoted := by
  cases v with
  | null => decide
  | bool b => cases b <;> decide
  | int n => exact Text.newline_not_mem_ofInt n
  | str s => exact Text.newline_not_mem_quoted s
  | float _ | arr _ | obj _ => exact absurd h id

theorem newline_not_mem_displayMembers {ms : Members} (h : ∀ m ∈ ms, m.2.IsPlain) :
    newline ∉ Json.displayMembers ms := by
  induction ms with
  | nil => exact List.not_mem_nil
  | cons m ms ih =>
    obtain ⟨key, v⟩ := m
    rw [Json.displayMembers]
    simp only [List.mem_append, not_or]
    exact ⟨⟨⟨⟨by decide, Text.newline_not_mem_quoted key⟩, by decide⟩,
      newline_not_mem_displayQuoted (h (key, v) List.mem_cons_self)⟩,
      ih fun m hm => h m (List.mem_cons_of_mem _ hm)⟩

/-- A row on one line. -/
theorem newline_not_mem_displayObject {ms : Members} (h : ∀ m ∈ ms, m.2.IsPlain) :
    newline ∉ (Json.obj ms).displayQuoted := by
  cases ms with
  | nil => decide
  | cons m ms =>
    obtain ⟨key, v⟩ := m
    rw [Json.displayQuoted]
    simp only [List.mem_append, not_or]
    exact ⟨⟨⟨⟨⟨by decide, Text.newline_not_mem_quoted key⟩, by decide⟩,
      newline_not_mem_displayQuoted (h (key, v) List.mem_cons_self)⟩,
      newline_not_mem_displayMembers fun m hm => h m (List.mem_cons_of_mem _ hm)⟩, by decide⟩

theorem opens_displayObject (ms : Members) : Opens (Json.obj ms).displayQuoted := by
  cases ms with
  | nil => exact ⟨'\x7b', _, rfl, by decide⟩
  | cons m ms =>
    obtain ⟨key, v⟩ := m
    rw [Json.displayQuoted]
    simp only [List.append_assoc]
    exact ⟨'\x7b', _, rfl, by decide⟩

/-- Rows on one line. -/
theorem newline_not_mem_displayItems {rs : List Members} (h : ∀ ms ∈ rs, ∀ m ∈ ms, m.2.IsPlain) :
    newline ∉ Json.displayItems (rs.map .obj) := by
  induction rs with
  | nil => exact List.not_mem_nil
  | cons ms rs ih =>
    rw [List.map_cons, Json.displayItems]
    simp only [List.mem_append, not_or]
    exact ⟨⟨by decide, newline_not_mem_displayObject (h ms List.mem_cons_self)⟩,
      ih fun ms hms => h ms (List.mem_cons_of_mem _ hms)⟩

theorem newline_not_mem_displayRows {rs : List Members} (h : ∀ ms ∈ rs, ∀ m ∈ ms, m.2.IsPlain) :
    newline ∉ (Json.arr (rs.map .obj)).displayQuoted := by
  cases rs with
  | nil => decide
  | cons ms rs =>
    rw [List.map_cons, Json.displayQuoted]
    simp only [List.mem_append, not_or]
    exact ⟨⟨⟨by decide, newline_not_mem_displayObject (h ms List.mem_cons_self)⟩,
      newline_not_mem_displayItems fun ms hms => h ms (List.mem_cons_of_mem _ hms)⟩, by decide⟩

/-! ## Rows -/

/-- A value is laid out. -/
theorem laidOut_value (indent allowance : Int) {v : Json} (h : v.IsPlain) :
    LaidOut (value indent allowance v) := by
  cases v with
  | str s => exact laidOut_text indent allowance s
  | null | bool _ | int _ => exact laidOut_of_not_mem (newline_not_mem_displayQuoted h)
  | float _ | arr _ | obj _ => exact absurd h id

theorem laidOut_memberLines {ms : Members} (h : ∀ m ∈ ms, m.2.IsPlain) :
    ∀ line ∈ memberLines ms, Opens line ∧ LaidOut line := by
  induction ms with
  | nil => exact List.forall_mem_nil _
  | cons m ms ih =>
    obtain ⟨key, v⟩ := m
    refine List.forall_mem_cons.mpr ⟨⟨?_, ?_⟩, ih fun m hm => h m (List.mem_cons_of_mem _ hm)⟩
    · exact ((opens_quoted key).append _).append _
    · refine LaidOut.append (laidOut_of_not_mem ?_)
        (laidOut_value _ _ (h (key, v) List.mem_cons_self))
      simp only [List.mem_append, not_or]
      exact ⟨Text.newline_not_mem_quoted key, by decide⟩

/-- A row opens and is laid out. -/
theorem laidOut_row {ms : Members} (h : ∀ m ∈ ms, m.2.IsPlain) :
    Opens (row ms) ∧ LaidOut (row ms) := by
  rw [row]
  split
  · exact ⟨opens_displayObject ms, laidOut_of_not_mem (newline_not_mem_displayObject h)⟩
  · constructor
    · rw [List.append_assoc]
      exact ⟨'\x7b', _, rfl, by decide⟩
    · refine LaidOut.append (LaidOut.append (laidOut_of_not_mem (by decide)) ?_)
        (laidOut_of_not_mem (by decide))
      exact laidOut_join (laidOut_memberLines h) "," (by decide) 2

/-- **The layout of rows.** In a literal of rows that hold plain values, blanks and then a quote or a
brace stand behind every line feed. -/
theorem laidOut_rows {rs : List Members} (h : ∀ ms ∈ rs, ∀ m ∈ ms, m.2.IsPlain) :
    LaidOut (rows rs) := by
  rw [rows]
  split
  · exact laidOut_of_not_mem (newline_not_mem_displayRows h)
  · refine LaidOut.append (LaidOut.append (laidOut_of_not_mem (by decide)) ?_)
      (laidOut_of_not_mem (by decide))
    refine laidOut_join (fun t ht => ?_) "," (by decide) 1
    obtain ⟨ms, hms, rfl⟩ := List.mem_map.mp ht
    exact laidOut_row (h ms hms)

/-- A text with line feeds is escaped where it stands. -/
example : rows [[("note", .str "a\nfrom app.models.b import B")]]
    = Text.ofString "[\x7b'note': 'a\\nfrom app.models.b import B'\x7d]" := by decide +kernel

end RowsLiteral

end Tablewright
