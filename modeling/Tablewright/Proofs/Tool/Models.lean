/-
Finding names in the source of a model.

The name of a table and the names of columns are found in one way: an opening that ends with a
quote, and then everything up to the next quote. `tableOpening?` and `columnOpening?` are the
openings, and `opened?` is what stands behind the first opening that is not closed at once. What
opens no name is passed. What opens one may leave it open, and then the name runs on into what
follows: so one text before a module changes what is found in it exactly when it opens a name
(`columns_append`), or declares another table (`table?_append`).
-/
import Tablewright.Proofs.Artifact.Route
import Tablewright.Tool.Models

set_option autoImplicit false

namespace Tablewright

/-! ## Beginnings of a text that goes on -/

namespace Text

/-- A beginning does not reach into what begins with none of its code points. -/
theorem dropStart?_append_of_head {start next : Text} (h : ∀ c ∈ next.head?, c ∉ start) (t : Text) :
    dropStart? start (t ++ next) = (dropStart? start t).map (· ++ next) := by
  induction start generalizing t with
  | nil => rfl
  | cons a s ih =>
    cases t with
    | nil =>
      cases next with
      | nil => rfl
      | cons c r =>
        have hc : a ≠ c := fun hac => h c rfl (hac ▸ List.mem_cons_self)
        exact if_neg hc
    | cons b t =>
      rw [List.cons_append, dropStart?, dropStart?]
      split
      · exact ih (fun c hc hmem => h c hc (List.mem_cons_of_mem a hmem)) t
      · rfl

/-- What is dropped does not reach into what begins otherwise. -/
theorem dropWhile_append_of_head {p : CodePoint → Bool} {next : Text}
    (h : ∀ c ∈ next.head?, p c = false) (t : Text) :
    (t ++ next).dropWhile p = t.dropWhile p ++ next := by
  have hnext : next.dropWhile p = next := by
    cases next with
    | nil => rfl
    | cons c r => rw [List.dropWhile_cons, if_neg (by rw [h c rfl]; exact Bool.false_ne_true)]
  rw [List.dropWhile_append]
  split
  case isTrue hempty => rw [hnext, List.isEmpty_iff.mp hempty, List.nil_append]
  case isFalse => rfl

/-- A cut at one code point is made where it stands first. -/
theorem cutAtFirst?_eq_some_iff {mark : CodePoint} {t before after : Text} :
    cutAtFirst? [mark] t = some (before, after) ↔ t = before ++ mark :: after ∧ mark ∉ before := by
  induction t generalizing before with
  | nil => simp [cutAtFirst?]
  | cons c r ih =>
    rw [cutAtFirst?, dropStart?, dropStart?]
    by_cases hc : mark = c
    · rw [if_pos hc]
      subst hc
      cases before with
      | nil => simp [eq_comm]
      | cons b before => simp +contextual [eq_comm]
    · rw [if_neg hc]
      cases before with
      | nil => simpa using fun h _ => hc h.symm
      | cons b before =>
        constructor
        · intro h
          obtain ⟨⟨x, y⟩, hcut, hxy⟩ := Option.map_eq_some_iff.mp h
          cases hxy
          obtain ⟨rfl, hx⟩ := ih.mp hcut
          exact ⟨rfl, fun hmem => (List.mem_cons.mp hmem).elim hc hx⟩
        · rintro ⟨hcons, hmem⟩
          obtain ⟨rfl, hr⟩ := List.cons.inj hcons
          rw [ih.mpr ⟨hr, fun h => hmem (List.mem_cons_of_mem c h)⟩]
          rfl

end Text

namespace ModelSource

/-! ## Openings -/

/-- What stands behind the opening of a column, if one stands here. -/
def columnOpening? (t : Text) : Option Text := Text.dropStart? "Column(\"" t

/-- What stands behind the opening of a table, if one stands here. -/
def tableOpening? (t : Text) : Option Text := do
  let r ← Text.dropStart? "__tablename__" t
  let r ← Text.dropStart? "=" (r.dropWhile CodePoint.isBlank)
  Text.dropStart? "\"" (r.dropWhile CodePoint.isBlank)

theorem column?_eq (t : Text) : column? t = (columnOpening? t).bind untilQuote? := rfl

theorem declaration?_eq (t : Text) :
    declaration? t = ((tableOpening? t).bind untilQuote?).map (·.1) := by
  rw [declaration?, tableOpening?, Option.map_bind]
  simp only [Option.bind_eq_bind, Option.bind_assoc]
  rfl

/-- The quote around a name. -/
abbrev quote : CodePoint := '"'

/-- Whether the text behind an opening goes on with a name and not with the closing quote. -/
def goesOn (t : Text) : Bool := t.head? ≠ some quote

/-- What stands behind the first opening of a name that is not closed at once. -/
def opened? (opening? : Text → Option Text) : Text → Option Text
  | [] => none
  | c :: r => ((opening? (c :: r)).filter goesOn).or (opened? opening? r)

/-- A text no opening reaches into from before, and that begins with none. -/
def Stops (opening? : Text → Option Text) (next : Text) : Prop :=
  ∀ t, opening? (t ++ next) = (opening? t).map (· ++ next)

/-- No column is opened across the beginning of a text that begins with no code point of an
opening. -/
theorem stops_column {next : Text} (h : ∀ c ∈ next.head?, c ∉ Text.ofString "Column(\"") :
    Stops columnOpening? next :=
  Text.dropStart?_append_of_head h

/-- No table is opened across the beginning of a text that begins with no code point of an
opening and with no blank. -/
theorem stops_table {next : Text}
    (h : ∀ c ∈ next.head?, c ∉ Text.ofString "__tablename__=\"" ∧ c.isBlank = false) :
    Stops tableOpening? next := by
  have hpart : ∀ start : Text, start ⊆ Text.ofString "__tablename__=\"" →
      ∀ t, Text.dropStart? start (t ++ next) = (Text.dropStart? start t).map (· ++ next) :=
    fun start hstart => Text.dropStart?_append_of_head fun c hc hmem => (h c hc).1 (hstart hmem)
  have hblank : ∀ t : Text, (t ++ next).dropWhile CodePoint.isBlank
      = t.dropWhile CodePoint.isBlank ++ next :=
    Text.dropWhile_append_of_head fun c hc => (h c hc).2
  intro t
  rw [tableOpening?, tableOpening?, hpart _ (by decide)]
  cases Text.dropStart? "__tablename__" t with
  | none => rfl
  | some r =>
    dsimp only [Option.map_some, Option.bind_eq_bind, Option.bind_some]
    rw [hblank, hpart _ (by decide)]
    cases Text.dropStart? "=" (r.dropWhile CodePoint.isBlank) with
    | none => rfl
    | some r =>
      dsimp only [Option.map_some, Option.bind_some]
      rw [hblank, hpart _ (by decide)]

/-- A text that opens no name leaves the first name that is opened behind it. -/
theorem opened?_append_of_none {opening? : Text → Option Text} {t next : Text}
    (hnext : Stops opening? next) (h : opened? opening? t = none) :
    opened? opening? (t ++ next) = opened? opening? next := by
  induction t with
  | nil => rfl
  | cons c r ih =>
    rw [opened?, Option.or_eq_none_iff] at h
    have hstep := hnext (c :: r)
    rw [List.cons_append] at hstep
    rw [List.cons_append, opened?, hstep, ih h.2]
    cases hopen : opening? (c :: r) with
    | none => rfl
    | some s =>
      have hclosed := Option.filter_eq_none_iff.mp h.1 s hopen
      cases s with
      | nil => exact absurd rfl hclosed
      | cons d s =>
        -- the first code point behind the opening is still the quote
        have hstill : goesOn (d :: s ++ next) = false := Bool.eq_false_iff.mpr hclosed
        rw [Option.map_some, Option.filter_some_neg hstill]
        rfl

/-- A text without a code point every opening holds opens no name. -/
theorem opened?_eq_none {opening? : Text → Option Text} {mark : CodePoint}
    (hmark : ∀ t r, opening? t = some r → mark ∈ t) {t : Text} (h : mark ∉ t) :
    opened? opening? t = none := by
  induction t with
  | nil => rfl
  | cons c r ih =>
    have hnone : opening? (c :: r) = none := by
      cases hopen : opening? (c :: r) with
      | none => rfl
      | some s => exact absurd (hmark _ s hopen) h
    rw [opened?, hnone, ih fun hr => h (List.mem_cons_of_mem c hr)]
    rfl

/-- The code points of the opening of a column stand in what it opens. -/
theorem mem_of_columnOpening? {mark : CodePoint} (hmark : mark ∈ Text.ofString "Column(\"")
    (t r : Text) (h : columnOpening? t = some r) : mark ∈ t := by
  rw [Text.dropStart?_eq_some_iff.mp h]
  exact List.mem_append_left r hmark

/-- The sign of a declaration stands in what it opens. -/
theorem mem_of_tableOpening? (t r : Text) (h : tableOpening? t = some r) :
    CodePoint.ofChar '=' ∈ t := by
  obtain ⟨r₁, h₁, h⟩ := Option.bind_eq_some_iff.mp h
  obtain ⟨r₂, h₂, -⟩ := Option.bind_eq_some_iff.mp h
  have hsign : CodePoint.ofChar '=' ∈ r₁.dropWhile CodePoint.isBlank := by
    rw [Text.dropStart?_eq_some_iff.mp h₂]
    exact List.mem_cons_self
  rw [Text.dropStart?_eq_some_iff.mp h₁]
  exact List.mem_append_right _ ((List.dropWhile_suffix _).subset hsign)

/-! ## Names up to a quote -/

/-- A name up to a quote is what stands before the first one. -/
theorem untilQuote?_eq_some_iff {t name rest : Text} :
    untilQuote? t = some (name, rest) ↔
      t = name ++ quote :: rest ∧ quote ∉ name ∧ name ≠ [] := by
  have hcut := @Text.cutAtFirst?_eq_some_iff quote t
  rw [untilQuote?, show Text.ofString "\"" = [quote] from rfl]
  constructor
  · intro h
    split at h
    case h_1 before after hfound =>
      split at h
      case isTrue => cases h
      case isFalse hne =>
        cases h
        obtain ⟨ht, hquote⟩ := hcut.mp hfound
        exact ⟨ht, hquote, fun hnil => hne (List.isEmpty_iff.mpr hnil)⟩
    case h_2 => cases h
  · rintro ⟨ht, hquote, hne⟩
    rw [hcut.mpr ⟨ht, hquote⟩]
    exact if_neg fun hempty => hne (List.isEmpty_iff.mp hempty)

theorem untilQuote?_quote (r : Text) : untilQuote? (quote :: r) = none := by
  rw [Option.eq_none_iff_forall_ne_some]
  rintro ⟨name, rest⟩ h
  obtain ⟨ht, hquote, hne⟩ := untilQuote?_eq_some_iff.mp h
  obtain ⟨c, name, rfl⟩ := List.exists_cons_of_ne_nil hne
  exact hquote ((List.cons.inj ht).1 ▸ List.mem_cons_self)

/-- A name a text leaves open runs on to the next quote. -/
theorem untilQuote?_append {name : Text} (hquote : quote ∉ name) (hne : name ≠ [])
    (rest : Text) : untilQuote? (name ++ quote :: rest) = some (name, rest) :=
  untilQuote?_eq_some_iff.mpr ⟨rfl, hquote, hne⟩

/-- How the text behind an opening goes on. -/
inductive Goes : Text → Prop
  /-- The quote closes it at once. -/
  | closed (rest : Text) : Goes (quote :: rest)
  /-- A name follows and then the quote. -/
  | named {name : Text} (rest : Text) (hquote : quote ∉ name) (hne : name ≠ []) :
      Goes (name ++ quote :: rest)
  /-- No quote follows. -/
  | unclosed {t : Text} (h : quote ∉ t) : Goes t

theorem goes (t : Text) : Goes t := by
  by_cases hmem : quote ∈ t
  · obtain ⟨name, rest, rfl, hquote⟩ := List.eq_append_cons_of_mem hmem
    cases name with
    | nil => exact .closed rest
    | cons c name => exact .named rest hquote (List.cons_ne_nil c name)
  · exact .unclosed hmem

theorem goesOn_of_not_mem {t : Text} (h : quote ∉ t) : goesOn t = true :=
  decide_eq_true fun hhead => h (List.mem_of_head? hhead)

theorem goesOn_append {name : Text} (hquote : quote ∉ name) (hne : name ≠ []) (rest : Text) :
    goesOn (name ++ rest) = true := by
  obtain ⟨c, name, rfl⟩ := List.exists_cons_of_ne_nil hne
  refine decide_eq_true fun hhead => hquote ?_
  rw [← Option.some.inj hhead]
  exact List.mem_cons_self

/-- What the code points of a text at its beginning open, told together with what follows the
text. -/
inductive Begins (opening? : Text → Option Text) (next : Text) (c : CodePoint) (r : Text) : Prop
  /-- No name: there is no opening, or it is closed at once. -/
  | nothing (hname : (opening? (c :: (r ++ next))).bind untilQuote? = none)
      (hopened : opened? opening? (c :: r) = opened? opening? r)
  /-- A name that the text closes. -/
  | closed {name rest : Text} (hopen : opening? (c :: r) = some (name ++ quote :: rest))
      (hquote : quote ∉ name)
      (hname : (opening? (c :: (r ++ next))).bind untilQuote? = some (name, rest ++ next))
      (hopened : opened? opening? (c :: r) = some (name ++ quote :: rest))
  /-- A name that runs on into what follows. -/
  | runsOn {s : Text} (hquote : quote ∉ s)
      (hname : (opening? (c :: (r ++ next))).bind untilQuote? = untilQuote? (s ++ next))
      (hopened : opened? opening? (c :: r) = some s)

theorem begins {opening? : Text → Option Text} {next : Text} (hnext : Stops opening? next)
    (c : CodePoint) (r : Text) : Begins opening? next c r := by
  have hstep : opening? (c :: (r ++ next)) = (opening? (c :: r)).map (· ++ next) := hnext (c :: r)
  cases hopen : opening? (c :: r) with
  | none =>
    refine .nothing ?_ ?_
    · rw [hstep, hopen]
      rfl
    · rw [opened?, hopen]
      rfl
  | some s =>
    rw [hopen, Option.map_some] at hstep
    cases goes s with
    | closed s =>
      refine .nothing ?_ ?_
      · rw [hstep, Option.bind_some, List.cons_append, untilQuote?_quote]
      · rw [opened?, hopen]
        rfl
    | named rest hquote hne =>
      refine .closed hopen hquote ?_ ?_
      · rw [hstep, Option.bind_some, List.append_assoc, List.cons_append,
          untilQuote?_append hquote hne]
      · rw [opened?, hopen, Option.filter_some_pos (goesOn_append hquote hne _), Option.some_or]
    | unclosed hquote =>
      refine .runsOn hquote ?_ ?_
      · rw [hstep, Option.bind_some]
      · rw [opened?, hopen, Option.filter_some_pos (goesOn_of_not_mem hquote), Option.some_or]

/-! ## Columns -/

theorem columnsAux_eq (k : Nat) (t : Text) : columnsAux k t = columns (t.drop k) := by
  induction t generalizing k with
  | nil => cases k <;> rfl
  | cons c r ih =>
    cases k with
    | zero => rfl
    | succ k => exact ih k

/-- Where no column stands, the next code point is looked at. -/
theorem columns_cons_of_none {c : CodePoint} {r : Text} (h : column? (c :: r) = none) :
    columns (c :: r) = columns r := by
  rw [columns, columnsAux, h]
  rfl

theorem column?_eq_some_iff {t name rest : Text} :
    column? t = some (name, rest) ↔
      t = "Column(\"" ++ (name ++ quote :: rest) ∧ quote ∉ name ∧ name ≠ [] := by
  rw [column?_eq, Option.bind_eq_some_iff]
  constructor
  · rintro ⟨s, hopen, hname⟩
    obtain ⟨rfl, hquote, hne⟩ := untilQuote?_eq_some_iff.mp hname
    exact ⟨Text.dropStart?_eq_some_iff.mp hopen, hquote, hne⟩
  · rintro ⟨rfl, hquote, hne⟩
    exact ⟨_, Text.dropStart?_append _ _, untilQuote?_append hquote hne rest⟩

/-- Behind the name of a column it goes on. -/
theorem columns_of_column {t name rest : Text} (h : column? t = some (name, rest)) :
    columns t = name :: columns rest := by
  have ht : t = CodePoint.ofChar 'C' :: ("olumn(\"" ++ (name ++ [quote]) ++ rest) := by
    rw [(column?_eq_some_iff.mp h).1, List.append_assoc, List.append_assoc]
    rfl
  subst ht
  rw [columns, columnsAux, h]
  dsimp only
  rw [columnsAux_eq, List.length_append, Nat.add_sub_cancel, List.drop_left]

theorem ne_nil_of_mem_columnsAux {name : Text} (k : Nat) {t : Text} (h : name ∈ columnsAux k t) :
    name ≠ [] := by
  induction t generalizing k with
  | nil =>
    cases k <;> cases h
  | cons c r ih =>
    cases k with
    | succ k => exact ih k h
    | zero =>
      rw [columnsAux] at h
      split at h
      case h_1 found rest hcolumn =>
        rcases List.mem_cons.mp h with rfl | hrest
        · exact (column?_eq_some_iff.mp hcolumn).2.2
        · exact ih _ hrest
      case h_2 => exact ih 0 h

/-- No column that is found has an empty name. -/
theorem ne_nil_of_mem_columns {t name : Text} (h : name ∈ columns t) : name ≠ [] :=
  ne_nil_of_mem_columnsAux 0 h

/-- What opens no column is passed. -/
theorem columns_append_of_none {t next : Text} (hnext : Stops columnOpening? next)
    (h : opened? columnOpening? t = none) : columns (t ++ next) = columns next := by
  induction t with
  | nil => rfl
  | cons c r ih =>
    cases begins hnext c r with
    | nothing hname hopened => exact (columns_cons_of_none hname).trans (ih (hopened ▸ h))
    | closed _ _ _ hopened =>
      rw [hopened] at h
      cases h
    | runsOn _ _ hopened =>
      rw [hopened] at h
      cases h

/-- **Columns behind a text.** A text before a quote adds columns to those behind the quote, and it
adds none exactly when it opens none. -/
theorem columns_append {between rest : Text}
    (hnext : Stops columnOpening? (between ++ quote :: rest)) (hquote : quote ∉ between)
    (hne : between ≠ []) (hpass : columns (between ++ quote :: rest) = columns rest) (t : Text) :
    ∃ more, columns (t ++ (between ++ quote :: rest)) = more ++ columns rest ∧
      (more = [] ↔ opened? columnOpening? t = none) := by
  -- behind a name the scan goes on further on than at the next code point
  induction hlength : t.length using Nat.strong_induction_on generalizing t with
  | _ n ih =>
    subst hlength
    cases t with
    | nil => exact ⟨[], hpass, iff_of_true rfl rfl⟩
    | cons c r =>
      cases begins hnext c r with
      | nothing hname hopened =>
        obtain ⟨more, hmore, hempty⟩ := ih r.length (Nat.lt_succ_self _) r rfl
        exact ⟨more, (columns_cons_of_none hname).trans hmore, hopened ▸ hempty⟩
      | @closed name s hopen _ hname hopened =>
        have hshorter : s.length < (c :: r).length := by
          have hwhole := congrArg List.length (Text.dropStart?_eq_some_iff.mp hopen)
          simp only [List.length_append, List.length_cons] at hwhole ⊢
          omega
        obtain ⟨more, hmore, -⟩ := ih s.length hshorter s rfl
        refine ⟨name :: more, ?_, iff_of_false (List.cons_ne_nil _ _) ?_⟩
        · exact (columns_of_column hname).trans (congrArg (List.cons name) hmore)
        · rw [hopened]
          exact Option.some_ne_none _
      | @runsOn s hleft hname hopened =>
        -- the name takes in everything up to the quote
        refine ⟨[s ++ between], ?_, iff_of_false (List.cons_ne_nil _ _) ?_⟩
        · refine columns_of_column (hname.trans ?_)
          rw [← List.append_assoc]
          refine untilQuote?_append ?_ (List.append_ne_nil_of_right_ne_nil s hne) rest
          exact fun hmem => (List.mem_append.mp hmem).elim hleft hquote
        · rw [hopened]
          exact Option.some_ne_none _

/-! ## Tables -/

theorem table?_cons_of_none {c : CodePoint} {r : Text} (h : declaration? (c :: r) = none) :
    table? (c :: r) = table? r := by
  rw [table?, h]

theorem table?_of_declaration {t name : Text} (h : declaration? t = some name) :
    table? t = some name := by
  cases t with
  | nil => cases h
  | cons c r => rw [table?, h]

/-- Behind any text a table that is declared leaves one that is found. -/
theorem exists_table?_append {next : Text} (h : ∃ name, table? next = some name) (t : Text) :
    ∃ name, table? (t ++ next) = some name := by
  induction t with
  | nil => exact h
  | cons c r ih =>
    cases hdeclared : declaration? (c :: r ++ next) with
    | some name => exact ⟨name, table?_of_declaration hdeclared⟩
    | none =>
      obtain ⟨name, hname⟩ := ih
      exact ⟨name, (table?_cons_of_none (r := r ++ next) hdeclared).trans hname⟩

/-- Two names before a quote are the same. -/
theorem append_quote_prefix_iff {name found r : Text} (hname : quote ∉ name)
    (hfound : quote ∉ found) : name ++ [quote] <+: found ++ quote :: r ↔ found = name := by
  constructor
  · rintro ⟨more, h⟩
    have hcut := @Text.cutAtFirst?_eq_some_iff quote (found ++ quote :: r)
    have hleft := hcut.mpr ⟨rfl, hfound⟩
    rw [hcut.mpr ⟨by rw [← h, List.append_assoc, List.singleton_append], hname⟩] at hleft
    cases hleft
    rfl
  · rintro rfl
    exact ⟨r, by simp⟩

/-- Where no underscore stands, no table is declared. -/
theorem table?_append_of_not_mem {t : Text} (h : CodePoint.ofChar '_' ∉ t) (next : Text) :
    table? (t ++ next) = table? next := by
  induction t with
  | nil => rfl
  | cons c r ih =>
    have hnone : declaration? (c :: (r ++ next)) = none := by
      have hc : CodePoint.ofChar '_' ≠ c := fun hc => h (hc ▸ List.mem_cons_self)
      have hstart : Text.dropStart? "__tablename__" (c :: (r ++ next)) = none := if_neg hc
      rw [declaration?, hstart]
      rfl
    exact (table?_cons_of_none hnone).trans (ih fun hr => h (List.mem_cons_of_mem c hr))

/-- **The table behind a text.** A text before the declaration of a table leaves the table as it is
exactly when the first table it opens, if it opens one, has the same name. -/
theorem table?_append {name between rest : Text}
    (hnext : Stops tableOpening? (between ++ quote :: rest)) (hquote : quote ∉ between)
    (htable : table? (between ++ quote :: rest) = some name) (hname : quote ∉ name)
    (hother : ¬ between <:+ name) (t : Text) :
    table? (t ++ (between ++ quote :: rest)) = some name ↔
      ∀ s, opened? tableOpening? t = some s → name ++ [quote] <+: s := by
  induction t with
  | nil => exact iff_of_true htable nofun
  | cons c r ih =>
    cases begins hnext c r with
    | nothing hnone hopened =>
      have hskip : table? (c :: (r ++ (between ++ quote :: rest)))
          = table? (r ++ (between ++ quote :: rest)) := by
        refine table?_cons_of_none ?_
        rw [declaration?_eq, hnone, Option.map_none]
      rw [hopened, ← ih, List.cons_append, hskip]
    | @closed found s _ hfound hdeclared hopened =>
      have hfirst : table? (c :: (r ++ (between ++ quote :: rest))) = some found := by
        refine table?_of_declaration ?_
        rw [declaration?_eq, hdeclared, Option.map_some]
      rw [hopened, List.cons_append, hfirst, Option.some_inj,
        ← append_quote_prefix_iff (r := s) hname hfound]
      exact ⟨fun h s hs => Option.some.inj hs ▸ h, fun h => h _ rfl⟩
    | @runsOn s hleft hdeclared hopened =>
      -- the name takes in everything up to the quote, so it is no name of a table
      have hne : s ++ between ≠ [] := by
        refine List.append_ne_nil_of_right_ne_nil s ?_
        rintro rfl
        exact hother List.nil_suffix
      have hfirst : table? (c :: (r ++ (between ++ quote :: rest))) = some (s ++ between) := by
        have hnone : quote ∉ s ++ between := fun hmem =>
          (List.mem_append.mp hmem).elim hleft hquote
        refine table?_of_declaration ?_
        rw [declaration?_eq, hdeclared, ← List.append_assoc, untilQuote?_append hnone hne,
          Option.map_some]
      rw [hopened, List.cons_append, hfirst, Option.some_inj]
      refine iff_of_false (fun h => hother (h ▸ List.suffix_append s between)) fun h => ?_
      exact hleft ((h s rfl).subset (List.mem_append_right name (List.mem_singleton.mpr rfl)))

end ModelSource

end Tablewright
