/-
What is written as JSON is read back.

The writer puts nothing but blanks around the brackets, the commas and the items, whatever the
layout (`Layout.IsSpaced`), and every value begins with a code point that is no blank and no bracket
that closes. So the reader finds each part where it looks for it, and the induction follows the value:
the parts of a list or an object are read by the hypothesis, one after another. The fuel is counted
in the length of what was written: a list takes one unit for each of its two brackets. An integer ends
only where something else begins, so what follows a value has to end a number (`EndsNumber`).

What is read is not always what was written: the surrogate pairs of a text are joined, and of members
with one key the last counts (`Json.reread`). A value that is determined by its text has none of
either, and is read back as it is (`Json.read_value`). Left out are floating-point numbers.
-/
import Tablewright.Json.Basic
import Tablewright.Proofs.Json.Quoted
import Tablewright.Proofs.Json.Reader

set_option autoImplicit false

namespace Tablewright

/-! ## Layouts -/

namespace JsonWriter

open JsonReader (isSpace)

/-- A layout of blanks: nothing else stands around the brackets and behind the commas. -/
structure Layout.IsSpaced (layout : Layout) : Prop where
  opening (d : Nat) : ∀ c ∈ layout.opening d, isSpace c = true
  between (d : Nat) : ∃ blanks, layout.between d = CodePoint.ofChar ',' :: blanks ∧
    ∀ c ∈ blanks, isSpace c = true
  closing (d : Nat) : ∀ c ∈ layout.closing d, isSpace c = true

theorem isSpaced_oneLine : oneLine.IsSpaced where
  opening _ := List.forall_mem_nil _
  between _ := ⟨[CodePoint.ofChar ' '], rfl, by decide⟩
  closing _ := List.forall_mem_nil _

/-- A line feed and blanks are blanks. -/
theorem isSpace_of_mem_line {n : Nat} {c : CodePoint}
    (h : c ∈ CodePoint.ofChar '\n' :: Text.spaces n) : isSpace c = true := by
  rcases List.mem_cons.mp h with rfl | hblank
  · rfl
  · rw [List.eq_of_mem_replicate hblank]
    rfl

theorem isSpaced_indented : indented.IsSpaced where
  opening _ _ := isSpace_of_mem_line
  between _ := ⟨_, rfl, fun _ => isSpace_of_mem_line⟩
  closing _ _ := isSpace_of_mem_line

end JsonWriter

/-! ## Values -/

mutual

/-- The value that is read from what is written of a value. -/
def Json.reread : Json → Json
  | .null => .null
  | .bool b => .bool b
  | .int n => .int n
  | .float x => .float x
  | .str s => .str s.joined
  | .arr vs => .arr (rereadItems vs)
  | .obj ms => .obj (rereadMembers [] ms)

/-- The items that are read from what is written of items. -/
def Json.rereadItems : List Json → List Json
  | [] => []
  | v :: vs => v.reread :: rereadItems vs

/-- The members that are read from what is written of members, written into those read before. -/
def Json.rereadMembers (acc : Members) : List (Text × Json) → Members
  | [] => acc
  | (k, v) :: ms => rereadMembers (acc.put k.joined v.reread) ms

end

/-- A value that can be read from what is written of it, with lists and objects nested at most so
deep: it holds no floating-point number and no integer with more digits than are read. -/
inductive Json.IsReadable : Nat → Json → Prop
  | null (depth : Nat) : IsReadable depth .null
  | bool (depth : Nat) (b : Bool) : IsReadable depth (.bool b)
  | int {depth : Nat} {n : Int} (hn : n.natAbs < 10 ^ Text.maxDigits) :
      IsReadable depth (.int n)
  | str (depth : Nat) (s : Text) : IsReadable depth (.str s)
  | arr {depth : Nat} {vs : List Json} (hvs : ∀ v ∈ vs, IsReadable depth v) :
      IsReadable (depth + 1) (.arr vs)
  | obj {depth : Nat} {ms : Members} (hms : ∀ m ∈ ms, IsReadable depth m.2) :
      IsReadable (depth + 1) (.obj ms)

/-- A value that is determined by its text, with lists and objects nested at most so deep. -/
inductive Json.IsDetermined : Nat → Json → Prop
  | null (depth : Nat) : IsDetermined depth .null
  | bool (depth : Nat) (b : Bool) : IsDetermined depth (.bool b)
  | str {depth : Nat} {s : Text} (hs : s.HasEncoding) : IsDetermined depth (.str s)
  | arr {depth : Nat} {vs : List Json} (hvs : ∀ v ∈ vs, IsDetermined depth v) :
      IsDetermined (depth + 1) (.arr vs)
  | obj {depth : Nat} {ms : Members} (hkeys : (ms.map Prod.fst).Nodup)
      (hnames : ∀ m ∈ ms, m.1.HasEncoding) (hms : ∀ m ∈ ms, IsDetermined depth m.2) :
      IsDetermined (depth + 1) (.obj ms)

namespace Json

variable {depth : Nat} {v : Json}

theorem IsDetermined.isReadable (h : v.IsDetermined depth) : v.IsReadable depth := by
  induction h with
  | null depth => exact .null depth
  | bool depth b => exact .bool depth b
  | str _ => exact .str _ _
  | arr _ ih => exact .arr ih
  | obj _ _ _ ih => exact .obj ih

/-- A value can be read as well when it may nest deeper. -/
theorem IsReadable.mono {deeper : Nat} (h : v.IsReadable depth) (hle : depth ≤ deeper) :
    v.IsReadable deeper := by
  induction h generalizing deeper with
  | null depth => exact .null deeper
  | bool depth b => exact .bool deeper b
  | int hn => exact .int hn
  | str depth s => exact .str deeper s
  | arr hvs ih =>
    obtain ⟨d, rfl⟩ := Nat.exists_eq_add_one.mpr (Nat.lt_of_succ_le hle |> Nat.zero_lt_of_lt)
    exact .arr fun u hu => ih u hu (Nat.le_of_succ_le_succ hle)
  | obj hms ih =>
    obtain ⟨d, rfl⟩ := Nat.exists_eq_add_one.mpr (Nat.lt_of_succ_le hle |> Nat.zero_lt_of_lt)
    exact .obj fun m hm => ih m hm (Nat.le_of_succ_le_succ hle)

/-- Members whose keys differ, and hold no pair, are read one after another. -/
theorem rereadMembers_eq {ms acc : Members} (hkeys : (acc.map Prod.fst ++ ms.map Prod.fst).Nodup)
    (hms : ∀ m ∈ ms, m.1.joined = m.1) :
    rereadMembers acc ms = acc ++ ms.map fun m => (m.1, m.2.reread) := by
  induction ms generalizing acc with
  | nil => rw [rereadMembers, List.map_nil, List.append_nil]
  | cons m ms ih =>
    obtain ⟨k, v⟩ := m
    have hk : k.joined = k := hms (k, v) List.mem_cons_self
    have hnew : k ∉ acc.map Prod.fst := fun hmem =>
      (List.nodup_append.mp hkeys).2.2 k hmem k List.mem_cons_self rfl
    rw [rereadMembers, hk, Members.put_of_not_mem hnew, ih (by simpa using hkeys)
      fun m hm => hms m (List.mem_cons_of_mem _ hm), List.append_assoc]
    rfl

theorem rereadItems_eq_map (vs : List Json) : rereadItems vs = vs.map reread := by
  induction vs with
  | nil => rw [rereadItems, List.map_nil]
  | cons v vs ih => rw [rereadItems, ih, List.map_cons]

/-- A value that is determined by its text is read as it is. -/
theorem IsDetermined.reread_eq (h : v.IsDetermined depth) : v.reread = v := by
  induction h with
  | null | bool => rw [reread]
  | str hs => rw [reread, hs.joined_eq]
  | arr _ ih => rw [reread, rereadItems_eq_map, List.map_congr_left ih, List.map_id']
  | @obj _ ms hkeys hnames _ ih =>
    have hmembers : ms.map (fun m => (m.1, m.2.reread)) = ms :=
      (List.map_congr_left fun m hm => by rw [ih m hm]).trans (List.map_id' ms)
    rw [reread, rereadMembers_eq (by simpa using hkeys) fun m hm => (hnames m hm).joined_eq,
      hmembers, List.nil_append]

end Json

namespace JsonReader

open JsonWriter (Layout)

variable {layout : Layout} {depth d fuel n : Nat} {v : Json} {vs : List Json} {key : Text}
  {ms acc : Members} {rest blanks : Text} {c : CodePoint}

/-- Blanks are skipped up to what is none. -/
theorem skipSpace_append (hblanks : ∀ c ∈ blanks, isSpace c = true) (hc : isSpace c = false)
    (rest : Text) : skipSpace (blanks ++ c :: rest) = c :: rest := by
  rw [skipSpace, List.dropWhile_append_of_pos hblanks,
    List.dropWhile_cons_of_neg (Bool.eq_false_iff.mp hc)]

/-- Where no blank stands none is skipped. -/
theorem skipSpace_cons (hc : isSpace c = false) (rest : Text) :
    skipSpace (c :: rest) = c :: rest :=
  List.dropWhile_cons_of_neg (Bool.eq_false_iff.mp hc)

/-! ## Numbers -/

/-- What follows does not continue a number. -/
def EndsNumber (r : Text) : Prop :=
  ∀ c ∈ r.head?, c.isAsciiDigit = false ∧ c ≠ '.' ∧ c ≠ 'e' ∧ c ≠ 'E'

theorem endsNumber_cons (hc : c.isAsciiDigit = false ∧ c ≠ '.' ∧ c ≠ 'e' ∧ c ≠ 'E') :
    EndsNumber (c :: rest) := by
  rintro e ⟨⟩
  exact hc

/-- A blank ends a number. -/
theorem endsNumber_of_isSpace (hc : isSpace c = true) : EndsNumber (c :: rest) := by
  refine endsNumber_cons ?_
  simp only [isSpace, Bool.or_eq_true, decide_eq_true_eq] at hc
  rcases hc with ((rfl | rfl) | rfl) | rfl <;> decide

theorem endsNumber_append (hblanks : ∀ c ∈ blanks, isSpace c = true) (hrest : EndsNumber rest) :
    EndsNumber (blanks ++ rest) := by
  cases blanks with
  | nil => exact hrest
  | cons c blanks => exact endsNumber_of_isSpace (hblanks c List.mem_cons_self)

theorem EndsNumber.fraction? (h : EndsNumber rest) : fraction? rest = none := by
  rcases rest with _ | ⟨p, _ | ⟨e, r⟩⟩
  · rfl
  · rfl
  · rw [JsonReader.fraction?, (h p rfl).2.1 |> decide_eq_false]
    rfl

theorem EndsNumber.exponent? (h : EndsNumber rest) : exponent? rest = none := by
  cases rest with
  | nil => rfl
  | cons e r =>
    have hmark : ¬ (decide (e = CodePoint.ofChar 'e') || decide (e = CodePoint.ofChar 'E')) = true := by
      simp [(h e rfl).2.2.1, (h e rfl).2.2.2]
    rw [JsonReader.exponent?.eq_def]
    exact if_neg hmark

/-- A numeral begins with a digit. -/
theorem exists_digit (n : Nat) : ∃ c r, Text.ofNat n = c :: r ∧ c.isAsciiDigit = true := by
  obtain ⟨c, r, hdigits⟩ := List.exists_cons_of_ne_nil (Text.ofNat_ne_nil (n := n))
  exact ⟨c, r, hdigits, Text.isAsciiDigit_of_mem_ofNat (hdigits ▸ List.mem_cons_self)⟩

/-- A digit is neither a blank nor one of the marks of the language, and it lies in ASCII. -/
theorem digit_apart (hc : c.isAsciiDigit = true) :
    c.isAscii = true ∧ isSpace c = false ∧ ∀ e : CodePoint, e.isAsciiDigit = false → c ≠ e := by
  have hne : ∀ e : CodePoint, e.isAsciiDigit = false → c ≠ e := by
    rintro e he rfl
    rw [hc] at he
    cases he
  refine ⟨?_, ?_, hne⟩
  · obtain ⟨-, hto⟩ := Bool.and_eq_true_iff.mp hc
    have hle : c.val ≤ 57 := of_decide_eq_true hto
    exact decide_eq_true (by omega)
  · simp only [isSpace, Bool.or_eq_false_iff, decide_eq_false_iff_not]
    exact ⟨⟨⟨hne ' ' rfl, hne '\t' rfl⟩, hne '\n' rfl⟩, hne '\r' rfl⟩

theorem integerDigits?_ofNat (hrest : EndsNumber rest) :
    integerDigits? (Text.ofNat n ++ rest) = some (Text.ofNat n, rest) := by
  rcases Nat.eq_zero_or_pos n with rfl | hn
  · rfl
  · obtain ⟨htake, hdrop⟩ := Text.span_ofNat (n := n) fun c hc => (hrest c hc).1
    obtain ⟨c, r, hdigits, hc⟩ := Text.exists_head_ofNat hn
    have hdigit : c.isAsciiDigit = true :=
      Text.isAsciiDigit_of_mem_ofNat (hdigits ▸ List.mem_cons_self)
    rw [hdigits, List.cons_append] at htake hdrop ⊢
    rw [integerDigits?]
    rw [if_neg hc, if_pos hdigit, htake, hdrop]

/-- The numeral of an integer is read as the integer. -/
theorem number_ofInt {k : Int} (hk : k.natAbs < 10 ^ Text.maxDigits) (hrest : EndsNumber rest) :
    number (Text.ofInt k ++ rest) = .ok (.int k, rest) := by
  have hshort := Nat.not_lt.mpr ((Text.length_ofNat_le_iff (by decide)).mpr hk)
  cases k with
  | ofNat n =>
    obtain ⟨c, r, hdigits, hdigit⟩ := exists_digit n
    have hsign : c ≠ '-' := (digit_apart hdigit).2.2 _ rfl
    have hread := integerDigits?_ofNat (n := n) hrest
    have hvalue := Text.natOfDigits_ofNat n
    change ¬ Text.maxDigits < (Text.ofNat n).length at hshort
    rw [Text.ofInt]
    rw [hdigits] at hread hvalue hshort ⊢
    rw [List.cons_append] at hread ⊢
    rw [number]
    simp only [if_neg hsign, hread, hrest.fraction?, Option.getD_none, hrest.exponent?,
      List.isEmpty_nil, Option.isNone_none, Bool.and_self, if_true, if_neg hshort, hvalue]
    rfl
  | negSucc n =>
    have hread := integerDigits?_ofNat (n := n + 1) hrest
    have hvalue := Text.natOfDigits_ofNat (n + 1)
    change ¬ Text.maxDigits < (Text.ofNat (n + 1)).length at hshort
    rw [Text.ofInt, List.cons_append, number]
    simp only [if_true, hread, hrest.fraction?, Option.getD_none, hrest.exponent?,
      List.isEmpty_nil, Option.isNone_none, Bool.and_self, if_neg hshort, hvalue]
    rfl

/-- The numeral of an integer begins with a minus or a digit. -/
theorem exists_head_ofInt (k : Int) :
    ∃ c r, Text.ofInt k = c :: r ∧ (c = '-' ∨ c.isAsciiDigit = true) := by
  cases k with
  | ofNat n =>
    obtain ⟨c, r, hdigits, hdigit⟩ := exists_digit n
    exact ⟨c, r, hdigits, .inr hdigit⟩
  | negSucc n => exact ⟨'-', _, rfl, .inl rfl⟩

/-- No word of the language begins with what a numeral begins with, but for a minus that no digit
follows. -/
theorem constant?_ofInt (k : Int) (rest : Text) : constant? (Text.ofInt k ++ rest) = none := by
  rw [constant?, List.findSome?_eq_none_iff]
  intro p hp
  rw [Option.map_eq_none_iff]
  simp only [constants, List.mem_cons, List.not_mem_nil, or_false] at hp
  cases k with
  | ofNat n =>
    obtain ⟨c, r, hdigits, hdigit⟩ := exists_digit n
    have hne := (digit_apart hdigit).2.2
    rw [Text.ofInt, hdigits, List.cons_append]
    rcases hp with rfl | rfl | rfl | rfl | rfl | rfl
    all_goals exact if_neg (hne _ rfl).symm
  | negSucc n =>
    obtain ⟨c, r, hdigits, hdigit⟩ := exists_digit (n + 1)
    have hne := (digit_apart hdigit).2.2 'I' rfl
    rw [Text.ofInt, hdigits, List.cons_append, List.cons_append]
    rcases hp with rfl | rfl | rfl | rfl | rfl | rfl
    case inr.inr.inr.inr.inr => exact (if_pos rfl).trans (if_neg hne.symm)
    all_goals exact if_neg (by decide)

/-! ## Where a value begins and ends -/

/-- A written value begins with an ASCII code point that neither is a blank nor closes a list. -/
theorem exists_head (layout : Layout) (d : Nat) (h : v.IsReadable depth) :
    ∃ c rest, JsonWriter.value layout d v = c :: rest ∧ c.isAscii = true ∧ isSpace c = false ∧
      c ≠ ']' := by
  cases h with
  | null => exact ⟨'n', _, rfl, rfl, rfl, by decide⟩
  | bool _ b =>
    cases b with
    | true => exact ⟨'t', _, rfl, rfl, rfl, by decide⟩
    | false => exact ⟨'f', _, rfl, rfl, rfl, by decide⟩
  | @int _ k _ =>
    obtain ⟨c, r, htext, rfl | hdigit⟩ := exists_head_ofInt k
    · exact ⟨'-', r, htext, rfl, rfl, by decide⟩
    · obtain ⟨hascii, hspace, hne⟩ := digit_apart hdigit
      exact ⟨c, r, htext, hascii, hspace, hne _ rfl⟩
  | str _ _ => exact ⟨'"', _, rfl, rfl, rfl, by decide⟩
  | @arr _ vs _ => cases vs <;> exact ⟨'[', _, rfl, rfl, rfl, by decide⟩
  | @obj _ ms _ => cases ms <;> exact ⟨'\x7b', _, rfl, rfl, rfl, by decide⟩

/-- Before whatever ends a number, a written value is read as the value that comes of it, with fuel
for twice its length. -/
def ReadsBack (layout : Layout) (depth d : Nat) (v : Json) : Prop :=
  ∀ fuel rest, EndsNumber rest → 2 * (JsonWriter.value layout d v).length ≤ fuel →
    value depth fuel (JsonWriter.value layout d v ++ rest) = .ok (v.reread, rest)

/-- Behind blanks a written value is found where it begins. -/
theorem skipSpace_value (hblanks : ∀ c ∈ blanks, isSpace c = true) (h : v.IsReadable depth)
    (layout : Layout) (d : Nat) (rest : Text) :
    skipSpace (blanks ++ (JsonWriter.value layout d v ++ rest))
      = JsonWriter.value layout d v ++ rest := by
  obtain ⟨c, text, htext, -, hspace, -⟩ := exists_head layout d h
  rw [htext, List.cons_append]
  exact skipSpace_append hblanks hspace _

/-- Behind blanks a quoted text is found where it begins. -/
theorem skipSpace_quoted (hblanks : ∀ c ∈ blanks, isSpace c = true) (t rest : Text) :
    skipSpace (blanks ++ (JsonWriter.quoted t ++ rest)) = JsonWriter.quoted t ++ rest := by
  rw [quoted_append]
  exact skipSpace_append hblanks rfl _

/-! ## Lists -/

/-- What is written of a list behind its opening bracket, from the first item on, and what follows
the list. -/
def listTail (layout : Layout) (d : Nat) (v : Json) (vs : List Json) (rest : Text) : Text :=
  JsonWriter.value layout (d + 1) v
    ++ (JsonWriter.items layout d vs ++ (layout.closing d ++ CodePoint.ofChar ']' :: rest))

theorem listTail_cons (layout : Layout) (d : Nat) (v u : Json) (vs : List Json) (rest : Text) :
    listTail layout d v (u :: vs) rest
      = JsonWriter.value layout (d + 1) v ++ (layout.between d ++ listTail layout d u vs rest) := by
  rw [listTail, listTail, JsonWriter.items]
  simp only [List.append_assoc]

/-- The bracket that closes a list or an object, and what stands before it, ends a number. -/
theorem endsNumber_closing (hlayout : layout.IsSpaced) (hc : c = ']' ∨ c = '\x7d') :
    EndsNumber (layout.closing d ++ c :: rest) := by
  refine endsNumber_append (hlayout.closing d) (endsNumber_cons ?_)
  rcases hc with rfl | rfl <;> decide

/-- What separates two items ends a number. -/
theorem endsNumber_between (hlayout : layout.IsSpaced) (rest : Text) :
    EndsNumber (layout.between d ++ rest) := by
  obtain ⟨blanks, hbetween, -⟩ := hlayout.between d
  rw [hbetween, List.cons_append]
  exact endsNumber_cons (by decide)

/-- Items that are read back one by one are read back as a list up to its closing bracket. -/
theorem items_write (hlayout : layout.IsSpaced)
    (hvs : ∀ u ∈ v :: vs, u.IsReadable depth ∧ ReadsBack layout depth (d + 1) u)
    (hfuel : 2 * ((JsonWriter.value layout (d + 1) v).length
      + (JsonWriter.items layout d vs).length) < fuel) :
    items depth fuel (listTail layout d v vs rest) = .ok (Json.rereadItems (v :: vs), rest) := by
  induction vs generalizing v fuel with
  | nil =>
    obtain ⟨fuel, rfl⟩ := Nat.exists_eq_add_one.mpr (Nat.zero_lt_of_lt hfuel)
    have hread := (hvs v List.mem_cons_self).2 fuel
      (layout.closing d ++ CodePoint.ofChar ']' :: rest)
      (endsNumber_closing hlayout (.inl rfl)) (by omega)
    rw [listTail, JsonWriter.items, List.nil_append, items, hread]
    simp only [bind, Except.bind]
    -- behind the last item stand only blanks and the bracket
    rw [skipSpace_append (hlayout.closing d) rfl]
    rfl
  | cons u us ih =>
    obtain ⟨fuel, rfl⟩ := Nat.exists_eq_add_one.mpr (Nat.zero_lt_of_lt hfuel)
    have hends := endsNumber_between (d := d) hlayout
      (listTail layout d u us rest)
    obtain ⟨blanks, hbetween, hblanks⟩ := hlayout.between d
    have hu := (hvs u (List.mem_cons_of_mem v List.mem_cons_self)).1
    have hread := (hvs v List.mem_cons_self).2 fuel _ hends (by omega)
    -- the comma before the next item pays for the fuel that the recursion takes
    rw [JsonWriter.items, hbetween, List.length_append, List.length_append,
      List.length_cons] at hfuel
    have hrest : items depth fuel (listTail layout d u us rest)
        = .ok (Json.rereadItems (u :: us), rest) :=
      ih (fun x hx => hvs x (List.mem_cons_of_mem v hx)) (by omega)
    rw [listTail_cons, items, hread]
    simp only [bind, Except.bind]
    rw [hbetween, List.cons_append, skipSpace_cons rfl]
    dsimp only
    rw [if_neg (by decide), if_pos rfl, listTail, skipSpace_value hblanks hu, ← listTail, hrest]
    rfl

/-- A list whose items are read back is read back. -/
theorem readsBack_arr (hlayout : layout.IsSpaced)
    (hvs : ∀ v ∈ vs, v.IsReadable depth ∧ ReadsBack layout depth (d + 1) v) :
    ReadsBack layout (depth + 1) d (.arr vs) := by
  intro fuel rest _ hfuel
  cases vs with
  | nil =>
    obtain ⟨fuel, rfl⟩ := Nat.exists_eq_add_one.mpr
      (Nat.lt_of_lt_of_le (Nat.zero_lt_succ 3) hfuel)
    rfl
  | cons v vs =>
    have hv := (hvs v List.mem_cons_self).1
    have htext : JsonWriter.value layout d (.arr (v :: vs)) ++ rest
        = CodePoint.ofChar '[' :: (layout.opening d ++ listTail layout d v vs rest) := by
      rw [JsonWriter.value, listTail]
      simp only [List.append_assoc]
      rfl
    have hlength := congrArg List.length htext
    simp only [listTail, List.length_append, List.length_cons] at hlength
    obtain ⟨fuel, rfl⟩ := Nat.exists_eq_add_one.mpr (show 0 < fuel by omega)
    have hitems : items depth fuel (listTail layout d v vs rest)
        = .ok (Json.rereadItems (v :: vs), rest) :=
      items_write hlayout hvs (by omega)
    rw [listTail] at htext hitems
    rw [htext, value.eq_def]
    dsimp only
    rw [if_neg (by decide), if_pos rfl, skipSpace_value (hlayout.opening d) hv]
    -- the first item does not begin with the bracket that would close the list
    obtain ⟨c, text, hhead, -, -, hc⟩ := exists_head layout (d + 1) hv
    rw [hhead, List.cons_append] at hitems ⊢
    dsimp only
    rw [if_neg hc, hitems]
    rfl

/-! ## Objects -/

/-- What is written of a member, and what follows it. -/
def memberText (layout : Layout) (d : Nat) (key : Text) (v : Json) (tail : Text) : Text :=
  JsonWriter.quoted key ++ (Text.ofString ": " ++ (JsonWriter.value layout (d + 1) v ++ tail))

/-- What is written of an object behind its opening brace, from the first member on, and what
follows the object. -/
def objectTail (layout : Layout) (d : Nat) (key : Text) (v : Json) (ms : Members) (rest : Text) :
    Text :=
  memberText layout d key v
    (JsonWriter.members layout d ms ++ (layout.closing d ++ CodePoint.ofChar '\x7d' :: rest))

theorem objectTail_cons (layout : Layout) (d : Nat) (key k : Text) (v u : Json) (ms : Members)
    (rest : Text) :
    objectTail layout d key v ((k, u) :: ms) rest
      = memberText layout d key v (layout.between d ++ objectTail layout d k u ms rest) := by
  rw [objectTail, objectTail, memberText, memberText, memberText, JsonWriter.members]
  simp only [List.append_assoc]

/-- A member is read, and then what follows it decides how reading goes on. -/
theorem members_member {tail : Text} (hv : v.IsReadable depth)
    (hread : ReadsBack layout depth (d + 1) v) (htail : EndsNumber tail)
    (hfuel : 2 * (JsonWriter.value layout (d + 1) v).length ≤ fuel) :
    members depth (fuel + 1) acc (memberText layout d key v tail)
      = match skipSpace tail with
        | c :: s =>
          if c = '\x7d' then .ok (acc.put key.joined v.reread, s)
          else if c = ',' then members depth fuel (acc.put key.joined v.reread) (skipSpace s)
          else flawAt .comma (c :: s)
        | [] => flawAt .comma [] := by
  have hcolon : Text.ofString ": " ++ (JsonWriter.value layout (d + 1) v ++ tail)
      = CodePoint.ofChar ':' :: ([CodePoint.ofChar ' '] ++ (JsonWriter.value layout (d + 1) v
        ++ tail)) := rfl
  rw [memberText, hcolon, quoted_append, members, if_pos rfl, text_quotedTail]
  simp only [bind, Except.bind]
  rw [skipSpace_cons rfl]
  dsimp only
  rw [if_pos rfl, skipSpace_value (by decide) hv, hread fuel tail htail hfuel]
  rfl

/-- Members that are read back one by one are read back as an object up to its closing brace, written
into those that were read before. -/
theorem members_write (hlayout : layout.IsSpaced)
    (hms : ∀ m ∈ (key, v) :: ms, m.2.IsReadable depth ∧ ReadsBack layout depth (d + 1) m.2)
    (hfuel : 2 * ((JsonWriter.value layout (d + 1) v).length
      + (JsonWriter.members layout d ms).length) < fuel) :
    members depth fuel acc (objectTail layout d key v ms rest)
      = .ok (Json.rereadMembers acc ((key, v) :: ms), rest) := by
  induction ms generalizing key v acc fuel with
  | nil =>
    obtain ⟨hv, hread⟩ : v.IsReadable depth ∧ ReadsBack layout depth (d + 1) v :=
      hms (key, v) List.mem_cons_self
    obtain ⟨fuel, rfl⟩ := Nat.exists_eq_add_one.mpr (Nat.zero_lt_of_lt hfuel)
    have hends : EndsNumber (layout.closing d ++ CodePoint.ofChar '\x7d' :: rest) :=
      endsNumber_closing hlayout (.inr rfl)
    rw [objectTail, JsonWriter.members, List.nil_append,
      members_member hv hread hends (by omega), skipSpace_append (hlayout.closing d) rfl]
    exact if_pos rfl
  | cons m ms ih =>
    obtain ⟨k, u⟩ := m
    obtain ⟨hv, hread⟩ : v.IsReadable depth ∧ ReadsBack layout depth (d + 1) v :=
      hms (key, v) List.mem_cons_self
    obtain ⟨fuel, rfl⟩ := Nat.exists_eq_add_one.mpr (Nat.zero_lt_of_lt hfuel)
    have hends := endsNumber_between (d := d) hlayout (objectTail layout d k u ms rest)
    obtain ⟨blanks, hbetween, hblanks⟩ := hlayout.between d
    have hrest : members depth fuel (acc.put key.joined v.reread) (objectTail layout d k u ms rest)
        = .ok (Json.rereadMembers (acc.put key.joined v.reread) ((k, u) :: ms), rest) := by
      refine ih (fun m hm => hms m (List.mem_cons_of_mem _ hm)) ?_
      rw [JsonWriter.members, hbetween] at hfuel
      simp only [List.length_append, List.length_cons] at hfuel
      omega
    rw [objectTail_cons, members_member hv hread hends (by omega), hbetween, List.cons_append,
      skipSpace_cons rfl]
    dsimp only
    rw [if_neg (by decide), if_pos rfl, objectTail, memberText, skipSpace_quoted hblanks,
      ← memberText, ← objectTail, hrest]
    rfl

/-- An object whose members are read back is read back. -/
theorem readsBack_obj (hlayout : layout.IsSpaced)
    (hms : ∀ m ∈ ms, m.2.IsReadable depth ∧ ReadsBack layout depth (d + 1) m.2) :
    ReadsBack layout (depth + 1) d (.obj ms) := by
  intro fuel rest _ hfuel
  cases ms with
  | nil =>
    obtain ⟨fuel, rfl⟩ := Nat.exists_eq_add_one.mpr
      (Nat.lt_of_lt_of_le (Nat.zero_lt_succ 3) hfuel)
    rfl
  | cons m ms =>
    obtain ⟨k, v⟩ := m
    have htext : JsonWriter.value layout d (.obj ((k, v) :: ms)) ++ rest
        = CodePoint.ofChar '\x7b' :: (layout.opening d ++ objectTail layout d k v ms rest) := by
      rw [JsonWriter.value, objectTail, memberText]
      simp only [List.append_assoc]
      rfl
    have hlength := congrArg List.length htext
    simp only [objectTail, memberText, List.length_append, List.length_cons] at hlength
    obtain ⟨fuel, rfl⟩ := Nat.exists_eq_add_one.mpr (show 0 < fuel by omega)
    have hmembers : members depth fuel [] (objectTail layout d k v ms rest)
        = .ok (Json.rereadMembers [] ((k, v) :: ms), rest) := members_write hlayout hms (by omega)
    rw [objectTail, memberText] at htext hmembers
    rw [htext, value.eq_def]
    dsimp only
    rw [if_neg (by decide), if_neg (by decide), if_pos rfl,
      skipSpace_quoted (hlayout.opening d)]
    -- a key begins with a quote, and not with the brace that would close the object
    rw [quoted_append] at hmembers ⊢
    dsimp only
    rw [if_neg (by decide), hmembers]
    rfl

/-! ## All values -/

/-- A value that is written as a word is read back if the word is read as the value that comes of
it. -/
theorem readsBack_word {word : Text} (hword : JsonWriter.value layout d v = word)
    (hread : ∀ fuel rest, EndsNumber rest →
      value depth (fuel + 1) (word ++ rest) = .ok (v.reread, rest))
    (hne : word ≠ []) : ReadsBack layout depth d v := by
  subst hword
  intro fuel rest hrest hfuel
  have hlength := List.length_pos_iff.mpr hne
  obtain ⟨fuel, rfl⟩ := Nat.exists_eq_add_one.mpr (show 0 < fuel by omega)
  exact hread fuel rest hrest

/-- A text is read back. -/
theorem readsBack_str (s : Text) : ReadsBack layout depth d (.str s) := by
  refine readsBack_word (JsonWriter.value.eq_def ..) (fun fuel rest _ => ?_) (List.cons_ne_nil _ _)
  dsimp only
  rw [quoted_append, value.eq_def]
  dsimp only
  rw [if_pos rfl, text_quotedTail]
  rfl

/-- An integer is read back. -/
theorem readsBack_int {k : Int} (hk : k.natAbs < 10 ^ Text.maxDigits) :
    ReadsBack layout depth d (.int k) := by
  obtain ⟨c, r, htext, hc⟩ := exists_head_ofInt k
  have hne : ∀ e : CodePoint, e ≠ '-' → e.isAsciiDigit = false → c ≠ e := by
    intro e hminus hdigit
    rcases hc with rfl | hc
    · exact hminus.symm
    · exact (digit_apart hc).2.2 e hdigit
  refine readsBack_word (JsonWriter.value.eq_def ..) (fun fuel rest hrest => ?_) ?_
  · have hread := number_ofInt hk hrest
    have hword := constant?_ofInt k rest
    dsimp only
    rw [htext, List.cons_append] at hread hword ⊢
    rw [value.eq_def]
    dsimp only
    rw [if_neg (hne _ (by decide) rfl), if_neg (hne _ (by decide) rfl),
      if_neg (hne _ (by decide) rfl), hword]
    exact hread
  · dsimp only
    rw [htext]
    exact List.cons_ne_nil _ _

/-- Every readable value is read back, at every depth and in every layout of blanks. -/
theorem readsBack_of_isReadable (hlayout : layout.IsSpaced) (h : v.IsReadable depth) :
    ∀ d, ReadsBack layout depth d v := by
  induction h with
  | null depth => exact fun d => readsBack_word rfl (fun _ _ _ => rfl) (List.cons_ne_nil _ _)
  | bool depth b =>
    cases b with
    | true => exact fun d => readsBack_word rfl (fun _ _ _ => rfl) (List.cons_ne_nil _ _)
    | false => exact fun d => readsBack_word rfl (fun _ _ _ => rfl) (List.cons_ne_nil _ _)
  | int hn => exact fun d => readsBack_int hn
  | str depth s => exact fun d => readsBack_str s
  | arr hvs ih => exact fun d => readsBack_arr hlayout fun v hv => ⟨hvs v hv, ih v hv (d + 1)⟩
  | obj hms ih => exact fun d => readsBack_obj hlayout fun m hm => ⟨hms m hm, ih m hm (d + 1)⟩

end JsonReader

open JsonReader in
/-- **What is written is read back.** A readable value is read from what is written of it, in
whatever layout of blanks and at whatever depth it was written, with its surrogate pairs joined and
each key once. -/
theorem Json.read_value_eq_reread {layout : JsonWriter.Layout} (hlayout : layout.IsSpaced)
    {depth : Nat} {v : Json} (h : v.IsReadable depth) (d : Nat) :
    read depth (JsonWriter.value layout d v) = .ok v.reread := by
  obtain ⟨c, rest, htext, hascii, hspace, -⟩ := exists_head layout d h
  have hread := readsBack_of_isReadable hlayout h d
    (2 * (JsonWriter.value layout d v).length + 2) [] (by rintro c ⟨⟩) (by omega)
  rw [List.append_nil] at hread
  have hmark : Text.startsWith (JsonWriter.value layout d v) [CodePoint.ofNat 0xFEFF] = false := by
    have hc : CodePoint.ofNat 0xFEFF ≠ c := by
      rintro rfl
      cases hascii
    rw [htext, Text.startsWith, Text.dropStart?, if_neg hc]
    rfl
  have hskip : skipSpace (JsonWriter.value layout d v) = JsonWriter.value layout d v := by
    rw [htext, skipSpace_cons hspace]
  rw [read]
  dsimp only
  rw [if_neg (Bool.eq_false_iff.mp hmark), hskip, hread]
  rfl

/-- A value that is determined by its text is read back from it as it is. -/
theorem Json.read_value {layout : JsonWriter.Layout} (hlayout : layout.IsSpaced) {depth : Nat}
    {v : Json} (h : v.IsDetermined depth) (d : Nat) :
    read depth (JsonWriter.value layout d v) = .ok v := by
  rw [read_value_eq_reread hlayout h.isReadable, h.reread_eq]

/-- No written value is a blank text, because that is not read as a value. -/
theorem Json.isBlank_value {layout : JsonWriter.Layout} (hlayout : layout.IsSpaced) {depth : Nat}
    {v : Json} (h : v.IsDetermined depth) (d : Nat) :
    Text.isBlank (JsonWriter.value layout d v) = false := by
  refine Bool.eq_false_iff.mpr fun hblank => ?_
  obtain ⟨what, before, hread⟩ := read_of_blank hblank depth
  rw [read_value hlayout h d] at hread
  cases hread

end Tablewright
