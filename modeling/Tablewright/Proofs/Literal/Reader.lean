/-
Reading a literal of the generated language.

The reader knows lists and mappings, texts in quotes, integers and the words for nothing and the
truth values. Texts that follow one another are one text. It is strict: a text does not go on over
the end of its line, a quote is never taken for the first of three, and a word or a number ends at a
blank or at a mark of the literal. What the language knows beyond that, comments and escapes by name
among it, is not read.

Of what a text in quotes may hold the reader gives back every code point (`piece?_quoted`): the quote
in use and the backslash are escaped, so neither is taken for an end, and an escape by number has as
many digits as its letter asks for.
-/
import Tablewright.Proofs.Json.Members
import Tablewright.Proofs.Json.RoundTrip
import Tablewright.Proofs.Literal.Rows

set_option autoImplicit false

namespace Tablewright

namespace LiteralReader

/-! ## Texts -/

/-- The quotes. -/
def isQuote (c : CodePoint) : Bool := c = '\'' || c = '"'

/-- The blanks inside brackets. -/
def isSpace (c : CodePoint) : Bool := JsonReader.isSpace c || c = '\x0c'

/-- A text without the blanks at its beginning. -/
def skipSpace (t : Text) : Text := t.dropWhile isSpace

/-- What a backslash and one code point stand for. -/
def escapes : List (CodePoint × CodePoint) :=
  [('\\', '\\'), ('\'', '\''), ('"', '"'), ('a', CodePoint.ofNat 7), ('b', CodePoint.ofNat 8),
    ('f', CodePoint.ofNat 12), ('n', '\n'), ('r', '\r'), ('t', '\t'), ('v', CodePoint.ofNat 11)]

/-- The letters of the escapes by number, each with how many digits follow it. -/
def numberEscapes : List (CodePoint × Nat) := [('x', 2), ('u', 4), ('U', 8)]

/-- The number of so many hexadecimal digits, continuing from the number read so far, and what
follows them. -/
def hexDigits? : Nat → Nat → Text → Option (Nat × Text)
  | 0, n, t => some (n, t)
  | _ + 1, _, [] => none
  | width + 1, n, c :: r => c.hexValue?.bind fun d => hexDigits? width (n * 16 + d) r

/-- The code point with the number of so many digits. -/
def numbered? (width : Nat) (t : Text) : Option (CodePoint × Text) :=
  (hexDigits? width 0 t).bind fun (n, left) =>
    if h : n < 0x110000 then some (⟨n, h⟩, left) else none

/-- The code point of an escape, given what follows the backslash. -/
def escape? : Text → Option (CodePoint × Text)
  | [] => none
  | c :: r =>
    match numberEscapes.lookup c with
    | some width => numbered? width r
    | none => (escapes.lookup c).map fun x => (x, r)

/-- Whether a code point other than the quote and the backslash may stand inside quotes. -/
def mayStand (c : CodePoint) : Bool := !(c = '\n' || c = '\r' || c.val = 0 || c.isSurrogate)

/-- The rest of a text after its opening quote. -/
def pieceRest (quote : CodePoint) : Nat → Text → Option (Text × Text)
  | 0, _ => none
  | _ + 1, [] => none
  | fuel + 1, c :: r =>
    if c = quote then some ([], r)
    else if c = '\\' then
      (escape? r).bind fun (x, s) => (pieceRest quote fuel s).map fun (t, left) => (x :: t, left)
    else if mayStand c then (pieceRest quote fuel r).map fun (t, left) => (c :: t, left)
    else none

/-- A text between two quotes. Three quotes in a row open no such text. -/
def piece? : Text → Option (Text × Text)
  | [] => none
  | c :: r =>
    if isQuote c && !Text.startsWith r [c, c] then pieceRest c (r.length + 1) r else none

/-- The texts that follow one another, as one text. -/
def texts : Nat → Text → Option (Text × Text)
  | 0, _ => none
  | fuel + 1, t => do
    let (s, left) ← piece? t
    if (skipSpace left).head?.any isQuote then
      let (more, left) ← texts fuel (skipSpace left)
      return (s ++ more, left)
    else return (s, left)

/-- One or more texts that follow one another. -/
def text? (t : Text) : Option (Text × Text) := texts t.length t

/-! ## Words and numbers -/

/-- The values written as words. -/
def words : List (String × Json) := [("None", .null), ("True", .bool true), ("False", .bool false)]

/-- A value that is a word, if one stands here. -/
def word? (t : Text) : Option (Json × Text) :=
  words.findSome? fun (word, v) => (Text.dropStart? (Text.ofString word) t).map fun left => (v, left)

/-- An integer, if one stands here. -/
def integer? (t : Text) : Option (Json × Text) :=
  let (negative, unsigned) :=
    match t with
    | c :: r => if c = '-' then (true, r) else (false, t)
    | [] => (false, t)
  (JsonReader.integerDigits? unsigned).map fun (digits, left) =>
    let n : Int := Text.natOfDigits 0 digits
    (.int (if negative then -n else n), left)

/-- The marks that may follow a value. -/
def isMark (c : CodePoint) : Bool := c = ',' || c = ':' || c = ']' || c = '\x7d'

/-- A word or a number that ends where it should. -/
def atom? (t : Text) : Option (Json × Text) :=
  match (word? t).or (integer? t) with
  | some (v, left) =>
    if left.head?.all (fun c => isSpace c || isMark c) then some (v, left) else none
  | none => none

/-! ## Lists, mappings and values -/

mutual

/-- A value. -/
def value : Nat → Text → Option (Json × Text)
  | 0, _ => none
  | _ + 1, [] => none
  | fuel + 1, c :: r =>
    if isQuote c then (text? (c :: r)).map fun (s, left) => (.str s, left)
    else if c = '[' then (items fuel (skipSpace r)).map fun (vs, left) => (.arr vs, left)
    else if c = '\x7b' then (members fuel [] (skipSpace r)).map fun (ms, left) => (.obj ms, left)
    else atom? (c :: r)

/-- The items of a list up to its closing bracket. A comma may stand behind the last one. -/
def items : Nat → Text → Option (List Json × Text)
  | 0, _ => none
  | _ + 1, [] => none
  | fuel + 1, c :: r =>
    if c = ']' then some ([], r)
    else do
      let (v, left) ← value fuel (c :: r)
      match skipSpace left with
      | [] => none
      | d :: s =>
        if d = ']' then return ([v], s)
        else if d = ',' then do
          let (vs, left) ← items fuel (skipSpace s)
          return (v :: vs, left)
        else none

/-- The members of a mapping up to its closing brace, written into those read before. A comma may
stand behind the last one. -/
def members : Nat → Members → Text → Option (Members × Text)
  | 0, _, _ => none
  | _ + 1, _, [] => none
  | fuel + 1, acc, c :: r =>
    if c = '\x7d' then some (acc, r)
    else do
      let (key, left) ← text? (c :: r)
      let left ← Text.after? ':' (skipSpace left)
      let (v, left) ← value fuel (skipSpace left)
      match skipSpace left with
      | [] => none
      | d :: s =>
        if d = '\x7d' then return (acc.put key v, s)
        else if d = ',' then members fuel (acc.put key v) (skipSpace s)
        else none

end

/-- The list a text begins with: its items, and what follows its closing bracket. -/
def list? (t : Text) : Option (List Json × Text) :=
  (Text.after? '[' t).bind fun r => items (t.length + 1) (skipSpace r)

/-! ## What stands in quotes is read -/

variable {c quote : CodePoint} {t r rest : Text} {n : Nat}

/-- So many digits and more are read one after the other. -/
theorem hexDigits?_add (w k n : Nat) (t : Text) :
    hexDigits? (w + k) n t = (hexDigits? w n t).bind fun (m, left) => hexDigits? k m left := by
  induction w generalizing n t with
  | zero =>
    rw [Nat.zero_add]
    rfl
  | succ w ih =>
    rw [Nat.add_right_comm]
    cases t with
    | nil => rfl
    | cons c r =>
      rw [hexDigits?, hexDigits?, Option.bind_assoc]
      exact congrArg _ (funext fun d => ih (n * 16 + d) r)

/-- A numeral that fits into its width is read as its number. -/
theorem hexDigits?_hex {width : Nat} (hn : n < 16 ^ (width + 1)) (m : Nat) (r : Text) :
    hexDigits? (width + 1) m (Text.hex (width + 1) n ++ r) = some (m * 16 ^ (width + 1) + n, r) := by
  have hdigit (d : Nat) (hd : d < 16) (m : Nat) (r : Text) :
      hexDigits? 1 m (Text.hexDigit d :: r) = some (m * 16 + d, r) := by
    rw [hexDigits?, Text.hexValue?_hexDigit d hd]
    rfl
  induction width generalizing n r with
  | zero => exact Text.hex_one hn ▸ hdigit n hn m r
  | succ width ih =>
    have hsixteenth : n / 16 < 16 ^ (width + 1) :=
      Nat.div_lt_of_lt_mul (by rwa [pow_succ'] at hn)
    have hvalue : (m * 16 ^ (width + 1) + n / 16) * 16 + n % 16 = m * 16 ^ (width + 1 + 1) + n := by
      rw [pow_succ 16 (width + 1), ← Nat.mul_assoc]
      omega
    rw [Text.hex_succ, List.append_assoc, hexDigits?_add (width + 1) 1, ih hsixteenth,
      ← hvalue]
    exact hdigit (n % 16) (Nat.mod_lt n (by decide)) _ r

/-- The numeral of a code point is read as the code point. -/
theorem numbered?_hex {width : Nat} (hc : c.val < 16 ^ (width + 1)) (r : Text) :
    numbered? (width + 1) (Text.hex (width + 1) c.val ++ r) = some (c, r) := by
  rw [numbered?, hexDigits?_hex hc, Nat.zero_mul, Nat.zero_add]
  exact dif_pos c.val_lt

/-- What is printable may stand inside quotes. -/
theorem mayStand_of_isPrintable (h : c.isPrintable = true) : mayStand c = true := by
  have hsurrogates : ((0xD7FC, 0xF8FF) : Nat × Nat) ∈ unprintableRanges := by decide +kernel
  have hplain : c.val ≠ 0 ∧ c.val ≠ 10 ∧ c.val ≠ 13 ∧ c.isSurrogate = false := by
    rw [CodePoint.isPrintable] at h
    split at h
    case isTrue hascii =>
      have hlt : c.val < 128 := of_decide_eq_true hascii
      simp only [Bool.and_eq_true, decide_eq_true_eq] at h
      have hsurrogate : ¬ 0xD800 ≤ c.val := by omega
      refine ⟨by omega, by omega, by omega, ?_⟩
      rw [CodePoint.isSurrogate, decide_eq_false hsurrogate, Bool.false_and]
    case isFalse hascii =>
      have hge : ¬ c.val < 128 := fun hlt => hascii (decide_eq_true hlt)
      refine ⟨by omega, by omega, by omega, Bool.eq_false_iff.mpr fun hsurrogate => ?_⟩
      rw [Ranges.contains, Bool.not_eq_true', List.any_eq_false] at h
      simp only [CodePoint.isSurrogate, Bool.and_eq_true, decide_eq_true_eq] at hsurrogate
      refine h _ hsurrogates ?_
      simp only [Bool.and_eq_true, decide_eq_true_eq]
      omega
  have hline : c ≠ '\n' := fun hc => hplain.2.1 (congrArg CodePoint.val hc)
  have hreturn : c ≠ '\r' := fun hc => hplain.2.2.1 (congrArg CodePoint.val hc)
  simp [mayStand, hline, hreturn, hplain.1, hplain.2.2.2]

/-- A code point inside quotes stands for itself, or it is written as an escape. -/
theorem escaped_cases (hquote : isQuote quote = true) (c : CodePoint) :
    (Text.escaped quote c = [c] ∧ c ≠ quote ∧ c ≠ '\\' ∧ mayStand c = true) ∨
      ∃ s, Text.escaped quote c = CodePoint.ofChar '\\' :: s ∧
        ∀ r, escape? (s ++ r) = some (c, r) := by
  rw [Text.escaped]
  split
  case isTrue hself =>
    refine .inr ⟨[c], rfl, fun r => ?_⟩
    have hcases : c = '\'' ∨ c = '"' ∨ c = '\\' := by
      simp only [Bool.or_eq_true, decide_eq_true_eq] at hself
      simp only [isQuote, Bool.or_eq_true, decide_eq_true_eq] at hquote
      rcases hself with rfl | rfl
      · exact hquote.elim .inl fun h => .inr (.inl h)
      · exact .inr (.inr rfl)
    rcases hcases with rfl | rfl | rfl <;> rfl
  case isFalse hself =>
    simp only [Bool.or_eq_true, decide_eq_true_eq, not_or] at hself
    split
    case isTrue htab => exact .inr ⟨[CodePoint.ofChar 't'], rfl, fun r => htab ▸ rfl⟩
    split
    case isTrue hline => exact .inr ⟨[CodePoint.ofChar 'n'], rfl, fun r => hline ▸ rfl⟩
    split
    case isTrue hreturn => exact .inr ⟨[CodePoint.ofChar 'r'], rfl, fun r => hreturn ▸ rfl⟩
    split
    case isTrue hprintable =>
      exact .inl ⟨rfl, hself.1, hself.2, mayStand_of_isPrintable hprintable⟩
    split
    case isTrue hsmall =>
      exact .inr ⟨CodePoint.ofChar 'x' :: Text.hex 2 c.val, rfl, numbered?_hex hsmall⟩
    split
    case isTrue hmiddle =>
      exact .inr ⟨CodePoint.ofChar 'u' :: Text.hex 4 c.val, rfl, numbered?_hex hmiddle⟩
    case isFalse =>
      exact .inr ⟨CodePoint.ofChar 'U' :: Text.hex 8 c.val, rfl,
        numbered?_hex (Nat.lt_trans c.val_lt (by decide))⟩

/-- A code point inside quotes is read as the code point. -/
theorem pieceRest_escaped (hquote : isQuote quote = true) (c : CodePoint) (fuel : Nat) (r : Text) :
    pieceRest quote (fuel + 1) (Text.escaped quote c ++ r)
      = (pieceRest quote fuel r).map fun (t, left) => (c :: t, left) := by
  rcases escaped_cases hquote c with ⟨heq, hne, hplain, hstands⟩ | ⟨s, heq, hescape⟩
  · rw [heq, List.singleton_append, pieceRest, if_neg hne, if_neg hplain, if_pos hstands]
  · have hne : CodePoint.ofChar '\\' ≠ quote := by
      rintro rfl
      exact absurd hquote (by decide)
    rw [heq, List.cons_append, pieceRest, if_neg hne, if_pos rfl, hescape r]
    rfl

/-- Up to the closing quote a text is read as it is. -/
theorem pieceRest_flatMap (hquote : isQuote quote = true) {fuel : Nat} (hfuel : t.length < fuel)
    (r : Text) :
    pieceRest quote fuel (t.flatMap (Text.escaped quote) ++ quote :: r) = some (t, r) := by
  induction t generalizing fuel with
  | nil =>
    obtain ⟨fuel, rfl⟩ := Nat.exists_eq_add_one.mpr hfuel
    rw [List.flatMap_nil, List.nil_append, pieceRest, if_pos rfl]
  | cons c t ih =>
    obtain ⟨fuel, rfl⟩ := Nat.exists_eq_add_one.mpr (Nat.zero_lt_of_lt hfuel)
    rw [List.flatMap_cons, List.append_assoc, pieceRest_escaped hquote,
      ih (Nat.lt_of_succ_lt_succ hfuel)]
    rfl

/-- What is written for a code point does not begin with the quote. -/
theorem exists_head_escaped (hquote : isQuote quote = true) (c : CodePoint) :
    ∃ d s, Text.escaped quote c = d :: s ∧ d ≠ quote := by
  rcases escaped_cases hquote c with ⟨heq, hne, -⟩ | ⟨s, heq, -⟩
  · exact ⟨c, [], heq, hne⟩
  · refine ⟨_, s, heq, ?_⟩
    rintro rfl
    exact absurd hquote (by decide)

theorem length_le_flatMap_escaped (hquote : isQuote quote = true) (t : Text) :
    t.length ≤ (t.flatMap (Text.escaped quote)).length := by
  induction t with
  | nil => exact Nat.le_refl 0
  | cons c t ih =>
    obtain ⟨d, s, heq, -⟩ := exists_head_escaped hquote c
    rw [List.flatMap_cons, heq, List.length_append, List.length_cons, List.length_cons]
    omega

theorem isQuote_quoteFor (t : Text) : isQuote (Text.quoteFor t) = true := by
  rcases Text.quoteFor_cases t with h | h
  all_goals
    rw [h]
    rfl

/-- **Texts in quotes.** A text in quotes is read as the text, whatever it holds, unless a quote
follows. -/
theorem piece?_quoted (hrest : rest.head?.any isQuote = false) :
    piece? (Text.quoted t ++ rest) = some (t, rest) := by
  have hquote := isQuote_quoteFor t
  have hclosed : Text.quoted t ++ rest = Text.quoteFor t ::
      (t.flatMap (Text.escaped (Text.quoteFor t)) ++ Text.quoteFor t :: rest) := by
    rw [Text.quoted, List.cons_append, List.cons_append, List.append_assoc, List.singleton_append]
  -- the quotes of an empty text are the first two of three only if a third one follows
  have htriple : Text.startsWith (t.flatMap (Text.escaped (Text.quoteFor t)) ++
      Text.quoteFor t :: rest) [Text.quoteFor t, Text.quoteFor t] = false := by
    generalize Text.quoteFor t = quote at hquote
    rw [Bool.eq_false_iff, ne_eq, Text.startsWith_iff]
    intro hprefix
    cases t with
    | nil =>
      cases rest with
      | nil => exact absurd hprefix.length_le (Nat.not_succ_le_self 1)
      | cons c rest =>
        obtain ⟨-, hsecond⟩ := List.cons_prefix_cons.mp hprefix
        obtain ⟨rfl, -⟩ := List.cons_prefix_cons.mp hsecond
        exact Bool.eq_false_iff.mp hrest hquote
    | cons c t =>
      obtain ⟨d, s, heq, hne⟩ := exists_head_escaped hquote c
      rw [List.flatMap_cons, heq] at hprefix
      exact hne (List.cons_prefix_cons.mp hprefix).1.symm
  have hlength := length_le_flatMap_escaped hquote t
  rw [hclosed, piece?, hquote, htriple]
  refine pieceRest_flatMap hquote ?_ rest
  rw [List.length_append]
  omega

/-! ## Blanks and marks -/

/-- Behind a value stands a mark. -/
def Closes (rest : Text) : Prop := ∃ c r, rest = c :: r ∧ isMark c = true

/-- A text of blanks. -/
def IsBlanks (t : Text) : Prop := ∀ c ∈ t, isSpace c = true

/-- A text that begins with neither a blank nor a mark. -/
def Begins (t : Text) : Prop := ∃ c r, t = c :: r ∧ isSpace c = false ∧ isMark c = false

theorem closes_cons (hc : isMark c = true) (r : Text) : Closes (c :: r) := ⟨c, r, rfl, hc⟩

/-- A mark is none of what a value begins with, and no blank. -/
theorem apart_of_isMark (hc : isMark c = true) :
    isSpace c = false ∧ isQuote c = false ∧
      c.isAsciiDigit = false ∧ c ≠ '.' ∧ c ≠ 'e' ∧ c ≠ 'E' := by
  simp only [isMark, Bool.or_eq_true, decide_eq_true_eq] at hc
  rcases hc with ((rfl | rfl) | rfl) | rfl <;> decide

/-- A blank is no quote. -/
theorem isQuote_of_isSpace (hc : isSpace c = true) : isQuote c = false := by
  simp only [isSpace, JsonReader.isSpace, Bool.or_eq_true, decide_eq_true_eq] at hc
  rcases hc with (((rfl | rfl) | rfl) | rfl) | rfl <;> rfl

theorem Begins.append (h : Begins t) (u : Text) : Begins (t ++ u) := by
  obtain ⟨c, r, rfl, hc⟩ := h
  exact ⟨c, r ++ u, rfl, hc⟩

theorem begins_quoted (t : Text) : Begins (Text.quoted t) := by
  refine ⟨Text.quoteFor t, _, rfl, ?_⟩
  rcases Text.quoteFor_cases t with h | h
  all_goals
    rw [h]
    decide

theorem begins_join {sep : Text} {ts : List Text} (hne : ts ≠ []) (h : ∀ t ∈ ts, Begins t) :
    Begins (Text.join sep ts) := by
  obtain ⟨t, ts, rfl⟩ := List.exists_cons_of_ne_nil hne
  obtain ⟨u, hu⟩ := Text.exists_join_cons sep t ts
  exact hu ▸ (h t List.mem_cons_self).append u

theorem skipSpace_cons (hc : isSpace c = false) (r : Text) : skipSpace (c :: r) = c :: r :=
  List.dropWhile_cons_of_neg (Bool.eq_false_iff.mp hc)

theorem Begins.skipSpace_eq (h : Begins t) : skipSpace t = t := by
  obtain ⟨c, r, rfl, hspace, -⟩ := h
  exact skipSpace_cons hspace r

/-- Blanks are skipped. -/
theorem skipSpace_append {blanks : Text} (hblanks : IsBlanks blanks) (t : Text) :
    skipSpace (blanks ++ t) = skipSpace t :=
  List.dropWhile_append_of_pos hblanks

/-- Blanks are skipped up to where the next part begins. -/
theorem skipSpace_join {blanks u : Text} (hblanks : IsBlanks blanks) (hu : Begins u)
    (sep : Text) (us : List Text) (rest : Text) :
    skipSpace (blanks ++ (Text.join sep (u :: us) ++ rest)) = Text.join sep (u :: us) ++ rest := by
  obtain ⟨w, hw⟩ := Text.exists_join_cons sep u us
  rw [skipSpace_append hblanks, hw]
  exact ((hu.append w).append rest).skipSpace_eq

theorem isBlanks_spaces (k : Nat) : IsBlanks (Text.spaces k) := by
  intro c hc
  rw [List.eq_of_mem_replicate hc]
  rfl

/-- A line feed and blanks are blanks. -/
theorem isBlanks_line (k : Nat) : IsBlanks (CodePoint.ofChar '\n' :: Text.spaces k) :=
  List.forall_mem_cons.mpr ⟨rfl, isBlanks_spaces k⟩

/-! ## Values are read -/

/-- Before a mark a text is read as the value, with fuel for its length. -/
structure ReadsAs (t : Text) (v : Json) : Prop where
  begins : Begins t
  read : ∀ fuel rest, Closes rest → t.length ≤ fuel → value fuel (t ++ rest) = some (v, rest)

/-- Texts in quotes are at least as long as there are texts. -/
theorem length_le_join (sep : Text) (ps : List Text) :
    ps.length ≤ (Text.join sep (ps.map Text.quoted)).length := by
  induction ps with
  | nil => exact Nat.le_refl 0
  | cons p ps ih =>
    have hquoted : 1 ≤ (Text.quoted p).length := Nat.succ_le_of_lt (Nat.succ_pos _)
    cases ps with
    | nil => exact hquoted
    | cons q ps =>
      rw [List.map_cons, List.map_cons, Text.join, List.length_append, List.length_append]
      rw [List.map_cons] at ih
      rw [List.length_cons]
      omega

/-- Where no quote follows the text has ended. -/
theorem texts_last {s left : Text} {fuel : Nat} (h : piece? t = some (s, left))
    (hend : (skipSpace left).head?.any isQuote = false) : texts (fuel + 1) t = some (s, left) := by
  rw [texts, h, Option.bind_eq_bind, Option.bind_some]
  exact if_neg (Bool.eq_false_iff.mp hend)

/-- Where a quote follows the text goes on. -/
theorem texts_more {s left : Text} {fuel : Nat} (h : piece? t = some (s, left))
    (hmore : (skipSpace left).head?.any isQuote = true) :
    texts (fuel + 1) t
      = (texts fuel (skipSpace left)).bind fun (more, left) => some (s ++ more, left) := by
  rw [texts, h, Option.bind_eq_bind, Option.bind_some]
  exact if_pos hmore

/-- Before a mark the texts that follow one another, with blanks between them, are one text. -/
theorem texts_join {blanks : Text} (hblanks : IsBlanks blanks) (hne : blanks ≠ [])
    {ps : List Text} (hps : ps ≠ []) {fuel : Nat} (hfuel : ps.length ≤ fuel) (hrest : Closes rest) :
    texts fuel (Text.join blanks (ps.map Text.quoted) ++ rest) = some (ps.flatten, rest) := by
  induction ps generalizing fuel with
  | nil => exact absurd rfl hps
  | cons p ps ih =>
    obtain ⟨fuel, rfl⟩ := Nat.exists_eq_add_one.mpr (Nat.zero_lt_of_lt hfuel)
    cases ps with
    | nil =>
      obtain ⟨c, r, rfl, hc⟩ := hrest
      obtain ⟨hspace, hquote, -⟩ := apart_of_isMark hc
      rw [List.flatten_singleton]
      refine texts_last (piece?_quoted hquote) ?_
      rw [skipSpace_cons hspace]
      exact hquote
    | cons q ps =>
      obtain ⟨u, hu⟩ := Text.exists_join_cons blanks (Text.quoted q) (ps.map Text.quoted)
      have hskip : skipSpace (blanks ++ (Text.join blanks ((q :: ps).map Text.quoted) ++ rest))
          = Text.join blanks ((q :: ps).map Text.quoted) ++ rest :=
        skipSpace_join hblanks (begins_quoted q) _ _ rest
      have hmore : (Text.join blanks ((q :: ps).map Text.quoted) ++ rest).head?.any isQuote
          = true := by
        rw [List.map_cons, hu]
        exact isQuote_quoteFor q
      have hblank : (blanks ++ (Text.join blanks ((q :: ps).map Text.quoted) ++ rest)).head?.any
          isQuote = false := by
        obtain ⟨b, bs, rfl⟩ := List.exists_cons_of_ne_nil hne
        exact isQuote_of_isSpace (hblanks b List.mem_cons_self)
      rw [List.map_cons, List.map_cons, Text.join, List.append_assoc, List.append_assoc,
        ← List.map_cons, texts_more (piece?_quoted hblank) (by rw [hskip, hmore]), hskip,
        ih (List.cons_ne_nil q ps) (Nat.le_of_succ_le_succ hfuel)]
      rfl

/-- Texts in quotes, with blanks between them, are read as one text. -/
theorem text?_join {blanks : Text} (hblanks : IsBlanks blanks) (hne : blanks ≠ [])
    {ps : List Text} (hps : ps ≠ []) (hrest : Closes rest) :
    text? (Text.join blanks (ps.map Text.quoted) ++ rest) = some (ps.flatten, rest) := by
  refine texts_join hblanks hne hps ?_ hrest
  rw [List.length_append]
  exact Nat.le_add_right_of_le (length_le_join blanks ps)

/-- A text in two pieces, the second one in the other quotes. -/
example : text? "'it' \"'s\", 3" = some (Text.ofString "it's", Text.ofString ", 3") := by
  decide +kernel

theorem readsAs_texts {blanks : Text} (hblanks : IsBlanks blanks) (hne : blanks ≠ [])
    {ps : List Text} (hps : ps ≠ []) :
    ReadsAs (Text.join blanks (ps.map Text.quoted)) (.str ps.flatten) where
  begins := begins_join (by simpa using hps) (List.forall_mem_map.mpr fun p _ => begins_quoted p)
  read fuel rest hrest hfuel := by
    have hread := text?_join hblanks hne hps hrest
    obtain ⟨p, ps, rfl⟩ := List.exists_cons_of_ne_nil hps
    obtain ⟨u, hu⟩ := Text.exists_join_cons blanks (Text.quoted p) (ps.map Text.quoted)
    rw [List.map_cons, hu] at hread hfuel ⊢
    obtain ⟨fuel, rfl⟩ := Nat.exists_eq_add_one.mpr (Nat.lt_of_lt_of_le (Nat.succ_pos _) hfuel)
    rw [Text.quoted, List.cons_append, List.cons_append, List.cons_append] at hread ⊢
    rw [value, if_pos (isQuote_quoteFor p), hread]
    rfl

theorem text?_quoted (hrest : Closes rest) : text? (Text.quoted t ++ rest) = some (t, rest) := by
  have hread := text?_join (isBlanks_spaces 1) (List.cons_ne_nil _ _) (List.cons_ne_nil t [])
    hrest
  rwa [List.flatten_singleton, List.map_singleton, Text.join] at hread

/-- A text in quotes is read as the text. -/
theorem readsAs_quoted (t : Text) : ReadsAs (Text.quoted t) (.str t) := by
  have hread := readsAs_texts (isBlanks_spaces 1) (List.cons_ne_nil _ _)
    (List.cons_ne_nil t [])
  rwa [List.flatten_singleton, List.map_singleton, Text.join] at hread

/-- A word or a number that is read before every mark. -/
theorem readsAs_atom {v : Json} (hbegins : Begins (c :: t))
    (hc : isQuote c = false ∧ c ≠ '[' ∧ c ≠ '\x7b')
    (h : ∀ rest, Closes rest → (word? (c :: t ++ rest)).or (integer? (c :: t ++ rest))
      = some (v, rest)) :
    ReadsAs (c :: t) v where
  begins := hbegins
  read fuel rest hrest hfuel := by
    obtain ⟨fuel, rfl⟩ := Nat.exists_eq_add_one.mpr (Nat.lt_of_lt_of_le (Nat.succ_pos _) hfuel)
    have hends : rest.head?.all (fun c => isSpace c || isMark c) = true := by
      obtain ⟨d, r, rfl, hd⟩ := hrest
      exact (congrArg _ hd).trans (Bool.or_true _)
    have hread := h rest hrest
    rw [List.cons_append] at hread ⊢
    rw [value, if_neg (Bool.eq_false_iff.mp hc.1), if_neg hc.2.1, if_neg hc.2.2, atom?, hread]
    exact if_pos hends

theorem readsAs_null : ReadsAs (Text.ofString "None") .null :=
  readsAs_atom ⟨_, _, rfl, by decide⟩ (by decide) fun _ _ => rfl

theorem readsAs_true : ReadsAs (Text.ofString "True") (.bool true) :=
  readsAs_atom ⟨_, _, rfl, by decide⟩ (by decide) fun _ _ => rfl

theorem readsAs_false : ReadsAs (Text.ofString "False") (.bool false) :=
  readsAs_atom ⟨_, _, rfl, by decide⟩ (by decide) fun _ _ => rfl

/-- A mark ends a number. -/
theorem Closes.endsNumber (h : Closes rest) : JsonReader.EndsNumber rest := by
  obtain ⟨c, r, rfl, hc⟩ := h
  exact JsonReader.endsNumber_cons (apart_of_isMark hc).2.2

/-- The numeral of an integer is read as the integer. -/
theorem integer?_ofInt (k : Int) (hrest : Closes rest) :
    integer? (Text.ofInt k ++ rest) = some (.int k, rest) := by
  cases k with
  | ofNat n =>
    obtain ⟨c, r, hdigits, hdigit⟩ := JsonReader.exists_digit n
    have hsign : c ≠ '-' := (JsonReader.digit_apart hdigit).2.2 _ rfl
    have hread := JsonReader.integerDigits?_ofNat (n := n) hrest.endsNumber
    have hvalue := Text.natOfDigits_ofNat n
    rw [Text.ofInt]
    rw [hdigits] at hread hvalue ⊢
    rw [List.cons_append] at hread ⊢
    simp only [integer?, if_neg hsign, hread, Option.map_some, hvalue]
    rfl
  | negSucc n =>
    have hread := JsonReader.integerDigits?_ofNat (n := n + 1) hrest.endsNumber
    have hvalue := Text.natOfDigits_ofNat (n + 1)
    rw [Text.ofInt, List.cons_append]
    simp only [integer?, if_true, hread, Option.map_some, hvalue]
    rfl

/-- What begins with a minus or a digit is no word. -/
theorem word?_eq_none (hc : c = '-' ∨ c.isAsciiDigit = true) (r : Text) :
    word? (c :: r) = none := by
  have hne : ∀ d : CodePoint, d.isAsciiDigit = false → d ≠ '-' → c ≠ d := by
    rintro d hd hminus rfl
    rcases hc with rfl | hdigit
    · exact hminus rfl
    · rw [hd] at hdigit
      cases hdigit
  rw [word?, List.findSome?_eq_none_iff]
  intro p hp
  rw [Option.map_eq_none_iff]
  simp only [words, List.mem_cons, List.not_mem_nil, or_false] at hp
  rcases hp with rfl | rfl | rfl
  all_goals exact if_neg (hne _ rfl (by decide)).symm

/-- The numeral of an integer begins a value, and no other than a number. -/
theorem readsAs_ofInt (k : Int) : ReadsAs (Text.ofInt k) (.int k) := by
  obtain ⟨c, r, htext, hc⟩ := JsonReader.exists_head_ofInt k
  have hread := fun rest (hrest : Closes rest) => integer?_ofInt k hrest
  rw [htext] at hread ⊢
  have hapart : isSpace c = false ∧ isMark c = false ∧
      isQuote c = false ∧ c ≠ '[' ∧ c ≠ '\x7b' := by
    rcases hc with rfl | hdigit
    · decide
    · obtain ⟨-, hspace, hne⟩ := JsonReader.digit_apart hdigit
      simp (disch := decide) [isSpace, isMark, isQuote, hspace, hne]
  refine readsAs_atom ⟨c, r, rfl, hapart.1, hapart.2.1⟩ hapart.2.2 fun rest hrest => ?_
  rw [List.cons_append, word?_eq_none hc, Option.none_or, ← List.cons_append, hread rest hrest]

/-! ## Lists -/

section

variable {fuel : Nat} {v : Json} {key s left : Text} {acc : Members}

theorem items_last (hc : c ≠ ']') (hv : value fuel (c :: t) = some (v, CodePoint.ofChar ']' :: r)) :
    items (fuel + 1) (c :: t) = some ([v], r) := by
  rw [items, if_neg hc, hv]
  rfl

theorem items_more (hc : c ≠ ']') (hv : value fuel (c :: t) = some (v, CodePoint.ofChar ',' :: r)) :
    items (fuel + 1) (c :: t)
      = (items fuel (skipSpace r)).bind fun (vs, left) => some (v :: vs, left) := by
  rw [items, if_neg hc, hv]
  rfl

theorem members_last (hc : c ≠ '\x7d')
    (hkey : text? (c :: t) = some (key, CodePoint.ofChar ':' :: s))
    (hv : value fuel (skipSpace s) = some (v, CodePoint.ofChar '\x7d' :: r)) :
    members (fuel + 1) acc (c :: t) = some (acc.put key v, r) := by
  have hcolon : Text.after? ':' (skipSpace (CodePoint.ofChar ':' :: s)) = some s := rfl
  rw [members, if_neg hc, hkey]
  simp only [Option.bind_eq_bind, Option.bind_some, hcolon, hv]
  rfl

theorem members_more (hc : c ≠ '\x7d')
    (hkey : text? (c :: t) = some (key, CodePoint.ofChar ':' :: s))
    (hv : value fuel (skipSpace s) = some (v, CodePoint.ofChar ',' :: r)) :
    members (fuel + 1) acc (c :: t) = members fuel (acc.put key v) (skipSpace r) := by
  have hcolon : Text.after? ':' (skipSpace (CodePoint.ofChar ':' :: s)) = some s := rfl
  rw [members, if_neg hc, hkey]
  simp only [Option.bind_eq_bind, Option.bind_some, hcolon, hv]
  rfl

end

/-- Items that are read one by one are read together, with blanks behind the commas. -/
theorem items_join {blanks : Text} (hblanks : IsBlanks blanks) {ts : List Text}
    {vs : List Json} (h : List.Forall₂ ReadsAs ts vs) {fuel : Nat}
    (hfuel : (Text.join (CodePoint.ofChar ',' :: blanks) ts).length < fuel) (rest : Text) :
    items fuel (Text.join (CodePoint.ofChar ',' :: blanks) ts ++ CodePoint.ofChar ']' :: rest)
      = some (vs, rest) := by
  induction h generalizing fuel with
  | nil =>
    obtain ⟨fuel, rfl⟩ := Nat.exists_eq_add_one.mpr hfuel
    rfl
  | @cons t v ts vs hread hmore ih =>
    obtain ⟨fuel, rfl⟩ := Nat.exists_eq_add_one.mpr (Nat.zero_lt_of_lt hfuel)
    obtain ⟨c, r, htext, -, hmark⟩ := hread.begins
    have hc : c ≠ ']' := by
      rintro rfl
      cases hmark
    cases hmore with
    | nil =>
      have hvalue := hread.read fuel (CodePoint.ofChar ']' :: rest) (closes_cons rfl rest)
        (Nat.le_of_lt_succ hfuel)
      rw [Text.join]
      rw [htext] at hvalue ⊢
      exact items_last hc hvalue
    | @cons u v' us vs' hu hus =>
      rw [Text.join, List.length_append, List.length_append, List.length_cons] at hfuel
      have hvalue := hread.read fuel (CodePoint.ofChar ',' :: (blanks ++
        (Text.join (CodePoint.ofChar ',' :: blanks) (u :: us) ++ CodePoint.ofChar ']' :: rest)))
        (closes_cons rfl _) (by omega)
      have hlength : (Text.join (CodePoint.ofChar ',' :: blanks) (u :: us)).length < fuel := by omega
      rw [Text.join, List.append_assoc, List.append_assoc, List.cons_append]
      rw [htext] at hvalue ⊢
      rw [List.cons_append] at hvalue ⊢
      rw [items_more hc hvalue, skipSpace_join hblanks hu.begins, ih hlength]
      rfl

/-! ## Mappings -/

/-- A text in quotes, a colon and what is read as the value are a member. -/
def ReadsAsMember (line : Text) (m : Text × Json) : Prop :=
  ∃ t, line = Text.quoted m.1 ++ (": " ++ t) ∧ ReadsAs t m.2

theorem ReadsAsMember.begins {line : Text} {m : Text × Json} (h : ReadsAsMember line m) :
    Begins line := by
  obtain ⟨t, rfl, -⟩ := h
  exact (begins_quoted m.1).append _

/-- The key of a member is read, and its value behind the colon. -/
theorem ReadsAsMember.read {line : Text} {m : Text × Json} (h : ReadsAsMember line m) {fuel : Nat}
    (hfuel : line.length ≤ fuel) (hrest : Closes rest) :
    ∃ s, text? (line ++ rest) = some (m.1, CodePoint.ofChar ':' :: s) ∧
      value fuel (skipSpace s) = some (m.2, rest) := by
  obtain ⟨t, rfl, hread⟩ := h
  have hkey : text? (Text.quoted m.1 ++
      (CodePoint.ofChar ':' :: (Text.spaces 1 ++ (t ++ rest)))) = _ :=
    text?_quoted (closes_cons rfl _)
  refine ⟨Text.spaces 1 ++ (t ++ rest), ?_, ?_⟩
  · rw [List.append_assoc, ← hkey]
    rfl
  · rw [skipSpace_append (isBlanks_spaces 1), (hread.begins.append rest).skipSpace_eq]
    rw [List.length_append, List.length_append] at hfuel
    exact hread.read fuel rest hrest (by omega)

/-- Members that are read one by one are read together, with blanks behind the commas, and written
into those before. -/
theorem members_join {blanks : Text} (hblanks : IsBlanks blanks) {ts : List Text}
    {ms : Members} (h : List.Forall₂ ReadsAsMember ts ms) {fuel : Nat}
    (hfuel : (Text.join (CodePoint.ofChar ',' :: blanks) ts).length < fuel) (acc : Members)
    (rest : Text) :
    members fuel acc
        (Text.join (CodePoint.ofChar ',' :: blanks) ts ++ CodePoint.ofChar '\x7d' :: rest)
      = some (acc.putAll ms, rest) := by
  induction h generalizing fuel acc with
  | nil =>
    obtain ⟨fuel, rfl⟩ := Nat.exists_eq_add_one.mpr hfuel
    rfl
  | @cons t m ts ms hread hmore ih =>
    obtain ⟨fuel, rfl⟩ := Nat.exists_eq_add_one.mpr (Nat.zero_lt_of_lt hfuel)
    obtain ⟨c, r, htext, -, hmark⟩ := hread.begins
    have hc : c ≠ '\x7d' := by
      rintro rfl
      cases hmark
    cases hmore with
    | nil =>
      obtain ⟨s, hkey, hvalue⟩ := hread.read (Nat.le_of_lt_succ hfuel)
        (closes_cons (c := '\x7d') rfl rest)
      rw [Text.join]
      rw [htext] at hkey ⊢
      exact members_last hc hkey hvalue
    | @cons u m' us ms' hu hus =>
      rw [Text.join, List.length_append, List.length_append, List.length_cons] at hfuel
      have hlength : (Text.join (CodePoint.ofChar ',' :: blanks) (u :: us)).length < fuel := by omega
      have ht : t.length ≤ fuel := by omega
      obtain ⟨s, hkey, hvalue⟩ := hread.read ht (closes_cons (c := ',') rfl (blanks ++
        (Text.join (CodePoint.ofChar ',' :: blanks) (u :: us) ++ CodePoint.ofChar '\x7d' :: rest)))
      rw [Text.join, List.append_assoc, List.append_assoc, List.cons_append]
      rw [htext] at hkey ⊢
      rw [List.cons_append] at hkey ⊢
      rw [members_more hc hkey hvalue, skipSpace_join hblanks hu.begins, ih hlength]
      rfl

/-- Where parts are to begin no blank is skipped, be there parts or not. -/
theorem skipSpace_parts {α : Type} {R : Text → α → Prop} (hR : ∀ {t x}, R t x → Begins t)
    {ts : List Text} {xs : List α} (h : List.Forall₂ R ts xs) (hc : isSpace c = false)
    (sep rest : Text) :
    skipSpace (Text.join sep ts ++ c :: rest) = Text.join sep ts ++ c :: rest := by
  cases h with
  | nil => exact skipSpace_cons hc rest
  | @cons u _ us _ hu _ => exact skipSpace_join (List.forall_mem_nil _) (hR hu) sep us (c :: rest)

/-- **Mappings.** Members in braces are read as a mapping, if their keys differ. -/
theorem readsAs_obj {blanks : Text} (hblanks : IsBlanks blanks) {ts : List Text}
    {ms : Members} (h : List.Forall₂ ReadsAsMember ts ms) (hkeys : (ms.map Prod.fst).Nodup) :
    ReadsAs (CodePoint.ofChar '\x7b' :: (Text.join (CodePoint.ofChar ',' :: blanks) ts
      ++ [CodePoint.ofChar '\x7d'])) (.obj ms) where
  begins := ⟨CodePoint.ofChar '\x7b', _, rfl, by decide⟩
  read fuel rest _ hfuel := by
    obtain ⟨fuel, rfl⟩ := Nat.exists_eq_add_one.mpr (Nat.lt_of_lt_of_le (Nat.succ_pos _) hfuel)
    have hlength : (Text.join (CodePoint.ofChar ',' :: blanks) ts).length < fuel := by
      rw [List.length_cons, List.length_append, List.length_singleton] at hfuel
      omega
    have hskip := skipSpace_parts ReadsAsMember.begins h (show isSpace '\x7d' = false from rfl)
      (CodePoint.ofChar ',' :: blanks) rest
    rw [List.cons_append, List.append_assoc, List.singleton_append, value, if_neg (by decide),
      if_neg (by decide), if_pos rfl, hskip, members_join hblanks h hlength,
      Members.putAll_nil hkeys]
    rfl

/-- **Lists.** Items in brackets are read as a list, and reading stops behind the bracket. -/
theorem list?_join {blanks : Text} (hblanks : IsBlanks blanks) {ts : List Text}
    {vs : List Json} (h : List.Forall₂ ReadsAs ts vs) (rest : Text) :
    list? (CodePoint.ofChar '[' :: (Text.join (CodePoint.ofChar ',' :: blanks) ts
      ++ CodePoint.ofChar ']' :: rest)) = some (vs, rest) := by
  have hskip := skipSpace_parts ReadsAs.begins h (show isSpace ']' = false from rfl)
    (CodePoint.ofChar ',' :: blanks) rest
  rw [list?, Text.after?, if_pos rfl, Option.bind_some, hskip]
  refine items_join hblanks h ?_ rest
  rw [List.length_cons, List.length_append]
  omega

end LiteralReader

end Tablewright
