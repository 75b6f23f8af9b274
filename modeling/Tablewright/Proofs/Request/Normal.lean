/-
The form in which requests are compared.

A request in normal form is its words, joined by single spaces, where the words are those of the
request with straight quotes and in small letters. Words are separated wherever blanks are, and
nothing about a word is decided by what stands beyond a blank, so the words of a request that is put
together from two are the words of the one and then those of the other (`words_append`), and a
request in normal form has the words it is made of (`words_normal`). Everything else follows from
these two: the normal form is its own normal form, and the normal form of two requests is put together
from theirs.
-/
import Tablewright.Proofs.Naming.Snake
import Tablewright.Proofs.Text.Lowering
import Tablewright.Proofs.Text.Occurrence
import Tablewright.Request.Template

set_option autoImplicit false

namespace Tablewright.Request

/-! ## Straight quotes -/

/-- Quotes that are straight stay as they are. -/
theorem straighten_straighten (c : CodePoint) : straighten (straighten c) = straighten c := by
  unfold straighten
  split
  · decide
  · split
    · decide
    · rfl

/-- Far from the curly quotes nothing is straightened. -/
theorem straighten_of_beside {c : CodePoint} (h : c.val < 0x2018 ∨ 0x201D < c.val) :
    straighten c = c := by
  unfold straighten
  rw [if_neg (by simp; omega), if_neg (by simp; omega)]

theorem isBlank_straighten (c : CodePoint) : (straighten c).isBlank = c.isBlank := by
  have hcurly : ∀ n ∈ [0x2018, 0x2019, 0x201C, 0x201D], (CodePoint.ofNat n).isBlank = false := by
    decide +kernel
  unfold straighten
  split
  case isTrue hsingle =>
    rw [← CodePoint.ofNat_val c, hcurly c.val (by simp at hsingle ⊢; omega)]
    decide
  case isFalse =>
    split
    case isTrue hdouble =>
      rw [← CodePoint.ofNat_val c, hcurly c.val (by simp at hdouble ⊢; omega)]
      decide
    case isFalse => rfl

/-! ## Words -/

/-- The words of a request, with straight quotes and in small letters. -/
def words (request : Text) : List Text := Text.words (Text.lower (request.map straighten))

/-- A code point that stays as it is in a normal form. -/
structure IsSettled (c : CodePoint) : Prop where
  /-- There is nothing to lower. -/
  not_capital : c.isCapital = false
  /-- There is nothing to straighten. -/
  straight : straighten c = c

/-- A word of a normal form: code points that stay as they are, none of them blank, and at least
one. -/
structure IsWord (w : Text) : Prop where
  ne_nil : w ≠ []
  not_blank : ∀ c ∈ w, c.isBlank = false
  settled : ∀ c ∈ w, IsSettled c

theorem isSettled_space : IsSettled ' ' := ⟨by decide +kernel, by decide⟩

/-- What stands in a request that was straightened and lowered stays as it is. -/
theorem isSettled_of_mem {request : Text} {c : CodePoint}
    (h : c ∈ Text.lower (request.map straighten)) : IsSettled c := by
  obtain ⟨hcapital, d, hd, -, hcurly⟩ := Text.of_mem_lower h
  refine ⟨hcapital, ?_⟩
  by_cases hbeside : c.val < 0x2018 ∨ 0x201D < c.val
  · exact straighten_of_beside hbeside
  · -- a curly quote would have been there before lowering, and there was none
    obtain rfl := hcurly (by omega) (by omega)
    obtain ⟨e, -, rfl⟩ := List.mem_map.mp hd
    exact straighten_straighten e

theorem isWord_of_mem_words {request w : Text} (h : w ∈ words request) : IsWord w where
  ne_nil := Text.ne_nil_of_mem_piecesAux h
  not_blank _ hc := Text.not_sep_of_mem_pieces h hc
  settled _ hc := isSettled_of_mem (Text.mem_of_mem_pieces h hc)

/-- Where nothing is to be straightened and lowered, the words of the text are those of the
request. -/
theorem words_of_settled {t : Text} (h : ∀ c ∈ t, IsSettled c) : words t = Text.words t := by
  have hstraight : t.map straighten = t := by
    rw [List.map_congr_left fun c hc => (h c hc).straight, List.map_id']
  rw [words, hstraight, Text.lower_of_not_capital fun c hc => (h c hc).not_capital]

/-- The words of words that were joined. -/
theorem words_join {ws : List Text} (h : ∀ w ∈ ws, IsWord w) : words (Text.join " " ws) = ws := by
  rw [words_of_settled, Text.words]
  · exact Text.pieces_join (by decide) fun w hw => ⟨(h w hw).ne_nil, (h w hw).not_blank⟩
  · intro c hc
    rcases Text.mem_join hc with hspace | ⟨w, hw, hcw⟩
    · obtain rfl := List.mem_singleton.mp hspace
      exact isSettled_space
    · exact (h w hw).settled c hcw

/-- A request in normal form has the words of the request. -/
theorem words_normal (request : Text) : words (normal request) = words request :=
  words_join fun _ hw => isWord_of_mem_words hw

/-- Two requests, one behind the other, have the words of both. -/
theorem words_append (p s : Text) : words (p ++ " " ++ s) = words p ++ words s := by
  have hspace : (Text.ofString " ").map straighten = [CodePoint.ofChar ' '] := by decide
  rw [words, List.map_append, List.map_append, hspace, List.append_assoc, List.singleton_append,
    Text.lower_append_cons CodePoint.isNeutral_space isSettled_space.not_capital]
  exact Text.pieces_append_cons _ (by decide) _

/-- A request has no words exactly if there is nothing but blanks in it. -/
theorem words_eq_nil_iff (request : Text) : words request = [] ↔ Text.isBlank request = true := by
  have hstraight : Text.isBlank (request.map straighten) = Text.isBlank request := by
    unfold Text.isBlank
    rw [List.all_map]
    exact congrArg (request.all ·) (funext isBlank_straighten)
  rw [← hstraight, ← Text.isBlank_lower, ← not_iff_not, ← ne_eq, words, Text.words,
    Text.pieces_ne_nil_iff, Text.isBlank, List.all_eq_true]
  simp

/-! ## Normal forms -/

/-- The normal form of a normal form is that form. -/
@[simp] theorem normal_normal (request : Text) : normal (normal request) = normal request :=
  congrArg (Text.join " ") (words_normal request)

/-- Nothing is left of a request exactly if there is nothing but blanks in it. -/
theorem normal_eq_nil_iff (request : Text) : normal request = [] ↔ Text.isBlank request = true := by
  rw [← words_eq_nil_iff]
  constructor
  · intro h
    rw [← words_normal, h]
    rfl
  · intro h
    show Text.join " " (words request) = []
    rw [h]
    rfl

/-- The normal form of two requests, one behind the other, is put together from their normal forms by
a single space, or is the one of them that is not empty. -/
theorem normal_append (p s : Text) :
    normal (p ++ " " ++ s) = Text.join " " ([normal p, normal s].filter (· ≠ [])) := by
  have hjoin (request : Text) : normal request = Text.join " " (words request) := rfl
  have hempty (request : Text) : normal request = [] ↔ words request = [] := by
    rw [normal_eq_nil_iff, words_eq_nil_iff]
  by_cases hp : normal p = []
  · rw [hjoin, words_append, (hempty p).mp hp, List.nil_append, ← hjoin, hp]
    by_cases hs : normal s = []
    · simp [hs, Text.join]
    · simp [hs, Text.join]
  · by_cases hs : normal s = []
    · rw [hjoin, words_append, (hempty s).mp hs, List.append_nil, ← hjoin, hs]
      simp [hp, Text.join]
    · rw [hjoin, words_append, Text.join_append _ (mt (hempty p).mpr hp) (mt (hempty s).mpr hs),
        ← hjoin, ← hjoin]
      simp [hp, hs, Text.join]

/-- What occurs in the normal form of one of two requests occurs in that of both. -/
theorem infix_normal_append {p s phrase : Text} (h : phrase <:+: normal p ∨ phrase <:+: normal s) :
    phrase <:+: normal (p ++ " " ++ s) := by
  have hpart {part : Text} (hmem : part ∈ [normal p, normal s]) :
      part <:+: normal (p ++ " " ++ s) := by
    rw [normal_append]
    by_cases hnil : part = []
    · rw [hnil]
      exact List.nil_infix
    · exact Text.infix_join (List.mem_filter.mpr ⟨hmem, by simpa using hnil⟩) " "
  rcases h with hp | hs
  · exact hp.trans (hpart (by simp))
  · exact hs.trans (hpart (by simp))

end Tablewright.Request
