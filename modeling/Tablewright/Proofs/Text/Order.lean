/-
The order of texts is the lexicographic one: the first code point in which two texts differ decides,
and a text comes before every longer one that begins with it.
-/
import Mathlib.Data.List.Lex
import Tablewright.Text.Basic

set_option autoImplicit false

namespace Tablewright

/-- Code points with the same number are the same. -/
theorem CodePoint.eq_of_val {a b : CodePoint} (h : a.val = b.val) : a = b := by
  cases a
  cases b
  cases h
  rfl

namespace Text

variable {s t u : Text}

/-- A text that comes before another one. -/
def Before (s t : Text) : Prop := List.Lex (fun a b : CodePoint => a.val < b.val) s t

theorem not_before_self (t : Text) : ¬ Before t t := by
  induction t with
  | nil => rintro ⟨⟩
  | cons c r ih =>
    intro h
    cases h with
    | rel hlt => exact absurd hlt (Nat.lt_irrefl _)
    | cons hrest => exact ih hrest

/-- The order of texts is that of coming before, or being the same. -/
theorem le_iff : le s t = true ↔ s = t ∨ Before s t := by
  induction s generalizing t with
  | nil =>
    cases t with
    | nil => exact ⟨fun _ => .inl rfl, fun _ => rfl⟩
    | cons b t => exact ⟨fun _ => .inr .nil, fun _ => rfl⟩
  | cons a s ih =>
    cases t with
    | nil =>
      refine ⟨fun h => absurd h Bool.false_ne_true, ?_⟩
      rintro (h | h) <;> cases h
    | cons b t =>
      rw [le]
      split
      case isTrue hlt => exact ⟨fun _ => .inr (.rel hlt), fun _ => rfl⟩
      case isFalse hnlt =>
        split
        case isTrue hgt =>
          refine ⟨fun h => absurd h Bool.false_ne_true, ?_⟩
          rintro (h | h)
          · cases h
            exact absurd hgt hnlt
          · cases h with
            | rel hlt => exact absurd hlt hnlt
            | cons _ => exact absurd hgt hnlt
        case isFalse hngt =>
          obtain rfl : a = b := CodePoint.eq_of_val (by omega)
          rw [ih]
          constructor
          · rintro (rfl | h)
            · exact .inl rfl
            · exact .inr (.cons h)
          · rintro (h | h)
            · cases h
              exact .inl rfl
            · cases h with
              | rel hlt => exact absurd hlt hnlt
              | cons hrest => exact .inr hrest

/-- Of two different texts one comes before the other. -/
theorem before_or_before (h : s ≠ t) : Before s t ∨ Before t s := by
  induction s generalizing t with
  | nil =>
    cases t with
    | nil => exact absurd rfl h
    | cons b t => exact .inl .nil
  | cons a s ih =>
    cases t with
    | nil => exact .inr .nil
    | cons b t =>
      rcases Nat.lt_trichotomy a.val b.val with hlt | heq | hgt
      · exact .inl (.rel hlt)
      · obtain rfl := CodePoint.eq_of_val heq
        have hrest : s ≠ t := fun hst => h (by rw [hst])
        exact (ih hrest).imp .cons .cons
      · exact .inr (.rel hgt)

theorem Before.trans (h : Before s t) (h' : Before t u) : Before s u := by
  induction h generalizing u with
  | nil =>
    cases h' with
    | rel _ | cons _ => exact .nil
  | cons _ ih =>
    cases h' with
    | rel hlt => exact .rel hlt
    | cons hrest => exact .cons (ih hrest)
  | rel hlt =>
    cases h' with
    | rel hlt' => exact .rel (Nat.lt_trans hlt hlt')
    | cons _ => exact .rel hlt

end Text

end Tablewright
