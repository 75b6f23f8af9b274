/-
Writing members over members.

A member that is put takes the place of the one with its key or comes last, so nothing else changes:
the keys stay apart, and what is found in the end was there before or was put.
-/
import Mathlib.Data.List.Nodup
import Tablewright.Json.Basic

set_option autoImplicit false

namespace Tablewright.Members

variable {key : Text} {v : Json} {ms new : Members} {m : Text × Json}

/-! ## What is found -/

theorem mem_of_get? (h : ms.get? key = some v) : (key, v) ∈ ms := by
  induction ms with
  | nil => cases h
  | cons m ms ih =>
    obtain ⟨k, u⟩ := m
    rw [get?] at h
    split at h
    case isTrue hk =>
      cases h
      exact hk ▸ List.mem_cons_self
    case isFalse => exact List.mem_cons_of_mem _ (ih h)

theorem get?_eq_none_iff : ms.get? key = none ↔ key ∉ ms.map Prod.fst := by
  induction ms with
  | nil => exact iff_of_true rfl List.not_mem_nil
  | cons m ms ih =>
    obtain ⟨k, u⟩ := m
    rw [get?, List.map_cons, List.mem_cons, not_or]
    split
    case isTrue hk => exact iff_of_false (Option.some_ne_none u) fun h => h.1 hk.symm
    case isFalse hk => exact ih.trans (iff_and_self.mpr fun _ => Ne.symm hk)

/-! ## What is put -/

theorem mem_put (h : m ∈ ms.put key v) : m = (key, v) ∨ m ∈ ms := by
  induction ms with
  | nil => exact .inl (List.mem_singleton.mp h)
  | cons first ms ih =>
    obtain ⟨k, u⟩ := first
    rw [put] at h
    split at h
    case isTrue hk =>
      rcases List.mem_cons.mp h with rfl | hrest
      · exact .inl (congrArg (·, v) hk)
      · exact .inr (List.mem_cons_of_mem _ hrest)
    case isFalse =>
      rcases List.mem_cons.mp h with rfl | hrest
      · exact .inr List.mem_cons_self
      · exact (ih hrest).imp_right (List.mem_cons_of_mem _)

/-- The keys stay as they are, or the new one comes last. -/
theorem keys_put (key : Text) (v : Json) (ms : Members) :
    (ms.put key v).map Prod.fst
      = if key ∈ ms.map Prod.fst then ms.map Prod.fst else ms.map Prod.fst ++ [key] := by
  induction ms with
  | nil => rfl
  | cons first ms ih =>
    obtain ⟨k, u⟩ := first
    rw [put]
    by_cases hk : k = key
    · rw [if_pos hk, if_pos (hk ▸ List.mem_cons_self)]
      rfl
    · rw [if_neg hk, List.map_cons, ih, List.map_cons]
      by_cases hmem : key ∈ ms.map Prod.fst
      · rw [if_pos hmem, if_pos (List.mem_cons_of_mem _ hmem)]
      · rw [if_neg hmem, if_neg (by simp [hmem, Ne.symm hk])]
        rfl

/-- Keys that were apart stay apart. -/
theorem nodup_put (h : (ms.map Prod.fst).Nodup) (key : Text) (v : Json) :
    ((ms.put key v).map Prod.fst).Nodup := by
  rw [keys_put]
  split
  case isTrue => exact h
  case isFalse hnew =>
    rw [← List.concat_eq_append]
    exact h.concat hnew

/-- A member stays as it is when others are written over it. -/
theorem putAll_cons (h : m.1 ∉ new.map Prod.fst) :
    putAll (m :: ms) new = m :: putAll ms new := by
  induction new generalizing ms with
  | nil => rfl
  | cons first new ih =>
    have hne : m.1 ≠ first.1 := List.ne_of_not_mem_cons h
    have hrest : m.1 ∉ new.map Prod.fst := List.not_mem_of_not_mem_cons h
    have hput : put first.1 first.2 (m :: ms) = m :: put first.1 first.2 ms := by
      obtain ⟨k, u⟩ := m
      exact if_neg hne
    rw [putAll, List.foldl_cons, hput, ← putAll, ih hrest, putAll, putAll, List.foldl_cons]

/-- Members that are written into none are the members, if their keys differ. -/
theorem putAll_nil (h : (ms.map Prod.fst).Nodup) : putAll [] ms = ms := by
  induction ms with
  | nil => rfl
  | cons m ms ih =>
    obtain ⟨hnew, hrest⟩ := List.nodup_cons.mp h
    have hfirst : putAll [] (m :: ms) = putAll [m] ms := rfl
    rw [hfirst, putAll_cons hnew, ih hrest]

theorem mem_putAll (h : m ∈ putAll ms new) : m ∈ ms ∨ m ∈ new := by
  induction new generalizing ms with
  | nil => exact .inl h
  | cons first new ih =>
    rw [putAll, List.foldl_cons] at h
    rcases ih h with hput | hnew
    · rcases mem_put hput with rfl | hold
      · exact .inr List.mem_cons_self
      · exact .inl hold
    · exact .inr (List.mem_cons_of_mem _ hnew)

end Tablewright.Members
