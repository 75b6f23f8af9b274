/-
What is read from JSON text.

Blank text is not a value. A call without arguments may come as blank text; it is read as no
arguments before the reader sees it, so what the reader says of it only matters where a failed call is
recorded. It is a flaw like any other, and never a number or a depth the reader gives up on.

The keys of what is read differ. The reader puts every member over those before, so an object it reads
holds each key once, at every depth (`Json.keysDiffer_of_read`). The induction is on the fuel, for
values, items and members together: each of the three is read from parts that were read with less.
-/
import Tablewright.Json.Reader
import Tablewright.Proofs.Action
import Tablewright.Proofs.Json.Members
import Tablewright.Text.Blank

set_option autoImplicit false

namespace Tablewright

/-! ## Blank text -/

/-- Blank code points lie outside the visible part of ASCII. -/
theorem CodePoint.val_of_isBlank {c : CodePoint} (h : c.isBlank = true) :
    c.val ≤ 32 ∨ 133 ≤ c.val := by
  simp [isBlank, Ranges.contains, blankRanges] at h
  omega

/-- A blank code point is none of the visible part of ASCII. -/
theorem CodePoint.ne_of_isBlank {c d : CodePoint} (h : c.isBlank = true)
    (hd : 33 ≤ d.val ∧ d.val ≤ 132) : c ≠ d := by
  rintro rfl
  have hc := val_of_isBlank h
  omega

namespace JsonReader

/-- No word of the language begins with a blank. -/
theorem constant?_of_blank {c : CodePoint} (h : c.isBlank = true) (r : Text) :
    constant? (c :: r) = none := by
  have hne : ∀ d : CodePoint, (33 ≤ d.val ∧ d.val ≤ 132) → d ≠ c :=
    fun d hd => (CodePoint.ne_of_isBlank h hd).symm
  rw [constant?, List.findSome?_eq_none_iff]
  intro p hp
  simp only [constants, List.mem_cons, List.not_mem_nil, or_false] at hp
  rcases hp with rfl | rfl | rfl | rfl | rfl | rfl
  all_goals
    rw [Option.map_eq_none_iff]
    exact if_neg (hne _ (by decide))

/-- No number begins with a blank. -/
theorem number_of_blank {c : CodePoint} (h : c.isBlank = true) (r : Text) :
    number (c :: r) = flawAt .value (c :: r) := by
  have hminus : ¬ c = '-' := CodePoint.ne_of_isBlank h (by decide)
  have hzero : ¬ c = '0' := CodePoint.ne_of_isBlank h (by decide)
  have hdigit : ¬ c.isAsciiDigit = true := by
    intro hd
    have hc := CodePoint.val_of_isBlank h
    simp [CodePoint.isAsciiDigit, CodePoint.between] at hd
    omega
  have hdigits : integerDigits? (c :: r) = none := by
    rw [integerDigits?]
    rw [if_neg hzero, if_neg hdigit]
  rw [number]
  simp only [if_neg hminus, hdigits]

/-- No value begins with a blank. -/
theorem value_of_blank {c : CodePoint} (h : c.isBlank = true) (depth fuel : Nat) (r : Text) :
    value depth (fuel + 1) (c :: r) = flawAt .value (c :: r) := by
  have hquote : ¬ c = '"' := CodePoint.ne_of_isBlank h (by decide)
  have hlist : ¬ c = '[' := CodePoint.ne_of_isBlank h (by decide)
  have hobject : ¬ c = '\x7b' := CodePoint.ne_of_isBlank h (by decide)
  rw [value.eq_def]
  dsimp only
  rw [if_neg hquote, if_neg hlist, if_neg hobject, constant?_of_blank h, number_of_blank h]

/-- There is no value in an empty text. -/
theorem value_nil (depth fuel : Nat) : value depth (fuel + 1) [] = flawAt .value [] := by
  rw [value]

end JsonReader

/-- Blank text is a flaw. -/
theorem Json.read_of_blank {t : Text} (h : Text.isBlank t = true) (depth : Nat) :
    ∃ what before, Json.read depth t = .error (.flaw what before) := by
  rw [Json.read]
  dsimp only
  split
  · exact ⟨_, _, rfl⟩
  · have hvalue : JsonReader.value depth (2 * t.length + 2) (JsonReader.skipSpace t)
        = JsonReader.flawAt .value (JsonReader.skipSpace t) := by
      cases hs : JsonReader.skipSpace t with
      | nil => exact JsonReader.value_nil depth _
      | cons c r =>
        -- what is left after skipping begins with a code point of the text, so a blank one
        have hmem : c ∈ t := by
          have hsub := List.dropWhile_sublist JsonReader.isSpace (l := t)
          exact hsub.subset (by rw [JsonReader.skipSpace] at hs; rw [hs]; exact List.mem_cons_self)
        exact JsonReader.value_of_blank (List.all_eq_true.mp h c hmem) depth _ r
    rw [hvalue]
    exact ⟨_, _, rfl⟩

/-! ## Keys -/

/-- A value whose objects hold each key once, at every depth. -/
inductive Json.KeysDiffer : Json → Prop
  | null : KeysDiffer .null
  | bool (b : Bool) : KeysDiffer (.bool b)
  | int (n : Int) : KeysDiffer (.int n)
  | float (x : Binary64) : KeysDiffer (.float x)
  | str (s : Text) : KeysDiffer (.str s)
  | arr {vs : List Json} (hvs : ∀ v ∈ vs, KeysDiffer v) : KeysDiffer (.arr vs)
  | obj {ms : Members} (hkeys : (ms.map Prod.fst).Nodup) (hms : ∀ m ∈ ms, KeysDiffer m.2) :
      KeysDiffer (.obj ms)

namespace JsonReader

open Json (KeysDiffer)

variable {depth fuel : Nat} {t left : Text} {v : Json} {vs : List Json} {acc ms : Members}

/-- A word of the language is no list and no object. -/
theorem keysDiffer_of_constant? (h : constant? t = some (v, left)) : v.KeysDiffer := by
  obtain ⟨p, hp, hword⟩ := List.exists_of_findSome?_eq_some h
  obtain ⟨r, -, hvalue⟩ := Option.map_eq_some_iff.mp hword
  cases hvalue
  have hwords : ∀ p ∈ constants, KeysDiffer p.2 := by
    simp only [constants, List.forall_mem_cons]
    exact ⟨.null, .bool _, .bool _, .float _, .float _, .float _, List.forall_mem_nil _⟩
  exact hwords p hp

/-- A number is no list and no object. -/
theorem keysDiffer_of_number (h : number t = .ok (v, left)) : v.KeysDiffer := by
  rw [number.eq_def] at h
  dsimp only at h
  generalize integerDigits? _ = q at h
  cases q with
  | none => cases h
  | some q =>
    dsimp only at h
    split at h
    · split at h
      · cases h
      · cases h
        exact .int _
    · cases h
      exact .float _

theorem keysDiffer_nil : KeysDiffer (.obj []) := .obj List.nodup_nil (List.forall_mem_nil _)

/-- What each of the three readers reads with so much fuel. -/
structure ReadsApart (fuel : Nat) : Prop where
  value : ∀ {depth t v left}, value depth fuel t = .ok (v, left) → v.KeysDiffer
  items : ∀ {depth t vs left}, items depth fuel t = .ok (vs, left) → ∀ v ∈ vs, v.KeysDiffer
  members : ∀ {depth acc t ms left}, Json.KeysDiffer (.obj acc) →
    members depth fuel acc t = .ok (ms, left) → Json.KeysDiffer (.obj ms)

theorem readsApart_zero : ReadsApart 0 where
  value h := by cases h
  items h := by cases h
  members _ h := by cases h

/-- A value is read from its items or members, if it is not scalar. -/
theorem ReadsApart.value_succ (h : ReadsApart fuel)
    (hvalue : JsonReader.value depth (fuel + 1) t = .ok (v, left)) : v.KeysDiffer := by
  rw [JsonReader.value.eq_def] at hvalue
  dsimp only at hvalue
  split at hvalue
  · cases hvalue
  · split at hvalue
    case isTrue =>
      obtain ⟨s, -, hlast⟩ := Effect.result_bind_ok_iff.mp hvalue
      cases hlast
      exact .str _
    case isFalse =>
      split at hvalue
      case isTrue =>
        split at hvalue
        · cases hvalue
        · split at hvalue
          · split at hvalue
            · cases hvalue
              exact .arr (List.forall_mem_nil _)
            · obtain ⟨r, hitems, hlast⟩ := Effect.result_bind_ok_iff.mp hvalue
              cases hlast
              exact .arr (h.items hitems)
          · cases hvalue
      case isFalse =>
        split at hvalue
        case isTrue =>
          split at hvalue
          · cases hvalue
          · split at hvalue
            · split at hvalue
              · cases hvalue
                exact keysDiffer_nil
              · obtain ⟨r, hmembers, hlast⟩ := Effect.result_bind_ok_iff.mp hvalue
                cases hlast
                exact h.members keysDiffer_nil hmembers
            · cases hvalue
        case isFalse =>
          split at hvalue
          case h_1 hword =>
            cases hvalue
            exact keysDiffer_of_constant? hword
          case h_2 => exact keysDiffer_of_number hvalue

theorem ReadsApart.items_succ (h : ReadsApart fuel)
    (hitems : JsonReader.items depth (fuel + 1) t = .ok (vs, left)) : ∀ v ∈ vs, v.KeysDiffer := by
  rw [JsonReader.items] at hitems
  obtain ⟨⟨v, r⟩, hv, hrest⟩ := Effect.result_bind_ok_iff.mp hitems
  dsimp only at hrest
  split at hrest
  · split at hrest
    · cases hrest
      exact List.forall_mem_cons.mpr ⟨h.value hv, List.forall_mem_nil _⟩
    · split at hrest
      · obtain ⟨⟨us, r'⟩, hus, hlast⟩ := Effect.result_bind_ok_iff.mp hrest
        cases hlast
        exact List.forall_mem_cons.mpr ⟨h.value hv, h.items hus⟩
      · cases hrest
  · cases hrest

/-- A member is put over those before, so the keys go on to differ. -/
theorem keysDiffer_put (hacc : KeysDiffer (.obj acc)) (key : Text) (hv : v.KeysDiffer) :
    KeysDiffer (.obj (acc.put key v)) := by
  cases hacc with
  | obj hkeys hms =>
    refine .obj (Members.nodup_put hkeys key v) fun m hm => ?_
    rcases Members.mem_put hm with rfl | hold
    · exact hv
    · exact hms m hold

theorem ReadsApart.members_succ (h : ReadsApart fuel) (hacc : Json.KeysDiffer (.obj acc))
    (hmembers : JsonReader.members depth (fuel + 1) acc t = .ok (ms, left)) :
    Json.KeysDiffer (.obj ms) := by
  rw [JsonReader.members.eq_def] at hmembers
  dsimp only at hmembers
  split at hmembers
  · cases hmembers
  · split at hmembers
    · obtain ⟨⟨key, r⟩, -, hmembers⟩ := Effect.result_bind_ok_iff.mp hmembers
      dsimp only at hmembers
      split at hmembers
      · split at hmembers
        · obtain ⟨⟨v, r'⟩, hv, hmembers⟩ := Effect.result_bind_ok_iff.mp hmembers
          have hput := keysDiffer_put hacc key (h.value hv)
          dsimp only at hmembers
          split at hmembers
          · split at hmembers
            · cases hmembers
              exact hput
            · split at hmembers
              · exact h.members hput hmembers
              · cases hmembers
          · cases hmembers
        · cases hmembers
      · cases hmembers
    · cases hmembers

theorem readsApart (fuel : Nat) : ReadsApart fuel := by
  induction fuel with
  | zero => exact readsApart_zero
  | succ fuel ih => exact ⟨ih.value_succ, ih.items_succ, ih.members_succ⟩

end JsonReader

/-- **The keys of what is read differ.** -/
theorem Json.keysDiffer_of_read {depth : Nat} {t : Text} {v : Json} (h : read depth t = .ok v) :
    v.KeysDiffer := by
  rw [read] at h
  dsimp only at h
  split at h
  · cases h
  · split at h
    · cases h
    · case h_2 u left hvalue =>
      split at h
      · cases h
        exact (JsonReader.readsApart _).value hvalue
      · cases h

end Tablewright
