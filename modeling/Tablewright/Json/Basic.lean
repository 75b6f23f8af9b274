/-
JSON values, and objects as ordered member lists.

Objects keep their members in the order of writing, because that order shows in everything that
is printed from them. A member list holds each key once: `Members.put` writes over an existing
member in its place.
-/
import Tablewright.Number.Binary64

set_option autoImplicit false

namespace Tablewright

/-- A JSON value. Integers have any size and are kept apart from floating-point numbers. -/
inductive Json where
  /-- The null value. -/
  | null
  /-- A truth value. -/
  | bool (b : Bool)
  /-- An integer. -/
  | int (n : Int)
  /-- A floating-point number. -/
  | float (x : Binary64)
  /-- A text. -/
  | str (s : Text)
  /-- A list. -/
  | arr (items : List Json)
  /-- An object. -/
  | obj (members : List (Text × Json))

instance : Inhabited Json := ⟨.null⟩

instance : Coe Bool Json := ⟨.bool⟩
instance : Coe Text Json := ⟨.str⟩
instance : Coe Nat Json := ⟨fun n => .int n⟩

/-- The members of an object in their order. -/
abbrev Members := List (Text × Json)

namespace Members

/-- The value of a key. -/
def get? (key : Text) : Members → Option Json
  | [] => none
  | (k, v) :: r => if k = key then some v else get? key r

/-- Whether a key is present. -/
def has (key : Text) (ms : Members) : Bool := ms.any fun m => m.1 = key

/-- A value written for a key: in place where the key is present, at the end otherwise. -/
def put (key : Text) (value : Json) : Members → Members
  | [] => [(key, value)]
  | (k, v) :: r => if k = key then (k, value) :: r else (k, v) :: put key value r

/-- A single member. -/
def one (key : Text) (value : Json) : Members := [(key, value)]

/-- A member that is there under a condition. -/
def when (condition : Bool) (key : Text) (value : Json) : Members :=
  if condition then one key value else []

/-- A member that is there when its value is. -/
def ofOption (key : Text) : Option Json → Members
  | some v => one key v
  | none => []

/-- All members of a second list written over a first. -/
def putAll (ms new : Members) : Members := new.foldl (fun acc m => acc.put m.1 m.2) ms

/-- What was written for a key is found under it. -/
theorem get?_put_self (key : Text) (v : Json) (ms : Members) :
    (put key v ms).get? key = some v := by
  induction ms with
  | nil => rw [put, get?, if_pos rfl]
  | cons m ms ih =>
    obtain ⟨k, u⟩ := m
    by_cases hk : k = key
    · rw [put, if_pos hk, get?, if_pos hk]
    · rw [put, if_neg hk, get?, if_neg hk, ih]

/-- What is found under another key is not changed. -/
theorem get?_put_of_ne {key other : Text} (hne : other ≠ key) (v : Json) (ms : Members) :
    (put key v ms).get? other = ms.get? other := by
  induction ms with
  | nil => rw [put, get?, get?, if_neg (Ne.symm hne), get?]
  | cons m ms ih =>
    obtain ⟨k, u⟩ := m
    by_cases hk : k = key
    · subst hk
      rw [put, if_pos rfl, get?, get?, if_neg (Ne.symm hne), if_neg (Ne.symm hne)]
    · rw [put, if_neg hk, get?, get?, ih]

/-- A key that is not there is written at the end. -/
theorem put_of_not_mem {key : Text} {ms : Members} (h : key ∉ ms.map Prod.fst) (v : Json) :
    put key v ms = ms ++ [(key, v)] := by
  induction ms with
  | nil => rfl
  | cons m ms ih =>
    obtain ⟨k, u⟩ := m
    rw [put, if_neg (List.ne_of_not_mem_cons h).symm, ih (List.not_mem_of_not_mem_cons h)]
    rfl

/-- Where no key stands twice, a member is found under its key. -/
theorem get?_of_mem {ms : Members} (hkeys : (ms.map Prod.fst).Nodup) {m : Text × Json}
    (hm : m ∈ ms) : ms.get? m.1 = some m.2 := by
  induction ms with
  | nil => cases hm
  | cons first ms ih =>
    obtain ⟨k, u⟩ := first
    rw [List.map_cons, List.nodup_cons] at hkeys
    rcases List.mem_cons.mp hm with rfl | hrest
    · rw [get?, if_pos rfl]
    · have hne : k ≠ m.1 := by
        rintro rfl
        exact hkeys.1 (List.mem_map.mpr ⟨m, hrest, rfl⟩)
      rw [get?, if_neg hne, ih hkeys.2 hrest]

end Members

namespace Json

/-- An object from its members. -/
def object (ms : Members) : Json := .obj ms

/-- A list of texts. -/
def texts (ts : List Text) : Json := .arr (ts.map .str)

/-- A text, or null when there is none. -/
def ofText? : Option Text → Json
  | some t => .str t
  | none => .null

/-- Whether a value counts as given: null, false, zero and everything empty do not. -/
def isGiven : Json → Bool
  | .null => false
  | .bool b => b
  | .int n => n ≠ 0
  | .float x => !x.isZero
  | .str s => !s.isEmpty
  | .arr items => !items.isEmpty
  | .obj members => !members.isEmpty

/-- The value, or null when it does not count as given. -/
def whenGiven (v : Json) : Option Json := if v.isGiven then some v else none

end Json

end Tablewright
