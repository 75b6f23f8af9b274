/-
Where artifacts belong, and when two of them belong to one file.

The path of an artifact is three names, two folders told by the kind and a file told by the entity
(`location`), and reading the path gives these names back. So two artifacts share a file exactly
when they are of one kind and their files have one name. Four kinds name the file by the canonical
name, which tells entities apart. The hook names it by the type, and there the underscores before
digits are lost (`path_eq_path_iff`): the hooks of the entities `a1` and `a_1` belong to one file.
-/
import Tablewright.Artifact.Basic
import Tablewright.Proofs.Files.Names
import Tablewright.Proofs.Naming.TypeName

set_option autoImplicit false

namespace Tablewright

/-! ## Reading joined names -/

/-- Visible ASCII code points are not blank. -/
theorem CodePoint.isBlank_of_visible {c : CodePoint} (hlow : 32 < c.val) (hhigh : c.val < 127) :
    c.isBlank = false := by
  have hranges : ∀ r ∈ blankRanges, r.2 ≤ 32 ∨ 127 ≤ r.1 := by decide
  rw [isBlank, Ranges.contains, List.any_eq_false]
  intro r hr
  have hr := hranges r hr
  simp only [Bool.and_eq_true, decide_eq_true_eq]
  omega

/-- A name a path can hold for itself: not empty, neither of the two names of dots, without a slash
and without blanks. -/
structure Path.IsName (name : Text) : Prop where
  ne_nil : name ≠ []
  ne_here : name ≠ Text.ofString "."
  ne_up : name ≠ Path.up
  no_slash : ('/' : CodePoint) ∉ name
  no_blank : ∀ c ∈ name, c.isBlank = false

/-- A path made of names is read as these names. -/
theorem Path.ofText_join {names : List Text} (hne : names ≠ []) (h : ∀ n ∈ names, IsName n) :
    Path.ofText (Text.trim (Text.join "/" names)) = ⟨false, names⟩ := by
  have hblank : ∀ c ∈ Text.join "/" names, c.isBlank = false := fun c hc => by
    rcases Text.mem_join hc with hsep | ⟨n, hn, hcn⟩
    · obtain rfl := List.mem_singleton.mp hsep
      decide
    · exact (h n hn).no_blank c hcn
  rw [Text.trim_of_not_blank hblank]
  exact ofText_join_names hne fun n hn => ⟨(h n hn).ne_nil, (h n hn).ne_here, (h n hn).no_slash⟩

/-! ## Places of artifacts -/

namespace ArtifactKind

/-- The folders artifacts of a kind belong to. -/
def folders : ArtifactKind → List Text
  | schema => ["app", "models"]
  | typeDefinitions => ["app", "schemas"]
  | seed => ["app", "seeds"]
  | endpoint => ["app", "api"]
  | hook => ["src", "hooks"]

/-- The name of the file of an artifact. -/
def fileName (k : ArtifactKind) (label : Text) : Text :=
  match k with
  | hook => (Names.ofLabel label).hookName ++ ".ts"
  | schema | typeDefinitions | seed | endpoint => (Names.ofLabel label).canonical ++ ".py"

/-- Where an artifact belongs inside the project, name by name. -/
def location (k : ArtifactKind) (label : Text) : Location := k.folders ++ [k.fileName label]

/-- Two labels under which artifacts of a kind have the same file: they have one canonical name, or,
for hooks, canonical names that differ only in underscores before digits. -/
def SharesFile (k : ArtifactKind) (a b : Text) : Prop :=
  Naming.canonical a = Naming.canonical b ∨
    k = .hook ∧ Naming.closeDigits (Naming.canonical a) = Naming.closeDigits (Naming.canonical b)

instance (k : ArtifactKind) (a b : Text) : Decidable (k.SharesFile a b) :=
  inferInstanceAs (Decidable (_ ∨ _))

theorem folders_injective {k l : ArtifactKind} (h : k.folders = l.folders) : k = l := by
  cases k <;> cases l <;> first | rfl | exact absurd h (by decide)

/-- A file name is made of name letters, capitals, underscores and the dot before its ending. -/
theorem mem_fileName {k : ArtifactKind} {label : Text} {c : CodePoint} (h : c ∈ k.fileName label) :
    c.isNameLetter = true ∨ c.isAsciiUpper = true ∨ c = '_' ∨ c = '.' := by
  have hfixed : ∀ c ∈ Text.ofString ".py" ++ ".ts" ++ "use", c.isNameLetter = true ∨ c = '.' := by
    decide
  have hmodule : ∀ c ∈ (Names.ofLabel label).canonical ++ ".py",
      c.isNameLetter = true ∨ c.isAsciiUpper = true ∨ c = '_' ∨ c = '.' := fun c hc => by
    rcases List.mem_append.mp hc with hname | hend
    · exact (Naming.mem_canonical hname).imp_right fun h => .inr (.inl h)
    · exact (hfixed c (by simp [hend])).imp_right fun h => .inr (.inr h)
  cases k with
  | schema | typeDefinitions | seed | endpoint => exact hmodule c h
  | hook =>
    rcases List.mem_append.mp h with hname | hend
    · rcases List.mem_append.mp hname with huse | htype
      · exact (hfixed c (by simp [huse])).imp_right fun h => .inr (.inr h)
      · exact (Naming.mem_pascal htype).imp_right .inl
    · exact (hfixed c (by simp [hend])).imp_right fun h => .inr (.inr h)

/-- A file name is longer than the names of dots. -/
theorem three_le_length_fileName (k : ArtifactKind) (label : Text) :
    3 ≤ (k.fileName label).length := by
  cases k with
  | schema | typeDefinitions | seed | endpoint | hook =>
    rw [fileName, List.length_append]
    exact Nat.le_add_left 3 _

/-- A code point of a file name is a visible ASCII code point other than the slash. -/
theorem visible_of_mem_fileName {k : ArtifactKind} {label : Text} {c : CodePoint}
    (h : c ∈ k.fileName label) : 32 < c.val ∧ c.val < 127 ∧ c.val ≠ 47 := by
  rcases mem_fileName h with hletter | hupper | rfl | rfl
  · have hrange := CodePoint.isNameLetter_iff.mp hletter
    omega
  · have hrange := CodePoint.isAsciiUpper_iff.mp hupper
    omega
  · decide
  · decide

theorem isName_fileName (k : ArtifactKind) (label : Text) : Path.IsName (k.fileName label) := by
  have hlength := three_le_length_fileName k label
  have hlong : ∀ {name : Text}, name.length < 3 → k.fileName label ≠ name := by
    rintro name hname rfl
    omega
  refine ⟨hlong (by decide), hlong (by decide), hlong (by decide),
    fun hc => (visible_of_mem_fileName hc).2.2 rfl, fun c hc => ?_⟩
  obtain ⟨hlow, hhigh, -⟩ := visible_of_mem_fileName hc
  exact CodePoint.isBlank_of_visible hlow hhigh

/-- The names of the place of an artifact are names. -/
theorem isName_of_mem_location {k : ArtifactKind} {label name : Text}
    (h : name ∈ k.location label) : Path.IsName name := by
  rcases List.mem_append.mp h with hfolder | hfile
  · have hfolders : ∀ k : ArtifactKind, ∀ n ∈ k.folders,
        n ≠ [] ∧ n ≠ Text.ofString "." ∧ n ≠ Path.up ∧ ('/' : CodePoint) ∉ n ∧
          ∀ c ∈ n, c.isBlank = false := by
      intro k
      cases k <;> decide +kernel
    obtain ⟨hne, hhere, hup, hslash, hblank⟩ := hfolders k name hfolder
    exact ⟨hne, hhere, hup, hslash, hblank⟩
  · obtain rfl := List.mem_singleton.mp hfile
    exact isName_fileName k label

/-- The file system keeps the name of the file of an artifact as it is spelled. -/
@[simp] theorem stored_fileName (k : ArtifactKind) (label : Text) :
    (k.fileName label).stored = k.fileName label := by
  refine Text.stored_of_isAscii (List.all_eq_true.mpr fun c hc => decide_eq_true ?_)
  have hvisible := visible_of_mem_fileName hc
  omega

/-- The file system keeps the place of an artifact as it is spelled. -/
@[simp] theorem stored_location (k : ArtifactKind) (label : Text) :
    Location.stored (k.location label) = k.location label := by
  have hfolders : Location.stored k.folders = k.folders := by
    cases k <;> decide +kernel
  simp [location, hfolders]

/-- The path of an artifact is its place as text. -/
theorem path_eq_join (k : ArtifactKind) (label : Text) :
    k.path label = Text.join "/" (k.location label) := by
  cases k <;> rfl

/-- The path of an artifact is read as its place. -/
theorem ofText_path (k : ArtifactKind) (label : Text) :
    Path.ofText (Text.trim (k.path label)) = ⟨false, k.location label⟩ := by
  rw [path_eq_join]
  exact Path.ofText_join (List.append_ne_nil_of_right_ne_nil _ (List.cons_ne_nil _ _)) fun _ hn =>
    isName_of_mem_location hn

/-! ## Artifacts that share a file -/

/-- Two files of a kind have one name exactly when the labels share the file. -/
theorem fileName_eq_iff (k : ArtifactKind) (a b : Text) :
    k.fileName a = k.fileName b ↔ k.SharesFile a b := by
  cases k with
  | schema | typeDefinitions | seed | endpoint =>
    rw [fileName, fileName, List.append_left_inj, SharesFile]
    simp [Names.ofLabel]
  | hook =>
    have hhook : fileName .hook a = fileName .hook b ↔
        Naming.pascal (Naming.canonical a) = Naming.pascal (Naming.canonical b) := by
      rw [fileName, fileName, List.append_left_inj]
      exact List.append_right_inj _
    rw [hhook, Naming.pascal_canonical_eq_iff, SharesFile]
    constructor
    · exact fun h => .inr ⟨rfl, h⟩
    · rintro (h | ⟨-, h⟩)
      · rw [h]
      · exact h

/-- Two artifacts have one place exactly when they are of one kind and their labels share the
file. -/
theorem location_eq_iff (k l : ArtifactKind) (a b : Text) :
    k.location a = l.location b ↔ k = l ∧ k.SharesFile a b := by
  rw [location, location]
  constructor
  · intro h
    obtain ⟨hfolders, hfile⟩ := List.append_inj' h rfl
    obtain rfl := folders_injective hfolders
    exact ⟨rfl, (fileName_eq_iff k a b).mp (List.cons.inj hfile).1⟩
  · rintro ⟨rfl, hshare⟩
    rw [(fileName_eq_iff k a b).mpr hshare]

/-- **Shared paths.** Two artifacts have one path exactly when they are of one kind and their labels
share the file. -/
theorem path_eq_path_iff (k l : ArtifactKind) (a b : Text) :
    k.path a = l.path b ↔ k = l ∧ k.SharesFile a b := by
  rw [← location_eq_iff]
  constructor
  · intro h
    have hread := congrArg (fun t => (Path.ofText (Text.trim t)).names) h
    simpa only [ofText_path] using hread
  · intro h
    rw [path_eq_join, path_eq_join, h]

/-- The canonical name of a label has the paths of the label. -/
@[simp] theorem path_canonical (k : ArtifactKind) (label : Text) :
    k.path (Naming.canonical label) = k.path label :=
  (path_eq_path_iff k k _ _).mpr ⟨rfl, .inl (Naming.canonical_canonical label)⟩

end ArtifactKind

end Tablewright
