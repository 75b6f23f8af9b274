/-
The names a generated module binds by importing.

`Import.bound` reads off a line which names it binds by importing, and `Artifact.boundNames` gathers
them over a file. An endpoint and a seed module bind the fixed names of libraries and those of the
entity: the class of the model and of shapes. The names of shapes begin like no name of a library, so
two names can be the same only where the name of the model is one of a library. A type name is spread
out to the canonical name, which tells for which labels that happens
(`Naming.pascal_canonical_eq_iff_spread`). Nothing turns these labels down.
-/
import Tablewright.Proofs.Artifact.Reserved

set_option autoImplicit false

namespace Tablewright

/-! ## Reading bound names -/

/-- The names a line binds by importing, when it renames nothing: those taken from a module, or the
first parts of the modules. -/
def Import.bound (line : Text) : List Text :=
  match ofLine? line with
  | some i => i.names
  | none =>
    match Text.dropStart? "import " (line.dropWhile CodePoint.isBlank) with
    | some modules => (Text.splitOn ',' modules).map fun m => (Text.trim m).takeWhile (· ≠ '.')
    | none => []

/-- The names a file binds by importing, in the order of its lines. -/
def Artifact.boundNames (a : Artifact) : List Text := a.lines.flatMap Import.bound

/-- Only lines that begin like an import bind names. -/
theorem Import.bound_of_not_opens {line : Text} (h : opens line = false) : bound line = [] := by
  have hmodules : Text.dropStart? "import " (line.dropWhile CodePoint.isBlank) = none := by
    rw [Option.eq_none_iff_forall_ne_some]
    intro rest hrest
    rw [Text.dropStart?_eq_some_iff] at hrest
    exact (opens_eq_false_iff.mp h).2 (hrest ▸ List.prefix_append _ rest)
  rw [bound, ofLine?_of_not_opens h]
  dsimp only
  rw [hmodules]

theorem Artifact.boundNames_eq (a : Artifact) : a.boundNames = a.importLines.flatMap Import.bound := by
  rw [boundNames, importLines]
  induction a.lines with
  | nil => rfl
  | cons line lines ih =>
    by_cases h : Import.opens line = true
    · rw [List.filter_cons_of_pos h, List.flatMap_cons, List.flatMap_cons, ih]
    · rw [List.filter_cons_of_neg h, List.flatMap_cons, ih,
        Import.bound_of_not_opens (Bool.eq_false_iff.mpr h), List.nil_append]

/-! ## The names of an endpoint and of a seed module -/

/-- The names an endpoint binds for itself. -/
def Endpoint.libraryNames : List Text :=
  ["logging", "Optional", "APIRouter", "Depends", "Query", "Request", "JSONResponse",
    "IntegrityError", "SQLAlchemyError", "Session", "get_db"]

/-- The names a seed module binds for itself. -/
def Seed.libraryNames : List Text := ["SessionLocal"]

theorem Names.Linkable.bound_line {n : Names} (h : n.Linkable) {folder x : Text} {xs : List Text}
    (hfolder : folder = "app.models." ∨ folder = "app.schemas.")
    (hnames : ∀ y ∈ x :: xs, IsWhole y) :
    Import.bound (Import.line (folder ++ n.canonical) (x :: xs)) = x :: xs := by
  rw [Import.bound, (h.line_read hfolder hnames).2.1]

/-- An endpoint binds the names of libraries, the model and the three shapes. -/
theorem boundNames_compileEndpoint {label : Text} {methods : List Json} {route : Option Text}
    {a : Artifact} (h : compileEndpoint label methods route = .ok a) :
    a.boundNames = Endpoint.libraryNames ++ [(Names.ofLabel label).model,
      (Names.ofLabel label).insertShape, (Names.ofLabel label).selectShape,
      (Names.ofLabel label).updateShape] := by
  have hn := Names.linkable_ofLabel label
  have hlibrary : (Endpoint.libraryLines.filter fun line => line ≠ []).flatMap Import.bound
      = Endpoint.libraryNames := by decide +kernel
  have hmodel : Import.bound (Import.line (Names.ofLabel label).modelModule _) = _ :=
    hn.bound_line (.inl rfl) (List.forall_mem_singleton.mpr hn.model)
  have hshapes : Import.bound (Import.line (Names.ofLabel label).shapesModule _) = _ :=
    hn.bound_line (.inr rfl) (Endpoint.isWhole_shapes hn)
  rw [Artifact.boundNames_eq, importLines_compileEndpoint h, List.flatMap_append, hlibrary,
    Endpoint.neededLines, List.flatMap_cons, List.flatMap_singleton, hmodel, hshapes]
  rfl

/-- A seed module binds the session, the model and the shape of new rows. -/
theorem Entity.boundNames_compileSeed {e : Entity} {rows : List Members} {a : Artifact}
    (h : e.compileSeed rows = .ok a) :
    a.boundNames = Seed.libraryNames ++ [e.names.model, e.names.insertShape] := by
  have hn : e.names.Linkable := Names.linkable_ofLabel e.name
  have hsession : Import.bound "from app.db.session import SessionLocal" = Seed.libraryNames := by
    decide +kernel
  have hmodel : Import.bound (Import.line e.names.modelModule _) = _ :=
    hn.bound_line (.inl rfl) (List.forall_mem_singleton.mpr hn.model)
  have hinsert : Import.bound (Import.line e.names.shapesModule _) = _ :=
    hn.bound_line (.inr rfl) (List.forall_mem_singleton.mpr hn.insertShape)
  rw [Artifact.boundNames_eq, importLines_compileSeed h, Seed.importLines, List.flatMap_cons,
    List.flatMap_cons, List.flatMap_singleton, hsession, hmodel, hinsert]
  rfl

/-! ## Names of libraries and type names -/

namespace Naming

/-- Spreading a text out makes no digits. -/
theorem isAsciiDigit_of_mem_spread {name : Text} (hname : ∀ c ∈ name, c.isAsciiDigit = false)
    {c : CodePoint} (hc : c ∈ spread name) : c.isAsciiDigit = false := by
  obtain ⟨d, hd, hc⟩ := List.mem_flatMap.mp hc
  unfold spreadPoint at hc
  by_cases hupper : d.isAsciiUpper = true
  · rw [if_pos hupper] at hc
    rcases List.mem_cons.mp hc with rfl | hlower
    · rfl
    · rw [List.mem_singleton.mp hlower]
      exact CodePoint.isAsciiDigit_of_isAsciiLower (isAsciiLower_lower hupper)
  · rw [if_neg hupper] at hc
    rw [List.mem_singleton.mp hc]
    exact hname d hd

/-- **Type names.** A name without digits and underscores is the type name of a label exactly when,
spread out, it is the canonical name of the label behind an underscore. -/
theorem pascal_canonical_eq_iff_spread {name : Text} (hmark : ∀ c ∈ name, c ≠ '_')
    (hdigit : ∀ c ∈ name, c.isAsciiDigit = false) (label : Text) :
    pascal (canonical label) = name ↔ marked (canonical label) = spread name := by
  constructor
  · rintro rfl
    have hspread := spread_pascal label
    have hclosed : ∀ c ∈ closeDigits (canonical label), c.isAsciiDigit = false := fun c hc =>
      isAsciiDigit_of_mem_spread hdigit (hspread ▸ List.mem_cons_of_mem _ hc)
    rw [hspread, closeDigits_eq_self hclosed]
  · intro h
    have hcanonical : ∀ c ∈ canonical label, c.isAsciiDigit = false := fun c hc =>
      isAsciiDigit_of_mem_spread hdigit (h ▸ List.mem_cons_of_mem _ hc)
    have hspread : spread (pascal (canonical label)) = spread name := by
      rw [spread_pascal, closeDigits_of_no_digit hcanonical, h]
    rw [← gather_spread fun c hc => ne_mark_of_mem_pascal hc, hspread, gather_spread hmark]

/-- Whether a name begins with a capital. -/
def startsUpper (name : Text) : Bool := name.head?.any CodePoint.isAsciiUpper

/-- Names that begin with a capital are the type names of the labels with these canonical names. -/
structure Taken (names taken : List Text) : Prop where
  plain : ∀ name ∈ names, startsUpper name = true → ∀ c ∈ name, c ≠ '_' ∧ c.isAsciiDigit = false
  spread : (names.filter startsUpper).map spread = taken.map marked

/-- A type name is among given names exactly when its canonical name is one of those that are
taken. -/
theorem Taken.mem_iff {names taken : List Text} (h : Taken names taken) (label : Text) :
    pascal (canonical label) ∈ names ↔ canonical label ∈ taken := by
  have hupper : startsUpper (pascal (canonical label)) = true := by
    obtain ⟨c, r, hname, hc⟩ := exists_pascal_canonical label
    rw [hname]
    exact hc
  have hname {name : Text} (hmem : name ∈ names) (hstart : startsUpper name = true) :
      pascal (canonical label) = name ↔ marked (canonical label) = Naming.spread name :=
    pascal_canonical_eq_iff_spread (fun c hc => (h.plain name hmem hstart c hc).1)
      (fun c hc => (h.plain name hmem hstart c hc).2) label
  have hmarked : canonical label ∈ taken ↔ marked (canonical label) ∈ taken.map marked :=
    (List.mem_map_of_injective (List.cons_injective)).symm
  rw [hmarked, ← h.spread, List.mem_map]
  constructor
  · intro hmem
    exact ⟨_, List.mem_filter.mpr ⟨hmem, hupper⟩, ((hname hmem hupper).mp rfl).symm⟩
  · rintro ⟨name, hmem, hspread⟩
    obtain ⟨hmem, hstart⟩ := List.mem_filter.mp hmem
    rw [(hname hmem hstart).mpr hspread.symm]
    exact hmem

end Naming

/-- The canonical names whose type names an endpoint binds for itself. -/
def Endpoint.takenNames : List Text :=
  ["optional", "a_p_i_router", "depends", "query", "request", "j_s_o_n_response",
    "integrity_error", "s_q_l_alchemy_error", "session"]

theorem Endpoint.taken : Naming.Taken libraryNames takenNames where
  plain := by decide +kernel
  spread := by decide +kernel

theorem Seed.taken : Naming.Taken libraryNames ["session_local"] where
  plain := by decide +kernel
  spread := by decide +kernel

/-! ## Names that are bound twice -/

/-- The names of the model and of shapes differ, and a shape has no name of a library. So all are
distinct if the name of the model is none of a library. -/
theorem Names.nodup_iff {library starts : List Text} {model : Text} (hlibrary : library.Nodup)
    (hstarts : starts.Nodup) (hne : ∀ start ∈ starts, start ≠ [])
    (hfree : ∀ start ∈ starts, ∀ name ∈ library, ¬ start <+: name) :
    (library ++ model :: starts.map (· ++ model)).Nodup ↔ model ∉ library := by
  have hshapes : (model :: starts.map (· ++ model)).Nodup := by
    refine List.nodup_cons.mpr ⟨fun hmem => ?_, hstarts.map (List.append_left_injective model)⟩
    obtain ⟨start, hstart, heq⟩ := List.mem_map.mp hmem
    exact hne start hstart (by simpa using heq)
  rw [List.nodup_append]
  constructor
  · rintro ⟨-, -, hapart⟩ hmem
    exact hapart model hmem model List.mem_cons_self rfl
  · intro hnot
    refine ⟨hlibrary, hshapes, fun name hname other hother heq => ?_⟩
    rcases List.mem_cons.mp hother with rfl | hother
    · exact hnot (heq ▸ hname)
    · obtain ⟨start, hstart, rfl⟩ := List.mem_map.mp hother
      exact hfree start hstart name hname (heq ▸ List.prefix_append start model)

/-- **Bound names.** The names an endpoint binds by importing are distinct exactly when the canonical
name of its label is none of those it takes itself, whatever its operations and its route, and those
of a seed module exactly when the canonical name is not `session_local`, whatever its rows. -/
theorem bound_names_nodup_iff (label : Text) (methods : List Json) (route : Option Text)
    (e : Entity) (rows : List Members) :
    (∀ a, compileEndpoint label methods route = .ok a →
        a.boundNames = Endpoint.libraryNames ++ [(Names.ofLabel label).model,
            (Names.ofLabel label).insertShape, (Names.ofLabel label).selectShape,
            (Names.ofLabel label).updateShape] ∧
          (a.boundNames.Nodup ↔ Naming.canonical label ∉ Endpoint.takenNames)) ∧
      ∀ a, e.compileSeed rows = .ok a →
        a.boundNames = Seed.libraryNames ++ [e.names.model, e.names.insertShape] ∧
          (a.boundNames.Nodup ↔ Naming.canonical e.name ≠ "session_local") := by
  constructor
  · intro a h
    have hbound := boundNames_compileEndpoint h
    have hnodup : (Endpoint.libraryNames ++ (Names.ofLabel label).model
        :: ["Insert", "Select", "Update"].map (· ++ (Names.ofLabel label).model)).Nodup ↔ _ :=
      Names.nodup_iff (by decide +kernel) (by decide) (by decide) (by decide +kernel)
    refine ⟨hbound, ?_⟩
    rw [hbound, ← Endpoint.taken.mem_iff]
    exact hnodup
  · intro a h
    have hbound := Entity.boundNames_compileSeed h
    have hnodup : (Seed.libraryNames ++ e.names.model
        :: ["Insert"].map (· ++ e.names.model)).Nodup ↔ _ :=
      Names.nodup_iff (by decide) (by decide) (by decide) (by decide +kernel)
    have htaken := Seed.taken.mem_iff e.name
    rw [List.mem_singleton] at htaken
    refine ⟨hbound, ?_⟩
    rw [hbound, ne_eq, ← htaken]
    exact hnodup

/-- The names of endpoints for blog posts and for sessions in the plural are distinct, and so are those
of a seed module for sessions. -/
theorem bound_names_nodup_of_sessions :
    (∃ a, compileEndpoint "Blog Posts" Method.everything none = .ok a ∧ a.boundNames.Nodup) ∧
      (∃ a, compileEndpoint "sessions" Method.everything none = .ok a ∧ a.boundNames.Nodup) ∧
      ∃ a, (⟨"session", [], []⟩ : Entity).compileSeed [[]] = .ok a ∧ a.boundNames.Nodup := by
  have hselect : Method.select Method.everything = .ok Method.all := rfl
  have hendpoint (label : Text) : ∃ a, compileEndpoint label Method.everything none = .ok a := by
    rw [compileEndpoint, hselect]
    exact ⟨_, rfl⟩
  obtain ⟨posts, hposts⟩ := hendpoint "Blog Posts"
  obtain ⟨sessions, hsessions⟩ := hendpoint "sessions"
  obtain ⟨seed, hseed⟩ : ∃ a, (⟨"session", [], []⟩ : Entity).compileSeed [[]] = .ok a :=
    ⟨_, rfl⟩
  have hsettled (label : Text) := bound_names_nodup_iff label Method.everything none
    ⟨"session", [], []⟩ [[]]
  refine ⟨⟨posts, hposts, ?_⟩, ⟨sessions, hsessions, ?_⟩, seed, hseed, ?_⟩
  · exact ((hsettled _).1 _ hposts).2.mpr (by decide +kernel)
  · exact ((hsettled _).1 _ hsessions).2.mpr (by decide +kernel)
  · exact ((hsettled "sessions").2 _ hseed).2.mpr (by decide +kernel)

/-- An endpoint for queries takes a name of its library from the model, and a seed module for local
sessions does the same with the name it opens a session by. -/
theorem query_is_bound_twice :
    (∃ a, compileEndpoint "query" [.str "GET"] none = .ok a ∧
      Import.line "fastapi" ["APIRouter", "Depends", "Query", "Request"] ∈ a.importLines ∧
      Import.line "app.models.query" ["Query"] ∈ a.importLines ∧ ¬ a.boundNames.Nodup) ∧
    ∃ a, (⟨"session_local", [], []⟩ : Entity).compileSeed [[]] = .ok a ∧
      ¬ a.boundNames.Nodup := by
  have hselect : Method.select [.str "GET"] = .ok [.get] := rfl
  obtain ⟨endpoint, hendpoint⟩ : ∃ a, compileEndpoint "query" [.str "GET"] none = .ok a := by
    rw [compileEndpoint, hselect]
    exact ⟨_, rfl⟩
  obtain ⟨seed, hseed⟩ : ∃ a, (⟨"session_local", [], []⟩ : Entity).compileSeed [[]] = .ok a :=
    ⟨_, rfl⟩
  refine ⟨⟨endpoint, hendpoint, ?_, ?_, ?_⟩, seed, hseed, ?_⟩
  · rw [importLines_compileEndpoint hendpoint]
    decide +kernel
  · rw [importLines_compileEndpoint hendpoint]
    decide +kernel
  · rw [boundNames_compileEndpoint hendpoint]
    decide +kernel
  · rw [Entity.boundNames_compileSeed hseed]
    decide +kernel

end Tablewright
