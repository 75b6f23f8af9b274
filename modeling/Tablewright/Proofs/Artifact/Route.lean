/-
Where a generated file says which route it is about.

The endpoint module says it in the prefix of its router, the data hook in its constant for the
endpoint; `Endpoint.prefix?` and `Hook.endpoint?` read it there, out of any text. What was compiled
for a route is read back as that route, because no name ends a line and no route holds a quote.
-/
import Tablewright.Artifact.Endpoint
import Tablewright.Artifact.Hook
import Tablewright.Proofs.Action
import Tablewright.Proofs.Artifact.Filling
import Tablewright.Proofs.Naming.Words
import Tablewright.Proofs.Text.Literal
import Tablewright.Proofs.Text.Split

set_option autoImplicit false

namespace Tablewright

/-! ## What stands in quotes behind a beginning of a line -/

namespace Text

/-- What the first line that begins in a given way goes on with, up to a quote. -/
def quotedAfter? (start : Text) (quote : CodePoint) (t : Text) : Option Text :=
  (splitOn '\n' t).findSome? fun line =>
    (dropStart? start line).map fun rest => rest.takeWhile fun c => c ≠ quote

/-- A line that a search for a beginning passes: it is a single line and begins otherwise. -/
structure Passes (start line : Text) : Prop where
  not_mem : CodePoint.ofChar '\n' ∉ line
  dropStart?_eq : dropStart? start line = none

namespace Passes

variable {start s : String} {k l : List Char} {c : Char} {x : Text}

/-- A line that is given by characters, the first of which differ, whatever stands behind these. -/
theorem append (hstart : start = String.ofList k) (h : s = String.ofList l)
    (hclash : clash k l = true) (hl : l.contains '\n' = false) (hx : CodePoint.ofChar '\n' ∉ x) :
    Passes start (ofString s ++ x) where
  not_mem hmem := (List.mem_append.mp hmem).elim (not_mem_ofString h hl) hx
  dropStart?_eq := by
    cases hdrop : dropStart? start (ofString s ++ x) with
    | none => rfl
    | some rest =>
      have hprefix : ofString start <+: ofString s ++ x :=
        ⟨rest, (dropStart?_eq_some_iff.mp hdrop).symm⟩
      rw [ofString_eq hstart, ofString_eq h] at hprefix
      exact absurd hprefix (not_prefix_of_clash hclash x)

theorem fixed (hstart : start = String.ofList k) (h : s = String.ofList l)
    (hclash : clash k l = true) (hl : l.contains '\n' = false) : Passes start (ofString s) := by
  rw [← List.append_nil (ofString s)]
  exact append hstart h hclash hl List.not_mem_nil

theorem blank (hstart : start = String.ofList (c :: k)) : Passes start [] where
  not_mem := List.not_mem_nil
  dropStart?_eq := by
    rw [ofString_eq hstart]
    rfl

end Passes

/-- What stands in quotes on the first line that begins in a given way is found. -/
theorem quotedAfter?_unlines {start value tail : Text} {quote : CodePoint}
    {before after : List Text}
    (hbefore : ∀ line ∈ before, Passes start line) (hstart : CodePoint.ofChar '\n' ∉ start)
    (hvalue : CodePoint.ofChar '\n' ∉ value) (hline : CodePoint.ofChar '\n' ≠ quote)
    (hquote : quote ∉ value) :
    quotedAfter? start quote (unlines (before ++ (start ++ value ++ quote :: tail) :: after))
      = some value := by
  induction before with
  | nil =>
    -- the line is cut where the text ends it, but not before the quote
    have hopen : CodePoint.ofChar '\n' ∉ start ++ value ++ [quote] := by
      simp [hstart, hvalue, hline]
    obtain ⟨rest, hrest⟩ : ∃ rest, unlines ((start ++ value ++ quote :: tail) :: after)
        = (start ++ value ++ [quote]) ++ rest := by
      cases after with
      | nil => exact ⟨tail, by simp [unlines, join]⟩
      | cons next after => exact ⟨_, by rw [unlines_cons]; simp; rfl⟩
    obtain ⟨more, lines, hsplit⟩ := splitOn_of_not_mem hopen rest
    have htake : ((value ++ [quote]) ++ more).takeWhile (fun c => c ≠ quote) = value := by
      rw [List.append_assoc, List.takeWhile_append_of_pos]
      · simp
      · intro c hc
        exact decide_eq_true fun h => hquote (h ▸ hc)
    rw [List.nil_append, quotedAfter?, hrest, hsplit, List.findSome?_cons, List.append_assoc,
      List.append_assoc, dropStart?_append, ← List.append_assoc, Option.map_some, htake]
  | cons line before ih =>
    obtain ⟨hline', hpassed⟩ := hbefore line List.mem_cons_self
    have hcut : unlines (line :: before ++ (start ++ value ++ quote :: tail) :: after)
        = line ++ CodePoint.ofChar '\n' ::
          unlines (before ++ (start ++ value ++ quote :: tail) :: after) := by
      cases before with
      | nil => exact unlines_cons line _ after
      | cons next before => exact unlines_cons line next _
    rw [quotedAfter?, hcut, splitOn_cons_of_not_mem hline', List.findSome?_cons, hpassed,
      Option.map_none]
    exact ih fun l hl => hbefore l (List.mem_cons_of_mem line hl)

end Text

/-! ## The route in a generated file -/

/-- The route in the constant for the endpoint of a data hook. -/
def Hook.endpoint? (t : Text) : Option Text := Text.quotedAfter? "const ENDPOINT = '" '\'' t

/-- The route in the prefix of an endpoint module's router. -/
def Endpoint.prefix? (t : Text) : Option Text :=
  Text.quotedAfter? "router = APIRouter(prefix=\"" '"' t

/-- No name ends a line. -/
theorem Names.newline_not_mem_canonical (label : Text) :
    CodePoint.ofChar '\n' ∉ (Names.ofLabel label).canonical := by
  intro h
  rcases Naming.mem_canonical h with hletter | hjoint
  · revert hletter
    decide
  · revert hjoint
    decide

theorem Names.newline_not_mem_typeName (label : Text) :
    CodePoint.ofChar '\n' ∉ (Names.ofLabel label).typeName := by
  intro h
  rcases Naming.mem_pascal h with hletter | hcapital
  · revert hletter
    decide
  · revert hcapital
    decide

/-- A route holds no code point but those it is made of. -/
theorem Route.not_mem_path {c : CodePoint}
    (h : ¬ (c.isNameLetter = true ∨ c = '-' ∨ c = '/')) (entity : Text) (route : Option Text) :
    c ∉ Route.path entity route :=
  fun hc => h (mem_path hc)

/-- The lines of a hook before the constant for the endpoint begin otherwise. -/
theorem Hook.passes_declarations {n : Names} (route : Text)
    (hcanonical : CodePoint.ofChar '\n' ∉ n.canonical)
    (htype : CodePoint.ofChar '\n' ∉ n.typeName) :
    ∀ line ∈ (Hook.declarations.take 14).map (fun line => line.flatMap (Hook.Piece.fill n route)),
      Text.Passes "const ENDPOINT = '" line := by
  simp only [Hook.declarations, List.take, List.map, List.flatMap_cons, List.flatMap_nil,
    Hook.Piece.fill, List.append_nil, List.forall_mem_cons]
  and_intros
  -- every line is decided by the characters it begins with, and no name in it ends it
  all_goals
    first
    | exact List.forall_mem_nil _
    | with_reducible apply Text.Passes.append
    | with_reducible apply Text.Passes.fixed
    | exact Text.Passes.blank rfl
  all_goals first | rfl | simp only [List.mem_append, not_or]
  all_goals
    and_intros
    all_goals first | with_reducible assumption | exact Text.not_mem_ofString rfl rfl

/-- The lines of an endpoint module before its router begin otherwise. -/
theorem Endpoint.passes_head {n : Names} (route : Text)
    (hcanonical : CodePoint.ofChar '\n' ∉ n.canonical)
    (htype : CodePoint.ofChar '\n' ∉ n.typeName) :
    ∀ line ∈ (Endpoint.head n route).take 15,
      Text.Passes "router = APIRouter(prefix=\"" line := by
  have hblank : Text.ofString "" = [] := rfl
  simp only [Endpoint.head, hblank, List.take, List.append_assoc, List.forall_mem_cons, Names.model,
    Names.insertShape, Names.selectShape, Names.updateShape]
  and_intros
  -- every line is decided by the characters it begins with, and no name in it ends it
  all_goals
    first
    | exact List.forall_mem_nil _
    | with_reducible apply Text.Passes.append
    | with_reducible apply Text.Passes.fixed
    | exact Text.Passes.blank rfl
  all_goals first | rfl | simp only [List.mem_append, not_or]
  all_goals
    and_intros
    all_goals first | with_reducible assumption | exact Text.not_mem_ofString rfl rfl

/-- The constant for the endpoint stands behind the declarations of a hook. -/
theorem Hook.template_eq :
    ∃ after, Hook.template =
      Hook.declarations.take 14 ++ [.fixed "const ENDPOINT = '", .route, .fixed "';"] :: after :=
  ⟨_, rfl⟩

/-- **The route of a hook.** A data hook calls the route it was compiled for. -/
theorem Hook.endpoint?_compileHook (entity : Text) (route : Option Text) :
    Hook.endpoint? (compileHook entity route).content = some (Route.path entity route) := by
  have hpassed := passes_declarations (Route.path entity route)
    (Names.newline_not_mem_canonical entity) (Names.newline_not_mem_typeName entity)
  obtain ⟨after, htemplate⟩ := template_eq
  have hconstant : [Piece.fixed "const ENDPOINT = '", .route, .fixed "';"].flatMap
      (Piece.fill (Names.ofLabel entity) (Route.path entity route))
      = "const ENDPOINT = '" ++ Route.path entity route ++ CodePoint.ofChar '\'' :: ";" := by
    simp [Piece.fill, Text.ofString]
  rw [endpoint?, content_compileHook, textOf, htemplate, List.map_append, List.map_cons, hconstant]
  exact Text.quotedAfter?_unlines hpassed (by decide) (Route.not_mem_path (by decide) entity route)
    (by decide) (Route.not_mem_path (by decide) entity route)

/-- The router stands behind the imports of an endpoint module. -/
theorem Endpoint.head_eq (n : Names) (route : Text) :
    ∃ tail after, Endpoint.head n route =
      (Endpoint.head n route).take 15
        ++ ("router = APIRouter(prefix=\"" ++ route ++ CodePoint.ofChar '"' :: tail) :: after := by
  have hquote : Text.ofString "\", tags=[\""
      = CodePoint.ofChar '"' :: Text.ofString ", tags=[\"" := by
    simp [Text.ofString]
  have hline : Text.ofString "router = APIRouter(prefix=\"" ++ route
      ++ CodePoint.ofChar '"' :: (Text.ofString ", tags=[\"" ++ n.canonical ++ "\"])")
      = "router = APIRouter(prefix=\"" ++ route ++ "\", tags=[\"" ++ n.canonical ++ "\"])" := by
    rw [hquote]
    simp only [List.append_assoc, List.cons_append]
  refine ⟨Text.ofString ", tags=[\"" ++ n.canonical ++ "\"])", (Endpoint.head n route).drop 16, ?_⟩
  rw [hline]
  exact (List.take_append_drop 15 (Endpoint.head n route)).symm

/-- **The route of an endpoint.** An endpoint module is mounted at the route it was compiled for. -/
theorem Endpoint.prefix?_compileEndpoint {entity : Text} {methods : List Json}
    {route : Option Text} {a : Artifact} (h : compileEndpoint entity methods route = .ok a) :
    Endpoint.prefix? a.content = some (Route.path entity route) := by
  obtain ⟨selected, -, hlast⟩ := Effect.result_bind_ok_iff.mp h
  obtain rfl := Except.ok.inj hlast
  have hpassed := passes_head (Route.path entity route)
    (Names.newline_not_mem_canonical entity) (Names.newline_not_mem_typeName entity)
  obtain ⟨tail, after, hhead⟩ := head_eq (Names.ofLabel entity) (Route.path entity route)
  rw [prefix?, lines, List.append_assoc, hhead, List.append_assoc, List.cons_append]
  exact Text.quotedAfter?_unlines hpassed (by decide) (Route.not_mem_path (by decide) entity route)
    (by decide) (Route.not_mem_path (by decide) entity route)

end Tablewright
