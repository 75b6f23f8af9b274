/-
The handlers of an endpoint are those that were asked for.

A word asks for an operation when it is, trimmed and in small letters, one of the words for it; what
a list of words asks for is a set (`Method.IsAsked`). A request is refused exactly when it is empty
or one of its words asks for nothing.

The line a handler begins with has an at sign, and no other line of an endpoint has one: the rest of
the templates has none, and neither has a name or a route. So the lines with an at sign are read off
the text, and they are the first lines of the handlers that were asked for, in the one order handlers
have.
-/
import Tablewright.Proofs.Artifact.Imports

set_option autoImplicit false

namespace Tablewright

open Text (newline)

/-! ## Asking for operations -/

namespace Method

/-- A word asks for an operation: apart from capitals and outer blanks, it is one of the words for
it. -/
def IsCalled (m : Method) (word : Text) : Prop :=
  ∃ s ∈ spellings, s.2 = m ∧ Text.ofString s.1 = Text.lower (Text.trim word)

instance (m : Method) (word : Text) : Decidable (m.IsCalled word) :=
  inferInstanceAs (Decidable (∃ s ∈ spellings, s.2 = m ∧ _))

/-- One of the words asks for an operation. -/
def IsAsked (m : Method) (words : List Text) : Prop := ∃ w ∈ words, m.IsCalled w

instance (m : Method) (words : List Text) : Decidable (m.IsAsked words) :=
  inferInstanceAs (Decidable (∃ w ∈ words, m.IsCalled w))

/-- A word is read as the one operation it asks for. -/
theorem ofWord?_eq_some_iff {word : Text} {m : Method} : ofWord? word = some m ↔ m.IsCalled word := by
  -- no two operations share a word
  have hdistinct : ∀ s ∈ spellings, ∀ s' ∈ spellings,
      Text.ofString s.1 = Text.ofString s'.1 → s.2 = s'.2 := by
    decide +kernel
  rw [ofWord?, Option.map_eq_some_iff]
  constructor
  · rintro ⟨s, hfind, rfl⟩
    have hkey := List.find?_some hfind
    exact ⟨s, List.mem_of_find?_eq_some hfind, rfl, by simpa using hkey⟩
  · rintro ⟨s, hs, rfl, hkey⟩
    cases hfind : spellings.find? fun s => Text.ofString s.1 = Text.lower (Text.trim word) with
    | none => exact absurd hkey (by simpa using List.find?_eq_none.mp hfind s hs)
    | some s' =>
      have hkey' : Text.ofString s'.1 = Text.lower (Text.trim word) := by
        simpa using List.find?_some hfind
      exact ⟨s', rfl, hdistinct s' (List.mem_of_find?_eq_some hfind) s hs (hkey'.trans hkey.symm)⟩

variable {w : Text} {words : List Text} {m : Method} {ms : List Method} {r : Refusal}

theorem ofWord?_eq_none_iff : ofWord? w = none ↔ ∀ m : Method, ¬ m.IsCalled w := by
  rw [Option.eq_none_iff_forall_ne_some]
  exact forall_congr' fun m => not_congr ofWord?_eq_some_iff

/-- A word that asks for an operation is read before the others. -/
theorem read_cons_of_isCalled (h : m.IsCalled w) :
    read ((w :: words).map .str) = (read (words.map .str)).map (m :: ·) := by
  have hword : ofWord? (Json.display (.str w)) = some m := ofWord?_eq_some_iff.mpr h
  rw [List.map_cons, read, hword]

/-- A word that asks for none ends the reading. -/
theorem read_cons_of_not_isCalled (h : ∀ m : Method, ¬ m.IsCalled w) :
    read ((w :: words).map .str) = .error (.unsupportedMethod (.str w)) := by
  have hword : ofWord? (Json.display (.str w)) = none := ofWord?_eq_none_iff.mpr h
  rw [List.map_cons, read, hword]

/-- Words are read if each of them asks for an operation. -/
theorem read_eq_ok (h : ∀ w ∈ words, ∃ m : Method, m.IsCalled w) :
    read (words.map .str) = .ok (words.filterMap ofWord?) := by
  induction words with
  | nil => rfl
  | cons w words ih =>
    obtain ⟨⟨m, hm⟩, hrest⟩ := List.forall_mem_cons.mp h
    rw [read_cons_of_isCalled hm, ih hrest,
      List.filterMap_cons_some (ofWord?_eq_some_iff.mpr hm)]
    rfl

/-- The first word that asks for nothing is what reading fails at. -/
theorem read_eq_error {before after : List Text}
    (hbefore : ∀ v ∈ before, ∃ m : Method, m.IsCalled v) (hw : ∀ m : Method, ¬ m.IsCalled w) :
    read ((before ++ w :: after).map .str) = .error (.unsupportedMethod (.str w)) := by
  induction before with
  | nil => exact read_cons_of_not_isCalled hw
  | cons v before ih =>
    obtain ⟨⟨m, hm⟩, hrest⟩ := List.forall_mem_cons.mp hbefore
    rw [List.cons_append, read_cons_of_isCalled hm, ih hrest]
    rfl

/-- Either every word asks for an operation, or there is a first one that asks for none. -/
theorem exists_first_not_isCalled (h : ∃ w ∈ words, ∀ m : Method, ¬ m.IsCalled w) :
    ∃ before w after, words = before ++ w :: after ∧
      (∀ v ∈ before, ∃ m : Method, m.IsCalled v) ∧ ∀ m : Method, ¬ m.IsCalled w := by
  induction words with
  | nil =>
    obtain ⟨w, hw, -⟩ := h
    cases hw
  | cons v words ih =>
    by_cases hv : ∃ m : Method, m.IsCalled v
    · obtain ⟨w, hw, hnone⟩ := h
      rcases List.mem_cons.mp hw with rfl | hrest
      · obtain ⟨m, hm⟩ := hv
        exact absurd hm (hnone m)
      · obtain ⟨before, w, after, rfl, hbefore, hw⟩ := ih ⟨w, hrest, hnone⟩
        exact ⟨v :: before, w, after, rfl, List.forall_mem_cons.mpr ⟨hv, hbefore⟩, hw⟩
    · exact ⟨[], v, words, rfl, List.forall_mem_nil _, not_exists.mp hv⟩

/-- A request that the endpoint cannot serve: nothing is asked for, or a word asks for nothing. -/
def Unserved (words : List Text) : Prop :=
  words = [] ∨ ∃ w ∈ words, ∀ m : Method, ¬ m.IsCalled w

/-- A request that can be served selects the operations it asks for, in the order of all. -/
theorem select_eq_ok (h : ¬ Unserved words) :
    select (words.map .str) = .ok (all.filter fun m => m.IsAsked words) := by
  obtain ⟨hne, hwords⟩ := not_or.mp h
  have hcalled : ∀ w ∈ words, ∃ m : Method, m.IsCalled w := by
    intro w hw
    by_contra hnone
    exact hwords ⟨w, hw, not_exists.mp hnone⟩
  have hmem (m : Method) : m ∈ words.filterMap ofWord? ↔ m.IsAsked words := by
    simp only [List.mem_filterMap, ofWord?_eq_some_iff, IsAsked]
  have hwanted : (words.filterMap ofWord?).isEmpty = false := by
    obtain ⟨w, rest, rfl⟩ := List.exists_cons_of_ne_nil hne
    obtain ⟨m, hm⟩ := hcalled w List.mem_cons_self
    rw [List.isEmpty_eq_false_iff]
    exact List.ne_nil_of_mem ((hmem m).mpr ⟨w, List.mem_cons_self, hm⟩)
  have hfilter : all.filter (words.filterMap ofWord?).contains
      = all.filter fun m => m.IsAsked words := by
    refine List.filter_congr fun m _ => ?_
    rw [Bool.eq_iff_iff, List.contains_iff_mem, hmem, decide_eq_true_eq]
  rw [select, read_eq_ok hcalled, ← hfilter]
  change (if (words.filterMap ofWord?).isEmpty = true then _ else _) = _
  rw [hwanted]
  rfl

/-- A request that cannot be served is refused, as an empty one or at its first word that asks for
nothing. -/
theorem select_eq_error (h : Unserved words) :
    ∃ r, select (words.map .str) = .error r ∧
      ((words = [] ∧ r = .noMethods) ∨
        ∃ before w after, words = before ++ w :: after ∧
          (∀ v ∈ before, ∃ m : Method, m.IsCalled v) ∧ (∀ m : Method, ¬ m.IsCalled w) ∧
          r = .unsupportedMethod (.str w)) := by
  rcases h with rfl | hword
  · exact ⟨_, rfl, .inl ⟨rfl, rfl⟩⟩
  · obtain ⟨before, w, after, rfl, hbefore, hw⟩ := exists_first_not_isCalled hword
    refine ⟨.unsupportedMethod (.str w), ?_, .inr ⟨before, w, after, rfl, hbefore, hw, rfl⟩⟩
    rw [select, read_eq_error hbefore hw]
    rfl

/-- The line the handler of an operation begins with. -/
def decorator (m : Method) : Text := "@router." ++ Text.lower m.label ++ "(\"\")"

theorem mem_all (m : Method) : m ∈ all := by cases m <;> decide

theorem decorator_injective : Function.Injective decorator := by
  have htable : ∀ m ∈ all, ∀ m' ∈ all, m.decorator = m'.decorator → m = m' := by decide +kernel
  exact fun m m' => htable m (mem_all m) m' (mem_all m')

/-- Among the operations that were asked for each stands once. -/
theorem count_filter_isAsked (m : Method) (words : List Text) :
    (all.filter fun m => m.IsAsked words).count m = if m.IsAsked words then 1 else 0 := by
  by_cases h : m.IsAsked words
  · have hcount : (all.filter fun m => m.IsAsked words).count m = all.count m :=
      List.count_filter (decide_eq_true h)
    rw [if_pos h, hcount]
    cases m <;> rfl
  · rw [if_neg h, List.count_eq_zero]
    exact fun hmem => h (of_decide_eq_true (List.mem_filter.mp hmem).2)

/-- What is asked for is determined by the operations that are selected. -/
theorem filter_isAsked_eq_iff {words words' : List Text} :
    ((all.filter fun m => m.IsAsked words') = all.filter fun m => m.IsAsked words) ↔
      ∀ m : Method, m.IsAsked words' ↔ m.IsAsked words := by
  constructor
  · intro h m
    have hmem : m ∈ (all.filter fun m => m.IsAsked words') ↔
        m ∈ all.filter fun m => m.IsAsked words := by rw [h]
    simpa [mem_all m] using hmem
  · intro h
    exact List.filter_congr fun m _ => decide_eq_decide.mpr (h m)

end Method

/-! ## Lines with an at sign -/

/-- The lines of a text that hold a given code point. -/
def Text.linesWith (c : CodePoint) : Text → List Text := linesWhere fun line => line.contains c

namespace Text

variable {c : CodePoint} {t : Text}

theorem linesWith_of_not_mem (h : c ∉ t) : linesWith c t = [] := by
  rw [linesWith, linesWhere, List.filter_eq_nil_iff]
  intro line hline hmem
  exact h (mem_of_mem_splitOn hline (List.contains_iff_mem.mp hmem))

theorem flatMap_linesWith_of_not_mem {lines : List Text} (h : ∀ line ∈ lines, c ∉ line) :
    lines.flatMap (linesWith c) = [] :=
  flatMap_linesWhere_eq_nil fun line hline => linesWith_of_not_mem (h line hline)

theorem linesWith_of_mem (hline : newline ∉ t) (h : c ∈ t) : linesWith c t = [t] := by
  rw [linesWith, linesWhere_of_line hline]
  exact List.filter_cons_of_pos (List.contains_iff_mem.mpr h)

end Text

namespace Endpoint

/-- The head of an endpoint holds no at sign. -/
theorem at_not_mem_head (label : Text) (route : Option Text) :
    ∀ line ∈ head (Names.ofLabel label) (Route.path label route), CodePoint.ofChar '@' ∉ line := by
  have hcanonical := Names.not_mem_canonical (c := '@') (by decide) (by decide) label
  have htype := Names.not_mem_typeName (c := '@') (by decide) (by decide) label
  have hroute := Route.not_mem_path (c := '@') (by decide) label route
  simp only [head, Names.model, Names.insertShape, Names.selectShape, Names.updateShape,
    List.forall_mem_cons, List.mem_append, not_or]
  and_intros
  all_goals
    first
    | exact List.forall_mem_nil _
    | with_reducible assumption
    | exact Text.not_mem_ofString rfl rfl

/-- A handler begins with its line and holds no other at sign. -/
theorem exists_handler_eq (label : Text) (m : Method) :
    ∃ body, handler (Names.ofLabel label) m = m.decorator :: body ∧
      ∀ line ∈ body, CodePoint.ofChar '@' ∉ line := by
  have hcanonical := Names.not_mem_canonical (c := '@') (by decide) (by decide) label
  have htype := Names.not_mem_typeName (c := '@') (by decide) (by decide) label
  cases m
  all_goals
    refine ⟨_, rfl, ?_⟩
    simp only [Names.model, Names.insertShape, Names.updateShape, List.forall_mem_cons,
      List.mem_append, not_or]
    and_intros
  all_goals
    first
    | exact List.forall_mem_nil _
    | with_reducible assumption
    | exact Text.not_mem_ofString rfl rfl

end Endpoint

/-- The first line of a handler is a single line with an at sign. -/
theorem Method.linesWith_decorator (m : Method) :
    Text.linesWith '@' m.decorator = [m.decorator] := by
  have htable : ∀ m ∈ all, newline ∉ m.decorator ∧ CodePoint.ofChar '@' ∈ m.decorator := by
    decide +kernel
  obtain ⟨hline, hat⟩ := htable m m.mem_all
  exact Text.linesWith_of_mem hline hat

theorem Endpoint.flatMap_linesWith_handler (label : Text) (m : Method) :
    ([[], []] ++ handler (Names.ofLabel label) m).flatMap (Text.linesWith '@')
      = [m.decorator] := by
  obtain ⟨body, hhandler, hbody⟩ := exists_handler_eq label m
  have hblank : [([] : Text), []].flatMap (Text.linesWith '@') = [] := rfl
  rw [hhandler, List.flatMap_append, hblank, List.nil_append, List.flatMap_cons,
    m.linesWith_decorator, Text.flatMap_linesWith_of_not_mem hbody, List.append_nil]

section Compiled

variable {label : Text} {route : Option Text} {words words' : List Text} {a a' : Artifact}

/-- The lines of an endpoint, for a request that can be served. -/
theorem compileEndpoint_eq (h : ¬ Method.Unserved words) (label : Text) (route : Option Text) :
    ∃ a, compileEndpoint label (words.map .str) route = .ok a ∧
      a.content = Text.unlines (Endpoint.lines (Names.ofLabel label) (Route.path label route)
        (Method.all.filter fun m => m.IsAsked words)) := by
  rw [compileEndpoint, Method.select_eq_ok h]
  exact ⟨_, rfl, rfl⟩

/-- A request that cannot be served is refused as invalid. -/
theorem compileEndpoint_refused (h : Method.Unserved words) (label : Text) (route : Option Text) :
    ∃ r, compileEndpoint label (words.map .str) route = .error r ∧ r.kind = .validation := by
  obtain ⟨r, hr, hcause⟩ := Method.select_eq_error h
  refine ⟨r, by rw [compileEndpoint, hr]; rfl, ?_⟩
  rcases hcause with ⟨-, rfl⟩ | ⟨_, _, _, -, -, -, rfl⟩ <;> rfl

theorem exists_compileEndpoint_ok_iff :
    (∃ a, compileEndpoint label (words.map .str) route = .ok a) ↔ ¬ Method.Unserved words := by
  constructor
  · rintro ⟨a, ha⟩ h
    obtain ⟨r, hr, -⟩ := compileEndpoint_refused h label route
    rw [hr] at ha
    cases ha
  · intro h
    obtain ⟨a, ha, -⟩ := compileEndpoint_eq h label route
    exact ⟨a, ha⟩

theorem exists_compileEndpoint_refused_iff :
    (∃ r, compileEndpoint label (words.map .str) route = .error r ∧ r.kind = .validation) ↔
      Method.Unserved words := by
  constructor
  · rintro ⟨r, hr, -⟩
    by_contra h
    obtain ⟨a, ha, -⟩ := compileEndpoint_eq h label route
    rw [hr] at ha
    cases ha
  · exact fun h => compileEndpoint_refused h label route

theorem content_compileEndpoint (h : compileEndpoint label (words.map .str) route = .ok a) :
    a.content = Text.unlines (Endpoint.lines (Names.ofLabel label) (Route.path label route)
      (Method.all.filter fun m => m.IsAsked words)) := by
  obtain ⟨b, hb, hcontent⟩ :=
    compileEndpoint_eq (exists_compileEndpoint_ok_iff.mp ⟨a, h⟩) label route
  rw [Except.ok.inj (h.symm.trans hb), hcontent]

/-- The lines with an at sign are the first lines of the handlers that were asked for. -/
theorem linesWith_compileEndpoint (h : compileEndpoint label (words.map .str) route = .ok a) :
    a.content.linesWith '@'
      = (Method.all.filter fun m => m.IsAsked words).map Method.decorator := by
  have hhead := Text.flatMap_linesWith_of_not_mem (Endpoint.at_not_mem_head label route)
  have hend : [([] : Text)].flatMap (Text.linesWith '@') = [] := rfl
  have hne : Endpoint.lines (Names.ofLabel label) (Route.path label route)
      (Method.all.filter fun m => m.IsAsked words) ≠ [] :=
    List.append_ne_nil_of_right_ne_nil _ (List.cons_ne_nil _ _)
  have hlines : Text.linesWith '@' (Text.unlines _) = _ := Text.linesWhere_unlines hne
  rw [content_compileEndpoint h, hlines, Endpoint.lines, ← Text.linesWith, List.flatMap_append,
    List.flatMap_append, hhead, hend, List.nil_append, List.append_nil, List.flatMap_assoc,
    List.flatMap_congr fun m _ => Endpoint.flatMap_linesWith_handler label m,
    ← List.map_eq_flatMap]

/-- The first line of a handler stands once in an endpoint or not at all. -/
theorem count_decorator_compileEndpoint
    (h : compileEndpoint label (words.map .str) route = .ok a) (m : Method) :
    a.lines.count m.decorator = if m.IsAsked words then 1 else 0 := by
  -- it is among the lines with an at sign
  have hat : m.decorator.contains (CodePoint.ofChar '@') = true := by
    have hmem : m.decorator ∈ Text.linesWith '@' m.decorator := by
      rw [m.linesWith_decorator]
      exact List.mem_cons_self
    exact (List.mem_filter.mp hmem).2
  have hcount : (a.content.linesWith '@').count m.decorator = a.lines.count m.decorator :=
    List.count_filter hat
  rw [← hcount, linesWith_compileEndpoint h,
    List.count_map_of_injective _ _ Method.decorator_injective, Method.count_filter_isAsked]

/-- Endpoints of one label and one route are the same text exactly when the same operations were
asked for. -/
theorem content_compileEndpoint_eq_iff
    (h : compileEndpoint label (words.map .str) route = .ok a)
    (h' : compileEndpoint label (words'.map .str) route = .ok a') :
    a'.content = a.content ↔ ∀ m : Method, m.IsAsked words' ↔ m.IsAsked words := by
  rw [← Method.filter_isAsked_eq_iff]
  constructor
  · intro hcontent
    have hlines := linesWith_compileEndpoint h'
    rw [hcontent, linesWith_compileEndpoint h] at hlines
    exact (List.map_injective_iff.mpr Method.decorator_injective hlines).symm
  · intro hsame
    rw [content_compileEndpoint h, content_compileEndpoint h', hsame]

end Compiled

/-- **Handlers.** An endpoint is refused, as invalid, exactly when nothing is asked for or a word asks
for nothing. Otherwise the lines with an at sign are those of the operations that were asked for, one
for each, in the order of all operations, and none for another one. Requests that are served give one
text exactly when they ask for the same operations, however they spell, order or repeat them. -/
theorem compileEndpoint_handlers (label : Text) (route : Option Text) (words : List Text) :
    ((∃ r, compileEndpoint label (words.map .str) route = .error r ∧ r.kind = .validation) ↔
        words = [] ∨ ∃ w ∈ words, ∀ m : Method, ¬ m.IsCalled w) ∧
      ((∃ a, compileEndpoint label (words.map .str) route = .ok a) ↔
        ¬ (words = [] ∨ ∃ w ∈ words, ∀ m : Method, ¬ m.IsCalled w)) ∧
      ∀ a, compileEndpoint label (words.map .str) route = .ok a →
        (a.lines.filter fun line => line.contains '@')
            = (Method.all.filter fun m => m.IsAsked words).map Method.decorator ∧
          (∀ m : Method, a.lines.count m.decorator = if m.IsAsked words then 1 else 0) ∧
          ∀ words' a', compileEndpoint label (words'.map .str) route = .ok a' →
            (a'.content = a.content ↔ ∀ m : Method, m.IsAsked words' ↔ m.IsAsked words) := by
  refine ⟨exists_compileEndpoint_refused_iff, exists_compileEndpoint_ok_iff, fun a ha => ?_⟩
  refine ⟨linesWith_compileEndpoint ha, count_decorator_compileEndpoint ha, ?_⟩
  exact fun words' a' ha' => content_compileEndpoint_eq_iff ha ha'

end Tablewright
