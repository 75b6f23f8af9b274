/-
Routes in normal form, and routes that are fed back.

A route in normal form is `/api/` and words joined by hyphens. Whatever route is asked for, an
endpoint is mounted at one in normal form, and a route in normal form is mounted as it stands
(`Route.path_eq_self_iff`): no blank, no slash and no second `api/` is there to be stripped, and its
words are cut at the hyphens and joined again. So the route a call reports can be given to the data
hook of the entity, which then calls the endpoint.

Without a route the words of the canonical name are mounted, and these determine the name.
-/
import Tablewright.Proofs.Artifact.Place
import Tablewright.Proofs.Artifact.Route
import Tablewright.Json.Basic
import Tablewright.Proofs.Naming.Normal
import Tablewright.Proofs.Tool.Defect
import Tablewright.Proofs.Tool.Lesson

set_option autoImplicit false

namespace Tablewright

open scoped Computability

/-! ## Normal form -/

namespace Route

open Naming (IsWord oneOf wordTexts kebab canonical)

/-- Routes in normal form, `/api/[a-z0-9]+(-[a-z0-9]+)*`. -/
def normalForms : Language CodePoint :=
  {Text.ofString "/api/"} * (wordTexts * (oneOf (fun c => c = '-') * wordTexts)∗)

theorem mem_normalForms_iff {t : Text} :
    t ∈ normalForms ↔ ∃ ws : List Text, ws ≠ [] ∧ (∀ w ∈ ws, IsWord w) ∧
      t = Text.ofString "/api/" ++ Text.join "-" ws := by
  rw [normalForms, Language.mem_mul]
  simp only [Naming.mem_joined_iff]
  constructor
  · rintro ⟨start, hstart, _, ⟨ws, hne, hws, rfl⟩, rfl⟩
    obtain rfl : start = Text.ofString "/api/" := hstart
    exact ⟨ws, hne, hws, rfl⟩
  · rintro ⟨ws, hne, hws, rfl⟩
    exact ⟨Text.ofString "/api/", Set.mem_singleton _, _, ⟨ws, hne, hws, rfl⟩, rfl⟩

/-- The kebab-case form of a text with words is the last part of a route in normal form. -/
theorem append_kebab_mem {t : Text} (h : kebab t ≠ []) :
    Text.ofString "/api/" ++ kebab t ∈ normalForms := by
  refine mem_normalForms_iff.mpr ⟨Naming.words t, fun hnone => h ?_, fun w hw => ?_, rfl⟩
  · rw [kebab, hnone, Text.join]
  · exact Naming.isWord_of_mem_words hw

/-- The last part of a route holds nothing that would be stripped. -/
theorem clean_append {s : Text} (hne : s ≠ []) (hs : ∀ c ∈ s, c.isNameLetter = true ∨ c = '-') :
    clean (Text.ofString "/api/" ++ s) = s := by
  have hvisible : ∀ c ∈ s, CodePoint.isBlank c = false := by
    intro c hc
    refine CodePoint.isBlank_of_visible ?_ ?_
    all_goals
      rcases hs c hc with hletter | rfl
      · rw [CodePoint.isNameLetter_iff] at hletter
        omega
      · decide
  have hslash : ∀ c ∈ s, c ≠ '/' := by
    rintro c hc rfl
    rcases hs _ hc with h | h <;> exact absurd h (by decide)
  have htrim : Text.trim (Text.ofString "/api/" ++ s) = Text.ofString "/api/" ++ s :=
    Text.trim_of_not_blank (List.forall_mem_append.mpr ⟨by decide, hvisible⟩)
  have hbare : Text.stripWhere (fun c => c = CodePoint.ofChar '/') (Text.ofString "/api/" ++ s)
      = Text.ofString "api/" ++ s := by
    -- the slash in front is stripped, and what stands last is none
    have hlast : (Text.ofString "api/" ++ s).rdropWhile (fun c => c = CodePoint.ofChar '/')
        = Text.ofString "api/" ++ s := by
      rw [List.rdropWhile_eq_self_iff]
      intro hall
      rw [List.getLast_append_of_right_ne_nil _ _ hne, decide_eq_true_eq]
      exact hslash _ (List.getLast_mem hne)
    exact hlast
  rw [clean, htrim, hbare, Text.dropStart?_append, Option.getD_some]

/-- **Normal form.** A route in normal form is mounted as it stands, whatever the entity. -/
theorem path_of_mem {t : Text} (h : t ∈ normalForms) (label : Text) :
    path label (some t) = t := by
  obtain ⟨ws, hne, hws, rfl⟩ := mem_normalForms_iff.mp h
  have hwords : Naming.words (Text.join "-" ws) = ws :=
    Naming.words_join CodePoint.isJoint_hyphen hws
  have hkebab : kebab (Text.join "-" ws) = Text.join "-" ws := by rw [kebab, hwords]
  have hjoin : Text.join "-" ws ≠ [] := by
    intro hnil
    rw [hnil] at hwords
    exact hne hwords.symm
  have hletters : ∀ c ∈ Text.join "-" ws, c.isNameLetter = true ∨ c = '-' := by
    intro c hc
    rw [← hkebab] at hc
    exact Naming.mem_kebab hc
  rw [path, Text.orEmpty, clean_append hjoin hletters, hkebab, Text.ifEmpty,
    if_neg (by simpa using hjoin)]

/-- The canonical name of a label has words. -/
theorem kebab_canonical_ne_nil (label : Text) : kebab (canonical label) ≠ [] := by
  intro hnil
  obtain ⟨ws, h⟩ := Naming.exists_spells_canonical label
  have hwords := Naming.words_kebab (canonical label)
  rw [hnil, h.words_eq] at hwords
  obtain ⟨w, vs, rfl, -⟩ := h.exists_cons
  cases hwords

/-- Every route is mounted in normal form. -/
theorem path_mem (label : Text) (route : Option Text) : path label route ∈ normalForms := by
  unfold path Text.ifEmpty
  by_cases hsegment : kebab (clean (Text.orEmpty route)) = []
  · simp only [hsegment, List.isEmpty_nil, if_true]
    exact append_kebab_mem (kebab_canonical_ne_nil label)
  · simp only [List.isEmpty_iff, hsegment, if_false]
    exact append_kebab_mem hsegment

/-- The routes that are mounted as they stand are those in normal form. -/
theorem path_eq_self_iff {t : Text} (label : Text) : path label (some t) = t ↔ t ∈ normalForms := by
  constructor
  · intro h
    rw [← h]
    exact path_mem label (some t)
  · exact fun h => path_of_mem h label

/-- Without a route the words of the canonical name are mounted. -/
theorem path_none (label : Text) :
    path label none = Text.ofString "/api/" ++ kebab (canonical label) := rfl

/-- Without a route two labels are mounted at one route exactly when they have one canonical name. -/
theorem path_none_eq_iff (a b : Text) :
    path a none = path b none ↔ canonical a = canonical b := by
  rw [path_none, path_none, List.append_cancel_left_eq]
  constructor
  · intro h
    have hwords := congrArg Naming.words h
    rw [Naming.words_kebab, Naming.words_kebab] at hwords
    rw [← Naming.snake_canonical a, ← Naming.snake_canonical b, Naming.snake, Naming.snake, hwords]
  · intro h
    rw [h]

end Route

/-! ## Routes that are reported -/

/-- The engine is shown a value under a key. -/
def Outcome.Shows (o : Outcome) (key : Text) (v : Json) : Prop :=
  ∃ ms : Members, o.observation = Json.write (.obj ms) ∧ ms.get? key = some v

/-- What is written for a new key of the data is shown. -/
theorem Outcome.shows_put {o : Outcome} {key : Text} {v : Json} {data : Members}
    (hdata : o.data = data.put key v) (hnew : key ∉ data.map Prod.fst) : o.Shows key v := by
  refine ⟨_, rfl, ?_⟩
  rw [hdata, Members.put_of_not_mem hnew, Members.putAll, List.foldl_append]
  exact Members.get?_put_self key v _

namespace Tool

variable {ctx : ToolContext} {w w' : World}

/-- Emitting an artifact tells nothing of a route. -/
theorem route_not_mem_emit {a : Artifact} {data : Members}
    (h : (emit ctx a).run w = (.ok data, w')) : Text.ofString "route" ∉ data.map Prod.fst := by
  rw [emit] at h
  split at h
  case isTrue =>
    obtain ⟨rfl, -⟩ := Effect.pure_ok_iff.mp h
    exact (by decide : Text.ofString "route" ∉ [Text.ofString "path", "action", "content"])
  case isFalse =>
    obtain ⟨r, _, -, hlast⟩ := Effect.bind_ok_iff.mp h
    obtain ⟨rfl, -⟩ := Effect.pure_ok_iff.mp hlast
    exact (by decide : Text.ofString "route" ∉ [Text.ofString "path", "action"])

/-- An endpoint that is created is emitted, and the route of the canonical name is shown. -/
theorem createApiEndpoint_ok {label : Text} {methods : List Text} {route : Option Text}
    {o : Outcome} (h : (createApiEndpoint ctx label methods route).run w = (.ok o, w')) :
    ∃ a, ComesToEmit ctx (.createApiEndpoint label methods route) w a w ∧
      compileEndpoint (Naming.canonical label) (methods.map .str) route = .ok a ∧
      o.Shows "route" (.str (Route.path (Naming.canonical label) route)) := by
  obtain ⟨_, w₁, hpre, h₁⟩ := Effect.bind_ok_iff.mp h
  obtain ⟨hready, rfl⟩ := Action.ofRefusal_ok_iff.mp hpre
  obtain ⟨a, w₂, hcompile, h₂⟩ := Effect.bind_ok_iff.mp h₁
  obtain ⟨hc, rfl⟩ := Action.ofRefusal_ok_iff.mp hcompile
  obtain ⟨data, w₃, hemit, hlast⟩ := Effect.bind_ok_iff.mp h₂
  obtain ⟨rfl, -⟩ := Effect.pure_ok_iff.mp hlast
  exact ⟨a, .endpoint (requirePrerequisite_ok_iff.mp hready) hc, hc,
    Outcome.shows_put rfl (route_not_mem_emit hemit)⟩

end Tool

/-- The route of a canonical name is that of the label. -/
theorem Route.path_canonical (label : Text) (route : Option Text) :
    path (Naming.canonical label) route = path label route := by
  rw [path, path, Names.ofLabel_canonical]

/-- **Routes.** Every route is mounted in normal form, and mounted as it stands when it is given
again. So when an endpoint is created, the engine is shown the route its module is mounted at, and
a data hook that is compiled for what was shown calls just this route, whatever spelling of the name
it is compiled for. Without a route, labels share one exactly when they share the canonical name. -/
theorem Route.reported_route_fed_back (label : Text) (route : Option Text) :
    path label route ∈ normalForms ∧
      path label (some (path label route)) = path label route ∧
      (∀ (ctx : ToolContext) (methods : List Text) (o : Outcome) (w w' : World),
        (Tool.createApiEndpoint ctx label methods route).run w = (.ok o, w') →
        ∃ (a : Artifact) (reported : Text),
          Tool.ComesToEmit ctx (.createApiEndpoint label methods route) w a w ∧
          o.Shows "route" (.str reported) ∧
          Endpoint.prefix? a.content = some reported ∧
          ∀ other, Naming.canonical other = Naming.canonical label →
            Hook.endpoint? (compileHook other (some reported)).content
              = Endpoint.prefix? a.content) ∧
      ∀ other, path other none = path label none ↔
        Naming.canonical other = Naming.canonical label := by
  have hnormal := path_mem label route
  refine ⟨hnormal, path_of_mem hnormal label, fun ctx methods o w w' h => ?_, fun other => ?_⟩
  · obtain ⟨a, hemit, hc, hshown⟩ := Tool.createApiEndpoint_ok h
    have hprefix := Endpoint.prefix?_compileEndpoint hc
    rw [path_canonical] at hshown hprefix
    refine ⟨a, path label route, hemit, hshown, hprefix, fun other _ => ?_⟩
    rw [Hook.endpoint?_compileHook, path_of_mem hnormal other, hprefix]
  · exact path_none_eq_iff other label

end Tablewright
