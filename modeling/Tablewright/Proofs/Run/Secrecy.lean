/-
What a run shows of files outside the project.

Hidden files are files that no call of a run looks into. Two runs in worlds that differ in hidden
files only are the same run: the same steps, conversation and report (`perform_matches`). This
follows from one call, whose result and observation are the same (`executeTool_matches`).

What is hidden is settled by where the calls look. A call is `Confined` if no link is left where its
path lands and if no model is a link that leads out of the project. Then it looks into files of the
project only, so files outside have no part in what the engine is shown (`reads_stay_inside`). The
second condition is needed: models are read through links, wherever these lead
(`linked_model_is_shown`).
-/
import Tablewright.Proofs.Run.Apart
import Tablewright.Proofs.Tool.Reading

set_option autoImplicit false

namespace Tablewright

namespace Run

variable {hidden : Location → Prop} {cfg : RunConfig} {call : ToolCall} {st : WorkflowState}
  {w w' : World}

/-! ## One call -/

/-- The call looks into the file at the place. -/
def LooksInto (cfg : RunConfig) (call : ToolCall) (st : WorkflowState) (w : World)
    (place : Location) : Prop :=
  ∃ input, input? call = some input ∧ Tool.LooksInto (cfg.context st) w.tree input place

theorem performCall_matches (h : w.Alike hidden w')
    (hshown : ∀ place, LooksInto cfg call st w place → ¬ hidden place) :
    Effect.Matches (World.Alike hidden) ((performCall cfg call st).run w)
      ((performCall cfg call st).run w') := by
  cases hinput : input? call with
  | none =>
    obtain ⟨f, hperform⟩ := performCall_of_no_input cfg st hinput
    rw [hperform, hperform]
    exact ⟨rfl, h⟩
  | some input =>
    obtain ⟨arguments, hperform⟩ := performCall_of_input? cfg st hinput
    have hhandle := Tool.handle_matches h fun place hlooks =>
      hshown place ⟨input, hinput, hlooks⟩
    rw [hperform, hperform]
    rcases hrun : (Tool.handle (cfg.context st) input).run w with ⟨q, w₁⟩
    rcases hrun' : (Tool.handle (cfg.context st) input).run w' with ⟨q', w₁'⟩
    rw [hrun, hrun'] at hhandle
    obtain ⟨hresult, hstate⟩ := hhandle
    dsimp only at hresult hstate
    obtain rfl := hresult
    cases q with
    | ok o => exact ⟨rfl, hstate⟩
    | error f => exact ⟨rfl, hstate⟩

/-- **One call.** A call that looks into no hidden file comes to the same state, step and
observation, whatever the hidden files hold. -/
theorem executeTool_matches (h : w.Alike hidden w')
    (hshown : ∀ place, LooksInto cfg call st w place → ¬ hidden place) (n : Nat) :
    Effect.Matches (World.Alike hidden) ((executeTool cfg call st n).run w)
      ((executeTool cfg call st n).run w') := by
  have hperform := performCall_matches h hshown
  rw [executeTool_run, executeTool_run]
  rcases hrun : (performCall cfg call st).run w with ⟨q, w₁⟩
  rcases hrun' : (performCall cfg call st).run w' with ⟨q', w₁'⟩
  rw [hrun, hrun'] at hperform
  obtain ⟨hresult, hstate⟩ := hperform
  dsimp only at hresult hstate
  obtain rfl := hresult
  rcases q with f | ⟨arguments, o⟩
  · dsimp only
    split <;> exact ⟨rfl, hstate⟩
  · exact ⟨rfl, hstate⟩

/-! ## Runs -/

section Runs

variable {engine : Engine} {request : Text} {w₀ w₀' : World} {s s' : Session} {o : Occurrence}
  {history : List Occurrence}

/-- In a turn no hidden file is looked into. -/
def Discreet (hidden : Location → Prop) (cfg : RunConfig) (engine : Engine) (s : Session)
    (w : World) : Prop :=
  ∀ reply call, engine s.asked.length = .ok reply → reply.call = some call →
    ∀ place, LooksInto cfg call s.state w place → ¬ hidden place

/-- A turn goes the same way whatever hidden files hold. -/
theorem Advance.alike {v : World} (h : Advance cfg engine s w o s' w') (hv : w.Alike hidden v)
    (hdiscreet : Discreet hidden cfg engine s w) :
    ∃ v', Advance cfg engine s v o s' v' ∧ w'.Alike hidden v' := by
  cases h with
  | refused hturn hr => exact ⟨v, .refused hturn hr, hv⟩
  | corrected hturn hfinal hopen => exact ⟨v, .corrected hturn hfinal hopen, hv⟩
  | @failed reply call f _ _ _ _ hturn hcall hrun hanswer hdone =>
    have hperform := performCall_matches hv (hdiscreet reply call hturn hcall)
    rw [hrun] at hperform
    rcases hrun' : (performCall cfg call s.state).run v with ⟨q, v'⟩
    rw [hrun'] at hperform
    obtain rfl : Except.error f = q := hperform.result
    exact ⟨v', .failed hturn hcall hrun' hanswer hdone, hperform.state⟩
  | @finished reply call tool arguments outcome _ _ hturn hcall hfind hparse hrun hdone =>
    have hhandle := Tool.handle_matches hv fun place hlooks =>
      hdiscreet reply call hturn hcall place ⟨_, input?_eq hfind hparse, hlooks⟩
    rw [hrun] at hhandle
    rcases hrun' : (Tool.handle (cfg.context s.state) (ToolInput.ofMembers arguments tool)).run v
      with ⟨q, v'⟩
    rw [hrun'] at hhandle
    obtain rfl : Except.ok outcome = q := hhandle.result
    exact ⟨v', .finished hturn hcall hfind hparse hrun' hdone, hhandle.state⟩

/-- A last turn ends the same way whatever hidden files hold. -/
theorem Halts.alike {q : Except Failure (Session × Verdict)} {v : World}
    (h : Halts cfg engine s w q w') (hv : w.Alike hidden v)
    (hdiscreet : Discreet hidden cfg engine s w) :
    ∃ v', Halts cfg engine s v q v' ∧ w'.Alike hidden v' := by
  cases h with
  | answered hturn hfinal hdone => exact ⟨v, .answered hturn hfinal hdone, hv⟩
  | interrupted hturn => exact ⟨v, .interrupted hturn, hv⟩
  | broken hturn hf hr => exact ⟨v, .broken hturn hf hr, hv⟩
  | @cut reply call _ hturn hcall hrun =>
    have hexecute := executeTool_matches hv (hdiscreet reply call hturn hcall) s.nextNumber
    rw [hrun] at hexecute
    rcases hrun' : (executeTool cfg call s.state s.nextNumber).run v with ⟨q, v'⟩
    rw [hrun'] at hexecute
    obtain rfl : Except.error .interrupted = q := hexecute.result
    exact ⟨v', .cut hturn hcall hrun', hexecute.state⟩
  | @aborted reply call f _ hturn hcall hrun hf =>
    have hexecute := executeTool_matches hv (hdiscreet reply call hturn hcall) s.nextNumber
    rw [hrun] at hexecute
    rcases hrun' : (executeTool cfg call s.state s.nextNumber).run v with ⟨q, v'⟩
    rw [hrun'] at hexecute
    obtain rfl : Except.error f = q := hexecute.result
    exact ⟨v', .aborted hturn hcall hrun' hf, hexecute.state⟩

/-- A run comes to the same points whatever hidden files hold. -/
theorem Reached.alike (h : Reached cfg engine request w₀ history s w) (h₀ : w₀.Alike hidden w₀')
    (hdiscreet : ∀ history s w, Reached cfg engine request w₀ history s w →
      Discreet hidden cfg engine s w) :
    ∃ v, Reached cfg engine request w₀' history s v ∧ w.Alike hidden v := by
  induction h with
  | origin => exact ⟨w₀', .origin, h₀⟩
  | next hr hleft ha ih =>
    obtain ⟨v, hv, halike⟩ := ih
    obtain ⟨v', ha', halike'⟩ := ha.alike halike (hdiscreet _ _ _ hr)
    exact ⟨v', hv.next hleft ha', halike'⟩

/-- **A run.** If no call of a run looks into a hidden file, the run is the same whatever the hidden
files hold, and afterwards the worlds still differ in these only. -/
theorem perform_matches (h₀ : w₀.Alike hidden w₀')
    (hdiscreet : ∀ history s w, Reached cfg engine request w₀ history s w →
      Discreet hidden cfg engine s w) (id : Text) :
    Effect.Matches (World.Alike hidden) ((perform cfg engine id request).run w₀)
      ((perform cfg engine id request).run w₀') := by
  by_cases hb : 1 ≤ cfg.budget
  · rcases hloop : (loop cfg engine cfg.budget.toNat (start request cfg.dryRun)).run w₀
      with ⟨q, w'⟩
    obtain ⟨history, s, w, hend⟩ := loop_ends hloop
    obtain ⟨v, hv, halike⟩ := hend.reached.alike h₀ hdiscreet
    have hend' : ∃ v', Ends cfg engine request w₀' history s v q v' ∧ w'.Alike hidden v' := by
      cases hend with
      | exhausted hr hfull => exact ⟨v, .exhausted hv hfull, halike⟩
      | halted hr hleft hh =>
        obtain ⟨v', hh', halike'⟩ := hh.alike halike (hdiscreet _ _ _ hr)
        exact ⟨v', .halted hv hleft hh', halike'⟩
    obtain ⟨v', hend', halike'⟩ := hend'
    rw [perform_run hb, perform_run hb, hloop, hend'.loop_eq]
    rcases q with f | ⟨last, verdict⟩
    · exact ⟨rfl, halike'⟩
    · exact ⟨rfl, halike'⟩
  · rw [perform_of_budget_lt (by omega), perform_of_budget_lt (by omega)]
    exact ⟨rfl, h₀⟩

end Runs

/-! ## Inside the project -/

/-- The places outside a project, as stored locations. -/
def Outside (base place : Location) : Prop := ¬ base.stored <+: place

/-- The call keeps to the project at a location: no link is left where its path lands, and if it
summarises the models, none of them is a link that leads out of the project. -/
structure Confined (cfg : RunConfig) (base : Location) (call : ToolCall) (w : World) : Prop where
  path : ∀ input path, input? call = some input → Tool.readPath? input = some path →
    w.tree.Plain (w.tree.landing ((Path.ofText (Text.trim path)).startingAt base))
  models : ∀ entity, input? call = some (.analyzeSchema entity) →
    ∀ place, Tool.IsLinkedModel w.tree cfg.root place → base.stored <+: place

variable {base : Location}

/-- A confined call looks into files of the project only. -/
theorem Confined.inside (h : Confined cfg base call w) (hbase : w.tree.landing cfg.root = base)
    {place : Location} (hlooks : LooksInto cfg call st w place) : base.stored <+: place := by
  obtain ⟨input, hinput, hlooks⟩ := hlooks
  rcases hlooks.inside_or_linked hbase fun path hpath => h.path input path hinput hpath with
    hinside | ⟨⟨entity, rfl⟩, hlinked⟩
  · exact hinside
  · exact h.models entity hinput place hlinked

/-- The tree of a run evolves. -/
theorem Reached.evolves {engine : Engine} {request : Text} {w₀ : World} {s : Session}
    {history : List Occurrence} (h : Reached cfg engine request w₀ history s w) :
    w₀.tree.Evolves w.tree := by
  induction h with
  | origin => exact (Tree.Extends.refl w₀.tree).evolves
  | next _ _ ha ih => exact ih.trans ha.changesOnly.evolves

/-- How reading stays inside a project. -/
structure ReadsInside (cfg : RunConfig) (base : Location) (w₀ : World) : Prop where
  /-- Where a path is followed without meeting a circle, no link is left. -/
  landing : ∀ path target,
    w₀.tree.Follows [] [] ((Path.ofText (Text.trim path)).startingAt base) target →
      w₀.tree.landing ((Path.ofText (Text.trim path)).startingAt base) = target ∧
        w₀.tree.Plain target
  /-- A confined call, in any state, looks into files of the project only, and what comes of it, the
  observation too, does not depend on what files outside hold. -/
  call : ∀ call, Confined cfg base call w₀ → ∀ st,
    (∀ place, LooksInto cfg call st w₀ place → base.stored <+: place) ∧
      ∀ n w', w₀.Alike (Outside base) w' →
        Effect.Matches (World.Alike (Outside base)) ((executeTool cfg call st n).run w₀)
          ((executeTool cfg call st n).run w')
  /-- A run of confined calls does not depend on what files outside hold. -/
  run : ∀ engine request,
    (∀ history s w, Reached cfg engine request w₀ history s w → ∀ reply call,
      engine s.asked.length = .ok reply → reply.call = some call → Confined cfg base call w) →
    ∀ id w₀', w₀.Alike (Outside base) w₀' →
      Effect.Matches (World.Alike (Outside base)) ((perform cfg engine id request).run w₀)
        ((perform cfg engine id request).run w₀')

/-- **Reading stays inside the project.** Calls that are confined look into files of the project
only. Nothing of a file outside is shown to the engine, by one of them or in a whole run of them. -/
theorem reads_stay_inside {w₀ : World} (hroot : w₀.tree.resolve cfg.root = .ok base) :
    ReadsInside cfg base w₀ := by
  have hbase : w₀.tree.landing cfg.root = base := (Tree.resolve_ok_iff.mp hroot).2.1.symm
  refine ⟨fun path target hfollows => ?_, fun call hconfined st => ?_,
    fun engine request hconfined id w₀' h₀ => ?_⟩
  · exact ⟨Tree.landing_of_follows hfollows, hfollows.plain (Tree.plain_nil _)⟩
  · have hinside : ∀ place, LooksInto cfg call st w₀ place → base.stored <+: place :=
      fun place hlooks => hconfined.inside hbase hlooks
    exact ⟨hinside, fun n w' h => executeTool_matches h
      (fun place hlooks hout => hout (hinside place hlooks)) n⟩
  · refine perform_matches h₀ (fun history s w hr reply call hturn hcall place hlooks hout => ?_) id
    have hlater : w.tree.landing cfg.root = base :=
      (Tree.landing_evolves hr.evolves cfg.root).trans hbase
    exact hout ((hconfined history s w hr reply call hturn hcall).inside hlater hlooks)

/-- A project with one model, which is a link, and a file outside. -/
def linkedWorld (target secret : Text) : World :=
  { tree := ⟨[(["p"], .directory), (["p", "app"], .directory), (["p", "app", "models"], .directory),
      (["p", "app", "models", "x.py"], .link target), (["p", "y.py"], .file []),
      (["s.py"], .file ((secret.utf8?).getD []))]⟩
    script := []
    spawned := [] }

/-- The call that summarises all models. -/
def analysis : ToolCall := { id := .null, name := .str "analyze_schema", arguments := .obj [] }

/-- Runs of the project at `/p`. -/
def projectConfig : RunConfig := { RunConfig.single false with root := ["p"] }

/-- What the file outside holds is the only difference. -/
theorem alike_linkedWorld (target secret secret' : Text) :
    (linkedWorld target secret).Alike (Outside ["p"]) (linkedWorld target secret') where
  tree := by
    have hout : Outside ["p"] ["s.py"] := by
      rw [Outside]
      decide
    refine .cons ⟨rfl, .refl _ _⟩ (.cons ⟨rfl, .refl _ _⟩ (.cons ⟨rfl, .refl _ _⟩
      (.cons ⟨rfl, .refl _ _⟩ (.cons ⟨rfl, .refl _ _⟩ (.cons ⟨rfl, ?_⟩ .nil)))))
    exact ⟨.file rfl rfl, fun hshown => absurd hout hshown⟩
  script := rfl
  spawned := rfl

/-- The models of the project are summarised from what the one link leads to. -/
theorem looksInto_linkedWorld {target secret : Text} {place : Location} {n : Node}
    (hdirectory : resolveInProject (linkedWorld target secret).tree ["p"] Tool.modelsDirectory
      = .ok ["p", "app", "models"])
    (h : (linkedWorld target secret).tree.walk true ["p", "app", "models", "x.py"]
      = .ok (.existing place n)) (hn : n.isFile = true) :
    LooksInto projectConfig analysis .empty (linkedWorld target secret) place := by
  have hname : (Text.ofString "x.py") ∈
      (linkedWorld target secret).tree.listing ["p", "app", "models"] := List.mem_singleton.mpr rfl
  exact ⟨_, rfl, .analyzeSchema hdirectory hname (by decide) h hn⟩

/-- A model that is a link to a file of the project is summarised, whatever the file outside
holds. -/
theorem reads_stay_inside_of_inner_link :
    let w := linkedWorld "../../y.py" "__tablename__ = \"a\""
    let w' := linkedWorld "../../y.py" "__tablename__ = \"b\""
    w.tree.resolve projectConfig.root = .ok ["p"] ∧ Confined projectConfig ["p"] analysis w ∧
      LooksInto projectConfig analysis .empty w ["p", "y.py"] ∧
      ((executeTool projectConfig analysis .empty 1).run w).1
        = ((executeTool projectConfig analysis .empty 1).run w').1 := by
  intro w w'
  have hroot : w.tree.resolve projectConfig.root = .ok ["p"] := rfl
  have hinside := reads_stay_inside hroot
  have hdirectory : resolveInProject w.tree ["p"] Tool.modelsDirectory
      = .ok ["p", "app", "models"] := rfl
  have hwalk : w.tree.walk true ["p", "app", "models", "x.py"]
      = .ok (.existing ["p", "y.py"] (.file [])) := rfl
  have hfollows : w.tree.Follows [] [] ["p", "app", "models"] ["p", "app", "models"] :=
    .pass (by decide) nofun (.pass (by decide) nofun (.pass (by decide) nofun (.done _ _)))
  have hconfined : Confined projectConfig ["p"] analysis w := by
    refine ⟨fun input path hinput hpath => ?_, fun entity _ place hlinked => ?_⟩
    · obtain rfl : ToolInput.analyzeSchema none = input := Option.some.inj hinput
      obtain rfl : Tool.modelsDirectory = path := Option.some.inj hpath
      obtain ⟨hlands, hplain⟩ := hinside.landing Tool.modelsDirectory _ hfollows
      rw [hlands]
      exact hplain
    · obtain ⟨directory, name, target, n, hresolve, -, hlink, hplace⟩ := hlinked
      obtain rfl := Except.ok.inj (hdirectory.symm.trans hresolve)
      -- the only entry of the directory is the link
      have hname : name.stored ∈ [Text.ofString "x.py"] := Tree.mem_children_of_get? hlink
      obtain rfl := (Text.stored_eq_iff (by decide)).mp (List.mem_singleton.mp hname)
      cases hwalk.symm.trans hplace
      decide
  refine ⟨hroot, hconfined, looksInto_linkedWorld hdirectory hwalk rfl, ?_⟩
  exact ((hinside.call analysis hconfined .empty).2 1 w' (alike_linkedWorld _ _ _)).result

theorem linked_model_is_shown :
    let w := linkedWorld "../../../s.py" "__tablename__ = \"a\""
    let w' := linkedWorld "../../../s.py" "__tablename__ = \"b\""
    w.tree.resolve projectConfig.root = .ok ["p"] ∧
      LooksInto projectConfig analysis .empty w ["s.py"] ∧ Outside ["p"] ["s.py"] ∧
      w.Alike (Outside ["p"]) w' ∧
      ((executeTool projectConfig analysis .empty 1).run w).1.toOption.map Executed.observation
        ≠ ((executeTool projectConfig analysis .empty 1).run w').1.toOption.map
          Executed.observation := by
  intro w w'
  have hout : Outside ["p"] ["s.py"] := by
    rw [Outside]
    decide
  exact ⟨rfl, looksInto_linkedWorld rfl rfl rfl, hout, alike_linkedWorld _ _ _, by decide +kernel⟩

end Run

end Tablewright
