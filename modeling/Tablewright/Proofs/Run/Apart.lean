/-
Artifacts of different entities stay apart.

Two artifacts have one path exactly when they are of one kind and their labels share the file,
which for all kinds but hooks means that the labels have one canonical name. In a project without
links different paths are different files. So a call that generates for other entities leaves the
artifacts of an entity as they stand, whatever comes of the call, and so does any course of such
calls (`ArtifactsApart`).

Hooks are the exception. The names of their files lose the underscores before digits, and generating
the hook of `a_1` writes over the hook of `a1` (`hooks_collide`).
-/
import Tablewright.Proofs.Artifact.Encoding
import Tablewright.Proofs.Artifact.Route
import Tablewright.Proofs.Files.Links
import Tablewright.Proofs.Files.Overwrite
import Tablewright.Proofs.Run.Frame
import Tablewright.Proofs.Run.Call
import Tablewright.Proofs.Run.Reachable

set_option autoImplicit false

namespace Tablewright

/-! ## Files of artifacts -/

namespace ArtifactKind

theorem SharesFile.symm {k : ArtifactKind} {a b : Text} (h : k.SharesFile a b) :
    k.SharesFile b a :=
  h.imp Eq.symm fun ⟨hk, hclose⟩ => ⟨hk, hclose.symm⟩

/-- In a project without links two artifacts lead to one file only if they have one path. -/
theorem sharesFile_of_sameFile {t : Tree} {root : Location} (hlinks : t.Unlinked root)
    {k l : ArtifactKind} {a b : Text} (h : Project.SameFile t root (k.path a) (l.path b)) :
    k = l ∧ k.SharesFile a b := by
  obtain ⟨place, n, hfirst, hsecond⟩ := h
  have hup : ∀ (k : ArtifactKind) (a : Text), Path.up ∉ k.location a := fun k a hmem =>
    (isName_of_mem_location hmem).ne_up rfl
  have hplace := hfirst.place_eq hlinks (ofText_path k a) (hup k a)
  have hplace' := hsecond.place_eq hlinks (ofText_path l b) (hup l b)
  have hsame := hplace.symm.trans hplace'
  rw [Location.stored_append, Location.stored_append, stored_location, stored_location] at hsame
  exact (location_eq_iff k l a b).mp (List.append_cancel_left hsame)

end ArtifactKind

/-! ## Calls that spare an artifact -/

/-- The input spares the artifact of a label: its tool neither writes to a path it is given nor
starts a process, and it writes no artifact that shares the file. -/
def ToolInput.Spares (k : ArtifactKind) (label : Text) : ToolInput → Prop
  | .writeFile _ _ | .editFile _ _ _ | .generateMigration _ | .runMigration => False
  | input => ∀ b, (k, b) ∈ input.artifacts → ¬ k.SharesFile b label

/-- An input that spares an artifact writes artifacts alone, and none that shares the file. -/
theorem ToolInput.Spares.files {k : ArtifactKind} {label : Text} {input : ToolInput}
    (h : input.Spares k label) :
    input.files = input.artifacts.map (fun a => a.1.path a.2) ∧
      ∀ b, (k, b) ∈ input.artifacts → ¬ k.SharesFile b label := by
  cases input with
  | writeFile _ _ | editFile _ _ _ | generateMigration _ | runMigration => exact absurd h id
  | listFiles _ | readFile _ | analyzeRequest _ | analyzeSchema _ | createSchema _
  | createMultipleSchemas _ | createApiEndpoint _ _ _ | createApiClientHook _ _
  | seedDatabase _ _ => exact ⟨rfl, h⟩

namespace Run

/-- A call spares the artifact of a label if the input it comes to does. -/
def Spares (k : ArtifactKind) (label : Text) (call : ToolCall) : Prop :=
  ∀ input, input? call = some input → input.Spares k label

/-- The paths of the files a call may write. -/
def files (call : ToolCall) : List Text := ((input? call).map ToolInput.files).getD []

/-- The call that was carried out in a turn, if one was. -/
def Occurrence.call? : Occurrence → Option ToolCall
  | failed _ call _ | finished _ call _ _ _ _ => some call
  | refused _ _ | corrected _ _ => none

section Calls

variable {cfg : RunConfig} {call : ToolCall} {st : WorkflowState}

/-- A call changes no files but those its input names. -/
theorem performCall_writesOnly (cfg : RunConfig) (call : ToolCall) (st : WorkflowState) :
    Action.WritesOnly cfg.root (files call) (performCall cfg call st) := by
  refine Action.writesOnly_ofRefusal_bind fun tool hfind => ?_
  refine Action.writesOnly_ofExcept_bind fun arguments hparse => ?_
  refine Action.WritesOnly.bind ?_ fun outcome => (Action.keeps_pure _).writesOnly
  have hfiles : files call = (ToolInput.ofMembers arguments tool).files := by
    rw [files, input?_eq hfind hparse]
    rfl
  rw [hfiles]
  exact Tool.handle_writesOnly (cfg.context st) _

/-- Carrying a call out changes what the call changes. -/
theorem executeTool_writesOnly (cfg : RunConfig) (call : ToolCall) (st : WorkflowState) (n : Nat) :
    Action.WritesOnly cfg.root (files call) (executeTool cfg call st n) := by
  intro w
  have hw := performCall_writesOnly cfg call st w
  rcases hx : (executeTool cfg call st n).run w with ⟨q, w'⟩
  rcases executeTool_cases hx with ⟨_, _, hp, -⟩ | ⟨_, _, _, hp, -, -⟩ | ⟨_, hp, -, -⟩
  all_goals
    rw [hp] at hw
    exact hw

/-- **One call.** What changes no files but those of a call that spares an artifact leaves the
artifact as it stands. -/
theorem spared {root : Location} {t t' : Tree} (hlinks : t.Unlinked root)
    (hchange : Project.ChangesOnly root (files call) t t') {k : ArtifactKind} {label text : Text}
    (hspares : Spares k label call) (hread : Project.textAt? t root (k.path label) = some text) :
    Project.textAt? t' root (k.path label) = some text := by
  refine Project.textAt?_of_changesOnly hchange hread fun p hp hsame => ?_
  rw [files] at hp
  cases hinput : input? call with
  | none =>
    rw [hinput] at hp
    cases hp
  | some input =>
    obtain ⟨hfiles, hother⟩ := (hspares input hinput).files
    rw [hinput, Option.map_some, Option.getD_some, hfiles] at hp
    obtain ⟨⟨l, b⟩, hartifact, rfl⟩ := List.mem_map.mp hp
    obtain ⟨rfl, hshare⟩ :=
      ArtifactKind.sharesFile_of_sameFile (hlinks.evolves hchange.evolves) hsame
    exact hother b hartifact hshare.symm

end Calls

/-! ## Courses of calls -/

section Courses

variable {cfg : RunConfig} {engine : Engine} {request : Text} {w₀ w w' : World} {s s' : Session}
  {o : Occurrence}

/-- A turn changes no files but those of its call. -/
theorem Advance.changesOnly (h : Advance cfg engine s w o s' w') :
    Project.ChangesOnly cfg.root ((o.call?.map files).getD []) w.tree w'.tree := by
  cases h with
  | refused | corrected => exact .refl _
  | @failed _ call _ _ _ _ _ _ _ hrun =>
    have hw := performCall_writesOnly cfg call s.state w
    rw [hrun] at hw
    exact hw
  | @finished _ call _ _ _ _ _ _ _ hfind hparse hrun =>
    have hw := performCall_writesOnly cfg call s.state w
    rw [performCall_ok_iff.mpr ⟨_, hfind, hparse, hrun⟩] at hw
    exact hw

/-- No link comes into the project in a run. -/
theorem Reached.unlinked {history : List Occurrence} (hlinks : w₀.tree.Unlinked cfg.root)
    (h : Reached cfg engine request w₀ history s w) : w.tree.Unlinked cfg.root := by
  induction h with
  | origin => exact hlinks
  | next _ _ ha ih => exact ih.evolves ha.changesOnly.evolves

/-- How the artifacts of different entities stay apart. -/
structure ArtifactsApart (cfg : RunConfig) : Prop where
  /-- Artifacts have one path exactly when they are of one kind and their labels share the file. -/
  paths : ∀ k l a b, ArtifactKind.path k a = ArtifactKind.path l b ↔ k = l ∧ k.SharesFile a b
  /-- A call that generates for labels that do not share the file leaves an artifact as it stands,
  whatever comes of the call. -/
  call : ∀ call st n w, w.tree.Unlinked cfg.root → ∀ k label text, Spares k label call →
    Project.textAt? w.tree cfg.root (k.path label) = some text →
      Project.textAt? ((executeTool cfg call st n).run w).2.tree cfg.root (k.path label) = some text
  /-- From one point of a run to a later one, if all calls on the way do so, the artifact stands as
  it stood. -/
  course : ∀ engine request w₀, w₀.tree.Unlinked cfg.root → ∀ before later s w s' w',
    Reached cfg engine request w₀ before s w →
    Reached cfg engine request w₀ (before ++ later) s' w' → ∀ k label text,
      (∀ o ∈ later, ∀ call, o.call? = some call → Spares k label call) →
      Project.textAt? w.tree cfg.root (k.path label) = some text →
        Project.textAt? w'.tree cfg.root (k.path label) = some text

/-- The artifact stands at the end of a course of calls that spare it. -/
theorem Reached.spared (hlinks : w₀.tree.Unlinked cfg.root) {before later : List Occurrence}
    (h : Reached cfg engine request w₀ before s w)
    (h' : Reached cfg engine request w₀ (before ++ later) s' w') {k : ArtifactKind}
    {label text : Text} (hspares : ∀ o ∈ later, ∀ call, o.call? = some call → Spares k label call)
    (hread : Project.textAt? w.tree cfg.root (k.path label) = some text) :
    Project.textAt? w'.tree cfg.root (k.path label) = some text := by
  induction later generalizing before s w with
  | nil =>
    rw [List.append_nil] at h'
    obtain ⟨-, -, rfl⟩ := h.unique h' rfl
    exact hread
  | cons o rest ih =>
    obtain ⟨s₁, w₁, s₂, w₂, hr, -, ha, hnext⟩ := h'.split
    obtain ⟨-, rfl, rfl⟩ := h.unique hr rfl
    refine ih hnext (by rwa [List.append_assoc]) (fun x hx => hspares x (List.mem_cons_of_mem o hx))
      ?_
    have hchange := ha.changesOnly
    cases hcall : o.call? with
    | none =>
      -- a turn without a call writes nothing
      rw [hcall] at hchange
      exact Project.textAt?_of_changesOnly hchange hread fun p hp => by cases hp
    | some call =>
      rw [hcall] at hchange
      exact Run.spared (h.unlinked hlinks) hchange (hspares o List.mem_cons_self call hcall) hread

/-- **Artifacts stay apart.** In a project without links the artifacts of an entity are not written
over by generating those of entities that do not share a file with it. Only hooks share files under
different canonical names: under those that differ in nothing but underscores before digits. -/
theorem artifacts_apart (cfg : RunConfig) : ArtifactsApart cfg where
  paths := ArtifactKind.path_eq_path_iff
  call call st n w hlinks _ _ _ hspares hread :=
    spared hlinks (executeTool_writesOnly cfg call st n w) hspares hread
  course _ _ _ hlinks _ _ _ _ _ _ h h' _ _ _ hspares hread := h.spared hlinks h' hspares hread

end Courses

/-! ## Hooks that share a file -/

section Hooks

variable {cfg : RunConfig} {call : ToolCall} {st : WorkflowState} {w : World}

/-- A prerequisite that was there before a call is there after it. -/
theorem has_stateAfter {name : Text} {stage : Stage} (h : st.has name stage = true)
    (cfg : RunConfig) (call : ToolCall) (n : Nat) (w : World) :
    (stateAfter cfg call st n w).has name stage = true := by
  rcases stateAfter_cases cfg call st n w with ⟨_, _, _, _, -, -, -, happly⟩ | ⟨-, heq⟩
  · exact (WorkflowState.apply_has_iff happly name stage).mpr (.inl h)
  · rw [heq]
    exact h

/-- **A written hook.** Where its file stands, a hook that is generated in a real run is what its
path leads to, whatever stood there: also under every other label that shares the file. -/
theorem hook_written (hreal : cfg.dryRun = false) {label : Text} {route : Option Text}
    (hinput : input? call = some (.createApiClientHook label route))
    (hpre : st.has (Naming.canonical label) .endpointWritten = true) {place : Location} {m : Node}
    (hlead : Project.LeadsTo w.tree cfg.root (ArtifactKind.hook.path label) place m)
    (hm : m.isFile = true) (n : Nat) {other : Text}
    (hshare : ArtifactKind.hook.SharesFile label other) :
    (∃ bytes, Project.LeadsTo ((executeTool cfg call st n).run w).2.tree cfg.root
      (ArtifactKind.hook.path other) place (.file bytes)) ∧
    Project.textAt? ((executeTool cfg call st n).run w).2.tree cfg.root
        (ArtifactKind.hook.path other)
      = some (compileHook (Naming.canonical label) route).content := by
  obtain ⟨tool, arguments, hfind, hparse, hgiven⟩ := exists_of_input? hinput
  obtain ⟨r, t, hwrite⟩ :=
    Project.write_of_leadsTo hlead hm (hasEncoding_compileHook (Naming.canonical label) route)
  have hrun : (Tool.handle (cfg.context st) (ToolInput.ofMembers arguments tool)).run w
      = (.ok (Tool.hookOutcome (Naming.canonical label) (Tool.writtenData r)),
        { w with tree := t }) := by
    have hctx : (cfg.context st).dryRun = false := hreal
    have hready : Tool.requirePrerequisite (cfg.context st) (Naming.canonical label) .endpoint
        = .ok () := if_pos hpre
    have hemit : (Project.writeArtifact cfg.root (compileHook (Naming.canonical label) route)).run
        w.tree = (.ok r, t) := by
      rw [Project.writeArtifact, Tool.path_compileHook]
      exact hwrite
    rw [hgiven]
    refine (Tool.run_ofRefusal_bind hready _ w).trans ?_
    rw [Effect.run_bind, Tool.emit_run_of_write hctx hemit]
    rfl
  have hworld : ((executeTool cfg call st n).run w).2.tree = t := by
    rw [executeTool_run, performCall_ok_iff.mpr ⟨tool, hfind, hparse, hrun⟩]
  have hsame : ArtifactKind.hook.path label = ArtifactKind.hook.path other :=
    (ArtifactKind.path_eq_path_iff _ _ _ _).mpr ⟨rfl, hshare⟩
  obtain ⟨place', bytes, -, hevolves, hwritten, -⟩ := Project.write_ok hwrite
  obtain ⟨m', hlater, -⟩ := hlead.evolves hevolves
  obtain ⟨rfl, -⟩ := hlater.unique hwritten
  rw [hworld, ← hsame]
  exact ⟨⟨bytes, hwritten⟩, Project.textAt?_of_write hwrite ⟨_, _, hwritten, hwritten⟩⟩

end Hooks

/-- A call that generates the hook of a label. -/
def hookCall (label : Text) : ToolCall :=
  { id := .null, name := .str "create_api_client_hook", arguments := .obj [("entity", .str label)] }

theorem input?_hookCall (label : Text) :
    input? (hookCall label) = some (.createApiClientHook label none) := by
  have hfind : findTool (hookCall label).name = .ok .createApiClientHook :=
    findTool_ok_iff.mpr rfl
  have hparse : ToolName.createApiClientHook.parse (hookCall label).arguments
      = .ok [("entity", .str label), ("route", .null)] := rfl
  exact input?_eq hfind hparse

/-- Three entities whose endpoints are written. -/
def endpointState : WorkflowState :=
  ⟨[⟨⟨"a1", "", []⟩, [.schemaWritten, .endpointWritten]⟩,
    ⟨⟨"a_1", "", []⟩, [.schemaWritten, .endpointWritten]⟩,
    ⟨⟨"b", "", []⟩, [.schemaWritten, .endpointWritten]⟩]⟩

/-- A project with the files of their hooks, which are two. -/
def hookWorld : World :=
  { World.bare with tree := ⟨[
      (["src"], .directory), (["src", "hooks"], .directory),
      (["src", "hooks", "useA1.ts"], .file []), (["src", "hooks", "useB.ts"], .file [])]⟩ }

theorem leadsTo_hookWorld :
    Project.LeadsTo hookWorld.tree [] (ArtifactKind.hook.path "a1")
      ["src", "hooks", "useA1.ts"] (.file []) ∧
    Project.LeadsTo hookWorld.tree [] (ArtifactKind.hook.path "b")
      ["src", "hooks", "useB.ts"] (.file []) :=
  ⟨⟨["src", "hooks", "useA1.ts"], rfl, rfl⟩, ⟨["src", "hooks", "useB.ts"], rfl, rfl⟩⟩

/-- The hook of one entity stands as it stood when that of another was generated. -/
theorem artifacts_apart_of_hooks : ∃ w₁ w₂,
    w₁ = ((executeTool (.single false) (hookCall "a1") endpointState 1).run hookWorld).2 ∧
      w₂ = ((executeTool (.single false) (hookCall "b") endpointState 2).run w₁).2 ∧
      w₁.tree.Unlinked [] ∧ Spares .hook "a1" (hookCall "b") ∧
      Project.textAt? w₁.tree [] (ArtifactKind.hook.path "a1")
        = some (compileHook "a1" none).content ∧
      Project.textAt? w₂.tree [] (ArtifactKind.hook.path "a1")
        = some (compileHook "a1" none).content := by
  have hstart : hookWorld.tree.Unlinked [] := Tree.unlinked_of_linkSteps rfl []
  have hcanonical : Naming.canonical "a1" = Text.ofString "a1" := by decide +kernel
  have hready : endpointState.has (Naming.canonical "a1") .endpointWritten = true := by
    decide +kernel
  have hreal : (RunConfig.single false).dryRun = false := rfl
  obtain ⟨-, hread⟩ := hook_written hreal (input?_hookCall "a1") hready leadsTo_hookWorld.1 rfl 1
    (.inl rfl)
  rw [hcanonical] at hread
  have hlinks := hstart.evolves
    (executeTool_writesOnly (.single false) (hookCall "a1") endpointState 1 hookWorld).evolves
  have hspares : Spares .hook "a1" (hookCall "b") := by
    intro input hinput
    rw [input?_hookCall] at hinput
    obtain rfl := Option.some.inj hinput
    intro label hlabel
    obtain rfl : label = Text.ofString "b" := by simpa [ToolInput.artifacts] using hlabel
    decide +kernel
  exact ⟨_, _, rfl, rfl, hlinks, hspares, hread,
    (artifacts_apart (.single false)).call _ _ 2 _ hlinks _ _ _ hspares hread⟩

/-- **Hooks that collide.** The labels `a1` and `a 1` have two canonical names and one path of a
hook. In a project with both entities the second hook is written over the first. -/
theorem hooks_collide :
    Naming.canonical "a1" ≠ Naming.canonical "a 1" ∧
      ArtifactKind.hook.path "a1" = ArtifactKind.hook.path "a 1" ∧
      ∃ st w₁ w₂ text text',
        st = stateAfter (.single false) (hookCall "a1") endpointState 1 hookWorld ∧
        w₁ = ((executeTool (.single false) (hookCall "a1") endpointState 1).run hookWorld).2 ∧
        w₂ = ((executeTool (.single false) (hookCall "a 1") st 2).run w₁).2 ∧
        Project.textAt? w₁.tree [] (ArtifactKind.hook.path "a1") = some text ∧
        Project.textAt? w₂.tree [] (ArtifactKind.hook.path "a1") = some text' ∧ text ≠ text' := by
  have hshare : ArtifactKind.hook.SharesFile "a 1" "a1" := by decide +kernel
  have hreal : (RunConfig.single false).dryRun = false := rfl
  have hready : endpointState.has (Naming.canonical "a1") .endpointWritten = true := by
    decide +kernel
  have hready' : endpointState.has (Naming.canonical "a 1") .endpointWritten = true := by
    decide +kernel
  obtain ⟨⟨bytes, hlead⟩, hread⟩ := hook_written hreal (input?_hookCall "a1") hready
    leadsTo_hookWorld.1 rfl 1 hshare.symm
  obtain ⟨-, hread'⟩ := hook_written hreal (input?_hookCall "a 1")
    (has_stateAfter hready' (.single false) (hookCall "a1") 1 hookWorld) hlead rfl 2 hshare
  have hsame : ArtifactKind.hook.path "a1" = ArtifactKind.hook.path "a 1" :=
    (ArtifactKind.path_eq_path_iff _ _ _ _).mpr ⟨rfl, hshare.symm⟩
  rw [← hsame] at hread
  refine ⟨by decide +kernel, hsame, _, _, _, _, _, rfl, rfl, rfl, hread, hread', fun htext => ?_⟩
  -- the two hooks say two routes
  have hroute := congrArg Hook.endpoint? htext
  rw [Hook.endpoint?_compileHook, Hook.endpoint?_compileHook] at hroute
  exact absurd hroute (by decide +kernel)

end Run

end Tablewright
