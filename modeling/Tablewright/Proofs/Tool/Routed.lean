/-
The two tools whose artifacts say a route, the endpoint and the data hook of an entity.

They do the same: name the entity, ask for what has to be there, compile, write. `Routed` names the
two and what they differ in, and the lemmas are about both. A call that has an outcome wrote a file
that says the route of the call (`Routed.write_of_handle`); one whose failure is answered changed no
file (`Routed.extends_of_handle`).
-/
import Tablewright.Proofs.Artifact.Route
import Tablewright.Proofs.Files.Store
import Tablewright.Tool.Handlers

set_option autoImplicit false

namespace Tablewright

/-- The artifacts that say a route. -/
inductive Routed where
  /-- The endpoint, which is mounted at the route. -/
  | endpoint
  /-- The data hook, which calls the route. -/
  | hook
deriving DecidableEq

namespace Routed

/-- The tool that writes the artifact. -/
def tool : Routed → ToolName
  | endpoint => .createApiEndpoint
  | hook => .createApiClientHook

/-- What the artifact is. -/
def kind : Routed → ArtifactKind
  | endpoint => .endpoint
  | hook => .hook

/-- Where the artifact that is compiled for an entity belongs. -/
def file (k : Routed) (entity : Text) : Text := k.kind.path (Names.ofLabel entity).canonical

/-- The route a text says as such an artifact. -/
def said? : Routed → Text → Option Text
  | endpoint => Endpoint.prefix?
  | hook => Hook.endpoint?

variable {ctx : ToolContext}

/-- Emitting in a real run is writing. -/
theorem emit_ok (hreal : ctx.dryRun = false) {a : Artifact} {data : Members} {w w' : World}
    (h : (Tool.emit ctx a).run w = (.ok data, w')) :
    ∃ r, (Project.write ctx.root a.path a.content).run w.tree = (.ok r, w'.tree) := by
  rw [Tool.emit, hreal, if_neg Bool.false_ne_true] at h
  obtain ⟨r, w₁, hwrite, hlast⟩ := Effect.bind_ok_iff.mp h
  obtain ⟨-, rfl⟩ := Effect.pure_ok_iff.mp hlast
  obtain ⟨t, hrun, rfl⟩ := Action.onFiles_iff.mp hwrite
  exact ⟨r, hrun⟩

/-- A write that is tried and fails in a way that is answered changes no file. -/
theorem emit_error (hreal : ctx.dryRun = false) {a : Artifact} {f : Failure} {w w' : World}
    (h : (Tool.emit ctx a).run w = (.error f, w')) (hf : f.IsAnswered) :
    w.tree.Extends w'.tree := by
  rw [Tool.emit, hreal, if_neg Bool.false_ne_true] at h
  rcases Effect.bind_error_iff.mp h with hwrite | ⟨_, _, -, hlast⟩
  · obtain ⟨t, hrun, rfl⟩ := Action.onFiles_iff.mp hwrite
    exact Project.write_error hrun hf
  · exact absurd hlast Effect.pure_ne_error

/-- What is refused leaves the world alone, and then the rest fails. -/
theorem ofRefusal_bind_error {α β : Type} {r : Except Refusal α} {g : α → Action β} {f : Failure}
    {w w' : World} (h : (Action.ofRefusal r >>= g).run w = (.error f, w')) :
    w' = w ∨ ∃ x, r = .ok x ∧ (g x).run w = (.error f, w') := by
  rcases Effect.bind_error_iff.mp h with hr | ⟨x, w₁, hr, hg⟩
  · exact .inl (Action.ofRefusal_error_iff.mp hr).2
  · obtain ⟨hx, rfl⟩ := Action.ofRefusal_ok_iff.mp hr
    exact .inr ⟨x, hx, hg⟩

/-- **A route is written.** A call of one of the two tools that has an outcome wrote the file of the
entity it names, and the file says the route of the call. -/
theorem write_of_handle {k : Routed} {arguments : Members} (hreal : ctx.dryRun = false)
    {o : Outcome} {w w' : World}
    (h : (Tool.handle ctx (ToolInput.ofMembers arguments k.tool)).run w = (.ok o, w')) :
    ∃ content r, (Project.write ctx.root (k.file (Naming.canonical (arguments.text "entity")))
        content).run w.tree = (.ok r, w'.tree) ∧
      k.said? content = some (Route.path (Naming.canonical (arguments.text "entity"))
        (arguments.text? "route")) := by
  cases k with
  | endpoint =>
    obtain ⟨_, w₁, hpre, h₁⟩ := Effect.bind_ok_iff.mp h
    obtain ⟨-, rfl⟩ := Action.ofRefusal_ok_iff.mp hpre
    obtain ⟨a, w₂, hcompile, h₂⟩ := Effect.bind_ok_iff.mp h₁
    obtain ⟨hc, rfl⟩ := Action.ofRefusal_ok_iff.mp hcompile
    obtain ⟨data, w₃, hemit, hlast⟩ := Effect.bind_ok_iff.mp h₂
    obtain ⟨-, rfl⟩ := Effect.pure_ok_iff.mp hlast
    obtain ⟨r, hwrite⟩ := emit_ok hreal hemit
    have hsaid := Endpoint.prefix?_compileEndpoint hc
    obtain ⟨selected, -, ha⟩ := Effect.result_bind_ok_iff.mp hc
    obtain rfl := Except.ok.inj ha
    exact ⟨_, r, hwrite, hsaid⟩
  | hook =>
    obtain ⟨_, w₁, hpre, h₁⟩ := Effect.bind_ok_iff.mp h
    obtain ⟨-, rfl⟩ := Action.ofRefusal_ok_iff.mp hpre
    obtain ⟨data, w₂, hemit, hlast⟩ := Effect.bind_ok_iff.mp h₁
    obtain ⟨-, rfl⟩ := Effect.pure_ok_iff.mp hlast
    obtain ⟨r, hwrite⟩ := emit_ok hreal hemit
    exact ⟨_, r, hwrite, Hook.endpoint?_compileHook _ _⟩

/-- A call of one of the two tools that fails, and whose failure a run answers, changed no file. -/
theorem extends_of_handle {k : Routed} {arguments : Members} (hreal : ctx.dryRun = false)
    {f : Failure} {w w' : World}
    (h : (Tool.handle ctx (ToolInput.ofMembers arguments k.tool)).run w = (.error f, w'))
    (hf : f.IsAnswered) : w.tree.Extends w'.tree := by
  cases k with
  | endpoint =>
    rcases ofRefusal_bind_error h with rfl | ⟨_, -, h₁⟩
    · exact .refl w'.tree
    rcases ofRefusal_bind_error h₁ with rfl | ⟨a, -, h₂⟩
    · exact .refl w'.tree
    rcases Effect.bind_error_iff.mp h₂ with hemit | ⟨_, _, -, hlast⟩
    · exact emit_error hreal hemit hf
    · exact absurd hlast Effect.pure_ne_error
  | hook =>
    rcases ofRefusal_bind_error h with rfl | ⟨_, -, h₁⟩
    · exact .refl w'.tree
    rcases Effect.bind_error_iff.mp h₁ with hemit | ⟨_, _, -, hlast⟩
    · exact emit_error hreal hemit hf
    · exact absurd hlast Effect.pure_ne_error

end Routed

end Tablewright
