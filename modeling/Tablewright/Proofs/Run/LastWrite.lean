/-
The last call that wrote a file.

An endpoint and a hook say the route of the call that wrote them, and they may be written again, for
another route or for another entity: two names can come to one hook, and links can make two paths
lead to one file. So the last writer of a file is told by the file and not by the name
(`LastWrite`). What stands in the file at any later point is what it wrote (`LastWrite.said`), as
long as no other tool changes it; a run that is followed to its last turn shows whether one does
(`KeptBut.changedOnlyBy`).
-/
import Tablewright.Proofs.Run.Evidence
import Tablewright.Proofs.Tool.Routed

set_option autoImplicit false

namespace Tablewright

namespace Run

/-! ## Calls with a route -/

namespace Occurrence

/-- The name of the entity that the call of a turn names. -/
def entity (o : Occurrence) : Text := Naming.canonical (o.step.argument "entity")

/-- The route that the call of a turn comes to: the given one, or else one by the name of the
entity. -/
def route (o : Occurrence) : Text := Route.path o.entity (o.step.input.asMembers.text? "route")

end Occurrence

section Turns

variable {cfg : RunConfig} {engine : Engine} {s s' : Session} {w w' : World} {o : Occurrence}

/-- **A turn of one of the two tools.** It succeeds and has written a text that says its route to
the file of its entity, or it fails and has changed no file. -/
theorem Advance.routed (hreal : cfg.dryRun = false) (h : Advance cfg engine s w o s' w')
    {k : Routed} (htool : o.step.tool = .str k.tool.label) :
    (o.step.Succeeds k.tool ∧ ∃ content r,
      (Project.write cfg.root (k.file o.entity) content).run w.tree = (.ok r, w'.tree) ∧
        k.said? content = some o.route) ∨
      (¬ o.step.Succeeds k.tool ∧ w.tree.Extends w'.tree) := by
  have hcontext : (cfg.context s.state).dryRun = false := hreal
  cases h with
  | refused | corrected => exact .inr ⟨fun hs => Bool.false_ne_true hs.2, .refl _⟩
  | @failed reply call f kind message done _ hturn hcall hrun hanswer hdone =>
    obtain ⟨_, -, rfl⟩ := failedCall_ok_iff.mp hdone
    refine .inr ⟨fun hs => Bool.false_ne_true hs.2, ?_⟩
    rcases performCall_error_iff.mp hrun with
      ⟨-, rfl⟩ | ⟨tool, hfind, ⟨-, rfl⟩ | ⟨arguments, -, hh⟩⟩
    · exact .refl _
    · exact .refl _
    · -- the tool that was found is the one the step tells of
      have hname : Json.str tool.label = .str k.tool.label :=
        (findTool_ok_iff.mp hfind).symm.trans htool
      obtain rfl := ToolName.label_injective (Json.str.inj hname)
      have hf : f.IsAnswered := by
        cases f with
        | refused | system => trivial
        | badValue | interrupted | defect => cases hanswer
      exact Routed.extends_of_handle hcontext hh hf
  | @finished reply call tool arguments outcome done _ hturn hcall hfind hparse hrun hdone =>
    obtain ⟨_, -, rfl⟩ := finishedCall_ok_iff.mp hdone
    have hname : Json.str tool.label = .str k.tool.label :=
      (findTool_ok_iff.mp hfind).symm.trans htool
    obtain rfl := ToolName.label_injective (Json.str.inj hname)
    have hok : outcome.ok = true := by
      rcases (Tool.handle_lesson hrun).ok_or_schemas with hok | ⟨inputs, hschemas⟩
      · exact hok
      · cases k <;> cases hschemas
    exact .inl ⟨⟨htool, hok⟩, Routed.write_of_handle hcontext hrun⟩

end Turns

/-! ## The last call that wrote a file -/

/-- Only one tool changes what stands under a path: no turn of another one does. -/
def ChangedOnlyBy (cfg : RunConfig) (engine : Engine) (request : Text) (w₀ : World)
    (tool : ToolName) (path : Text) : Prop :=
  ∀ history s w o s' w', Reached cfg engine request w₀ history s w →
    history.length < cfg.budget.toNat → Advance cfg engine s w o s' w' →
    o.step.tool ≠ .str tool.label →
      Project.textAt? w'.tree cfg.root path = Project.textAt? w.tree cfg.root path

/-- The points a run comes to by turns of which only those of one tool change what stands under a
path. -/
inductive KeptBut (cfg : RunConfig) (engine : Engine) (request : Text) (w₀ : World)
    (tool : ToolName) (path : Text) : List Occurrence → Session → World → Prop
  | origin : KeptBut cfg engine request w₀ tool path [] (start request cfg.dryRun) w₀
  | next {history : List Occurrence} {s s' : Session} {w w' : World} {o : Occurrence}
      (h : KeptBut cfg engine request w₀ tool path history s w)
      (hleft : history.length < cfg.budget.toNat) (ha : Advance cfg engine s w o s' w')
      (hkept : o.step.tool = .str tool.label ∨
        Project.textAt? w'.tree cfg.root path = Project.textAt? w.tree cfg.root path) :
      KeptBut cfg engine request w₀ tool path (history ++ [o]) s' w'

section Kept

variable {cfg : RunConfig} {engine : Engine} {request : Text} {w₀ w : World} {s : Session}
  {history : List Occurrence} {tool : ToolName} {path : Text}

theorem KeptBut.reached (h : KeptBut cfg engine request w₀ tool path history s w) :
    Reached cfg engine request w₀ history s w := by
  induction h with
  | origin => exact .origin
  | next _ hleft ha _ ih => exact ih.next hleft ha

/-- A run has one course, so what is known of its turns on the way to a point is known of every turn
from an earlier point. -/
theorem KeptBut.kept (h : KeptBut cfg engine request w₀ tool path history s w)
    {before : List Occurrence} {s₁ s₂ : Session} {w₁ w₂ : World} {o : Occurrence}
    (hr : Reached cfg engine request w₀ before s₁ w₁) (ha : Advance cfg engine s₁ w₁ o s₂ w₂)
    (hlen : before.length < history.length) :
    o.step.tool = .str tool.label ∨
      Project.textAt? w₂.tree cfg.root path = Project.textAt? w₁.tree cfg.root path := by
  induction h with
  | origin => exact absurd hlen (Nat.not_lt_zero _)
  | next h hleft ha' hkept ih =>
    rw [List.length_append, List.length_singleton] at hlen
    rcases Nat.lt_succ_iff_lt_or_eq.mp hlen with hlt | heq
    · exact ih hlt
    · obtain ⟨-, rfl, rfl⟩ := hr.unique h.reached heq
      obtain ⟨rfl, -, rfl⟩ := ha.unique ha'
      exact hkept

/-- Where a run goes no further, all its turns are those on the way there. -/
theorem KeptBut.changedOnlyBy (h : KeptBut cfg engine request w₀ tool path history s w)
    (hlast : ∀ o s' w', ¬ Advance cfg engine s w o s' w') :
    ChangedOnlyBy cfg engine request w₀ tool path := by
  -- no point lies behind the last one, since the turn to it would start there
  have hnone : ∀ rest s₁ w₁ o s₂ w₂, Reached cfg engine request w₀ rest s₁ w₁ →
      Advance cfg engine s₁ w₁ o s₂ w₂ → rest.length ≠ history.length := by
    intro rest s₁ w₁ o s₂ w₂ hr ha hlen
    obtain ⟨-, rfl, rfl⟩ := hr.unique h.reached hlen
    exact hlast _ _ _ ha
  intro before s₁ w₁ o s₂ w₂ hr _ ha htool
  refine (h.kept hr ha ?_).resolve_left htool
  by_contra hge
  rcases Nat.lt_or_eq_of_le (Nat.le_of_not_lt hge) with hlt | heq
  · have hcut : before.take history.length ++ before[history.length] ::
        before.drop (history.length + 1) = before := by
      rw [← List.drop_eq_getElem_cons hlt, List.take_append_drop]
    rw [← hcut] at hr
    obtain ⟨s₃, w₃, s₄, w₄, hr', -, ha', -⟩ := hr.split
    exact hnone _ _ _ _ _ _ hr' ha' (List.length_take_of_le (Nat.le_of_lt hlt))
  · exact hnone _ _ _ _ _ _ hr ha heq.symm

end Kept

/-- A turn wrote the file that a path leads to. -/
def Wrote (cfg : RunConfig) (k : Routed) (path : Text) (o : Occurrence) (w' : World) : Prop :=
  o.step.Succeeds k.tool ∧ Project.SameFile w'.tree cfg.root path (k.file o.entity)

/-- The points a run comes to, with the last turn that wrote the file of a path. -/
inductive LastWrite (cfg : RunConfig) (engine : Engine) (request : Text) (w₀ : World) (k : Routed)
    (path : Text) : List Occurrence → Session → World → Occurrence → Prop
  | here {history : List Occurrence} {s s' : Session} {w w' : World} {o : Occurrence}
      (h : Reached cfg engine request w₀ history s w) (hleft : history.length < cfg.budget.toNat)
      (ha : Advance cfg engine s w o s' w') (hw : Wrote cfg k path o w') :
      LastWrite cfg engine request w₀ k path (history ++ [o]) s' w' o
  | later {history : List Occurrence} {s s' : Session} {w w' : World} {o o' : Occurrence}
      (h : LastWrite cfg engine request w₀ k path history s w o)
      (hleft : history.length < cfg.budget.toNat) (ha : Advance cfg engine s w o' s' w')
      (hw : ¬ Wrote cfg k path o' w') :
      LastWrite cfg engine request w₀ k path (history ++ [o']) s' w' o

section Histories

variable {cfg : RunConfig} {engine : Engine} {request : Text} {w₀ w : World} {s : Session}
  {history : List Occurrence} {k : Routed} {path : Text} {o : Occurrence}

theorem LastWrite.reached (h : LastWrite cfg engine request w₀ k path history s w o) :
    Reached cfg engine request w₀ history s w := by
  induction h with
  | here h hleft ha => exact h.next hleft ha
  | later _ hleft ha _ ih => exact ih.next hleft ha

/-- **What a file says.** A file that only its tool changes says the route of the last call that
wrote it. -/
theorem LastWrite.said (hreal : cfg.dryRun = false)
    (howned : ChangedOnlyBy cfg engine request w₀ k.tool path)
    (h : LastWrite cfg engine request w₀ k path history s w o) :
    ∃ text, Project.textAt? w.tree cfg.root path = some text ∧ k.said? text = some o.route := by
  induction h with
  | here h hleft ha hw =>
    rcases ha.routed hreal hw.1.1 with ⟨-, content, r, hwrite, hsaid⟩ | ⟨hfailed, -⟩
    · exact ⟨content, Project.textAt?_of_write hwrite hw.2, hsaid⟩
    · exact absurd hw.1 hfailed
  | @later history s s' w w' o o' h hleft ha hw ih =>
    obtain ⟨text, hread, hsaid⟩ := ih
    refine ⟨text, ?_, hsaid⟩
    by_cases htool : o'.step.tool = .str k.tool.label
    · -- another call of the tool wrote another file, or none
      rcases ha.routed hreal htool with ⟨hsucceeds, content, r, hwrite, -⟩ | ⟨-, hextends⟩
      · exact Project.textAt?_of_write_ne hwrite hread fun hsame => hw ⟨hsucceeds, hsame⟩
      · exact Project.textAt?_of_extends hextends hread
    · exact (howned _ _ _ _ _ _ h.reached hleft ha htool).trans hread

/-- A call that succeeded wrote the file of its entity. -/
theorem Advance.wrote {s' : Session} {w' : World} (hreal : cfg.dryRun = false)
    (h : Advance cfg engine s w o s' w') (hs : o.step.Succeeds k.tool) :
    Wrote cfg k (k.file o.entity) o w' := by
  rcases h.routed hreal hs.1 with ⟨-, content, r, hwrite, -⟩ | ⟨hfailed, -⟩
  · obtain ⟨place, bytes, -, -, hlead, -⟩ := Project.write_ok hwrite
    exact ⟨hs, place, _, hlead, hlead⟩
  · exact absurd hs hfailed

/-- After a call for an entity succeeded, there is a last call that wrote the file of the entity. -/
theorem Reached.exists_lastWrite (hreal : cfg.dryRun = false)
    (h : Reached cfg engine request w₀ history s w) {n : Text}
    (hcall : ∃ o ∈ history, o.step.Succeeds k.tool ∧ n = o.entity) :
    ∃ o, LastWrite cfg engine request w₀ k (k.file n) history s w o := by
  induction h with
  | origin =>
    obtain ⟨_, ho, -⟩ := hcall
    cases ho
  | @next history s s' w w' o' h hleft ha ih =>
    by_cases hw : Wrote cfg k (k.file n) o' w'
    · exact ⟨o', .here h hleft ha hw⟩
    · obtain ⟨o, ho, hs, hn⟩ := hcall
      rcases List.mem_append.mp ho with hbefore | hlast
      · obtain ⟨x, hx⟩ := ih ⟨o, hbefore, hs, hn⟩
        exact ⟨x, .later hx hleft ha hw⟩
      · obtain rfl := List.mem_singleton.mp hlast
        exact absurd (hn ▸ ha.wrote hreal hs) hw

end Histories

end Run

end Tablewright
