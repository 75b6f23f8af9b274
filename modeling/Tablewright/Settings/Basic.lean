/-
The settings of the program and where they come from.

Values given directly win over the environment, the environment over the local settings file, and
that over the settings file; what none of them gives has a default. Names are compared without
regard to case everywhere but in values given directly.
-/
import Tablewright.Failure.Basic
import Tablewright.Settings.EnvFile
import Tablewright.Settings.Value
import Tablewright.Text.Lowercase

set_option autoImplicit false

namespace Tablewright

/-- The settings of the program (`Settings`). -/
structure Settings where
  /-- The model of the reasoning engine. -/
  engineModel : Text := "gpt-4o-mini"
  /-- The key of the engine's service. -/
  engineKey : Option Text := none
  /-- The address of the engine's service. -/
  engineAddress : Option Text := none
  /-- How many steps a run may take; at least one. -/
  stepBudget : Int := 15
  /-- How many seconds the engine or a process may take. -/
  stepTimeout : Binary64 := Binary64.ofDecimal false 120 0
  /-- How long an observation may be. -/
  maxObservation : Int := 20000
  /-- The directory of the project. -/
  projectRoot : Text := "."
  /-- The command that generates a migration. -/
  generateCommand : Text := "alembic revision --autogenerate"
  /-- The flag before a migration's label. -/
  labelFlag : Text := "-m"
  /-- The command that applies migrations. -/
  applyCommand : Text := "alembic upgrade head"
  /-- The address of the ledger. -/
  ledgerAddress : Text := "sqlite:///.schemapilot/runs.db"
deriving DecidableEq

/-- A setting with a value it cannot have. -/
structure SettingProblem where
  /-- The name of the setting. -/
  setting : Text
  /-- What is wrong with its value. -/
  flaw : SettingFlaw
deriving DecidableEq

/-- A problem in words. -/
def SettingProblem.message (p : SettingProblem) : Text := p.setting ++ ": " ++ p.flaw.message

/-- All problems in words. -/
def settingsMessage (ps : List SettingProblem) : Text :=
  Text.join "; " (ps.map SettingProblem.message)

namespace Settings

/-! ## Checking -/

/-- A setting that was read: its value, or its default with the problem. -/
structure Checked (α : Type) where
  /-- The value. -/
  value : α
  /-- The problem, if there is one. -/
  problems : List SettingProblem

/-- Read one setting; one that is not given has its default. -/
def check {α : Type} (ms : Members) (name : Text) (read : Json → Except SettingFlaw α)
    (default : α) : Checked α :=
  match Members.get? name ms with
  | none => ⟨default, []⟩
  | some v =>
    match read v with
    | .ok value => ⟨value, []⟩
    | .error flaw => ⟨default, [⟨name, flaw⟩]⟩

/-- The least number of steps. -/
def leastBudget : Int := 1

/-- Settings from loose values, or every problem in the order of the settings. -/
def ofMembers (ms : Members) : Except (List SettingProblem) Settings :=
  let d : Settings := {}
  let engineModel := check ms "engine_model" SettingValue.text d.engineModel
  let engineKey := check ms "engine_api_key" SettingValue.optionalText d.engineKey
  let engineAddress := check ms "engine_base_url" SettingValue.optionalText d.engineAddress
  let stepBudget := check ms "step_budget" (SettingValue.integerFrom leastBudget) d.stepBudget
  let stepTimeout := check ms "step_timeout" SettingValue.number d.stepTimeout
  let maxObservation := check ms "max_observation_chars" SettingValue.integer d.maxObservation
  let projectRoot := check ms "project_root" SettingValue.text d.projectRoot
  let generateCommand :=
    check ms "migration_generate_command" SettingValue.text d.generateCommand
  let labelFlag := check ms "migration_label_flag" SettingValue.text d.labelFlag
  let applyCommand := check ms "migration_apply_command" SettingValue.text d.applyCommand
  let ledgerAddress := check ms "ledger_url" SettingValue.text d.ledgerAddress
  let problems := engineModel.problems ++ engineKey.problems ++ engineAddress.problems
    ++ stepBudget.problems ++ stepTimeout.problems ++ maxObservation.problems
    ++ projectRoot.problems ++ generateCommand.problems ++ labelFlag.problems
    ++ applyCommand.problems ++ ledgerAddress.problems
  if problems.isEmpty then
    .ok { engineModel := engineModel.value
          engineKey := engineKey.value
          engineAddress := engineAddress.value
          stepBudget := stepBudget.value
          stepTimeout := stepTimeout.value
          maxObservation := maxObservation.value
          projectRoot := projectRoot.value
          generateCommand := generateCommand.value
          labelFlag := labelFlag.value
          applyCommand := applyCommand.value
          ledgerAddress := ledgerAddress.value }
  else .error problems

/-- Settings as loose values. -/
def members (s : Settings) : Members :=
  Members.one "engine_model" (.str s.engineModel)
    ++ Members.one "engine_api_key" (Json.ofText? s.engineKey)
    ++ Members.one "engine_base_url" (Json.ofText? s.engineAddress)
    ++ Members.one "step_budget" (.int s.stepBudget)
    ++ Members.one "step_timeout" (.float s.stepTimeout)
    ++ Members.one "max_observation_chars" (.int s.maxObservation)
    ++ Members.one "project_root" (.str s.projectRoot)
    ++ Members.one "migration_generate_command" (.str s.generateCommand)
    ++ Members.one "migration_label_flag" (.str s.labelFlag)
    ++ Members.one "migration_apply_command" (.str s.applyCommand)
    ++ Members.one "ledger_url" (.str s.ledgerAddress)

/-! ## Sources -/

/-- Where settings come from. -/
structure Sources where
  /-- Values given directly. -/
  given : Members := []
  /-- The environment. -/
  environment : List (Text × Text) := []
  /-- The text of the settings file. -/
  file : Option Text := none
  /-- The text of the local settings file. -/
  localFile : Option Text := none

/-- The bindings of a settings file that may be missing, their names in small letters. -/
def fileBindings (environment : List (Text × Text)) (file : Option Text) : List EnvFile.Binding :=
  match file with
  | some t => (EnvFile.settings environment t).map fun b => (Text.lower b.1, b.2)
  | none => []

/-- Bindings as loose values; a name without a value gives nothing. -/
def bindingMembers (bs : List EnvFile.Binding) : Members :=
  bs.filterMap fun b => b.2.map fun v => (b.1, Json.str v)

/-- What the two settings files give: the local one is written over the other, also where it names
a setting without a value. -/
def fileMembers (s : Sources) : Members :=
  let bindings := fileBindings s.environment s.file ++ fileBindings s.environment s.localFile
  bindingMembers (bindings.foldl EnvFile.bind [])

/-- What the environment gives. -/
def environmentMembers (s : Sources) : Members :=
  Members.putAll [] (s.environment.map fun e => (Text.lower e.1, Json.str e.2))

/-- All values that are given, the sources that win written over the others. -/
def givenMembers (s : Sources) : Members :=
  Members.putAll (Members.putAll (fileMembers s) (environmentMembers s)) s.given

/-- The settings from all sources. -/
def ofSources (s : Sources) : Except (List SettingProblem) Settings :=
  ofMembers (givenMembers s)

end Settings

end Tablewright
