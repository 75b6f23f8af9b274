/-
Which artifacts a tool hands over to be written, in order.

`emissions` follows a tool from artifact to artifact and notes for each the world in which it is
next. It lists exactly what the tool comes to emit (`mem_emissions_iff`), but unlike `ComesToEmit`
it keeps the order and the repetitions, so that it can be compared with what a dry run shows.

Several schemas are written by attempts that follow each other; the lemmas on a first attempt and
the rest are what every induction on them uses.
-/
import Tablewright.Proofs.Tool.Defect

set_option autoImplicit false

namespace Tablewright

/-- The schema of a given entity; nothing when the entity or the schema is refused. -/
def EntityInput.schema? (input : EntityInput) : Option Schema :=
  match input.build with
  | .ok e => e.compileSchema.toOption
  | .error _ => none

/-- A schema is there when the entity is built and compiled. -/
theorem EntityInput.schema?_eq_some_iff {input : EntityInput} {schema : Schema} :
    input.schema? = some schema ↔
      ∃ e, input.build = .ok e ∧ e.compileSchema = .ok schema := by
  rw [schema?]
  cases input.build with
  | error f => simp
  | ok e => cases hc : e.compileSchema <;> simp [Except.toOption, hc]

namespace Tool

variable {ctx : ToolContext}

/-! ## One schema of several -/

/-- Build an entity and emit its schema. -/
def writeSchema (ctx : ToolContext) (input : EntityInput) : Action (Entity × Members) := do
  let e ← Action.ofExcept input.build
  let data ← emitSchema ctx e
  return (e, data)

/-- A schema is written when its entity is built and compiled and both artifacts are emitted. -/
theorem writeSchema_ok_iff {input : EntityInput} {e : Entity} {data : Members} {w w' : World} :
    (writeSchema ctx input).run w = (.ok (e, data), w') ↔
      ∃ schema model shapes w₁, input.build = .ok e ∧ e.compileSchema = .ok schema ∧
        (emit ctx schema.model).run w = (.ok model, w₁) ∧
        (emit ctx schema.shapes).run w₁ = (.ok shapes, w') ∧ data = schemaData e model shapes := by
  rw [writeSchema, Effect.bind_ok_iff]
  constructor
  · rintro ⟨e', w₁, hbuild, h⟩
    obtain ⟨hb, rfl⟩ := Action.ofExcept_iff.mp hbuild
    obtain ⟨data', w₂, hd, hlast⟩ := Effect.bind_ok_iff.mp h
    obtain ⟨hpair, rfl⟩ := Effect.pure_ok_iff.mp hlast
    cases hpair
    obtain ⟨schema, model, shapes, w₃, hc, hm, hsh, hdata⟩ := emitSchema_ok_iff.mp hd
    exact ⟨schema, model, shapes, w₃, hb, hc, hm, hsh, hdata⟩
  · rintro ⟨schema, model, shapes, w₁, hb, hc, hm, hsh, hdata⟩
    refine ⟨e, w, Action.ofExcept_iff.mpr ⟨hb, rfl⟩, Effect.bind_ok_iff.mpr ?_⟩
    exact ⟨data, w', emitSchema_ok_iff.mpr ⟨schema, model, shapes, w₁, hc, hm, hsh, hdata⟩,
      Effect.pure_ok_iff.mpr ⟨rfl, rfl⟩⟩

/-- A schema is not written when its entity is not built or not compiled, which changes nothing, or
when one of its artifacts fails to be emitted. -/
theorem writeSchema_error_iff {input : EntityInput} {f : Failure} {w w' : World} :
    (writeSchema ctx input).run w = (.error f, w') ↔
      (input.build = .error f ∧ w' = w) ∨ ∃ e, input.build = .ok e ∧
        ((∃ r, e.compileSchema = .error r ∧ f = .refused r ∧ w' = w) ∨
          ∃ schema, e.compileSchema = .ok schema ∧
            ((emit ctx schema.model).run w = (.error f, w') ∨
              ∃ model w₁, (emit ctx schema.model).run w = (.ok model, w₁) ∧
                (emit ctx schema.shapes).run w₁ = (.error f, w'))) := by
  rw [writeSchema, Effect.bind_error_iff, Action.ofExcept_iff]
  refine or_congr_right ⟨?_, ?_⟩
  · rintro ⟨e, w₁, hbuild, h⟩
    obtain ⟨hb, rfl⟩ := Action.ofExcept_iff.mp hbuild
    refine ⟨e, hb, ?_⟩
    rcases Effect.bind_error_iff.mp h with he | ⟨_, _, -, hlast⟩
    · rw [emitSchema] at he
      rcases Effect.bind_error_iff.mp he with hq | ⟨schema, w₁, hs, hemit⟩
      · obtain ⟨⟨r, hr, rfl⟩, rfl⟩ := Action.ofRefusal_error_iff.mp hq
        exact .inl ⟨r, hr, rfl, rfl⟩
      · obtain ⟨hc, rfl⟩ := Action.ofRefusal_ok_iff.mp hs
        refine .inr ⟨schema, hc, ?_⟩
        rcases Effect.bind_error_iff.mp hemit with hm | ⟨model, w₂, hm, hrest⟩
        · exact .inl hm
        · rcases Effect.bind_error_iff.mp hrest with hsh | ⟨_, _, -, hlast⟩
          · exact .inr ⟨model, w₂, hm, hsh⟩
          · exact absurd hlast Effect.pure_ne_error
    · exact absurd hlast Effect.pure_ne_error
  · rintro ⟨e, hb, h⟩
    refine ⟨e, w, Action.ofExcept_iff.mpr ⟨hb, rfl⟩, Effect.bind_error_iff.mpr (.inl ?_)⟩
    rw [emitSchema]
    refine Effect.bind_error_iff.mpr ?_
    rcases h with ⟨r, hr, rfl, rfl⟩ | ⟨schema, hc, h⟩
    · exact .inl (Action.ofRefusal_error_iff.mpr ⟨⟨r, hr, rfl⟩, rfl⟩)
    · refine .inr ⟨schema, w, Action.ofRefusal_ok_iff.mpr ⟨hc, rfl⟩, Effect.bind_error_iff.mpr ?_⟩
      rcases h with hm | ⟨model, w₁, hm, hsh⟩
      · exact .inl hm
      · exact .inr ⟨model, w₁, hm, Effect.bind_error_iff.mpr (.inl hsh)⟩

/-- What comes of a schema that was written. -/
def schemaOutcome (ctx : ToolContext) (e : Entity) (data : Members) : Outcome :=
  let verb : Text := if ctx.dryRun then "previewed" else "written"
  { Outcome.success ("Schema for '" ++ e.name ++ "' " ++ verb) data with
    defined := [e]
    completed := [(e.name, .schemaWritten)] }

/-- Creating a schema is writing it and telling so. -/
theorem createSchema_run (input : EntityInput) (w : World) :
    (createSchema ctx input).run w =
      match (writeSchema ctx input).run w with
      | (.ok (e, data), w') => (.ok (schemaOutcome ctx e data), w')
      | (.error f, w') => (.error f, w') := by
  rw [createSchema, writeSchema, Effect.run_bind, Effect.run_bind]
  rcases (Action.ofExcept input.build).run w with ⟨f | e, w₁⟩
  · rfl
  · dsimp only
    rw [Effect.run_bind, Effect.run_bind]
    rcases (emitSchema ctx e).run w₁ with ⟨f | data, w₂⟩ <;> rfl

/-- Several schemas are attempted by attempting the first and then the others. -/
theorem attemptSchemas_cons_ok_iff {input : EntityInput} {rest : List EntityInput}
    {attempts : List SchemaAttempt} {w w' : World} :
    (attemptSchemas ctx (input :: rest)).run w = (.ok attempts, w') ↔
      ∃ result w₁ others, (attempt (writeSchema ctx input)).run w = (.ok result, w₁) ∧
        (attemptSchemas ctx rest).run w₁ = (.ok others, w') ∧
        attempts = ⟨input.name, result⟩ :: others := by
  rw [attemptSchemas, Effect.bind_ok_iff]
  constructor
  · rintro ⟨result, w₁, hr, h⟩
    obtain ⟨others, w₂, ho, hlast⟩ := Effect.bind_ok_iff.mp h
    obtain ⟨rfl, rfl⟩ := Effect.pure_ok_iff.mp hlast
    exact ⟨result, w₁, others, hr, ho, rfl⟩
  · rintro ⟨result, w₁, others, hr, ho, rfl⟩
    refine ⟨result, w₁, hr, Effect.bind_ok_iff.mpr ⟨others, w', ho, ?_⟩⟩
    exact Effect.pure_ok_iff.mpr ⟨rfl, rfl⟩

/-- Several schemas fail to be attempted when the first or one of the others does. -/
theorem attemptSchemas_cons_error_iff {input : EntityInput} {rest : List EntityInput} {f : Failure}
    {w w' : World} :
    (attemptSchemas ctx (input :: rest)).run w = (.error f, w') ↔
      (attempt (writeSchema ctx input)).run w = (.error f, w') ∨
        ∃ result w₁, (attempt (writeSchema ctx input)).run w = (.ok result, w₁) ∧
          (attemptSchemas ctx rest).run w₁ = (.error f, w') := by
  rw [attemptSchemas, Effect.bind_error_iff]
  refine or_congr_right ⟨?_, ?_⟩
  · rintro ⟨result, w₁, hr, h⟩
    rcases Effect.bind_error_iff.mp h with ho | ⟨_, _, -, hlast⟩
    · exact ⟨result, w₁, hr, ho⟩
    · exact absurd hlast Effect.pure_ne_error
  · rintro ⟨result, w₁, hr, ho⟩
    exact ⟨result, w₁, hr, Effect.bind_error_iff.mpr (.inl ho)⟩

/-- What comes of several attempts. -/
def schemasOutcome (attempts : List SchemaAttempt) : Outcome :=
  let written := attempts.filterMap SchemaAttempt.entity?
  let failed := (attempts.filter fun a => a.entity?.isNone).map (·.label)
  let count := "Created " ++ Text.ofNat written.length ++ " of " ++ Text.ofNat attempts.length
    ++ " schemas"
  { ok := failed.isEmpty
    message :=
      if failed.isEmpty then count else count ++ "; failed: " ++ Text.join ", " failed
    data := [("results", .arr (attempts.map SchemaAttempt.toJson))]
    discovered := []
    defined := written
    completed := written.map fun e => (e.name, .schemaWritten) }

/-- Several schemas come out as their attempts do. -/
theorem createMultipleSchemas_run (inputs : List EntityInput) (w : World) :
    (createMultipleSchemas ctx inputs).run w =
      match (attemptSchemas ctx inputs).run w with
      | (.ok attempts, w') => (.ok (schemasOutcome attempts), w')
      | (.error f, w') => (.error f, w') := by
  rw [createMultipleSchemas, Effect.run_bind]
  rcases (attemptSchemas ctx inputs).run w with ⟨f | attempts, w₁⟩ <;> rfl

/-- Several schemas fail to be attempted where one of them fails by what is no refusal, after the
attempts before it. -/
theorem attemptSchemas_error_iff {inputs : List EntityInput} {f : Failure} {w w' : World} :
    (attemptSchemas ctx inputs).run w = (.error f, w') ↔
      (∀ q, f ≠ .refused q) ∧ ∃ before input after attempts w₁, inputs = before ++ input :: after ∧
        (attemptSchemas ctx before).run w = (.ok attempts, w₁) ∧
          (writeSchema ctx input).run w₁ = (.error f, w') := by
  induction inputs generalizing w with
  | nil =>
    constructor
    · intro h
      exact absurd h Effect.pure_ne_error
    · rintro ⟨-, before, input, after, _, _, h, -⟩
      exact absurd h.symm (List.append_ne_nil_of_right_ne_nil before (List.cons_ne_nil input after))
  | cons head rest ih =>
    rw [attemptSchemas_cons_error_iff, attempt_error_iff]
    constructor
    · rintro (⟨h, hne⟩ | ⟨result, w₁, hr, h⟩)
      · exact ⟨hne, [], head, rest, [], w, rfl, rfl, h⟩
      · obtain ⟨hne, before, input, after, attempts, w₂, rfl, hbefore, h⟩ := ih.mp h
        refine ⟨hne, head :: before, input, after, ⟨head.name, result⟩ :: attempts, w₂, rfl, ?_, h⟩
        exact attemptSchemas_cons_ok_iff.mpr ⟨result, w₁, attempts, hr, hbefore, rfl⟩
    · rintro ⟨hne, before, input, after, attempts, w₂, hlist, hbefore, h⟩
      cases before with
      | nil =>
        obtain ⟨rfl, rfl⟩ := List.cons.inj hlist
        obtain ⟨-, rfl⟩ := Effect.pure_ok_iff.mp hbefore
        exact .inl ⟨h, hne⟩
      | cons first before =>
        obtain ⟨rfl, rfl⟩ := List.cons.inj hlist
        obtain ⟨result, w₁, others, hr, ho, -⟩ := attemptSchemas_cons_ok_iff.mp hbefore
        exact .inr ⟨result, w₁, hr, ih.mpr ⟨hne, before, input, after, others, w₂, rfl, ho, h⟩⟩

/-- A schema fails to be written by what is no refusal exactly when an artifact it comes to emit
fails that way. -/
theorem writeSchema_error_iff_emit {input : EntityInput} {f : Failure} {w w' : World}
    (hne : ∀ q, f ≠ .refused q) :
    (writeSchema ctx input).run w = (.error f, w') ↔
      ∃ a w₁, ComesToEmit ctx (.createSchema input) w a w₁ ∧
        (emit ctx a).run w₁ = (.error f, w') := by
  rw [writeSchema_error_iff]
  constructor
  · rintro (⟨hb, -⟩ | ⟨e, hb, ⟨r, -, hf, -⟩ | ⟨schema, hc, hm | ⟨model, w₁, hm, hsh⟩⟩⟩)
    · obtain ⟨r, hf⟩ := EntityInput.build_refused hb
      exact absurd hf (hne r)
    · exact absurd hf (hne r)
    · exact ⟨schema.model, w, .model hb hc, hm⟩
    · exact ⟨schema.shapes, w₁, .shapes hb hc hm, hsh⟩
  · rintro ⟨a, w₁, hcome, h⟩
    cases hcome with
    | model hb hc => exact .inr ⟨_, hb, .inr ⟨_, hc, .inl h⟩⟩
    | shapes hb hc hm => exact .inr ⟨_, hb, .inr ⟨_, hc, .inr ⟨_, _, hm, h⟩⟩⟩

/-! ## The artifacts of a tool -/

/-- The artifacts a schema comes to emit, each with the world in which it is next. -/
def schemaEmissions (ctx : ToolContext) (input : EntityInput) (w : World) :
    List (Artifact × World) :=
  match input.schema? with
  | none => []
  | some schema =>
    (schema.model, w) ::
      match (emit ctx schema.model).run w with
      | (.ok _, w') => [(schema.shapes, w')]
      | (.error _, _) => []

/-- The artifacts several schemas come to emit. -/
def severalEmissions (ctx : ToolContext) : List EntityInput → World → List (Artifact × World)
  | [], _ => []
  | input :: rest, w =>
    schemaEmissions ctx input w ++
      match (attempt (writeSchema ctx input)).run w with
      | (.ok _, w') => severalEmissions ctx rest w'
      | (.error _, _) => []

/-- The artifact of a tool that emits one at most. -/
def artifact? (ctx : ToolContext) : ToolInput → Option Artifact
  | .createApiEndpoint label methods route =>
    if ctx.state.has (Naming.canonical label) .schemaWritten then
      (compileEndpoint (Naming.canonical label) (methods.map .str) route).toOption
    else none
  | .createApiClientHook label route =>
    if ctx.state.has (Naming.canonical label) .endpointWritten then
      some (compileHook (Naming.canonical label) route)
    else none
  | .seedDatabase label rows =>
    if ctx.state.has (Naming.canonical label) .schemaWritten then
      (ctx.state.get? (Naming.canonical label)).bind fun p =>
        (p.entity.compileSeed rows).toOption
    else none
  | _ => none

/-- The artifacts a tool comes to emit, in order, each with the world in which it is next. -/
def emissions (ctx : ToolContext) : ToolInput → World → List (Artifact × World)
  | .createSchema input, w => schemaEmissions ctx input w
  | .createMultipleSchemas inputs, w => severalEmissions ctx inputs w
  | input, w => (artifact? ctx input).toList.map (·, w)

/-- What a schema comes to emit is what `ComesToEmit` says. -/
theorem mem_schemaEmissions_iff {input : EntityInput} {a : Artifact} {w w' : World} :
    (a, w') ∈ schemaEmissions ctx input w ↔ ComesToEmit ctx (.createSchema input) w a w' := by
  rw [schemaEmissions]
  constructor
  · intro h
    cases hs : input.schema? with
    | none =>
      rw [hs] at h
      cases h
    | some schema =>
      rw [hs] at h
      obtain ⟨e, hb, hc⟩ := EntityInput.schema?_eq_some_iff.mp hs
      rcases List.mem_cons.mp h with hmodel | hshapes
      · cases hmodel
        exact .model hb hc
      · rcases hm : (emit ctx schema.model).run w with ⟨f | data, w₁⟩
        · rw [hm] at hshapes
          cases hshapes
        · rw [hm] at hshapes
          cases List.mem_singleton.mp hshapes
          exact .shapes hb hc hm
  · intro h
    cases h with
    | model hb hc =>
      rw [EntityInput.schema?_eq_some_iff.mpr ⟨_, hb, hc⟩]
      exact List.mem_cons_self
    | shapes hb hc hm =>
      rw [EntityInput.schema?_eq_some_iff.mpr ⟨_, hb, hc⟩]
      dsimp only
      rw [hm]
      exact List.mem_cons_of_mem _ (List.mem_singleton_self _)

/-- What several schemas come to emit is what `ComesToEmit` says. -/
theorem mem_severalEmissions_iff {inputs : List EntityInput} {a : Artifact} {w w' : World} :
    (a, w') ∈ severalEmissions ctx inputs w ↔
      ComesToEmit ctx (.createMultipleSchemas inputs) w a w' := by
  induction inputs generalizing w with
  | nil =>
    constructor
    · intro h
      cases h
    · intro h
      generalize hin : ToolInput.createMultipleSchemas [] = input at h
      cases h with
      | @several before after _ _ _ _ _ _ _ _ =>
        have hnil := ToolInput.createMultipleSchemas.inj hin
        exact absurd hnil.symm (List.append_ne_nil_of_right_ne_nil before (List.cons_ne_nil _ _))
      | model | shapes | endpoint | hook | seed => cases hin
  | cons input rest ih =>
    rw [severalEmissions, List.mem_append, mem_schemaEmissions_iff]
    constructor
    · rintro (h | h)
      · have hnone : (attemptSchemas ctx []).run w = (.ok [], w) := rfl
        exact .several hnone h
      · rcases hr : (attempt (writeSchema ctx input)).run w with ⟨f | result, w₁⟩
        · rw [hr] at h
          cases h
        · rw [hr] at h
          obtain ⟨before, after, head, attempts, w₂, rfl, hbefore, hhead⟩ :
              ∃ before after head attempts w₂, rest = before ++ head :: after ∧
                (attemptSchemas ctx before).run w₁ = (.ok attempts, w₂) ∧
                ComesToEmit ctx (.createSchema head) w₂ a w' := by
            cases ih.mp h with
            | several hbefore hhead => exact ⟨_, _, _, _, _, rfl, hbefore, hhead⟩
          have hcons : (attemptSchemas ctx (input :: before)).run w
              = (.ok (⟨input.name, result⟩ :: attempts), w₂) :=
            attemptSchemas_cons_ok_iff.mpr ⟨result, w₁, attempts, hr, hbefore, rfl⟩
          exact .several hcons hhead
    · intro h
      generalize hin : ToolInput.createMultipleSchemas (input :: rest) = given at h
      cases h with
      | @several before after head attempts _ _ w₁ _ hbefore hhead =>
        have hlist := ToolInput.createMultipleSchemas.inj hin
        cases before with
        | nil =>
          obtain ⟨rfl, rfl⟩ := List.cons.inj hlist
          obtain ⟨-, rfl⟩ := Effect.pure_ok_iff.mp hbefore
          exact .inl hhead
        | cons first before =>
          obtain ⟨rfl, rfl⟩ := List.cons.inj hlist
          obtain ⟨result, w₂, others, hr, ho, -⟩ := attemptSchemas_cons_ok_iff.mp hbefore
          rw [hr]
          exact .inr (ih.mpr (.several ho hhead))
      | model | shapes | endpoint | hook | seed => cases hin

/-- **Emissions.** The list holds exactly the artifacts the tool comes to emit, each with its
world. -/
theorem mem_emissions_iff {input : ToolInput} {a : Artifact} {w w' : World} :
    (a, w') ∈ emissions ctx input w ↔ ComesToEmit ctx input w a w' := by
  cases input with
  | createSchema input => exact mem_schemaEmissions_iff
  | createMultipleSchemas inputs => exact mem_severalEmissions_iff
  | createApiEndpoint label methods route =>
    change (a, w') ∈ (artifact? ctx (.createApiEndpoint label methods route)).toList.map (·, w) ↔ _
    rw [artifact?]
    constructor
    · intro h
      split at h
      case isTrue hpre =>
        cases hc : compileEndpoint (Naming.canonical label) (methods.map .str) route with
        | error r =>
          rw [hc] at h
          cases h
        | ok artifact =>
          rw [hc] at h
          cases List.mem_singleton.mp h
          exact .endpoint hpre hc
      case isFalse => cases h
    · intro h
      cases h with
      | endpoint hpre hc =>
        rw [if_pos hpre, hc]
        exact List.mem_singleton_self _
  | createApiClientHook label route =>
    change (a, w') ∈ (artifact? ctx (.createApiClientHook label route)).toList.map (·, w) ↔ _
    rw [artifact?]
    constructor
    · intro h
      split at h
      case isTrue hpre =>
        cases List.mem_singleton.mp h
        exact .hook hpre
      case isFalse => cases h
    · intro h
      cases h with
      | hook hpre =>
        rw [if_pos hpre]
        exact List.mem_singleton_self _
  | seedDatabase label rows =>
    change (a, w') ∈ (artifact? ctx (.seedDatabase label rows)).toList.map (·, w) ↔ _
    rw [artifact?]
    constructor
    · intro h
      split at h
      case isTrue hpre =>
        cases hget : ctx.state.get? (Naming.canonical label) with
        | none =>
          rw [hget] at h
          cases h
        | some p =>
          rw [hget] at h
          cases hc : p.entity.compileSeed rows with
          | error r =>
            rw [Option.bind_some, hc] at h
            cases h
          | ok artifact =>
            rw [Option.bind_some, hc] at h
            cases List.mem_singleton.mp h
            exact .seed hpre hget hc
      case isFalse => cases h
    · intro h
      cases h with
      | seed hpre hget hc =>
        rw [if_pos hpre, hget, Option.bind_some, hc]
        exact List.mem_singleton_self _
  | listFiles _ | readFile _ | writeFile _ _ | editFile _ _ _ | analyzeRequest _ | analyzeSchema _
  | generateMigration _ | runMigration =>
    constructor
    · intro h
      cases h
    · intro h
      cases h

end Tool

end Tablewright
