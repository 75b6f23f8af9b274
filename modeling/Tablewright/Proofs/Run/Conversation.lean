/-
The conversation of a run: what every turn leaves in it, and what the engine is shown when it is
asked.

`Block` says what one turn leaves: a call its proposal and its observation, a final answer that was
turned down itself and the correction, a failure of the engine its report, and a breach of the
protocol nothing. The conversation at a point of a run is the opening and then the blocks of its
history (`Reached.messages_eq`), so the conversations of a run grow at the end only, and whatever is
proposed is answered by the very next message (`Answered`).
-/
import Tablewright.Proofs.Run.Course

set_option autoImplicit false

namespace Tablewright

/-! ## Answered conversations -/

/-- A message that neither proposes a call nor answers one. -/
def Message.IsPlain : Message → Prop
  | .instructions | .user _ | .assistant _ none => True
  | .assistant _ (some _) | .observation _ _ => False

/-- Conversations in which calls and observations come in pairs. -/
inductive Answered : List Message → Prop
  | nil : Answered []
  | plain {m : Message} {ms : List Message} (hm : m.IsPlain) (h : Answered ms) :
      Answered (m :: ms)
  | pair {text : Option Text} {call : ToolCall} {content : Text} {ms : List Message}
      (h : Answered ms) :
      Answered (.assistant text (some call) :: .observation call.id content :: ms)

namespace Answered

/-- Answered conversations can be put together. -/
theorem append {ms ns : List Message} (h : Answered ms) (k : Answered ns) :
    Answered (ms ++ ns) := by
  induction h with
  | nil => exact k
  | plain hm _ ih => exact .plain hm ih
  | pair _ ih => exact .pair ih

/-- In an answered conversation every call is followed by an observation under its id. -/
theorem observation_of_call {before after : List Message} {text : Option Text} {call : ToolCall}
    (h : Answered (before ++ .assistant text (some call) :: after)) :
    ∃ content rest, after = .observation call.id content :: rest := by
  generalize hms : before ++ .assistant text (some call) :: after = ms at h
  induction h generalizing before with
  | nil => exact absurd hms (List.append_ne_nil_of_right_ne_nil before (List.cons_ne_nil _ _))
  | @plain m ms hm _ ih =>
    cases before with
    | nil =>
      obtain ⟨rfl, -⟩ := List.cons.inj hms
      exact hm.elim
    | cons _ before => exact ih (List.cons.inj hms).2
  | @pair text' call' content ms _ ih =>
    -- the call is the one of the pair, or it comes after the pair
    match before with
    | [] =>
      obtain ⟨hm, hrest⟩ := List.cons.inj hms
      cases hm
      exact ⟨content, ms, hrest⟩
    | [m] =>
      obtain ⟨-, hrest⟩ := List.cons.inj hms
      obtain ⟨hm, -⟩ := List.cons.inj hrest
      cases hm
    | _ :: _ :: before =>
      obtain ⟨-, hrest⟩ := List.cons.inj hms
      exact ih (List.cons.inj hrest).2

/-- In an answered conversation every observation follows the call of its id. -/
theorem call_of_observation {before after : List Message} {id : Json} {content : Text}
    (h : Answered (before ++ .observation id content :: after)) :
    ∃ earlier text call, before = earlier ++ [.assistant text (some call)] ∧ call.id = id := by
  generalize hms : before ++ .observation id content :: after = ms at h
  induction h generalizing before with
  | nil => exact absurd hms (List.append_ne_nil_of_right_ne_nil before (List.cons_ne_nil _ _))
  | @plain m ms hm _ ih =>
    cases before with
    | nil =>
      obtain ⟨rfl, -⟩ := List.cons.inj hms
      exact hm.elim
    | cons m' before =>
      obtain ⟨earlier, text, call, rfl, hid⟩ := ih (List.cons.inj hms).2
      exact ⟨m' :: earlier, text, call, rfl, hid⟩
  | @pair text' call' content' ms _ ih =>
    match before with
    | [] =>
      obtain ⟨hm, -⟩ := List.cons.inj hms
      cases hm
    | [m] =>
      obtain ⟨rfl, hrest⟩ := List.cons.inj hms
      obtain ⟨hm, -⟩ := List.cons.inj hrest
      cases hm
      exact ⟨[], text', call', rfl, rfl⟩
    | m :: m' :: before =>
      obtain ⟨-, hrest⟩ := List.cons.inj hms
      obtain ⟨earlier, text, call, rfl, hid⟩ := ih (List.cons.inj hrest).2
      exact ⟨m :: m' :: earlier, text, call, rfl, hid⟩

end Answered

namespace Run

/-! ## What a turn leaves -/

/-- What a turn leaves in the conversation: the engine is asked in a session and a world, and what
happens is recorded as a step. -/
inductive Block (cfg : RunConfig) (engine : Engine) (s : Session) (w : World) (step : Step) :
    List Message → Prop
  /-- A breach of the protocol is not answered. -/
  | breach {r : Refusal} (hturn : engine s.asked.length = .error (.refused r))
      (hkind : r.kind = .protocol) (hstep : step = refusedStep s.nextNumber r) :
      Block cfg engine s w step []
  /-- Any other failure of the engine is reported to it. -/
  | failure {r : Refusal} (hturn : engine s.asked.length = .error (.refused r))
      (hkind : r.kind = .external ∨ r.kind = .timeout)
      (hstep : step = refusedStep s.nextNumber r) :
      Block cfg engine s w step
        [.user (Wording.failure (.str engineStep) r.kind.label r.message)]
  /-- A final answer that comes too early is kept and corrected, and the step shows the
  correction. -/
  | correction {reply : Reply} (hturn : engine s.asked.length = .ok reply)
      (hfinal : reply.call = none) (hopen : s.state.isComplete = false)
      (hstep : step = correctedStep s.nextNumber s.state reply) :
      Block cfg engine s w step [.assistant reply.text none, .user step.output]
  /-- A call that is carried out is kept and answered by its observation. -/
  | call {reply : Reply} {call : ToolCall} {done : Executed} {w' : World}
      (hturn : engine s.asked.length = .ok reply) (hcall : reply.call = some call)
      (hrun : (executeTool cfg call s.state s.nextNumber).run w = (.ok done, w'))
      (hstep : step = done.step) :
      Block cfg engine s w step
        [.assistant reply.text (some call), .observation call.id done.observation]

/-- What a turn leaves in the conversation is answered in itself. -/
theorem Block.answered {cfg : RunConfig} {engine : Engine} {s : Session} {w : World} {step : Step}
    {ms : List Message} (h : Block cfg engine s w step ms) : Answered ms := by
  cases h with
  | breach => exact .nil
  | failure => exact .plain trivial .nil
  | correction => exact .plain trivial (.plain trivial .nil)
  | call => exact .pair .nil

namespace Occurrence

/-- The messages that an occurrence leaves in the conversation. -/
def messages : Occurrence → List Message
  | refused r _ =>
    match r.kind with
    | .protocol => []
    | _ => [.user (Wording.failure (.str engineStep) r.kind.label r.message)]
  | corrected reply step => [reply.message, .user step.output]
  | failed reply call done => [reply.message, .observation call.id done.observation]
  | finished reply call _ _ _ done => [reply.message, .observation call.id done.observation]

end Occurrence

section Turns

variable {cfg : RunConfig} {engine : Engine} {s s' : Session} {w w' : World} {o : Occurrence}

/-- Every turn adds its messages behind the conversation. -/
theorem Advance.messages_eq (h : Advance cfg engine s w o s' w') :
    s'.messages = s.messages ++ o.messages := by
  cases h with
  | @refused r hturn hr =>
    rw [refuse, Occurrence.messages]
    cases r.kind with
    | protocol => exact (List.append_nil _).symm
    | validation | namingConflict | ambiguousEdit | external | timeout => rfl
  | corrected => rfl
  | failed | finished =>
    -- the proposal is said before the call is carried out, the observation after it
    exact List.append_assoc _ _ _

/-- The engine fails by a breach of the protocol, by an external failure or by a timeout. -/
theorem isEngineRefusal_iff {r : Refusal} :
    isEngineRefusal r = true ↔ r.kind = .protocol ∨ r.kind = .external ∨ r.kind = .timeout := by
  rw [isEngineRefusal]
  cases r.kind <;> simp

/-- A turn in which a call failed or had an outcome carried the call out. -/
theorem Advance.executeTool_ok {reply : Reply} {call : ToolCall} {done : Executed}
    (h : Advance cfg engine s w o s' w')
    (ho : o = .failed reply call done ∨
      ∃ tool arguments outcome, o = .finished reply call tool arguments outcome done) :
    engine s.asked.length = .ok reply ∧ reply.call = some call ∧
      (executeTool cfg call s.state s.nextNumber).run w = (.ok done, w') := by
  rcases ho with rfl | ⟨tool, arguments, outcome, rfl⟩
  · cases h with
    | failed hturn hcall hrun hanswer hdone =>
      refine ⟨hturn, hcall, ?_⟩
      rw [executeTool_run, hrun]
      dsimp only
      rw [hanswer]
      dsimp only
      rw [hdone]
  · cases h with
    | finished hturn hcall hfind hparse hrun hdone =>
      refine ⟨hturn, hcall, ?_⟩
      rw [executeTool_run, performCall_ok_iff.mpr ⟨_, hfind, hparse, hrun⟩]
      dsimp only
      rw [hdone]

/-- The messages of a turn are the block of its step. -/
theorem Advance.block (h : Advance cfg engine s w o s' w') :
    Block cfg engine s w o.step o.messages := by
  cases ho : o with
  | refused r step =>
    subst ho
    cases h with
    | refused hturn hr =>
      rw [Occurrence.messages]
      rcases isEngineRefusal_iff.mp hr with hk | hk | hk
      · rw [hk]
        exact .breach hturn hk rfl
      · have hreport : Block cfg engine s w (refusedStep s.nextNumber r) _ :=
          .failure hturn (.inl hk) rfl
        rw [hk] at hreport ⊢
        exact hreport
      · have hreport : Block cfg engine s w (refusedStep s.nextNumber r) _ :=
          .failure hturn (.inr hk) rfl
        rw [hk] at hreport ⊢
        exact hreport
  | corrected reply step =>
    subst ho
    cases h with
    | corrected hturn hfinal hopen =>
      rw [Occurrence.messages, Reply.message, hfinal]
      exact .correction hturn hfinal hopen rfl
  | failed reply call done =>
    obtain ⟨hturn, hcall, hrun⟩ := h.executeTool_ok (.inl ho)
    rw [Occurrence.messages, Reply.message, hcall]
    exact .call hturn hcall hrun rfl
  | finished reply call tool arguments outcome done =>
    obtain ⟨hturn, hcall, hrun⟩ := h.executeTool_ok (.inr ⟨tool, arguments, outcome, ho⟩)
    rw [Occurrence.messages, Reply.message, hcall]
    exact .call hturn hcall hrun rfl

end Turns

/-! ## The conversation at a point of a run -/

/-- What the engine is shown first: its instructions and the opening. -/
def preamble (cfg : RunConfig) (request : Text) : List Message :=
  [.instructions,
    .user (Wording.opening (Segmentation.ofRequest Catalog.table request) cfg.dryRun)]

/-- The conversation after a history. -/
def conversation (cfg : RunConfig) (request : Text) (history : List Occurrence) : List Message :=
  preamble cfg request ++ history.flatMap Occurrence.messages

/-- With a longer history, the conversation goes on where it was. -/
theorem conversation_append (cfg : RunConfig) (request : Text) (history rest : List Occurrence) :
    conversation cfg request (history ++ rest)
      = conversation cfg request history ++ rest.flatMap Occurrence.messages := by
  rw [conversation, conversation, List.flatMap_append, List.append_assoc]

section Points

variable {cfg : RunConfig} {engine : Engine} {request : Text} {w₀ w : World} {s : Session}
  {history : List Occurrence}

/-- **The conversation invariant.** At every point a run comes to, the conversation is the one of
its history. -/
theorem Reached.messages_eq (h : Reached cfg engine request w₀ history s w) :
    s.messages = conversation cfg request history := by
  induction h with
  | origin => rfl
  | next _ _ ha ih =>
    rw [ha.messages_eq, ih, conversation_append, List.flatMap_singleton]

/-- At every point a run comes to, the conversation is answered. -/
theorem Reached.answered (h : Reached cfg engine request w₀ history s w) :
    Answered s.messages := by
  induction h with
  | origin => exact .plain trivial (.plain trivial .nil)
  | next _ _ ha ih =>
    rw [ha.messages_eq]
    exact ih.append ha.block.answered

/-- A run comes to a point after each part of its history. -/
theorem Reached.take (h : Reached cfg engine request w₀ history s w) (k : Nat) :
    ∃ s₁ w₁, Reached cfg engine request w₀ (history.take k) s₁ w₁ := by
  by_cases hk : k < history.length
  · have hsplit : history.take k ++ history[k] :: history.drop (k + 1) = history := by
      rw [List.getElem_cons_drop, List.take_append_drop]
    rw [← hsplit] at h
    obtain ⟨s₁, w₁, -, -, hr, -⟩ := h.split
    exact ⟨s₁, w₁, hr⟩
  · rw [List.take_of_length_le (by omega)]
    exact ⟨s, w, h⟩

/-- The lengths that are noted when the engine is asked are those of the conversations it is
shown. -/
theorem Reached.asked_eq (h : Reached cfg engine request w₀ history s w) :
    s.asked = (List.range history.length).map fun k =>
      (conversation cfg request (history.take k)).length := by
  induction h with
  | origin => rfl
  | @next history s s' w w' o hr _ ha ih =>
    have hbefore : ∀ k ∈ List.range history.length,
        (conversation cfg request (history.take k)).length
          = (conversation cfg request ((history ++ [o]).take k)).length := by
      intro k hk
      rw [List.take_append_of_le_length (Nat.le_of_lt (List.mem_range.mp hk))]
    rw [ha.asked_eq, Session.ask, ih, List.map_congr_left hbefore, hr.messages_eq,
      List.length_append, List.length_singleton, List.range_succ, List.map_append,
      List.map_singleton, List.take_left]

/-- Every noted length is that of the conversation after the part of the history before it. -/
theorem Reached.length_of_asked (h : Reached cfg engine request w₀ history s w) {k n : Nat}
    (hn : s.asked[k]? = some n) :
    k < history.length ∧ n = (conversation cfg request (history.take k)).length := by
  rw [h.asked_eq, List.getElem?_map, Option.map_eq_some_iff] at hn
  obtain ⟨j, hj, rfl⟩ := hn
  obtain ⟨hlt, rfl⟩ := List.getElem?_eq_some_iff.mp hj
  rw [List.length_range] at hlt
  rw [List.getElem_range]
  exact ⟨hlt, rfl⟩

/-- The last turn of a run asks at most once more, and it takes nothing back of what was said. -/
theorem Ends.last_said {last : Session} {v : Verdict} {w' : World}
    (h : Ends cfg engine request w₀ history s w (.ok (last, v)) w') :
    s.messages <+: last.messages ∧
      (last.asked = s.asked ∨ last.asked = s.asked ++ [s.messages.length]) := by
  cases h with
  | exhausted => exact ⟨List.prefix_rfl, .inl rfl⟩
  | halted _ _ hh =>
    cases hh with
    | answered | interrupted => exact ⟨List.prefix_rfl, .inr rfl⟩
    | cut => exact ⟨List.prefix_append _ _, .inr rfl⟩

/-- When a run ends with a verdict, the engine was asked after every part of the history but the
whole, and maybe after the whole as well; what it was shown is a beginning of the conversation. -/
theorem Ends.shown {last : Session} {v : Verdict} {w' : World}
    (h : Ends cfg engine request w₀ history s w (.ok (last, v)) w') :
    history.length ≤ last.asked.length ∧ ∀ k n, last.asked[k]? = some n →
      k ≤ history.length ∧ last.messages.take n = conversation cfg request (history.take k) := by
  have hr := h.reached
  have hlen := hr.length_asked
  obtain ⟨⟨tail, htail⟩, hasked⟩ := h.last_said
  have hshown : ∀ k, last.messages.take (conversation cfg request (history.take k)).length
      = conversation cfg request (history.take k) := by
    intro k
    have hgrown := conversation_append cfg request (history.take k) (history.drop k)
    rw [List.take_append_drop] at hgrown
    rw [← htail, hr.messages_eq, hgrown, List.append_assoc, List.take_left]
  rcases hasked with heq | heq
  · refine ⟨by rw [heq]; omega, fun k n hn => ?_⟩
    rw [heq] at hn
    obtain ⟨hlt, rfl⟩ := hr.length_of_asked hn
    exact ⟨Nat.le_of_lt hlt, hshown k⟩
  · refine ⟨by rw [heq, List.length_append]; omega, fun k n hn => ?_⟩
    rw [heq] at hn
    rcases Nat.lt_or_ge k s.asked.length with hlt | hge
    · rw [List.getElem?_append_left hlt] at hn
      obtain ⟨hlt', rfl⟩ := hr.length_of_asked hn
      exact ⟨Nat.le_of_lt hlt', hshown k⟩
    · -- the last question is asked after the whole history
      rw [List.getElem?_append_right hge, List.getElem?_singleton, Option.ite_none_right_eq_some]
        at hn
      obtain ⟨hk, hn⟩ := hn
      obtain rfl : k = history.length := by omega
      have hwhole := hshown history.length
      rw [List.take_length, ← hr.messages_eq, Option.some.inj hn] at hwhole
      rw [List.take_length, ← hr.messages_eq]
      exact ⟨Nat.le_refl _, hwhole⟩

/-- What is said of the conversation at a point of a run. -/
structure WellFormed (cfg : RunConfig) (engine : Engine) (request : Text) (w₀ : World)
    (history : List Occurrence) (s : Session) : Prop where
  /-- The conversation is the opening, and then what each turn left, in order. -/
  messages_eq : s.messages = preamble cfg request ++ (history.map Occurrence.messages).flatten
  /-- Every turn left the block of its step, and until then the conversation was a beginning of the
  one now. -/
  block : ∀ before o after, history = before ++ o :: after → ∃ s₁ w₁,
    Reached cfg engine request w₀ before s₁ w₁ ∧ s₁.messages <+: s.messages ∧
      s₁.messages = preamble cfg request ++ (before.map Occurrence.messages).flatten ∧
      Block cfg engine s₁ w₁ o.step o.messages
  /-- Every call is followed by an observation under its id. -/
  answer : ∀ before text call after, s.messages = before ++ .assistant text (some call) :: after →
    ∃ content rest, after = .observation call.id content :: rest
  /-- Every observation follows the call of its id. -/
  question : ∀ before id content after, s.messages = before ++ .observation id content :: after →
    ∃ earlier text call, before = earlier ++ [.assistant text (some call)] ∧ call.id = id

/-- At every point a run comes to, the conversation is well formed. -/
theorem Reached.wellFormed (h : Reached cfg engine request w₀ history s w) :
    WellFormed cfg engine request w₀ history s where
  messages_eq := h.messages_eq
  block := by
    rintro before o after rfl
    obtain ⟨s₁, w₁, s₂, w₂, hr, -, ha, -⟩ := h.split
    refine ⟨s₁, w₁, hr, ?_, hr.messages_eq, ha.block⟩
    rw [hr.messages_eq, h.messages_eq, conversation_append]
    exact List.prefix_append _ _
  answer := by
    intro before text call after heq
    exact (heq ▸ h.answered).observation_of_call
  question := by
    intro before id content after heq
    exact (heq ▸ h.answered).call_of_observation

/-- **Well-formed conversation.** At every point a run comes to, the steps are those of the history
and the conversation is the opening and then one block for each step, in order, in which every call
is answered by the next message and nothing else is. A run that is reported has asked the engine
after every part of its history, the whole possibly left out, and each time it has shown it the
conversation of that part, which is a beginning of the conversation at the end. -/
theorem conversation_wellFormed (cfg : RunConfig) (engine : Engine) (request : Text) (w₀ : World) :
    (∀ history s w, Reached cfg engine request w₀ history s w →
      s.steps = history.map Occurrence.step ∧ WellFormed cfg engine request w₀ history s) ∧
    ∀ id result last w', (perform cfg engine id request).run w₀ = (.ok (result, last), w') →
      ∃ history : List Occurrence, result.steps = history.map Occurrence.step ∧
        history.length ≤ last.asked.length ∧
        ∀ k n, last.asked[k]? = some n → k ≤ history.length ∧
          ∃ s w, Reached cfg engine request w₀ (history.take k) s w ∧
            last.messages.take n = s.messages := by
  refine ⟨fun history s w h => ⟨h.steps_eq, h.wellFormed⟩, ?_⟩
  intro id result last w' hrun
  have hb := one_le_budget_of_perform_ok hrun
  obtain ⟨history, s, w, v, hend, rfl⟩ := (perform_ok_iff hb).mp hrun
  obtain ⟨hsteps, -⟩ := hend.last_eq
  obtain ⟨hlen, hshown⟩ := hend.shown
  refine ⟨history, hsteps.trans hend.reached.steps_eq, hlen, fun k n hn => ?_⟩
  obtain ⟨hk, htake⟩ := hshown k n hn
  obtain ⟨s₁, w₁, hr⟩ := hend.reached.take k
  exact ⟨hk, s₁, w₁, hr, htake.trans hr.messages_eq.symm⟩

end Points

/-- An engine whose turns are of every kind: a breach of the protocol, a timeout, a final answer,
and from then on calls of a tool that does not exist. -/
def mixedEngine : Engine
  | 0 => .error (.refused .emptyAnswer)
  | 1 => .error (.refused (.engineTimeout "30"))
  | 2 => .ok { text := some "done", call := none }
  | _ =>
    .ok { text := none
          call := some { id := .str "call_1", name := .str "nothing", arguments := .str "\x7b\x7d" } }

/-- A run of four steps with that engine, in which one entity is found: nothing is said in the first
step, one message in the second and two in each of the others. -/
theorem conversation_of_mixed_turns : ∃ result last w',
    (perform { RunConfig.single false with budget := 4 } mixedEngine "run" "recent").run .bare
        = (.ok (result, last), w') ∧
      last.asked = [2, 2, 3, 5] ∧ last.messages.length = 7 ∧
      ∃ history : List Occurrence, result.steps = history.map Occurrence.step ∧
        history.length ≤ last.asked.length ∧
        ∀ k n, last.asked[k]? = some n → k ≤ history.length ∧
          ∃ s w, Reached { RunConfig.single false with budget := 4 } mixedEngine "recent" .bare
            (history.take k) s w ∧ last.messages.take n = s.messages := by
  have hsaid : ((perform { RunConfig.single false with budget := 4 } mixedEngine "run"
      "recent").run .bare).1.toOption.map (fun p => (p.2.asked, p.2.messages.length))
        = some ([2, 2, 3, 5], 7) := by decide +kernel
  obtain ⟨⟨result, last⟩, hok, hsaid⟩ := Effect.result_ok_of_map hsaid
  obtain ⟨hasked, hlength⟩ := Prod.mk.inj hsaid
  obtain ⟨-, hpoints⟩ := conversation_wellFormed { RunConfig.single false with budget := 4 }
    mixedEngine "recent" .bare
  have hrun : (perform { RunConfig.single false with budget := 4 } mixedEngine "run" "recent").run
      .bare = (.ok (result, last), _) := Prod.ext hok rfl
  exact ⟨result, last, _, hrun, hasked, hlength, hpoints "run" result last _ hrun⟩

end Run

end Tablewright
