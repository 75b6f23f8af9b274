/-
What a chat service may respond.

The protocol has two kinds of reply: a final text, and one call of a named function. `Carries` says
which reply a response carries, read off its parts and in the order of no program; `InProtocol` says
what a reply and the message that is kept of it look like. A response that carries no reply is
refused as a breach of the protocol.

That much holds of every response whose parts have the kinds the reader relies on. `Malformed` lists
the shapes that have not, and the statement is an `↔` (`read_in_protocol_iff`): on every shape of
the list the reader ends in a fault or hands on a name or arguments that are no text.
-/
import Tablewright.Engine.Response
import Tablewright.Proofs.Action
import Tablewright.Proofs.Text.Split

set_option autoImplicit false

namespace Tablewright

/-! ## Replies -/

/-- A reply of the protocol, with the message that is kept of it. -/
inductive Reply.InProtocol (instructions : Text) (reply : Reply) : Prop
  /-- A final text: no call, and a text that is trimmed and not blank. -/
  | final (t : Text) (hfinal : reply.call = none) (htext : reply.text = some t)
      (htrim : Text.trim t = t) (hblank : Text.isBlank t = false)
      (hmessage : reply.message.toJson instructions
        = .obj [("role", .str "assistant"), ("content", .str t)])
  /-- One call of a named function. The message repeats its id, its name and its arguments. -/
  | call (id : Json) (name arguments : Text)
      (hcall : reply.call = some ⟨id, .str name, .str arguments⟩) (hname : name ≠ [])
      (hmessage : reply.message.toJson instructions
        = .obj [("role", .str "assistant"), ("content", Json.ofText? reply.text),
            ("tool_calls", .arr [.obj [("id", id), ("type", .str "function"),
              ("function", .obj [("name", .str name), ("arguments", .str arguments)])]])])

namespace Response

variable {response message raw function : Json} {reply : Reply}

/-! ## The parts of a response -/

/-- The first of the listed choices of a response has a message. -/
def HasMessage (response message : Json) : Prop :=
  ∃ c cs, part? "choices" response = some (.arr (c :: cs)) ∧ part? "message" c = some message

/-- A part that is a text, or the empty text where the part is there and not given. -/
def textPart? (key : Text) (v : Json) : Option Text :=
  match part? key v with
  | some (.str s) => some s
  | some u => if isGiven u then none else some []
  | none => none

/-- The calls of a message: the items of a list, and none where the part is there and not given. A
text stands for its code points, as a list of them would. -/
def callsPart? (message : Json) : Option (List Json) :=
  match part? "tool_calls" message with
  | some (.arr items) => some items
  | some (.str s) => some (s.map fun c => .str [c])
  | some v => if isGiven v then none else some []
  | none => none

/-- What a content says: the trimmed text, if anything is left of it. -/
def said (content : Text) : Option Text :=
  let t := Text.trim content
  if t.isEmpty then none else some t

/-- The reply that a response carries. -/
inductive Carries (response : Json) : Reply → Prop
  /-- A content that is not blank, and no call. -/
  | final {message : Json} {content : Text} (hmessage : HasMessage response message)
      (hcontent : textPart? "content" message = some content) (htext : Text.trim content ≠ [])
      (hcalls : callsPart? message = some []) : Carries response ⟨some (Text.trim content), none⟩
  /-- One call of a function with a name. Arguments that are not given are an empty object. -/
  | call {message raw function id : Json} {content name arguments : Text}
      (hmessage : HasMessage response message)
      (hcontent : textPart? "content" message = some content)
      (hcalls : callsPart? message = some [raw])
      (hfunction : part? "function" raw = some function)
      (hname : part? "name" function = some (.str name)) (hgiven : name ≠ [])
      (hid : part? "id" raw = some id)
      (harguments : textPart? "arguments" function = some arguments) :
      Carries response
        ⟨said content, some ⟨id, .str name, .str (arguments.ifEmpty "\x7b\x7d")⟩⟩

/-- The shapes in which a part of a response has not the kind that the reader relies on. -/
inductive Malformed (response : Json) : Prop
  /-- Choices are given that are no list. -/
  | choices {v : Json} (h : part? "choices" response = some v) (hgiven : isGiven v = true)
      (hlist : ∀ items, v ≠ .arr items) : Malformed response
  /-- The first choice has no message. -/
  | message {c : Json} {cs : List Json} (h : part? "choices" response = some (.arr (c :: cs)))
      (hnone : part? "message" c = none) : Malformed response
  /-- The content of the message is missing, or it is given and no text. -/
  | content {message : Json} (hmessage : HasMessage response message)
      (h : textPart? "content" message = none) : Malformed response
  /-- The calls of the message are missing, or they are given and neither list nor text. -/
  | calls {message : Json} (hmessage : HasMessage response message)
      (h : callsPart? message = none) : Malformed response
  /-- The one call has a name that is no text, no id, or arguments that are missing or given and no
  text. -/
  | call {message raw function name : Json} (hmessage : HasMessage response message)
      (hcalls : callsPart? message = some [raw])
      (hfunction : part? "function" raw = some function)
      (hname : part? "name" function = some name) (hgiven : isGiven name = true)
      (h : (∀ s, name ≠ .str s) ∨ part? "id" raw = none ∨ textPart? "arguments" function = none) :
      Malformed response

/-- A response has one message. -/
theorem HasMessage.unique {message' : Json} (h : HasMessage response message)
    (h' : HasMessage response message') : message' = message := by
  obtain ⟨c, cs, hchoices, hmessage⟩ := h
  obtain ⟨c', cs', hchoices', hmessage'⟩ := h'
  rw [hchoices] at hchoices'
  cases hchoices'
  exact Option.some.inj (hmessage'.symm.trans hmessage)

/-! ## What the reader makes of the parts -/

/-- A part that is there is the part. -/
theorem part_of_some {key : Text} {v u : Json} (h : part? key v = some u) : part key v = .ok u := by
  cases v with
  | obj ms =>
    rw [part]
    change Members.get? key ms = some u at h
    rw [h]
  | null | bool _ | int _ | float _ | str _ | arr _ => cases h

/-- A part that is missing is a fault. -/
theorem part_of_none {key : Text} {v : Json} (h : part? key v = none) :
    part key v = .error (.defect .noPart) := by
  cases v with
  | obj ms =>
    rw [part]
    change Members.get? key ms = none at h
    rw [h]
  | null | bool _ | int _ | float _ | str _ | arr _ => rfl

/-- A content that is a text, or not given, says what it says; any other content is a fault. -/
theorem messageText_eq (message : Json) :
    messageText message =
      match textPart? "content" message with
      | some content => .ok (said content)
      | none => .error (.defect .noPart) := by
  cases hpart : part? "content" message with
  | none => rw [messageText, part_of_none hpart, textPart?, hpart]; rfl
  | some v =>
    rw [messageText, part_of_some hpart, textPart?, hpart]
    cases v with
    | str s => rfl
    | obj ms => rfl
    | null => rfl
    | bool b => cases b <;> rfl
    | int n | float x | arr vs =>
      dsimp only [bind, Except.bind]
      split <;> rfl

/-- Calls that are listed, or not given, are read; any others are a fault. -/
theorem messageCalls_cases (message : Json) :
    (∃ calls, callsPart? message = some calls ∧ messageCalls message = .ok calls) ∨
      callsPart? message = none ∧ ∃ d, messageCalls message = .error (.defect d) := by
  cases hpart : part? "tool_calls" message with
  | none =>
    rw [messageCalls, part_of_none hpart, callsPart?, hpart]
    exact .inr ⟨rfl, _, rfl⟩
  | some v =>
    rw [messageCalls, part_of_some hpart, callsPart?, hpart]
    cases v with
    | arr items => exact .inl ⟨items, rfl, rfl⟩
    | str s => exact .inl ⟨_, rfl, rfl⟩
    | obj ms => exact .inr ⟨rfl, _, rfl⟩
    | null => exact .inl ⟨[], rfl, rfl⟩
    | bool b | int n | float x =>
      dsimp only [bind, Except.bind]
      split
      · exact .inr ⟨rfl, _, rfl⟩
      · exact .inl ⟨[], rfl, rfl⟩

/-- A call without a name that is given is refused. -/
theorem toolCall_nameless
    (h : ∀ function name, part? "function" raw = some function →
      part? "name" function = some name → isGiven name = false) :
    toolCall raw = .error (.refused .namelessCall) := by
  rw [toolCall]
  cases hfunction : part? "function" raw with
  | none => rfl
  | some function =>
    have hname : isGiven ((part? "name" function).getD .null) = false := by
      cases hpart : part? "name" function with
      | none => rfl
      | some name => exact h function name hfunction hpart
    dsimp only
    rw [hname]
    rfl

/-- A call with a name goes on to its id and its arguments. -/
theorem toolCall_named {name : Json} (hfunction : part? "function" raw = some function)
    (hname : part? "name" function = some name) (hgiven : isGiven name = true) :
    toolCall raw = (do
      let id ← part "id" raw
      let arguments ← part "arguments" function
      return ⟨id, name, if isGiven arguments then arguments else .str "{}"⟩) := by
  rw [toolCall, hfunction]
  dsimp only
  rw [hname, Option.getD_some, hgiven]
  rfl

/-- A call with a name is read, or its id or its arguments are missing. -/
theorem toolCall_named_cases {name : Json} (hfunction : part? "function" raw = some function)
    (hname : part? "name" function = some name) (hgiven : isGiven name = true) :
    (∃ d, toolCall raw = .error (.defect d)) ∨ ∃ call, toolCall raw = .ok call := by
  rw [toolCall_named hfunction hname hgiven]
  cases hid : part? "id" raw with
  | none =>
    rw [part_of_none hid]
    exact .inl ⟨_, rfl⟩
  | some id =>
    rw [part_of_some hid]
    cases harguments : part? "arguments" function with
    | none =>
      rw [part_of_none harguments]
      exact .inl ⟨_, rfl⟩
    | some arguments =>
      rw [part_of_some harguments]
      exact .inr ⟨_, rfl⟩

/-- A call whose name and arguments are texts is read as it stands. -/
theorem toolCall_of_texts {id : Json} {name arguments : Text}
    (hfunction : part? "function" raw = some function)
    (hname : part? "name" function = some (.str name)) (hgiven : name ≠ [])
    (hid : part? "id" raw = some id)
    (harguments : textPart? "arguments" function = some arguments) :
    toolCall raw = .ok ⟨id, .str name, .str (arguments.ifEmpty "{}")⟩ := by
  have hname' : isGiven (.str name) = true := by simpa [isGiven, Json.isGiven] using hgiven
  rw [toolCall_named hfunction hname hname', part_of_some hid]
  -- empty arguments and arguments that are not given are both read as an empty object
  rw [textPart?] at harguments
  cases hpart : part? "arguments" function with
  | none =>
    rw [hpart] at harguments
    cases harguments
  | some v =>
    rw [hpart] at harguments
    rw [part_of_some hpart]
    cases v with
    | str s =>
      obtain rfl := Option.some.inj harguments
      cases s <;> rfl
    | null | bool _ | int _ | float _ | arr _ | obj _ =>
      dsimp only [bind, Except.bind] at harguments ⊢
      split at harguments
      case isTrue => cases harguments
      case isFalse hnone =>
        obtain rfl := Option.some.inj harguments
        rw [if_neg hnone]
        rfl

/-! ## The whole response -/

/-- The first of the listed choices is the one that is read. -/
theorem firstChoice_of_list {c : Json} {cs : List Json}
    (h : part? "choices" response = some (.arr (c :: cs))) : firstChoice response = .ok c := by
  rw [firstChoice, h]
  rfl

/-- What is read of a response with a message is read of the message. -/
theorem read_of_message (hmessage : HasMessage response message) :
    read response = (do
      let text ← messageText message
      let calls ← messageCalls message
      match calls with
      | [] => if text.isNone then throw (.refused .emptyAnswer) else return ⟨text, none⟩
      | [raw] => return ⟨text, some (← toolCall raw)⟩
      | _ => throw (.refused (.manyToolCalls calls.length))) := by
  obtain ⟨c, cs, hchoices, hpart⟩ := hmessage
  rw [read, firstChoice_of_list hchoices]
  change (part "message" c >>= _) = _
  rw [part_of_some hpart]
  rfl

/-- What is made of a content and of the calls beside it. -/
def replyOf (content : Text) : List Json → Turn
  | [] => if (said content).isNone then .error (.refused .emptyAnswer) else .ok ⟨said content, none⟩
  | [raw] => (toolCall raw).map fun call => ⟨said content, some call⟩
  | calls => .error (.refused (.manyToolCalls calls.length))

/-- A message whose content and calls are of the right kind is read by how many calls there are. -/
theorem read_of_parts {content : Text} {calls : List Json} (hmessage : HasMessage response message)
    (hcontent : textPart? "content" message = some content)
    (hcalls : callsPart? message = some calls) : read response = replyOf content calls := by
  rw [read_of_message hmessage, messageText_eq, hcontent]
  rcases messageCalls_cases message with ⟨calls', hcalls', hread⟩ | ⟨hnone, -⟩
  · obtain rfl := Option.some.inj (hcalls'.symm.trans hcalls)
    rw [hread]
    match calls' with
    | [] => rfl
    | [raw] =>
      change (do return ⟨said content, some (← toolCall raw)⟩ : Turn) = (toolCall raw).map _
      cases toolCall raw <;> rfl
    | _ :: _ :: _ => rfl
  · rw [hcalls] at hnone
    cases hnone

/-- A response that carries a reply is read as it. -/
theorem Carries.read_eq (h : Carries response reply) : read response = .ok reply := by
  cases h with
  | final hmessage hcontent htext hcalls =>
    rw [read_of_parts hmessage hcontent hcalls, replyOf]
    simp [said, htext]
  | call hmessage hcontent hcalls hfunction hname hgiven hid harguments =>
    rw [read_of_parts hmessage hcontent hcalls, replyOf,
      toolCall_of_texts hfunction hname hgiven hid harguments]
    rfl

/-- A reply that a response carries is one of the protocol. -/
theorem Carries.inProtocol (h : Carries response reply) (instructions : Text) :
    reply.InProtocol instructions := by
  cases h with
  | final _ _ htext _ =>
    exact .final _ rfl rfl (Text.trim_trim _) (Text.isBlank_trim htext) rfl
  | call _ _ _ _ _ hgiven _ _ => exact .call _ _ _ rfl hgiven rfl

/-- A response that carries a reply has a message whose content and calls are of the right kind. -/
theorem Carries.parts (h : Carries response reply) :
    ∃ message content calls, HasMessage response message ∧
      textPart? "content" message = some content ∧ callsPart? message = some calls := by
  cases h with
  | final hmessage hcontent _ hcalls => exact ⟨_, _, _, hmessage, hcontent, hcalls⟩
  | call hmessage hcontent hcalls => exact ⟨_, _, _, hmessage, hcontent, hcalls⟩

/-- Where a reply is carried, one call of a function with a name has a text for its name, an id, and
arguments of the right kind. -/
theorem Carries.call_parts {name : Json} (h : Carries response reply)
    (hmessage : HasMessage response message) (hone : callsPart? message = some [raw])
    (hfunction : part? "function" raw = some function)
    (hname : part? "name" function = some name) :
    (∃ s, name = .str s) ∧ part? "id" raw ≠ none ∧ textPart? "arguments" function ≠ none := by
  cases h with
  | final hmessage' _ _ hzero =>
    rw [hmessage'.unique hmessage, hzero] at hone
    cases hone
  | @call _ _ _ id _ s arguments hmessage' _ hone' hfunction' hname' _ hid harguments =>
    rw [hmessage'.unique hmessage, hone'] at hone
    cases hone
    obtain rfl := Option.some.inj (hfunction'.symm.trans hfunction)
    refine ⟨⟨s, Option.some.inj (hname.symm.trans hname')⟩, ?_, ?_⟩
    · rw [hid]
      exact Option.some_ne_none id
    · rw [harguments]
      exact Option.some_ne_none arguments

/-- A response that carries a reply has none of the malformed shapes. -/
theorem Carries.not_malformed (h : Carries response reply) : ¬ Malformed response := by
  obtain ⟨message, content, calls, hmessage, hcontent, hcalls⟩ := h.parts
  have hchoices := hmessage
  obtain ⟨c, cs, hlist, hpart⟩ := hchoices
  -- each shape denies a part that is there
  intro hbad
  cases hbad with
  | choices hv _ hno =>
    rw [hlist] at hv
    exact hno _ (Option.some.inj hv).symm
  | message hv hnone =>
    rw [hlist] at hv
    cases hv
    rw [hpart] at hnone
    cases hnone
  | content hm hnone =>
    rw [hmessage.unique hm, hcontent] at hnone
    cases hnone
  | calls hm hnone =>
    rw [hmessage.unique hm, hcalls] at hnone
    cases hnone
  | call hm hone hfunction hname _ hwrong =>
    obtain ⟨⟨s, hs⟩, hid, harguments⟩ := h.call_parts hm hone hfunction hname
    rcases hwrong with hno | hno | hno
    · exact hno s hs
    · exact hid hno
    · exact harguments hno

/-- A malformed response is not refused: reading it ends in a fault, or goes through. -/
theorem Malformed.read_cases (h : Malformed response) :
    (∃ d, read response = .error (.defect d)) ∨ ∃ reply, read response = .ok reply := by
  cases h with
  | @choices v hv hgiven hno =>
    -- a text is taken for its first code point, and that one has no message
    left
    rw [read, firstChoice, hv]
    dsimp only
    rw [hgiven]
    cases v with
    | arr items => exact absurd rfl (hno items)
    | str s =>
      cases s with
      | nil => cases hgiven
      | cons c s => exact ⟨_, rfl⟩
    | null | bool _ | int _ | float _ | obj _ => exact ⟨_, rfl⟩
  | message hv hnone =>
    left
    rw [read, firstChoice_of_list hv]
    change ∃ d, (part "message" _ >>= _) = _
    rw [part_of_none hnone]
    exact ⟨_, rfl⟩
  | content hm hnone =>
    left
    rw [read_of_message hm, messageText_eq, hnone]
    exact ⟨_, rfl⟩
  | @calls message hm hnone =>
    left
    rw [read_of_message hm, messageText_eq]
    rcases messageCalls_cases message with ⟨calls, hcalls, -⟩ | ⟨-, d, hd⟩
    · rw [hnone] at hcalls
      cases hcalls
    · rw [hd]
      cases textPart? "content" message <;> exact ⟨_, rfl⟩
  | @call message raw function name hm hcalls hfunction hname hgiven _ =>
    cases hcontent : textPart? "content" message with
    | none =>
      left
      rw [read_of_message hm, messageText_eq, hcontent]
      exact ⟨_, rfl⟩
    | some content =>
      rw [read_of_parts hm hcontent hcalls, replyOf]
      rcases toolCall_named_cases hfunction hname hgiven with ⟨d, hd⟩ | ⟨call, hcall⟩
      · rw [hd]
        exact .inl ⟨d, rfl⟩
      · rw [hcall]
        exact .inr ⟨_, rfl⟩

/-- Where the response is not malformed, one call beside a content is carried, or it has no name
that is given. -/
theorem carries_or_nameless {content : Text} (h : ¬ Malformed response)
    (hmessage : HasMessage response message)
    (hcontent : textPart? "content" message = some content)
    (hcalls : callsPart? message = some [raw]) :
    (∃ reply, Carries response reply) ∨ toolCall raw = .error (.refused .namelessCall) := by
  by_cases hnamed : ∃ function name, part? "function" raw = some function ∧
      part? "name" function = some name ∧ isGiven name = true
  · left
    obtain ⟨function, name, hfunction, hname, hgiven⟩ := hnamed
    have hkinds := fun hwrong => h (.call hmessage hcalls hfunction hname hgiven hwrong)
    obtain ⟨s, rfl⟩ : ∃ s, name = .str s := by
      by_contra hno
      exact hkinds (.inl fun s hs => hno ⟨s, hs⟩)
    obtain ⟨id, hid⟩ := Option.ne_none_iff_exists'.mp fun hno => hkinds (.inr (.inl hno))
    obtain ⟨arguments, harguments⟩ :=
      Option.ne_none_iff_exists'.mp fun hno => hkinds (.inr (.inr hno))
    have hne : s ≠ [] := by
      rintro rfl
      cases hgiven
    exact ⟨_, .call hmessage hcontent hcalls hfunction hname hne hid harguments⟩
  · right
    refine toolCall_nameless fun function name hfunction hname => ?_
    rw [Bool.eq_false_iff]
    exact fun hgiven => hnamed ⟨function, name, hfunction, hname, hgiven⟩

/-- A response with a message that is not malformed carries a reply, or it is refused as a breach
of the protocol. -/
theorem carries_or_refused_of_message (h : ¬ Malformed response)
    (hmessage : HasMessage response message) :
    (∃ reply, Carries response reply) ∨
      ∃ r : Refusal, read response = .error (.refused r) ∧ r.kind = .protocol := by
  obtain ⟨content, hcontent⟩ : ∃ content, textPart? "content" message = some content :=
    Option.ne_none_iff_exists'.mp fun hnone => h (.content hmessage hnone)
  obtain ⟨calls, hcalls⟩ : ∃ calls, callsPart? message = some calls :=
    Option.ne_none_iff_exists'.mp fun hnone => h (.calls hmessage hnone)
  have hread := read_of_parts hmessage hcontent hcalls
  match calls, hcalls, hread with
  | [], hcalls, hread =>
    -- without a call the content has to say something
    by_cases htext : Text.trim content = []
    · refine .inr ⟨.emptyAnswer, ?_, rfl⟩
      rw [hread, replyOf]
      simp [said, htext]
    · exact .inl ⟨_, .final hmessage hcontent htext hcalls⟩
  | [raw], hcalls, hread =>
    rcases carries_or_nameless h hmessage hcontent hcalls with hcarries | hnameless
    · exact .inl hcarries
    · refine .inr ⟨.namelessCall, ?_, rfl⟩
      rw [hread, replyOf, hnameless]
      rfl
  | _ :: _ :: _, _, hread => exact .inr ⟨_, hread, rfl⟩

/-- A response that is not malformed carries a reply, or it is refused as a breach of the
protocol. -/
theorem carries_or_refused (h : ¬ Malformed response) :
    (∃ reply, Carries response reply) ∨
      ∃ r : Refusal, read response = .error (.refused r) ∧ r.kind = .protocol := by
  cases hchoices : part? "choices" response with
  | none =>
    refine .inr ⟨.noChoices, ?_, rfl⟩
    rw [read, firstChoice, hchoices]
    rfl
  | some v =>
    cases hgiven : isGiven v with
    | false =>
      refine .inr ⟨.noChoices, ?_, rfl⟩
      rw [read, firstChoice, hchoices]
      dsimp only
      rw [hgiven]
      rfl
    | true =>
      obtain ⟨items, rfl⟩ : ∃ items, v = .arr items := by
        by_contra hno
        exact h (.choices hchoices hgiven fun items hv => hno ⟨items, hv⟩)
      cases items with
      | nil => cases hgiven
      | cons c cs =>
        obtain ⟨message, hmessage⟩ :=
          Option.ne_none_iff_exists'.mp fun hno => h (.message hchoices hno)
        exact carries_or_refused_of_message h ⟨c, cs, hchoices, hmessage⟩

/-- **The protocol of responses.** A response that is not malformed is read as the reply it carries,
which is one of the two of the protocol, or it carries none and is refused as a breach of the
protocol; and of a malformed response neither holds. -/
theorem read_in_protocol_iff (instructions : Text) (response : Json) :
    ¬ Malformed response ↔
      (∃ reply, Carries response reply ∧ read response = .ok reply ∧
          reply.InProtocol instructions) ∨
        ((∀ reply, ¬ Carries response reply) ∧
          ∃ r : Refusal, read response = .error (.refused r) ∧ r.kind = .protocol) := by
  constructor
  · intro h
    by_cases hcarries : ∃ reply, Carries response reply
    · obtain ⟨reply, hreply⟩ := hcarries
      exact .inl ⟨reply, hreply, hreply.read_eq, hreply.inProtocol instructions⟩
    · exact .inr ⟨fun reply hreply => hcarries ⟨reply, hreply⟩,
        (carries_or_refused h).resolve_left hcarries⟩
  · -- a malformed response carries nothing, and reading it does not end in a refusal
    rintro (⟨reply, hreply, -, -⟩ | ⟨-, r, hread, -⟩) hbad
    · exact hreply.not_malformed hbad
    · rcases hbad.read_cases with ⟨d, hd⟩ | ⟨reply, hreply⟩
      · rw [hread] at hd
        cases hd
      · rw [hread] at hreply
        cases hreply

/-- A call beside a content is carried with its arguments as they stand, and the reply says what the
content says. -/
theorem read_in_protocol_of_call :
    let response : Json := .obj [("choices", .arr [.obj [("message", .obj [
      ("content", .str " Next. "), ("tool_calls", .arr [.obj [("id", .str "c1"),
        ("function", .obj [("name", .str "run_migration"), ("arguments", .null)])]])])]])]
    ¬ Malformed response ∧
      ((∃ reply, Carries response reply ∧ read response = .ok reply ∧ reply.InProtocol []) ∨
        ((∀ reply, ¬ Carries response reply) ∧
          ∃ r : Refusal, read response = .error (.refused r) ∧ r.kind = .protocol)) := by
  intro response
  have hname : Text.ofString "run_migration" ≠ [] := by decide
  have hcarries : Carries response
      ⟨said " Next. ", some ⟨.str "c1", .str "run_migration", .str (Text.ifEmpty [] "\x7b\x7d")⟩⟩ :=
    .call ⟨_, _, rfl, rfl⟩ rfl rfl rfl rfl hname rfl rfl
  exact ⟨hcarries.not_malformed, (read_in_protocol_iff [] response).mp hcarries.not_malformed⟩

/-- A message whose content is a list of parts, as some services send it, and which proposes no call
is a fault: it is neither read as a reply nor refused as a breach of the protocol. -/
theorem listed_content_not_in_protocol :
    let response : Json := .obj [("choices", .arr [.obj [("message", .obj [
      ("content", .arr [.obj [("type", .str "text"), ("text", .str "hi")]]),
      ("tool_calls", .null)])]])]
    read response = .error (.defect .noPart) ∧
      ¬ ((∃ reply, read response = .ok reply ∧ reply.InProtocol []) ∨
        ∃ r : Refusal, read response = .error (.refused r) ∧ r.kind = .protocol) := by
  intro response
  refine ⟨rfl, ?_⟩
  rintro (⟨reply, hread, -⟩ | ⟨r, hread, -⟩)
  · cases hread
  · cases hread

end Response

end Tablewright
