import MailRuntime.Js.JsonText

/-!
# The MCP transport

`lib/mcp-transport.ts`: what a `POST` with JSON-RPC messages is answered, for any handler of
requests. The handler reads and changes a world of its own; it answers, or answers nothing, or
throws, and then the whole request throws. The headers of the reply are left out.

The run lemma (`run_messages`) says what a batch comes to: each message has its turn, in the
world that the turns before it left, and the answers are those of the turns, in order.
-/

namespace MailRuntime.Mcp

open Js

/-! ### Envelopes -/

/-- The `result` or the `error` of a response. -/
inductive RpcOutcome where
  | result (value : Json)
  | error (code : Int) (message : String) (data : Option Json)

/-- `JsonRpcResponseEnvelope`. -/
structure Envelope where
  id : Json
  outcome : RpcOutcome

/-- `jsonRpcResult`. -/
def jsonRpcResult (id result : Json) : Envelope := ⟨id, .result result⟩

/-- `jsonRpcError`. -/
def jsonRpcError (id : Json) (code : Int) (message : String) (data : Option Json) : Envelope :=
  ⟨id, .error code message data⟩

/-- `extractJsonRpcId`. -/
def extractJsonRpcId (value : Json) : Json :=
  match (fieldsOf (some value)).lookup "id" with
  | some (.str s) => .str s
  | some (.num n) => .num n
  | some (.decimal text) => .decimal text
  | _ => .null

/-- `isJsonRpcRequest`. -/
def isJsonRpcRequest (value : Json) : Bool :=
  (string ((fieldsOf (some value)).lookup "method")).isSome

/-- `value.jsonrpc === "2.0"`. -/
def isVersionTwo (value : Json) : Bool :=
  string ((fieldsOf (some value)).lookup "jsonrpc") == some "2.0"

/-- `isJsonRpcResponse`. -/
def isJsonRpcResponse (value : Json) : Bool :=
  isVersionTwo value && !isJsonRpcRequest value &&
    (((fieldsOf (some value)).lookup "result").isSome ||
      ((fieldsOf (some value)).lookup "error").isSome)

/-- `message.id === undefined`. -/
def hasNoId (message : Json) : Bool := ((fieldsOf (some message)).lookup "id").isNone

/-! ### The handler and the loop -/

/-- What a handler comes to. -/
inductive Handled where
  | threw
  | answered (response : Option Envelope)

variable {W : Type}

/-- A handler of requests. -/
abbrev Handler (W : Type) := Fields → W → Handled × W

/-- `routeJsonRpcMessage`. -/
def routeJsonRpcMessage (handler : Handler W) (message : Json) (w : W) : Handled × W :=
  if isJsonRpcResponse message then (.answered none, w)
  else if !isJsonRpcRequest message || !isVersionTwo message then
    (.answered (some (jsonRpcError (extractJsonRpcId message) (-32600) "Invalid Request" none)), w)
  else
    match handler (fieldsOf (some message)) w with
    | (.threw, w) => (.threw, w)
    | (.answered response, w) => (.answered (if hasNoId message then none else response), w)

/-- The loop over the messages of a batch: the responses, or `none` where it throws. -/
def routeMessages (handler : Handler W) : List Json → W → Option (List Envelope) × W
  | [], w => (some [], w)
  | message :: rest, w =>
    match routeJsonRpcMessage handler message w with
    | (.threw, w) => (none, w)
    | (.answered response, w) =>
      let (responses, w) := routeMessages handler rest w
      (responses.map (response.toList ++ ·), w)

/-- The body of a reply. -/
inductive ReplyBody where
  | empty
  | originNotAllowed
  | one (response : Envelope)
  | many (responses : List Envelope)

/-- A reply: its status and its body. -/
structure Reply where
  status : Nat
  body : ReplyBody

/-- `resolveAllowedOrigin`, of the `origin` header and the request's own origin. -/
def resolveAllowedOrigin (header : Option String) (own : String) : Option String :=
  match header.filter truthy with
  | none => some "*"
  | some origin => if origin = own then some origin else none

/-- The status of the reply to a single message. -/
def Envelope.status (response : Envelope) : Nat :=
  match response.outcome with
  | .error _ _ _ => 400
  | .result _ => 200

/-- `handleMcpTransportPost`: the body is `none` if it is not JSON, the reply where it throws. -/
def handleMcpTransportPost (handler : Handler W) (origin : Option String) (own : String)
    (body : Option Json) (w : W) : Option Reply × W :=
  if (resolveAllowedOrigin origin own).isNone then (some ⟨403, .originNotAllowed⟩, w)
  else
    match body with
    | none => (some ⟨400, .one (jsonRpcError .null (-32700) "Parse error" none)⟩, w)
    | some (.arr []) => (some ⟨400, .one (jsonRpcError .null (-32600) "Invalid Request" none)⟩, w)
    | some (.arr messages) =>
      match routeMessages handler messages w with
      | (none, w) => (none, w)
      | (some [], w) => (some ⟨202, .empty⟩, w)
      | (some responses, w) => (some ⟨200, .many responses⟩, w)
    | some message =>
      match routeJsonRpcMessage handler message w with
      | (.threw, w) => (none, w)
      | (.answered none, w) => (some ⟨202, .empty⟩, w)
      | (.answered (some response), w) => (some ⟨response.status, .one response⟩, w)

/-- The responses of a reply. -/
def Reply.responses (reply : Reply) : List Envelope :=
  match reply.body with
  | .one response => [response]
  | .many responses => responses
  | .empty | .originNotAllowed => []

/-! ### Kinds of messages -/

/-- The messages of a body. -/
def messagesOf : Json → List Json
  | .arr messages => messages
  | message => [message]

/-- The message is a request. -/
def isValidRequest (message : Json) : Bool :=
  !isJsonRpcResponse message && isJsonRpcRequest message && isVersionTwo message

/-- The message is a request without an identifier. -/
def isNotification (message : Json) : Bool := isValidRequest message && hasNoId message

/-- The identifier, if there is one, is a string, a number or `null`. -/
def HasPlainId (message : Json) : Prop :=
  ∀ id, (fieldsOf (some message)).lookup "id" = some id → extractJsonRpcId message = id

/-! ### What a batch comes to -/

/-- The world after a message had its turn. -/
def afterTurn (handler : Handler W) (message : Json) (w : W) : W :=
  if isValidRequest message then (handler (fieldsOf (some message)) w).2 else w

/-- The messages, each with the world in which it has its turn. -/
def turns (handler : Handler W) : List Json → W → List (Json × W)
  | [], _ => []
  | message :: rest, w => (message, w) :: turns handler rest (afterTurn handler message w)

/-- The world after the requests were handled, once each and in order. -/
def handleAll (handler : Handler W) (requests : List Json) (w : W) : W :=
  requests.foldl (fun w request => (handler (fieldsOf (some request)) w).2) w

/-- A message that is answered: it is no response, no notification, and the handler answers
requests with its method. -/
def IsAnswered (silent : Fields → Bool) (message : Json) : Bool :=
  !isJsonRpcResponse message && !isNotification message &&
    !(isValidRequest message && silent (fieldsOf (some message)))

/-- The response to a message: it has its identifier, it is the error of an invalid request or
else what the handler answers in its turn. -/
structure Answers (handler : Handler W) (turn : Json × W) (response : Envelope) : Prop where
  id : response.id = extractJsonRpcId turn.1
  invalid : isValidRequest turn.1 = false →
    response = jsonRpcError (extractJsonRpcId turn.1) (-32600) "Invalid Request" none
  valid : isValidRequest turn.1 = true →
    (handler (fieldsOf (some turn.1)) turn.2).1 = .answered (some response)

/-- How a handler treats requests: it does not throw, and it answers them under their identifier,
except those of certain methods, which it does not answer. -/
structure Handler.Keeps (handler : Handler W) (silent : Fields → Bool) : Prop where
  answers : ∀ (message : Json) (w : W), isValidRequest message = true → HasPlainId message →
    hasNoId message = false → silent (fieldsOf (some message)) = false →
    ∃ response, (handler (fieldsOf (some message)) w).1 = .answered (some response) ∧
      response.id = extractJsonRpcId message
  silence : ∀ (message : Json) (w : W), silent (fieldsOf (some message)) = true →
    (handler (fieldsOf (some message)) w).1 = .answered none
  returns : ∀ (message : Json) (w : W), (handler (fieldsOf (some message)) w).1 ≠ .threw

section Run

variable {handler : Handler W} {silent : Fields → Bool}

theorem message_of_mem_turns {messages : List Json} {w : W} {turn : Json × W}
    (h : turn ∈ turns handler messages w) : turn.1 ∈ messages := by
  induction messages generalizing w with
  | nil => cases h
  | cons message rest ih =>
    unfold turns at h
    rw [List.mem_cons] at h
    obtain rfl | h := h
    · exact List.mem_cons_self
    · exact List.mem_cons_of_mem _ (ih h)

/-- **One turn**: the world goes on as it should, and there is an answer exactly if there should
be one. -/
theorem route_message (hkeeps : handler.Keeps silent) {message : Json} (hid : HasPlainId message)
    (w : W) : ∃ response, routeJsonRpcMessage handler message w =
        (.answered response, afterTurn handler message w) ∧
      if IsAnswered silent message then ∃ r, response = some r ∧ Answers handler (message, w) r
      else response = none := by
  unfold routeJsonRpcMessage afterTurn
  by_cases hresponse : isJsonRpcResponse message = true
  · have hvalid : isValidRequest message = false := by simp [isValidRequest, hresponse]
    have hanswered : IsAnswered silent message = false := by simp [IsAnswered, hresponse]
    refine ⟨none, ?_, ?_⟩
    · rw [if_pos hresponse, hvalid]
      rfl
    · rw [hanswered]
      rfl
  · rw [if_neg hresponse]
    by_cases hrequest : isJsonRpcRequest message = true ∧ isVersionTwo message = true
    · obtain ⟨hmethod, hversion⟩ := hrequest
      have hvalid : isValidRequest message = true := by
        simp [isValidRequest, hresponse, hmethod, hversion]
      rw [if_neg (by simp [hmethod, hversion]), if_pos hvalid]
      have hreturns := hkeeps.returns message w
      cases hhandled : handler (fieldsOf (some message)) w with
      | mk handled w' =>
        rw [hhandled] at hreturns
        cases handled with
        | threw => exact absurd rfl hreturns
        | answered response =>
          refine ⟨if hasNoId message then none else response, rfl, ?_⟩
          by_cases hno : hasNoId message = true
          · have hanswered : IsAnswered silent message = false := by
              simp [IsAnswered, isNotification, hvalid, hno]
            rw [hanswered, if_pos hno]
            rfl
          · rw [if_neg hno]
            have hhas : hasNoId message = false := by simpa using hno
            cases hsilent : silent (fieldsOf (some message)) with
            | true =>
              have hanswered : IsAnswered silent message = false := by
                simp [IsAnswered, hvalid, hsilent]
              have hnone := hkeeps.silence message w hsilent
              rw [hhandled] at hnone
              rw [hanswered]
              exact (Handled.answered.inj hnone)
            | false =>
              have hanswered : IsAnswered silent message = true := by
                simp [IsAnswered, isNotification, hresponse, hvalid, hhas, hsilent]
              obtain ⟨r, hr, hrid⟩ := hkeeps.answers message w hvalid hid hhas hsilent
              rw [hanswered, if_pos rfl]
              have hsame := hr
              rw [hhandled] at hsame
              refine ⟨r, Handled.answered.inj hsame, hrid, ?_, fun _ => hr⟩
              intro hinvalid
              rw [hvalid] at hinvalid
              cases hinvalid
    · have hbad : (!isJsonRpcRequest message || !isVersionTwo message) = true := by
        rw [not_and_or] at hrequest
        obtain h | h := hrequest <;> simp [h]
      have hvalid : isValidRequest message = false := by
        rw [not_and_or] at hrequest
        obtain h | h := hrequest <;> simp [isValidRequest, h]
      have hanswered : IsAnswered silent message = true := by
        simp [IsAnswered, isNotification, hresponse, hvalid]
      rw [if_pos hbad, hvalid, hanswered]
      refine ⟨_, rfl, ?_⟩
      rw [if_pos rfl]
      refine ⟨_, rfl, rfl, fun _ => rfl, ?_⟩
      intro h
      rw [hvalid] at h
      cases h

/-- **A batch**: the messages have their turns in order, and the responses are the answers to
those that are answered, in order. -/
theorem run_messages (hkeeps : handler.Keeps silent) {messages : List Json}
    (hids : ∀ message ∈ messages, HasPlainId message) (w : W) :
    ∃ responses, routeMessages handler messages w =
        (some responses, handleAll handler (messages.filter isValidRequest) w) ∧
      List.Forall₂ (Answers handler)
        ((turns handler messages w).filter fun turn => IsAnswered silent turn.1) responses := by
  induction messages generalizing w with
  | nil => exact ⟨[], rfl, List.Forall₂.nil⟩
  | cons message rest ih =>
    obtain ⟨response, hroute, hanswer⟩ := route_message hkeeps (hids message List.mem_cons_self) w
    obtain ⟨responses, hrest, hanswers⟩ :=
      ih (fun m hm => hids m (List.mem_cons_of_mem _ hm)) (afterTurn handler message w)
    have hworld : handleAll handler ((message :: rest).filter isValidRequest) w =
        handleAll handler (rest.filter isValidRequest) (afterTurn handler message w) := by
      unfold afterTurn
      cases hvalid : isValidRequest message with
      | true => rw [List.filter_cons_of_pos hvalid]; rfl
      | false => rw [List.filter_cons_of_neg (by simp [hvalid])]; rfl
    refine ⟨response.toList ++ responses, ?_, ?_⟩
    · rw [hworld]
      simp only [routeMessages, hroute, hrest, Option.map_some]
    · unfold turns
      cases hanswered : IsAnswered silent message with
      | true =>
        rw [hanswered, if_pos rfl] at hanswer
        obtain ⟨r, rfl, hr⟩ := hanswer
        rw [List.filter_cons_of_pos (by exact hanswered)]
        exact List.Forall₂.cons hr hanswers
      | false =>
        rw [hanswered, if_neg Bool.false_ne_true] at hanswer
        subst hanswer
        rw [List.filter_cons_of_neg (by simp [hanswered])]
        exact hanswers

/-- **A post** from an allowed origin: every request is handled once and in order, the responses
are the answers to the messages that are answered, and if there are none the reply has status 202
and no content. -/
theorem run_post (hkeeps : handler.Keeps silent) {origin : Option String} {own : String}
    (horigin : (resolveAllowedOrigin origin own).isSome = true) {body : Json}
    (hbody : messagesOf body ≠ []) (hids : ∀ message ∈ messagesOf body, HasPlainId message) (w : W) :
    ∃ reply, handleMcpTransportPost handler origin own (some body) w =
        (some reply, handleAll handler ((messagesOf body).filter isValidRequest) w) ∧
      List.Forall₂ (Answers handler)
        ((turns handler (messagesOf body) w).filter fun turn => IsAnswered silent turn.1)
        reply.responses ∧
      (reply.responses = [] → reply.status = 202 ∧ reply.body = .empty) := by
  have hallowed : ¬ (resolveAllowedOrigin origin own).isNone = true := by
    obtain ⟨allowed, h⟩ := Option.isSome_iff_exists.1 horigin
    simp [h]
  obtain ⟨responses, hroute, hanswers⟩ := run_messages hkeeps hids w
  by_cases harr : ∃ messages, body = .arr messages
  · obtain ⟨messages, rfl⟩ := harr
    obtain ⟨message, rest, rfl⟩ := List.exists_cons_of_ne_nil hbody
    have hpost : handleMcpTransportPost handler origin own (some (.arr (message :: rest))) w =
        (match routeMessages handler (message :: rest) w with
        | (none, w) => (none, w)
        | (some [], w) => (some ⟨202, .empty⟩, w)
        | (some responses, w) => (some ⟨200, .many responses⟩, w)) := by
      unfold handleMcpTransportPost
      rw [if_neg hallowed]
    rw [hpost]
    rw [show messagesOf (.arr (message :: rest)) = message :: rest from rfl] at hroute ⊢
    rw [hroute]
    cases responses with
    | nil => exact ⟨⟨202, .empty⟩, rfl, hanswers, fun _ => ⟨rfl, rfl⟩⟩
    | cons response others =>
      refine ⟨⟨200, .many (response :: others)⟩, rfl, hanswers, ?_⟩
      intro h
      cases h
  · have hmessages : messagesOf body = [body] := by
      cases body with
      | arr messages => exact absurd ⟨messages, rfl⟩ harr
      | _ => rfl
    have hpost : handleMcpTransportPost handler origin own (some body) w =
        (match routeJsonRpcMessage handler body w with
        | (.threw, w) => (none, w)
        | (.answered none, w) => (some ⟨202, .empty⟩, w)
        | (.answered (some response), w) => (some ⟨response.status, .one response⟩, w)) := by
      unfold handleMcpTransportPost
      rw [if_neg hallowed]
      cases body with
      | arr messages => exact absurd ⟨messages, rfl⟩ harr
      | _ => rfl
    rw [hmessages] at hroute hanswers ⊢
    rw [hpost]
    simp only [routeMessages] at hroute
    cases hone : routeJsonRpcMessage handler body w with
    | mk handled w' =>
      rw [hone] at hroute
      cases handled with
      | threw => cases hroute
      | answered response =>
        obtain ⟨hresponses, rfl⟩ := Prod.mk.inj hroute
        obtain rfl := Option.some.inj hresponses
        cases response with
        | none => exact ⟨⟨202, .empty⟩, rfl, hanswers, fun _ => ⟨rfl, rfl⟩⟩
        | some response =>
          refine ⟨⟨response.status, .one response⟩, rfl, hanswers, ?_⟩
          intro h
          cases h

end Run

end MailRuntime.Mcp
