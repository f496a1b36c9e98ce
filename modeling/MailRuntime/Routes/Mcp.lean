import MailRuntime.Auth.AccessTokens
import MailRuntime.Routes.McpTransport

/-!
# The methods of `/mcp`

The handler of `POST /mcp` in `routes/mcp.ts`. The tools, with what is listed of them, and the
call of one, which may change anything and may fail, are parameters; so is what `initialize`
says of the runtime.
-/

namespace MailRuntime.Mcp

open Js Auth

/-- `ToolDescriptor`: what `tools/list` says of it is `listed`. -/
structure ToolDescriptor where
  name : String
  requiredScopes : List String
  listed : Json

/-- How a call of a tool fails. -/
inductive ToolFailure where
  /-- `McpToolError`. -/
  | tool (errorCode message : String) (data : Option Json)
  /-- Another error, marked by `markSideEffectCommitted`. -/
  | committed
  /-- Another error with its message, or something else that was thrown. -/
  | other (message : Option String)

/-- A request to `/mcp` and the server it comes to; `W` is all that a call of a tool changes. -/
structure Server (W : Type) where
  mac : Mac
  signed : W → Signed
  signingSecret : String
  authorization : Option String
  now : W → Int
  metadata : Json
  toolDefinitions : List ToolDescriptor
  callTool : String → Fields → W → Except ToolFailure Json × W

variable {W : Type}

/-- `MAILBOX_SCOPED_HIDDEN_TOOLS`. -/
def mailboxScopedHiddenTools : List String := ["create_agent", "bind_mailbox", "upsert_agent_policy"]

/-- `AGENT_BOUND_HIDDEN_TOOLS`. -/
def agentBoundHiddenTools : List String := [
  "bind_mailbox", "upsert_agent_policy", "reply_to_inbound_email", "operator_manual_send",
  "list_agent_tasks", "create_draft", "get_draft", "send_draft", "cancel_draft", "send_email",
  "reply_to_message"]

/-- `filterToolsForClaims`. -/
def filterToolsForClaims (tools : List ToolDescriptor) (claims : Json) : List ToolDescriptor :=
  let fields := fieldsOf (some claims)
  let scopes := (asArray (fields.lookup "scopes")).getD []
  tools.filter fun tool =>
    (tool.requiredScopes.all fun scope =>
      scopes.any fun granted => string (some granted) == some scope) &&
    !(!((asArray (fields.lookup "mailboxIds")).getD []).isEmpty &&
      mailboxScopedHiddenTools.contains tool.name) &&
    !(!isTruthy (fields.lookup "agentId") && agentBoundHiddenTools.contains tool.name)

/-- `toolErrorPayload`. -/
def toolErrorPayload (errorCode message : String) (details : Option Json) : Json :=
  .obj [("error", .obj (Draft.stored [("code", some (.str errorCode)),
    ("message", some (.str message)), ("details", details)]))]

/-- The fields of `toToolContent`. -/
def toToolContent (payload : Json) : Fields := [
  ("content", .arr [.obj [("type", .str "text"),
    ("text", .str (String.ofList (prettyChars 0 payload)))]]),
  ("structuredContent", payload)]

/-- The result of a call that failed. -/
def toolFailureResult : ToolFailure → Json
  | .tool errorCode message data =>
    .obj (("isError", .bool true) :: toToolContent (toolErrorPayload errorCode message data))
  | .committed =>
    .obj (("isError", .bool true) :: toToolContent (toolErrorPayload "conflict"
      ("Request may have partially succeeded after creating server-side state. Retry only with " ++
        "the same idempotency key or inspect draft/outbound state before retrying.") none))
  | .other message =>
    .obj (("isError", .bool true) :: toToolContent (toolErrorPayload "tool_internal_error"
      (message.getD "Tool call failed") none))

/-- The result of `initialize`. -/
def initializeResult (metadata : Json) : Json := .obj [
  ("protocolVersion", .str "2025-03-26"),
  ("serverInfo", .obj [("name", .str "mailagents-runtime"), ("version", .str "0.1.0")]),
  ("capabilities", .obj [("tools", .obj [])]),
  ("meta", metadata)]

/-- `tools/list`. -/
def listTools (server : Server W) (id : Json) (w : W) : Handled × W :=
  match requireAuth server.mac (server.signed w) server.signingSecret server.authorization []
      (server.now w) with
  | .threw => (.threw, w)
  | .refused _ error =>
    (.answered (some (jsonRpcError id (-32001) "Unauthorized" (some (.obj [
      ("errorCode", .str "auth_unauthorized"), ("details", .obj [("error", .str error)])])))), w)
  | .granted claims =>
    (.answered (some (jsonRpcResult id (.obj [("tools",
      .arr ((filterToolsForClaims server.toolDefinitions claims).map ToolDescriptor.listed))]))), w)

/-- `tools/call`. -/
def callToolMethod (server : Server W) (id : Json) (params : Option Json) (w : W) :
    Envelope × W :=
  match asRecord params with
  | none => (jsonRpcError id (-32602) "params must be an object" none, w)
  | some params =>
    match params.lookup "name" with
    | none => (jsonRpcError id (-32602) "Missing required parameter: name" none, w)
    | some name =>
      match (string (some name)).filter fun toolName => truthy (trim toolName) with
      | none => (jsonRpcError id (-32602) "name must be a non-empty string" none, w)
      | some toolName =>
        if server.toolDefinitions.all fun tool => tool.name != toolName then
          (jsonRpcError id (-32602) "Unknown tool" none, w)
        else
          match asRecord (orNullish (params.lookup "arguments") (some (.obj []))) with
          | none => (jsonRpcResult id (toolFailureResult
              (.tool "invalid_arguments" "params must be an object" none)), w)
          | some arguments =>
            match server.callTool toolName arguments w with
            | (.ok result, w) => (jsonRpcResult id (.obj (toToolContent result)), w)
            | (.error failure, w) => (jsonRpcResult id (toolFailureResult failure), w)

/-- The handler of `POST /mcp`. -/
def mcpHandler (server : Server W) : Handler W := fun rpc w =>
  let id := (rpc.lookup "id").getD .null
  let method := string (rpc.lookup "method")
  if method = some "notifications/initialized" then (.answered none, w)
  else if method = some "initialize" then
    (.answered (some (jsonRpcResult id (initializeResult server.metadata))), w)
  else if method = some "tools/list" then listTools server id w
  else if method = some "tools/call" then
    let (response, w) := callToolMethod server id (rpc.lookup "params") w
    (.answered (some response), w)
  else (.answered (some (jsonRpcError id (-32601) "Method not found" none)), w)

/-! ### The handler keeps the identifiers -/

/-- The request says that the client is initialized. -/
def saysInitialized (rpc : Fields) : Bool :=
  string (rpc.lookup "method") == some "notifications/initialized"

/-- The check of the request's authorization does not throw. -/
def Server.Authorizes (server : Server W) : Prop :=
  ∀ w, requireAuth server.mac (server.signed w) server.signingSecret server.authorization []
    (server.now w) ≠ .threw

section Handler

variable {server : Server W}

theorem id_callToolMethod (id : Json) (params : Option Json) (w : W) :
    (callToolMethod server id params w).1.id = id := by
  unfold callToolMethod
  split
  · rfl
  · split
    · rfl
    · split
      · rfl
      · split
        · rfl
        · split
          · rfl
          · split <;> rfl

theorem listTools_answers (hauth : server.Authorizes) (id : Json) (w : W) :
    ∃ response, (listTools server id w).1 = .answered (some response) ∧ response.id = id := by
  have hauth := hauth w
  unfold listTools
  split
  · next h => exact absurd h hauth
  · exact ⟨_, rfl, rfl⟩
  · exact ⟨_, rfl, rfl⟩

/-- A request that does not say that the client is initialized is answered under its identifier,
whatever its method. -/
theorem mcpHandler_answers (hauth : server.Authorizes) {rpc : Fields}
    (hsilent : saysInitialized rpc = false) (w : W) :
    ∃ response, (mcpHandler server rpc w).1 = .answered (some response) ∧
      response.id = (rpc.lookup "id").getD .null := by
  have hmethod : ¬ string (rpc.lookup "method") = some "notifications/initialized" := by
    simpa [saysInitialized] using hsilent
  unfold mcpHandler
  dsimp only
  rw [if_neg hmethod]
  split
  · exact ⟨_, rfl, rfl⟩
  · split
    · exact listTools_answers hauth _ w
    · split
      · exact ⟨_, rfl, id_callToolMethod _ _ w⟩
      · exact ⟨_, rfl, rfl⟩

theorem mcpHandler_silence {rpc : Fields} (hsilent : saysInitialized rpc = true) (w : W) :
    mcpHandler server rpc w = (.answered none, w) := by
  have hmethod : string (rpc.lookup "method") = some "notifications/initialized" := by
    simpa [saysInitialized] using hsilent
  unfold mcpHandler
  dsimp only
  rw [if_pos hmethod]

theorem mcpHandler_keeps (hauth : server.Authorizes) : (mcpHandler server).Keeps saysInitialized where
  answers message w _ hid hhas hsilent := by
    obtain ⟨response, hresponse, hrid⟩ := mcpHandler_answers hauth hsilent w
    refine ⟨response, hresponse, ?_⟩
    have hsome : ((fieldsOf (some message)).lookup "id").isSome = true := by
      rw [hasNoId, Option.isNone_eq_false_iff] at hhas
      exact hhas
    obtain ⟨id, hlookup⟩ := Option.isSome_iff_exists.1 hsome
    rw [hrid, hlookup, hid id hlookup]
    rfl
  silence message w hsilent := by rw [mcpHandler_silence hsilent]
  returns message w := by
    cases hsilent : saysInitialized (fieldsOf (some message)) with
    | true =>
      rw [mcpHandler_silence hsilent]
      exact Handled.noConfusion
    | false =>
      obtain ⟨response, hresponse, -⟩ := mcpHandler_answers hauth hsilent w
      rw [hresponse]
      exact Handled.noConfusion

end Handler

/-! ### What a post is answered -/

/-- **A post to `/mcp`** from an allowed origin, with an authorization that can be checked: every
request is handled once and in order; the responses are, in order, one for each message that is
neither a response nor a notification and does not say that the client is initialized, with the
message's identifier; and if there is no such message the reply has status 202 and no content. -/
theorem mcp_answers_each {server : Server W} (hauth : server.Authorizes) {origin : Option String}
    {own : String} (horigin : (resolveAllowedOrigin origin own).isSome = true) {body : Json}
    (hbody : messagesOf body ≠ []) (hids : ∀ message ∈ messagesOf body, HasPlainId message) (w : W) :
    ∃ reply, handleMcpTransportPost (mcpHandler server) origin own (some body) w =
        (some reply, handleAll (mcpHandler server) ((messagesOf body).filter isValidRequest) w) ∧
      List.Forall₂ (Answers (mcpHandler server))
        ((turns (mcpHandler server) (messagesOf body) w).filter fun turn =>
          IsAnswered saysInitialized turn.1) reply.responses ∧
      ((∀ message ∈ messagesOf body, IsAnswered saysInitialized message = false) →
        reply.status = 202 ∧ reply.body = .empty) := by
  obtain ⟨reply, hpost, hanswers, hempty⟩ :=
    run_post (mcpHandler_keeps hauth) horigin hbody hids w
  refine ⟨reply, hpost, hanswers, fun hnone => hempty ?_⟩
  have hturns : ((turns (mcpHandler server) (messagesOf body) w).filter fun turn =>
      IsAnswered saysInitialized turn.1) = [] := by
    rw [List.filter_eq_nil_iff]
    intro turn hturn
    have hmem := message_of_mem_turns hturn
    rw [hnone turn.1 hmem]
    exact Bool.false_ne_true
  rw [hturns] at hanswers
  cases hresponses : reply.responses with
  | nil => rfl
  | cons response rest =>
    rw [hresponses] at hanswers
    cases hanswers

/-- A server without a secret, whose one tool counts its calls. -/
def countingServer : Server Nat where
  mac := sampleMac
  signed _ := []
  signingSecret := ""
  authorization := none
  now _ := 0
  metadata := .null
  toolDefinitions := [⟨"count", [], .str "count"⟩]
  callTool _ _ n := (.ok (.num n), n + 1)

/-- A call of the tool, the same as a notification, a number and a call of no method. -/
def countingBatch : Json := .arr [
  .obj [("jsonrpc", .str "2.0"), ("id", .num 1), ("method", .str "tools/call"),
    ("params", .obj [("name", .str "count")])],
  .obj [("jsonrpc", .str "2.0"), ("method", .str "tools/call"),
    ("params", .obj [("name", .str "count")])],
  .num 5,
  .obj [("jsonrpc", .str "2.0"), ("id", .str "a"), ("method", .str "none")]]

theorem countingBatch_answered :
    ∃ reply, handleMcpTransportPost (mcpHandler countingServer) none "https://a" (some countingBatch)
        0 = (some reply, handleAll (mcpHandler countingServer)
          ((messagesOf countingBatch).filter isValidRequest) 0) ∧
      List.Forall₂ (Answers (mcpHandler countingServer))
        ((turns (mcpHandler countingServer) (messagesOf countingBatch) 0).filter fun turn =>
          IsAnswered saysInitialized turn.1) reply.responses ∧
      ((∀ message ∈ messagesOf countingBatch, IsAnswered saysInitialized message = false) →
        reply.status = 202 ∧ reply.body = .empty) := by
  have hauth : countingServer.Authorizes := by
    intro w h
    cases h
  have hids : ∀ message ∈ messagesOf countingBatch, HasPlainId message := by
    intro message hm id hid
    simp only [messagesOf, countingBatch, List.mem_cons, List.not_mem_nil, or_false] at hm
    obtain rfl | rfl | rfl | rfl := hm
    · obtain rfl : .num 1 = id := Option.some.inj hid
      rfl
    · cases hid
    · cases hid
    · obtain rfl : .str "a" = id := Option.some.inj hid
      rfl
  exact mcp_answers_each hauth (by decide) (by simp [messagesOf, countingBatch]) hids 0

/-- A request with an identifier that says that the client is initialized is not answered. -/
theorem initialized_request_not_answered :
    ∃ message, isJsonRpcResponse message = false ∧ isNotification message = false ∧
      HasPlainId message ∧
      handleMcpTransportPost (mcpHandler countingServer) none "https://a" (some message) 0 =
        (some ⟨202, .empty⟩, 0) := by
  refine ⟨.obj [("jsonrpc", .str "2.0"), ("id", .num 1),
    ("method", .str "notifications/initialized")], by decide, by decide, ?_, by rfl⟩
  intro id hid
  obtain rfl : .num 1 = id := Option.some.inj hid
  rfl

end MailRuntime.Mcp
