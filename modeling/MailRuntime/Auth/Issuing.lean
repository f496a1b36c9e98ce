import MailRuntime.Interaction.Parts
import MailRuntime.Outbound.Authorization
import MailRuntime.Routes.Drafts

/-!
# Who issues tokens

The five places that mint an access token: `POST /v1/auth/tokens`, the tools
`create_access_token` and `bootstrap_mailbox_agent_token` of `routes/admin-mcp.ts`,
`issueSelfServeAccessToken`, and `POST /v1/auth/token/rotate`, which is given a token and mints
one that is good for longer.

Their store is the database, what was signed so far, and a record of who minted a token for which
claims, which no program reads. The checks are statements on the database, one after the other; to
verify a token, and to mint one, are silent steps. Times are in whole seconds, and `expiresAt` is
the time that the source writes as a text.
-/

namespace MailRuntime.Auth

open Js Interaction

/-! ### The store -/

/-- A token was minted for the claims by a call. -/
structure Minting (ι : Type) where
  call : ι
  claims : AccessTokenClaims

/-- The database, what was signed so far, and who minted what. -/
structure Issuer (ι : Type) where
  db : Db
  signed : Signed
  minted : List (Minting ι)

/-- The programs that issue tokens, their statements labelled with the database as they found
it. -/
abbrev AuthOp (ι α : Type) := Prog (Issuer ι) Db Exn α

variable {ι : Type}

/-- A program on the database. -/
def onDb {α : Type} (p : Op α) : AuthOp ι α := p.zoom Issuer.db fun db s => { s with db }

/-- The configuration of those that issue tokens. -/
structure AuthEnv extends Env where
  API_SIGNING_SECRET : String
  ADMIN_API_SECRET : Option String
  ADMIN_ROUTES_ENABLED : Option String
  ADMIN_ROUTES_ALLOW_PUBLIC_HOSTS : Option String
  /-- `SELF_SERVE_ACCESS_TOKEN_TTL_SECONDS`, where `Number.parseInt` reads a positive number. -/
  selfServeTtlSeconds : Option Nat

/-! ### What a token is for -/

/-- All that the claims of a token say, but for when they end. -/
structure Authority where
  sub : String
  tenantId : String
  agentId : Option String
  scopes : List String
  mailboxIds : Option (List String)
deriving DecidableEq, Repr

/-- `mailboxIds ?? []`. -/
def Authority.mailboxes (a : Authority) : List String := a.mailboxIds.getD []

/-- The claims until a time. -/
def Authority.claims (a : Authority) (exp : Int) : AccessTokenClaims where
  sub := a.sub
  tenantId := a.tenantId
  agentId := a.agentId
  scopes := a.scopes
  mailboxIds := a.mailboxIds
  exp := ⟨.num exp, rfl, trivial⟩

/-- A value as an array of strings. -/
def readStrings (v : Json) : Option (List String) :=
  (asArray (some v)).bind fun items => items.mapM fun item => string (some item)

/-- A field that may be missing. -/
def readOptional {α : Type} (read : Json → Option α) : Option Json → Option (Option α)
  | none => some none
  | some v => (read v).map some

/-- `claims as AccessTokenClaims`: the authority and the end of the claims of a token, where they
are of that type. -/
def readClaims (claims : Json) : Option (Authority × Int) := do
  let fields := fieldsOf (some claims)
  let sub ← string (fields.lookup "sub")
  let tenantId ← string (fields.lookup "tenantId")
  let agentId ← readOptional (fun v => string (some v)) (fields.lookup "agentId")
  let scopes ← (fields.lookup "scopes").bind readStrings
  let mailboxIds ← readOptional readStrings (fields.lookup "mailboxIds")
  let exp ← asInteger (fields.lookup "exp")
  pure (⟨sub, tenantId, agentId, scopes, mailboxIds⟩, exp)

/-! ### Verifying and minting -/

section

variable (mac : Mac) (env : AuthEnv) (call : ι)

/-- `requireAuth`, at the time of the call. -/
def authorize (authorization : Option String) (requiredScopes : List String) :
    AuthOp ι Authorization := do
  let now ← onDb (nowIso env.toEnv)
  Prog.draw fun s =>
    (requireAuth mac s.signed env.API_SIGNING_SECRET authorization requiredScopes now, s)

/-- The token of a call for the claims, which is signed and recorded, if the key is one. -/
def Issuer.mint (claims : AccessTokenClaims) (s : Issuer ι) : Option String × Issuer ι :=
  match mintAccessToken mac s.signed env.API_SIGNING_SECRET claims with
  | some (token, signed) =>
    (some token, { s with signed := signed, minted := ⟨call, claims⟩ :: s.minted })
  | none => (none, s)

/-- `mintAccessToken(env.API_SIGNING_SECRET, claims)`, which throws where the key is empty. -/
def mint (claims : AccessTokenClaims) : AuthOp ι String := do
  match ← Prog.draw (Issuer.mint mac env call claims) with
  | some token => pure token
  | none => throw (Exn.error "Zero-length key is not supported")

/-- A token, and when it ends. -/
structure IssuedToken where
  token : String
  expiresAt : Int

/-- `Math.floor(Date.now() / 1000) + seconds`. -/
def expiry (seconds : Int) : AuthOp ι Int := do
  let now ← onDb (nowIso env.toEnv)
  pure (nowSeconds now + seconds)

/-- The token for the authority until a time. -/
def mintUntil (a : Authority) (exp : Int) : AuthOp ι IssuedToken := do
  let token ← mint mac env call (a.claims exp)
  pure ⟨token, exp⟩

/-- The token for the authority for so many seconds. -/
def mintFor (a : Authority) (seconds : Int) : AuthOp ι IssuedToken := do
  let exp ← expiry env seconds
  mintUntil mac env call a exp

/-- `SELF_SERVE_ACCESS_TOKEN_TTL_SECONDS`, or thirty days. -/
def ttlSeconds : Int := env.selfServeTtlSeconds.getD (60 * 60 * 24 * 30)

end

/-! ### Checks -/

/-- The agent of a token, if it has one, is the tenant's. -/
def checkAgent (missing foreign : Exn) (tenantId : String) (agentId : Option String) : Op Unit :=
  match agentId.filter truthy with
  | none => pure ()
  | some agentId => do
    match ← getAgent agentId with
    | none => throw missing
    | some agent => ensure (agent.tenantId == tenantId) foreign

/-- The mailboxes of a token are the tenant's, and active where it matters. -/
def checkMailboxes (missing : String → Exn) (foreign : Exn) (inactive : Option Exn)
    (tenantId : String) : List String → Op Unit
  | [] => pure ()
  | mailboxId :: rest => do
    match ← getMailboxById mailboxId with
    | none => throw (missing mailboxId)
    | some mailbox => do
      ensure (mailbox.tenantId == tenantId) foreign
      ensure (inactive.isNone || mailbox.status == "active") (inactive.getD foreign)
      checkMailboxes missing foreign inactive tenantId rest

/-! ### The administrator's requests -/

/-- What the checks of an administrator's request read of it. -/
structure AdminRequest where
  /-- `new URL(request.url).hostname`. -/
  hostname : String
  /-- The `x-admin-secret` header. -/
  adminSecret : Option String

section

variable (env : AuthEnv)

/-- `parseEnabledFlag(value, false)`. -/
def parseEnabledFlag (value : Option String) : Bool :=
  value.any fun value => ["1", "true", "yes", "on"].contains (env.toLowerCase value)

/-- `isProtectedPublicHostname`. -/
def isProtectedPublicHostname (hostname : String) : Bool :=
  let normalized := env.toLowerCase hostname
  normalized == "mailagents.net" || ".mailagents.net".toList.isSuffixOf normalized.toList

/-- `areAdminRoutesEnabled`. -/
def areAdminRoutesEnabled (request : AdminRequest) : Bool :=
  parseEnabledFlag env env.ADMIN_ROUTES_ENABLED &&
    (!isProtectedPublicHostname env request.hostname ||
      parseEnabledFlag env env.ADMIN_ROUTES_ALLOW_PUBLIC_HOSTS)

/-- `requireAdminRoutesEnabled`. -/
def requireAdminRoutesEnabled (request : AdminRequest) : Option RouteAnswer :=
  if areAdminRoutesEnabled env request then none
  else some (.error "Admin routes are disabled" 404)

/-- `requireAdminSecret`. -/
def requireAdminSecret (request : AdminRequest) : Option RouteAnswer :=
  match env.ADMIN_API_SECRET.filter truthy with
  | none => some (.error "ADMIN_API_SECRET is not configured" 500)
  | some secret =>
    if request.adminSecret == some secret then none else some (.error "Invalid admin secret" 401)

/-- The two checks of an administrator's request. -/
def requireAdmin (request : AdminRequest) : Option RouteAnswer :=
  requireAdminRoutesEnabled env request <|> requireAdminSecret env request

end

/-- What a request for a token is answered. -/
inductive TokenAnswer where
  | issued (issued : IssuedToken)
  /-- A rotation: the token, unless it went to a mailbox, and what became of the delivery. -/
  | rotated (token : Option String) (expiresAt : Int) (scopes : List String)
      (delivery deliveryStatus : String) (deliveryMailboxId : Option String)
  | refused (answer : RouteAnswer)

/-- `catch (error) { if (error instanceof RouteRequestError) … }`. -/
def answerRouteErrors (p : AuthOp ι TokenAnswer) : AuthOp ι TokenAnswer :=
  p.tryCatch fun e =>
    if e.kind = .routeRequest then pure (.refused (.error e.message e.status)) else throw e

/-- The body of `POST /v1/auth/tokens`, of the type that the source gives it. -/
structure TokenRequest where
  sub : Option String
  tenantId : Option String
  agentId : Option String
  scopes : Option (List String)
  mailboxIds : Option (List String)
  expiresInSeconds : Option Int

/-- The authority that is asked for, if it is all there. -/
def TokenRequest.authority (body : TokenRequest) : Option Authority := do
  let sub ← body.sub.filter truthy
  let tenantId ← body.tenantId.filter truthy
  let scopes ← body.scopes.filter fun scopes => !scopes.isEmpty
  pure ⟨sub, tenantId, body.agentId, scopes, body.mailboxIds⟩

/-- The checks of `POST /v1/auth/tokens` on the database; a response with an error is an
exception here. -/
def checkTokenRequest (a : Authority) : Op Unit := do
  checkAgent (routeRequestError "Agent not found" 404)
    (routeRequestError "agentId must belong to tenantId" 400) a.tenantId a.agentId
  checkMailboxes (fun mailboxId => routeRequestError ("Mailbox not found: " ++ mailboxId) 404)
    (routeRequestError "mailboxIds must belong to tenantId" 400) none a.tenantId a.mailboxes
  validateTokenAgentMailboxScopes a.agentId a.mailboxes a.scopes

/-- `POST /v1/auth/tokens`. -/
def issueToken (mac : Mac) (env : AuthEnv) (call : ι) (request : AdminRequest)
    (body : TokenRequest) : AuthOp ι TokenAnswer :=
  match requireAdmin env request with
  | some answer => pure (.refused answer)
  | none =>
    if !truthy env.API_SIGNING_SECRET then
      pure (.refused (.error "API_SIGNING_SECRET is not configured" 500))
    else
      match body.authority with
      | none => pure (.refused (.error "sub, tenantId, and scopes are required" 400))
      | some a => answerRouteErrors do
        onDb (checkTokenRequest a)
        let issued ← mintFor mac env call a (body.expiresInSeconds.getD 3600)
        pure (.issued issued)

/-! ### The administrator's tools -/

/-- `new AdminMcpToolError(errorCode, message)`, without the code. -/
def adminToolError (message : String) : Exn := ⟨.mcpTool, message, 500, false⟩

/-- `requireString` of `routes/admin-mcp.ts`. -/
def adminRequireString (args : Fields) (field : String) : Except Exn String :=
  match asString (args.lookup field) with
  | some text => pure text
  | none => throw (adminInvalidArguments (field ++ " must be a non-empty string"))

/-- The items as non-blank strings, trimmed. -/
def trimmedItems (items : List Json) : Option (List String) :=
  items.mapM fun item => asString (some item)

/-- `requireStringArray` of `routes/admin-mcp.ts`. -/
def adminRequireStringArray (args : Fields) (field : String) : Except Exn (List String) :=
  match ((asArray (args.lookup field)).bind trimmedItems).filter fun items => !items.isEmpty with
  | some items => pure items
  | none => throw (adminInvalidArguments (field ++ " must be a non-empty string array"))

/-- `optionalStringArray` of `routes/admin-mcp.ts`. -/
def adminOptionalStringArray (args : Fields) (field : String) :
    Except Exn (Option (List String)) :=
  match args.lookup field with
  | none => pure none
  | some value =>
    match (asArray (some value)).bind trimmedItems with
    | some items => pure (some items)
    | none => throw (adminInvalidArguments (field ++ " must contain non-empty strings"))

/-- `optionalInteger` of `routes/admin-mcp.ts`. -/
def adminOptionalInteger (args : Fields) (field : String) : Except Exn (Option Int) :=
  match args.lookup field with
  | none => pure none
  | some value =>
    match asInteger (some value) with
    | some n => pure (some n)
    | none => throw (adminInvalidArguments (field ++ " must be an integer"))

/-- The arguments of `create_access_token`: the authority, and for how long. -/
def createAccessTokenArguments (args : Fields) : Except Exn (Authority × Int) := do
  let sub ← adminRequireString args "sub"
  let tenantId ← adminRequireString args "tenantId"
  let agentId := asString (args.lookup "agentId")
  let mailboxIds ← adminOptionalStringArray args "mailboxIds"
  let scopes ← adminRequireStringArray args "scopes"
  let expiresInSeconds ← adminOptionalInteger args "expiresInSeconds"
  pure (⟨sub, tenantId, agentId, scopes, mailboxIds⟩, expiresInSeconds.getD 3600)

/-- A result, or its exception. -/
def ofExcept {α : Type} : Except Exn α → AuthOp ι α
  | .ok a => pure a
  | .error e => throw e

/-- `assertAgentActiveForMailbox` of every mailbox. -/
def assertAgentActiveForMailboxes (agentId : String) (requireSendCapability : Bool) :
    List String → Op Unit
  | [] => pure ()
  | mailboxId :: rest => do
    assertAgentActiveForMailbox agentId mailboxId requireSendCapability
    assertAgentActiveForMailboxes agentId requireSendCapability rest

/-- The agent of a token, if it has one, is active for its mailboxes. -/
def assertTokenAgentActive (a : Authority) : Op Unit :=
  match a.agentId.filter truthy with
  | none => pure ()
  | some agentId =>
    assertAgentActiveForMailboxes agentId (a.scopes.contains "draft:send") a.mailboxes

/-- The checks of `create_access_token`. -/
def checkAccessToken (a : Authority) : Op Unit := do
  ensure (a.mailboxes.isEmpty || !(a.scopes.any fun scope => agentRequiredMailboxScopes.contains
      scope) || a.agentId.any truthy)
    (adminInvalidArguments
      "agentId is required when mailboxIds are combined with task, draft, or replay scopes")
  checkAgent (adminToolError "Agent not found")
    (adminInvalidArguments "agentId must belong to tenantId") a.tenantId a.agentId
  checkMailboxes (fun mailboxId => adminToolError ("Mailbox not found: " ++ mailboxId))
    (adminInvalidArguments "mailboxIds must belong to tenantId") none a.tenantId a.mailboxes
  assertTokenAgentActive a

/-- The tool `create_access_token`. -/
def createAccessToken (mac : Mac) (env : AuthEnv) (call : ι) (request : AdminRequest)
    (args : Fields) : AuthOp ι TokenAnswer :=
  match requireAdmin env request with
  | some answer => pure (.refused answer)
  | none =>
    if !truthy env.API_SIGNING_SECRET then
      throw (adminToolError "API_SIGNING_SECRET is not configured")
    else do
      let (a, seconds) ← ofExcept (createAccessTokenArguments args)
      let exp ← expiry env seconds
      onDb (checkAccessToken a)
      let issued ← mintUntil mac env call a exp
      pure (.issued issued)

/-- `DEFAULT_MAILBOX_AGENT_SCOPE_PROFILES`. -/
def mailboxAgentScopeProfiles : List (String × List String) := [
  ("read_only", ["mail:read", "task:read"]),
  ("draft_only", ["mail:read", "task:read", "draft:create", "draft:read"]),
  ("send", ["mail:read", "task:read", "draft:create", "draft:read", "draft:send"])]

/-- `bootstrap_mailbox_agent_token`: the agent is bound or deployed to the mailbox. -/
def checkAgentActive (agentId mailboxId : String) : Op Unit := do
  let hasBinding ← hasActiveMailboxBinding agentId mailboxId []
  if hasBinding then pure ()
  else do
    let hasDeployment ← hasActiveMailboxDeployment agentId mailboxId
    ensure hasDeployment (adminInvalidArguments "Agent is not active for mailbox")

/-- The checks of `bootstrap_mailbox_agent_token` on the mailbox and the agent. -/
def checkBootstrapAgent (tenantId mailboxId : String) (agentId : Option String) : Op Unit := do
  checkMailboxes (fun _ => adminToolError "Mailbox not found")
    (adminInvalidArguments "Mailbox does not belong to tenant") none tenantId [mailboxId]
  checkAgent (adminToolError "Agent not found")
    (adminInvalidArguments "Agent does not belong to tenant") tenantId agentId
  match agentId with
  | none => pure ()
  | some agentId => checkAgentActive agentId mailboxId

/-- Its last check, in its mode. -/
def checkBootstrapMode (mailboxId : String) (agentId : Option String) (mode : String) :
    Op Unit := do
  ensure (mode == "read_only" || agentId.isSome) (adminInvalidArguments
    "agentId is required for draft_only and send mailbox bootstrap tokens")
  match agentId with
  | none => pure ()
  | some agentId => assertAgentActiveForMailbox agentId mailboxId (mode == "send")

/-- The tool `bootstrap_mailbox_agent_token`. -/
def bootstrapMailboxAgentToken (mac : Mac) (env : AuthEnv) (call : ι) (request : AdminRequest)
    (args : Fields) : AuthOp ι TokenAnswer :=
  match requireAdmin env request with
  | some answer => pure (.refused answer)
  | none =>
    if !truthy env.API_SIGNING_SECRET then
      throw (adminToolError "API_SIGNING_SECRET is not configured")
    else do
      let tenantId ← ofExcept (adminRequireString args "tenantId")
      let mailboxId ← ofExcept (adminRequireString args "mailboxId")
      let agentId := asString (args.lookup "agentId")
      onDb (checkBootstrapAgent tenantId mailboxId agentId)
      let mode := (asString (args.lookup "mode")).getD "send"
      match mailboxAgentScopeProfiles.lookup mode with
      | none => throw (adminInvalidArguments "mode must be read_only, draft_only, or send")
      | some scopes => do
        onDb (checkBootstrapMode mailboxId agentId mode)
        let expiresInSeconds ← ofExcept (adminOptionalInteger args "expiresInSeconds")
        let sub := (asString (args.lookup "sub")).getD
          ("admin-bootstrap:" ++ tenantId ++ ":" ++ mailboxId)
        let issued ← mintFor mac env call ⟨sub, tenantId, agentId, scopes, some [mailboxId]⟩
          (expiresInSeconds.getD 1800)
        pure (.issued issued)

/-! ### Self-service -/

/-- `SELF_SERVE_DEFAULT_SCOPES`. -/
def selfServeDefaultScopes : List String :=
  ["task:read", "mail:read", "draft:create", "draft:read", "draft:send"]

/-- What `issueSelfServeAccessToken` is told. A signup has made the agent, and a reissue goes on
only with `executionTarget?.agentId`. -/
structure SelfServeInput where
  tenantId : String
  agentId : String
  mailboxId : String
  agentId_truthy : truthy agentId = true

/-- What it issues a token for. -/
def SelfServeInput.authority (input : SelfServeInput) : Authority where
  sub := "self-serve:" ++ input.mailboxId
  tenantId := input.tenantId
  agentId := some input.agentId
  scopes := selfServeDefaultScopes
  mailboxIds := some [input.mailboxId]

/-- The checks of `issueSelfServeAccessToken`. -/
def checkSelfServe (input : SelfServeInput) : Op Unit := do
  match ← getAgent input.agentId with
  | none => throw (Exn.error "Agent not found for self-serve access token")
  | some agent => do
    ensure (agent.tenantId == input.tenantId)
      (Exn.error "Agent does not belong to tenant for self-serve access token")
    checkMailboxes (fun _ => Exn.error "Mailbox not found for self-serve access token")
      (Exn.error "Mailbox does not belong to tenant for self-serve access token") none
      input.tenantId [input.mailboxId]
    let hasBinding ← hasActiveMailboxBinding input.agentId input.mailboxId []
    if hasBinding then pure ()
    else do
      let hasDeployment ← hasActiveMailboxDeployment input.agentId input.mailboxId
      ensure hasDeployment (Exn.error "Agent is not active for mailbox for self-serve access token")

/-- `issueSelfServeAccessToken`: nothing where there is no secret. -/
def issueSelfServeAccessToken (mac : Mac) (env : AuthEnv) (call : ι) (input : SelfServeInput) :
    AuthOp ι (Option IssuedToken) :=
  if !truthy env.API_SIGNING_SECRET then pure none
  else do
    onDb (checkSelfServe input)
    let issued ← mintFor mac env call input.authority (ttlSeconds env)
    pure (some issued)

/-! ### Rotation -/

/-- The body of `POST /v1/auth/token/rotate`. -/
structure RotateBody where
  delivery : Option String
  mailboxId : Option String

/-- `badRequest(error)`. -/
def badRequest (error : String) : RouteAnswer := .error error 400

section

variable (claims : AccessTokenClaims)

/-- `resolveRotateMailboxId`. -/
def resolveRotateMailboxId (requestedMailboxId : Option String) : Option String :=
  requestedMailboxId.bind trimmed <|>
    (match claims.mailboxIds with
      | some [mailboxId] => some mailboxId
      | _ => none).filter truthy

/-- `resolveSelfAgent`: the agent, or the answer. -/
def resolveSelfAgent : Op (Except RouteAnswer AgentRow) := do
  match claims.agentId.filter truthy with
  | none => pure (.error (badRequest "This token is not bound to a single agent"))
  | some agentId => do
    match ← getAgent agentId with
    | none => pure (.error (.error "Agent not found" 404))
    | some agent =>
      if agent.tenantId != claims.tenantId then pure (.error (.error "Tenant access denied" 403))
      else pure (.ok agent)

/-- `resolveSelfAgentForMailbox`. -/
def resolveSelfAgentForMailbox (mailboxId : String) : Op (Except RouteAnswer AgentRow) := do
  match ← resolveSelfAgent claims with
  | .error answer => pure (.error answer)
  | .ok agent => do
    let hasBinding ← hasActiveMailboxBinding agent.id mailboxId []
    if hasBinding then pure (.ok agent)
    else do
      let hasDeployment ← hasActiveMailboxDeployment agent.id mailboxId
      if !hasDeployment then pure (.error (.error "Agent is not active for mailbox" 403))
      else pure (.ok agent)

/-- `requireCurrentMailboxAccessForClaims`. -/
def requireCurrentMailboxAccessForClaims (mailboxId : String) : Op (Option RouteAnswer) := do
  if !(claims.agentId.any truthy) || !mailboxScoped claims then pure none
  else do
    match ← resolveSelfAgentForMailbox claims mailboxId with
    | .error answer => pure (some answer)
    | .ok _ => pure none

/-- The checks of a delivery to a mailbox. -/
def checkRotateDelivery (targetMailboxId : Option String) : Op (Option RouteAnswer) :=
  if !mailboxScoped claims then
    pure (some (badRequest "self_mailbox delivery requires a mailbox-scoped token"))
  else
    match targetMailboxId with
    | none => pure (some (badRequest ("mailboxId is required for self_mailbox delivery when " ++
        "the token covers multiple or no mailboxes")))
    | some mailboxId =>
      match enforceMailboxAccess claims mailboxId with
      | some answer => pure (some answer)
      | none => requireCurrentMailboxAccessForClaims claims mailboxId

/-- `validateRotatedAccessClaims`. -/
def validateRotatedAccessClaims : Op Unit := do
  checkAgent (routeRequestError "Bound agent not found" 409)
    (routeRequestError "Bound agent does not belong to tenant" 409) claims.tenantId claims.agentId
  checkMailboxes (fun _ => routeRequestError "Bound mailbox not found" 409)
    (routeRequestError "Bound mailbox does not belong to tenant" 409)
    (some (routeRequestError "Bound mailbox is not active" 409)) claims.tenantId
    (claims.mailboxIds.getD [])
  validateTokenAgentMailboxScopes claims.agentId (claims.mailboxIds.getD []) claims.scopes

end

section

variable (mac : Mac) (env : AuthEnv) (call : ι)

/-- `rotateAccessToken`, where there is a secret: `requireAuth` answers before it where there is
none. -/
def rotateAccessToken (a : Authority) (exp : Int) : AuthOp ι IssuedToken := do
  onDb (validateRotatedAccessClaims (a.claims exp))
  mintFor mac env call a (ttlSeconds env)

/-- The end of `POST /v1/auth/token/rotate`; `deliver` is `deliverRotatedTokenToSelfMailbox` with
the mailbox and the token. -/
def rotateChecked (deliver : String → IssuedToken → Op Bool) (a : Authority) (exp : Int)
    (delivery : String) (targetMailboxId : Option String) : AuthOp ι TokenAnswer := do
  let rotated ← rotateAccessToken mac env call a exp
  match targetMailboxId with
  | none => pure (.rotated (some rotated.token) rotated.expiresAt a.scopes delivery "skipped" none)
  | some mailboxId => do
    let delivered ← onDb (deliver mailboxId rotated)
    pure (.rotated (if delivery == "self_mailbox" && delivered then none else some rotated.token)
      rotated.expiresAt a.scopes delivery (if delivered then "queued" else "unavailable")
      (some mailboxId))

/-- `POST /v1/auth/token/rotate`, for a token with the authority. -/
def rotateAuthorized (deliver : String → IssuedToken → Op Bool) (body : RotateBody)
    (a : Authority) (exp : Int) : AuthOp ι TokenAnswer := do
  let delivery := body.delivery.getD "inline"
  if !(["inline", "self_mailbox", "both"].contains delivery) then
    pure (.refused (badRequest "delivery must be one of: inline, self_mailbox, both"))
  else if delivery == "inline" then rotateChecked mac env call deliver a exp delivery none
  else do
    let targetMailboxId := resolveRotateMailboxId (a.claims exp) body.mailboxId
    match ← onDb (checkRotateDelivery (a.claims exp) targetMailboxId) with
    | some answer => pure (.refused answer)
    | none => rotateChecked mac env call deliver a exp delivery targetMailboxId

/-- `POST /v1/auth/token/rotate`. -/
def rotateToken (deliver : String → IssuedToken → Op Bool) (authorization : Option String)
    (body : RotateBody) : AuthOp ι TokenAnswer := do
  match ← authorize mac env authorization [] with
  | .threw => throw (Exn.error "InvalidCharacterError")
  | .refused status error => pure (.refused (.error error status))
  | .granted claims =>
    match readClaims claims with
    -- claims of another type, which only a body of another type can have asked for
    | none => throw (Exn.error "TypeError")
    | some (a, exp) => rotateAuthorized mac env call deliver body a exp

end

/-! ### All of them -/

/-- A program that issues a token, or does anything else. -/
inductive TokenCall where
  | issueToken (request : AdminRequest) (body : TokenRequest)
  | createAccessToken (request : AdminRequest) (args : Fields)
  | bootstrapMailboxAgentToken (request : AdminRequest) (args : Fields)
  /-- A signup or a reissue: it comes to what a token is issued for, and goes on with the token,
  or with the exception. -/
  | selfServe (prepare : Op SelfServeInput) (proceed : Except Exn (Option IssuedToken) → Op Unit)
  | rotateToken (deliver : String → IssuedToken → Op Bool) (authorization : Option String)
      (body : RotateBody)
  /-- Whatever else is done to the database. -/
  | other (p : Op Unit)

/-- The result of a program, or its exception. -/
def attempt {α : Type} (p : AuthOp ι α) : AuthOp ι (Except Exn α) :=
  (Except.ok <$> p).tryCatch fun e => pure (.error e)

/-- The program of a call. -/
def TokenCall.program (mac : Mac) (env : AuthEnv) (call : ι) : TokenCall → AuthOp ι Unit
  | issueToken request body => do
    let _ ← Auth.issueToken mac env call request body
  | createAccessToken request args => do
    let _ ← Auth.createAccessToken mac env call request args
  | bootstrapMailboxAgentToken request args => do
    let _ ← Auth.bootstrapMailboxAgentToken mac env call request args
  | selfServe prepare proceed => do
    let input ← onDb prepare
    let issued ← attempt (issueSelfServeAccessToken mac env call input)
    onDb (proceed issued)
  | rotateToken deliver authorization body => do
    let _ ← Auth.rotateToken mac env call deliver authorization body
  | other p => onDb p

end MailRuntime.Auth
