import MailRuntime.Routes.Drafts

/-!
# A draft is created and sent

`createAndSendDraft` of `routes/api.ts`. The request that holds an idempotency key creates the
draft, records it in the key's row, enqueues its send and completes the row with the response.
A request that finds the row is answered from it: with the response, or, where only the draft is
recorded, by looking for the draft's job or enqueueing its send.
-/

namespace MailRuntime

open Js Interaction

/-- An attachment, as a request names it. -/
structure PayloadAttachment where
  filename : String
  contentType : String
  r2Key : String
deriving DecidableEq, Repr

/-- The payload of a send. -/
structure SendPayload where
  sender : String
  recipients : Recipients
  subject : String
  text : String
  html : String
  inReplyTo : Option String
  references : List String
  attachments : List PayloadAttachment
deriving DecidableEq, Repr

/-- An attachment as JSON. -/
def PayloadAttachment.json (attachment : PayloadAttachment) : Json :=
  .obj [("filename", .str attachment.filename), ("contentType", .str attachment.contentType),
    ("r2Key", .str attachment.r2Key)]

/-- A list of strings as JSON. -/
def jsonStrings (items : List String) : Json := .arr (items.map .str)

/-- The payload as JSON. -/
def SendPayload.json (payload : SendPayload) : Json :=
  .obj (Draft.stored [("from", some (.str payload.sender)),
    ("to", some (jsonStrings payload.recipients.toList)),
    ("cc", some (jsonStrings payload.recipients.ccList)),
    ("bcc", some (jsonStrings payload.recipients.bccList)),
    ("subject", some (.str payload.subject)), ("text", some (.str payload.text)),
    ("html", some (.str payload.html)), ("inReplyTo", payload.inReplyTo.map .str),
    ("references", some (jsonStrings payload.references)),
    ("attachments", some (.arr (payload.attachments.map PayloadAttachment.json)))])

/-- What `createAndSendDraft` is told. -/
structure SendInput where
  tenantId : String
  agentId : String
  mailboxId : String
  threadId : Option String
  sourceMessageId : Option String
  payload : SendPayload
  createdVia : String
  idempotencyKey : Option String
  requestFingerprint : String

/-- The input of `createDraft`. -/
def SendInput.draftInput (input : SendInput) : DraftInput where
  tenantId := input.tenantId
  agentId := input.agentId
  mailboxId := input.mailboxId
  threadId := input.threadId
  sourceMessageId := input.sourceMessageId
  createdVia := some input.createdVia
  payload := input.payload.json

/-- A draft as `createDraft` and `getDraft` return it, in JSON; `isoText` writes its times. -/
def draftRecord (isoText : Nat → String) (draft : DraftRow) : Json :=
  .obj (Draft.stored [("id", some (.str draft.id)), ("tenantId", some (.str draft.tenantId)),
    ("agentId", some (.str draft.agentId)), ("mailboxId", some (.str draft.mailboxId)),
    ("threadId", draft.threadId.map .str), ("sourceMessageId", draft.sourceMessageId.map .str),
    ("createdVia", draft.createdVia.map .str), ("status", some (.str draft.status.text)),
    ("draftR2Key", some (.str draft.draftR2Key)),
    ("createdAt", some (.str (isoText draft.createdAt))),
    ("updatedAt", some (.str (isoText draft.updatedAt)))])

/-- `{ draft, outboundJobId, status: "queued" }`. -/
def draftSendReplay (isoText : Nat → String) (draft : DraftRow) (outboundJobId : String) : Fields :=
  [("draft", draftRecord isoText draft), ("outboundJobId", .str outboundJobId),
    ("status", .str "queued")]

/-- `buildQueuedCreateAndSendAcceptedResponse`. -/
def buildQueuedCreateAndSendAcceptedResponse (isoText : Nat → String) (draft : DraftRow)
    (outboundJobId : String) : Json :=
  .obj (draftSendReplay isoText draft outboundJobId ++ queuedSendFields outboundJobId draft.id)

/-- `validateCreateAndSendInput`. -/
def validateCreateAndSendInput (env : Env) (input : SendInput) : Op Unit := do
  ensure (truthy input.payload.text || truthy input.payload.html)
    (routeRequestError "text or html is required" 400)
  validateDraftFromAddress env input.tenantId input.mailboxId input.payload.sender
  let _ ← validateActiveDraftMailbox routeRequestError input.tenantId input.mailboxId
  validateSendAgentBinding routeRequestError input.tenantId input.agentId input.mailboxId
  validateDraftReferences routeRequestError input.tenantId input.mailboxId input.threadId
    input.sourceMessageId
  validateDraftAttachments routeRequestError input.tenantId input.mailboxId
    (input.payload.attachments.map PayloadAttachment.r2Key)
  checkOutboundPolicy env input.tenantId input.agentId input.payload.recipients
  checkOutboundCredits env input.tenantId input.payload.recipients input.sourceMessageId
    (some input.createdVia)

/-- The send of a draft that has no visible job is enqueued after all. -/
def resumeDraftSend (env : Env) (draft : DraftRow) : Op (DraftRow × OutboundJobRow) := do
  ensure draft.claimable
    (routeRequestError "Stored idempotent outbound job no longer exists" 409)
  let resumedJobId ← enqueueDraftSend env draft.id
  match ← getDraft draft.id with
  | none =>
    throw (routeRequestError "Stored idempotent draft disappeared during replay recovery" 409)
  | some resumedDraft => do
    match ← getOutboundJob resumedJobId with
    | none => throw (routeRequestError
        "Stored idempotent outbound job disappeared during replay recovery" 409)
    | some resumedOutboundJob => pure (resumedDraft, resumedOutboundJob)

/-- The draft and its job, which is enqueued if there is none. -/
def draftAndJob (env : Env) (draft : DraftRow) : Op (DraftRow × OutboundJobRow) := do
  match ← getOutboundJobByDraftR2Key draft.draftR2Key with
  | some outboundJob => pure (draft, outboundJob)
  | none => resumeDraftSend env draft

/-- `restoreDraftSendReplay`: the draft and the identifier of its job. -/
def restoreDraftSendReplay (env : Env) (draftId : Option String) : Op (DraftRow × String) := do
  match draftId.filter truthy with
  | none => throw (routeRequestError "Stored idempotent draft send result is incomplete" 500)
  | some draftId => do
    match ← getDraft draftId with
    | none => throw (routeRequestError "Stored idempotent draft no longer exists" 409)
    | some stored => do
      let (draft, outboundJob) ← draftAndJob env stored
      match ← getMessage outboundJob.messageId with
      | none =>
        throw (routeRequestError "Stored idempotent outbound message no longer exists" 409)
      | some _ => pure (draft, outboundJob.id)

section

variable (env : Env) (isoText : Nat → String)

/-- The draft is sent, once it is created. -/
def sendCreated (draft : DraftRow) : Op Json := do
  let outboundJobId ← enqueueDraftSend env draft.id
  pure (buildQueuedCreateAndSendAcceptedResponse isoText draft outboundJobId)

/-- The draft is created and sent. -/
def createAndSendWithoutKey (input : SendInput) : Op Json := do
  validateCreateAndSendInput env input
  let draft ← createDraft env input.draftInput
  tryCatch (sendCreated env isoText draft) fun error => throw error.committed

/-- The draft is recorded in the key's row, sent, and the row completed. -/
def sendRecorded (slot : IdempotencySlot) (draft : DraftRow) : Op Json := do
  updateIdempotencyKeyResource env slot draft.id
  let response ← sendCreated env isoText draft
  completeIdempotencyKey env slot response (some draft.id)
  pure response

/-- The part of the request that holds the key. The key is given back by an exception before the
draft is created. -/
def createAndSendReserved (slot : IdempotencySlot) (input : SendInput) : Op Json := do
  let draft ← tryCatch (do
      validateCreateAndSendInput env input
      createDraft env input.draftInput) fun error => do
    releaseIdempotencyKey slot
    throw error
  tryCatch (sendRecorded env isoText slot draft) fun error => throw error.committed

/-- The answer to a request whose key is held by one that has not been answered. -/
def replayPending (slot : IdempotencySlot) (input : SendInput) (record : IdempotencyRow) :
    Op Json := do
  match record.resourceId.filter truthy with
  | none =>
    throw (routeRequestError "A send request with this idempotency key is already in progress" 409)
  | some resourceId => do
    validateCreateAndSendInput env input
    let (draft, outboundJobId) ← restoreDraftSendReplay env (some resourceId)
    let response := Json.obj (draftSendReplay isoText draft outboundJobId)
    bestEffortComplete env slot response draft.id
    pure response

/-- `if (reservation.record.response)`, for what `JSON.parse` returns. -/
def truthyJson (response : Option Json) : Option Json :=
  response.filter fun value => Auth.isTruthy (some value)

/-- The answer to a request whose key's row is complete. -/
def replayCompleted (input : SendInput) (record : IdempotencyRow) : Op Json := do
  validateCreateAndSendInput env input
  match truthyJson record.response with
  | some response => pure response
  | none => do
    let (draft, outboundJobId) ← restoreDraftSendReplay env record.resourceId
    pure (.obj (draftSendReplay isoText draft outboundJobId))

/-- A send with a key. -/
def createAndSendWithKey (input : SendInput) (idempotencyKey : String) : Op Json := do
  let slot := draftSendSlot input.tenantId idempotencyKey
  match ← reserveIdempotencyKey env slot input.requestFingerprint with
  | .conflict _ => throw (routeRequestError
      "Idempotency key is already used for a different send request" 409)
  | .pending record => replayPending env isoText slot input record
  | .completed record => replayCompleted env isoText input record
  | .reserved => createAndSendReserved env isoText slot input

/-- `createAndSendDraft`. -/
def createAndSendDraft (input : SendInput) : Op Json :=
  match input.idempotencyKey.map trim with
  | none => createAndSendWithoutKey env isoText input
  | some key =>
    if truthy key then createAndSendWithKey env isoText input key
    else throw (routeRequestError "idempotencyKey must be a non-empty string" 400)

end

/-! ### Footprints -/

variable {env : Env}

theorem touches_validateCreateAndSendInput {input : SendInput} :
    Touches [.sendPolicies, .accounts] (validateCreateAndSendInput env input) :=
  .bind touches_ensure fun _ => .bind touches_validateDraftFromAddress fun _ =>
    .bind touches_validateActiveDraftMailbox fun _ => .bind touches_validateSendAgentBinding
      fun _ => .bind touches_validateDraftReferences fun _ =>
        .bind (touches_validateDraftAttachments _) fun _ => .bind touches_checkOutboundPolicy
          fun _ => touches_checkOutboundCredits

end MailRuntime
