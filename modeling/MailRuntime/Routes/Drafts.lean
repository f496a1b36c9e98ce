import MailRuntime.Auth.AccessTokens
import MailRuntime.Outbound.Enqueue
import MailRuntime.Repositories.Idempotency

/-!
# The routes on drafts

`POST /v1/drafts/:draftId/send` and `DELETE /v1/drafts/:draftId` of `routes/api.ts`, with the
access of the caller's token, and the checks that they share with `createAndSendDraft`. An
exception is left to the router.
-/

namespace MailRuntime

open Js Interaction

/-! ### Answers -/

/-- What a route answers: `json(body)`, `accepted(body)` or `json({ error }, { status })`. -/
inductive RouteAnswer where
  | ok (body : Json)
  | accepted (body : Json)
  | error (message : String) (status : Nat)

/-- The characters that `encodeURIComponent` leaves as they are. -/
def isUnreserved (c : Char) : Bool := c.isAlphanum || "-_.!~*'()".toList.contains c

/-- A byte as `%XX`. -/
def percentByte (b : UInt8) : List Char :=
  ['%', (b.toNat / 16).digitChar.toUpper, (b.toNat % 16).digitChar.toUpper]

/-- `encodeURIComponent(text)`. -/
def encodeURIComponent (text : String) : String :=
  String.ofList (text.toList.flatMap fun c =>
    if isUnreserved c then [c] else (String.utf8EncodeChar c).flatMap percentByte)

example : encodeURIComponent "a/b ü" = "a%2Fb%20%C3%BC" := by decide +kernel

/-- `buildSendStatusCheck`. -/
def buildSendStatusCheck (outboundJobId draftId : String) : Json :=
  .obj [("outboundJobPath", .str ("/v1/outbound-jobs/" ++ encodeURIComponent outboundJobId)),
    ("draftPath", .str ("/v1/drafts/" ++ encodeURIComponent draftId))]

/-- The fields that a response to a queued send has besides those it is built from. -/
def queuedSendFields (outboundJobId draftId : String) : Fields :=
  [("acceptedForDelivery", .bool true), ("deliveryState", .str "queued"),
    ("finalDeliveryState", .str "pending"),
    ("statusCheck", buildSendStatusCheck outboundJobId draftId),
    ("message", .str ("Send queued for asynchronous delivery. Accepted means the runtime queued " ++
      "the send, not that the provider has delivered it yet. Poll statusCheck.outboundJobPath " ++
      "for the current pending, sent, or failed delivery state."))]

/-- `{ draftId, outboundJobId, status: "queued" }`. -/
def enqueuedDraftSend (draftId outboundJobId : String) : Fields :=
  [("draftId", .str draftId), ("outboundJobId", .str outboundJobId), ("status", .str "queued")]

/-- A field that is a string, in a template. -/
def templateField (fields : Fields) (key : String) : String :=
  (string (fields.lookup key)).getD "undefined"

/-- `buildQueuedSendAcceptedResponse`. -/
def buildQueuedSendAcceptedResponse (input : Fields) : Json :=
  .obj (spread input ((queuedSendFields (templateField input "outboundJobId")
    (templateField input "draftId")).map fun p => (p.1, some p.2))).stored

/-! ### Access -/

section

variable (claims : Auth.AccessTokenClaims)

/-- `enforceTenantAccess`. -/
def enforceTenantAccess (tenantId : String) : Option RouteAnswer :=
  if claims.tenantId != tenantId then some (.error "Tenant access denied" 403) else none

/-- `enforceScopedAgentAccess`. -/
def enforceScopedAgentAccess (agentId : String) : Option RouteAnswer :=
  match claims.agentId.filter truthy with
  | none => none
  | some own => if own != agentId then some (.error "Agent access denied" 403) else none

/-- `claims.mailboxIds?.length`. -/
def mailboxScoped : Bool := claims.mailboxIds.any fun ids => !ids.isEmpty

/-- `enforceMailboxAccess`. -/
def enforceMailboxAccess (mailboxId : String) : Option RouteAnswer :=
  if mailboxScoped claims && !(claims.mailboxIds.any fun ids => ids.contains mailboxId) then
    some (.error "Mailbox access denied" 403)
  else none

/-- The three checks, on a draft. -/
def enforceDraftAccess (draft : DraftRow) : Option RouteAnswer :=
  enforceTenantAccess claims draft.tenantId <|> enforceScopedAgentAccess claims draft.agentId <|>
    enforceMailboxAccess claims draft.mailboxId

/-- `isMailboxScopedOperatorTokenDeliveryMessage`. -/
def isMailboxScopedOperatorTokenDeliveryMessage (messageId : String) : Op Bool := do
  match ← getOutboundJobByMessageId messageId with
  | none => pure false
  | some outboundJob => do
    let draft ← getDraftByR2KeyForOutboundLifecycle outboundJob.draftR2Key
    pure (draft.any fun d => d.createdVia == some "system:token_reissue_operator_email")

/-- `enforceMailboxScopedMessageVisibility`: whether the message is hidden. -/
def messageHidden (messageId : String) : Op Bool :=
  if mailboxScoped claims then isMailboxScopedOperatorTokenDeliveryMessage messageId else pure false

/-- Every message of a list is hidden. -/
def allHidden : List MessageRow → Op Bool
  | [] => pure true
  | message :: rest => do
    if ← isMailboxScopedOperatorTokenDeliveryMessage message.id then allHidden rest
    else do
      -- the loop of the source looks at the rest too
      let _ ← allHidden rest
      pure false

/-- `filterVisibleThreadForClaims`: whether nothing is left of the thread. -/
def threadHidden (messages : List MessageRow) : Op Bool :=
  if mailboxScoped claims then allHidden messages else pure false

/-- The part of `enforceMailboxScopedDraftReferenceVisibility` on the thread. -/
def threadReferenceHidden (threadId : Option String) : Op Bool := do
  match threadId.filter truthy with
  | none => pure false
  | some threadId => do
    match ← getThread threadId with
    | none => pure false
    | some thread => threadHidden claims thread.messages

/-- The part of `enforceMailboxScopedDraftReferenceVisibility` on the source message. -/
def sourceReferenceHidden (sourceMessageId : Option String) : Op Bool :=
  match sourceMessageId.filter truthy with
  | none => pure false
  | some sourceMessageId => messageHidden claims sourceMessageId

/-- `enforceMailboxScopedDraftReferenceVisibility`: whether there is an error. -/
def draftReferencesHidden (threadId sourceMessageId : Option String) : Op Bool := do
  if ← sourceReferenceHidden claims sourceMessageId then pure true
  else threadReferenceHidden claims threadId

end

/-! ### Checks -/

/-- `validateDraftAgentBinding`. -/
def validateDraftAgentBinding (tenantId agentId mailboxId : String) : Op Unit := do
  validateAgent routeRequestError tenantId agentId
  match ← getMailboxById mailboxId with
  | none => throw (routeRequestError "Mailbox not found" 404)
  | some mailbox => do
    ensure (mailbox.tenantId == tenantId)
      (routeRequestError "Mailbox does not belong to tenant" 409)
    if ← hasActiveMailboxBinding agentId mailboxId [] then pure ()
    else do
      let hasDeployment ← hasActiveMailboxDeployment agentId mailboxId
      ensure hasDeployment (routeRequestError "Agent is not active for mailbox" 403)

/-- `validateDraftFromAddress`. -/
def validateDraftFromAddress (env : Env) (tenantId mailboxId sender : String) : Op Unit := do
  match ← getMailboxById mailboxId with
  | none => throw (routeRequestError "Mailbox not found" 404)
  | some mailbox => do
    ensure (mailbox.tenantId == tenantId)
      (routeRequestError "Mailbox does not belong to tenant" 409)
    validateSender routeRequestError env sender mailbox.address

/-- The payload of a stored draft. -/
def readStoredPayload (draftR2Key : String) : Op Fields :=
  readDraftPayload (routeRequestError "Draft payload not found" 404) draftR2Key

/-- `validateStoredDraftFromAddress`. -/
def validateStoredDraftFromAddress (env : Env) (draft : DraftRow) : Op Unit := do
  let payload ← readStoredPayload draft.draftR2Key
  validateDraftFromAddress env draft.tenantId draft.mailboxId
    ((string (payload.lookup "from")).getD "")

/-- `validateStoredDraftAttachments`. -/
def validateStoredDraftAttachments (draft : DraftRow) : Op Unit := do
  let payload ← readStoredPayload draft.draftR2Key
  validateStoredAttachments routeRequestError draft.tenantId draft.mailboxId payload

/-- The policy allows a send to the recipients. -/
def checkOutboundPolicy (env : Env) (tenantId agentId : String) (recipients : Recipients) :
    Op Unit := do
  let decision ← evaluateOutboundPolicy env tenantId agentId recipients none
  refuseByPolicy routeRequestError decision

/-- `validateDraftOutboundPolicy`. -/
def validateDraftOutboundPolicy (env : Env) (draft : DraftRow) : Op Unit := do
  let recipients ← readDraftRecipientsForRoute draft.draftR2Key
  checkOutboundPolicy env draft.tenantId draft.agentId recipients

/-- The tenant has the credits for a send to the recipients. -/
def checkOutboundCredits (env : Env) (tenantId : String) (recipients : Recipients)
    (sourceMessageId createdVia : Option String) : Op Unit := do
  let check ← checkOutboundCreditRequirement env tenantId recipients sourceMessageId createdVia
  ensure check.hasSufficientCredits (routeRequestError (insufficientCredits check) 402)

/-- `validateDraftOutboundCredits`. -/
def validateDraftOutboundCredits (env : Env) (draft : DraftRow) : Op Unit := do
  let recipients ← readDraftRecipientsForRoute draft.draftR2Key
  checkOutboundCredits env draft.tenantId recipients draft.sourceMessageId draft.createdVia

/-- `validateReplayableDraftSend`. -/
def validateReplayableDraftSend (env : Env) (claims : Auth.AccessTokenClaims) (draft : DraftRow) :
    Op Unit := do
  validateDraftReferences routeRequestError draft.tenantId draft.mailboxId draft.threadId
    draft.sourceMessageId
  validateStoredDraftFromAddress env draft
  validateStoredDraftAttachments draft
  let hidden ← draftReferencesHidden claims draft.threadId draft.sourceMessageId
  ensure (!hidden) (routeRequestError "Draft references are not visible for this token" 404)
  let _ ← validateActiveDraftMailbox routeRequestError draft.tenantId draft.mailboxId
  validateSendAgentBinding routeRequestError draft.tenantId draft.agentId draft.mailboxId
  validateDraftOutboundPolicy env draft
  validateDraftOutboundCredits env draft

/-- The checks of a send without a key. -/
def validateUnkeyedDraftSend (env : Env) (draft : DraftRow) : Op Unit := do
  validateDraftReferences routeRequestError draft.tenantId draft.mailboxId draft.threadId
    draft.sourceMessageId
  let _ ← validateActiveDraftMailbox routeRequestError draft.tenantId draft.mailboxId
  validateStoredDraftFromAddress env draft
  validateStoredDraftAttachments draft
  validateSendAgentBinding routeRequestError draft.tenantId draft.agentId draft.mailboxId
  validateDraftOutboundPolicy env draft
  validateDraftOutboundCredits env draft

/-! ### Cancellation -/

/-- The answer to a cancellation. -/
def cancelledAnswer (draftId : String) : RouteAnswer :=
  .ok (.obj [("ok", .bool true), ("id", .str draftId), ("status", .str "cancelled")])

/-- The cancellation of a draft that the caller has access to. -/
def cancelAccessible (env : Env) (draft : DraftRow) : Op RouteAnswer := do
  validateDraftAgentBinding draft.tenantId draft.agentId draft.mailboxId
  if draft.status == .queued || draft.status == .sent then
    pure (.error ("Draft status " ++ draft.status.text ++ " cannot be cancelled") 409)
  else if draft.status == .cancelled then pure (cancelledAnswer draft.id)
  else do
    markDraftStatus env draft.id .cancelled
    pure (cancelledAnswer draft.id)

/-- A route on a draft, of a caller that has to have access to it. -/
def onDraft (claims : Auth.AccessTokenClaims) (draftId : String)
    (answer : DraftRow → Op RouteAnswer) : Op RouteAnswer := do
  match ← getDraft draftId with
  | none => pure (.error "Draft not found" 404)
  | some draft =>
    match enforceDraftAccess claims draft with
    | some denied => pure denied
    | none => answer draft

/-- `DELETE /v1/drafts/:draftId`. -/
def cancelDraft (env : Env) (claims : Auth.AccessTokenClaims) (draftId : String) : Op RouteAnswer :=
  onDraft claims draftId (cancelAccessible env)

/-! ### Sending -/

/-- `restoreEnqueuedDraftSend`. -/
def restoreEnqueuedDraftSend (draftId : String) (outboundJobId : Option String) : Op Fields := do
  match outboundJobId.filter truthy with
  | none => throw (routeRequestError "Stored idempotent draft send result is incomplete" 500)
  | some outboundJobId => do
    match ← getDraft draftId with
    | none => throw (routeRequestError "Stored idempotent draft no longer exists" 409)
    | some draft => do
      match ← getOutboundJob outboundJobId with
      | none => throw (routeRequestError "Stored idempotent outbound job no longer exists" 409)
      | some outboundJob => do
        match ← getMessage outboundJob.messageId with
        | none =>
          throw (routeRequestError "Stored idempotent outbound message no longer exists" 409)
        | some _ => do
          ensure (outboundJob.draftR2Key == draft.draftR2Key)
            (routeRequestError "Stored idempotent outbound job does not belong to draft" 409)
          pure (enqueuedDraftSend draftId outboundJob.id)

/-- The row of a send of the tenant with a key. -/
def draftSendSlot (tenantId idempotencyKey : String) : IdempotencySlot :=
  ⟨"draft_send", tenantId, idempotencyKey⟩

/-- `bestEffortCompleteRecoveredIdempotency`. -/
def bestEffortComplete (env : Env) (slot : IdempotencySlot) (response : Json)
    (resourceId : String) : Op Unit :=
  catchAll (completeIdempotencyKey env slot response (some resourceId)) ()

/-- The mark that `markSideEffectCommitted` leaves. -/
def Exn.committed (e : Exn) : Exn := { e with sideEffectCommitted := true }

/-- The exception of a draft that is not to be sent any more. -/
def cannotBeSentAgain (draft : DraftRow) : RouteAnswer :=
  .error ("Draft status " ++ draft.status.text ++ " cannot be sent again") 409

/-- What is recorded of a send that has been enqueued. -/
def recordDraftSend (env : Env) (slot : IdempotencySlot) (draftId outboundJobId : String) :
    Op RouteAnswer := do
  let response := enqueuedDraftSend draftId outboundJobId
  updateIdempotencyKeyResource env slot outboundJobId
  completeIdempotencyKey env slot (.obj response) (some outboundJobId)
  pure (.accepted (buildQueuedSendAcceptedResponse response))

/-- The send by the request that holds the key. The key is given back by an exception before the
send is enqueued. -/
def sendReserved (env : Env) (claims : Auth.AccessTokenClaims) (slot : IdempotencySlot)
    (draft : DraftRow) : Op RouteAnswer := do
  let outboundJobId ← tryCatch (do
      validateReplayableDraftSend env claims draft
      enqueueDraftSend env draft.id) fun error => do
    releaseIdempotencyKey slot
    throw error
  tryCatch (recordDraftSend env slot draft.id outboundJobId) fun error => throw error.committed

/-- The answer to a request whose key is held by one that has not been answered. -/
def replayPendingSend (env : Env) (claims : Auth.AccessTokenClaims) (slot : IdempotencySlot)
    (draft : DraftRow) (record : IdempotencyRow) : Op RouteAnswer := do
  match record.resourceId.filter truthy with
  | none =>
    pure (.error "A draft send request with this idempotency key is already in progress" 409)
  | some resourceId => do
    validateReplayableDraftSend env claims draft
    let response ← restoreEnqueuedDraftSend draft.id (some resourceId)
    bestEffortComplete env slot (.obj response) (templateField response "outboundJobId")
    pure (.accepted (buildQueuedSendAcceptedResponse response))

/-- The response that was recorded, if it is one. -/
def storedResponse (record : IdempotencyRow) (otherwise : Op Fields) : Op Fields :=
  match record.response with
  | none | some .null => otherwise
  | some response => pure (fieldsOf (some response))

/-- A send with a key. -/
def sendWithKey (env : Env) (claims : Auth.AccessTokenClaims) (idempotencyKey : String)
    (draft : DraftRow) : Op RouteAnswer := do
  let slot := draftSendSlot draft.tenantId idempotencyKey
  match ← reserveIdempotencyKey env slot (env.stringify (.obj [("draftId", .str draft.id)])) with
  | .conflict _ =>
    pure (.error "Idempotency key is already used for a different draft send request" 409)
  | .pending record => replayPendingSend env claims slot draft record
  | .completed record => do
    validateReplayableDraftSend env claims draft
    let response ← storedResponse record (restoreEnqueuedDraftSend draft.id record.resourceId)
    pure (.accepted (buildQueuedSendAcceptedResponse response))
  | .reserved =>
    if draft.claimable then sendReserved env claims slot draft
    else do
      releaseIdempotencyKey slot
      pure (cannotBeSentAgain draft)

/-- A send without a key. -/
def sendWithoutKey (env : Env) (draft : DraftRow) : Op RouteAnswer := do
  if draft.claimable then do
    validateUnkeyedDraftSend env draft
    let outboundJobId ← enqueueDraftSend env draft.id
    pure (.accepted (buildQueuedSendAcceptedResponse (enqueuedDraftSend draft.id outboundJobId)))
  else pure (cannotBeSentAgain draft)

/-- The send of a draft that the caller has access to. -/
def sendAccessible (env : Env) (claims : Auth.AccessTokenClaims) (idempotencyKey : Option String)
    (draft : DraftRow) : Op RouteAnswer := do
  validateDraftAgentBinding draft.tenantId draft.agentId draft.mailboxId
  match idempotencyKey.map trim with
  | none => sendWithoutKey env draft
  | some key =>
    if truthy key then sendWithKey env claims key draft
    else pure (.error "idempotencyKey must be a non-empty string" 400)

/-- `POST /v1/drafts/:draftId/send`. -/
def sendDraft (env : Env) (claims : Auth.AccessTokenClaims) (draftId : String)
    (idempotencyKey : Option String) : Op RouteAnswer :=
  onDraft claims draftId (sendAccessible env claims idempotencyKey)

/-! ### Who is let in -/

section LetIn

variable {claims : Auth.AccessTokenClaims} {draft : DraftRow}

/-- A caller with access to a draft is its tenant's. -/
theorem tenant_of_access (h : enforceDraftAccess claims draft = none) :
    claims.tenantId = draft.tenantId := by
  unfold enforceDraftAccess enforceTenantAccess at h
  by_contra hne
  rw [if_pos (by simpa using hne)] at h
  cases h

/-- What denies the access is an error. -/
theorem error_of_access {denied : RouteAnswer}
    (h : enforceDraftAccess claims draft = some denied) :
    ∃ message status, denied = .error message status := by
  have htenant : ∀ {answer}, enforceTenantAccess claims draft.tenantId = some answer →
      ∃ message status, answer = .error message status := by
    intro answer h
    unfold enforceTenantAccess at h
    split at h
    · exact ⟨_, _, (Option.some.inj h).symm⟩
    · cases h
  have hagent : ∀ {answer}, enforceScopedAgentAccess claims draft.agentId = some answer →
      ∃ message status, answer = .error message status := by
    intro answer h
    unfold enforceScopedAgentAccess at h
    split at h
    · cases h
    · split at h
      · exact ⟨_, _, (Option.some.inj h).symm⟩
      · cases h
  have hmailbox : ∀ {answer}, enforceMailboxAccess claims draft.mailboxId = some answer →
      ∃ message status, answer = .error message status := by
    intro answer h
    unfold enforceMailboxAccess at h
    split at h
    · exact ⟨_, _, (Option.some.inj h).symm⟩
    · cases h
  unfold enforceDraftAccess at h
  cases ht : enforceTenantAccess claims draft.tenantId with
  | some answer =>
    rw [ht] at h
    exact htenant (ht.trans h)
  | none =>
    cases ha : enforceScopedAgentAccess claims draft.agentId with
    | some answer =>
      rw [ht, ha] at h
      exact hagent (ha.trans h)
    | none =>
      rw [ht, ha] at h
      exact hmailbox h

end LetIn

/-! ### Footprints -/

variable {ts : List Table} {env : Env} {claims : Auth.AccessTokenClaims} {draft : DraftRow}
  {tenantId agentId mailboxId : String}

@[simp] theorem touches_isMailboxScopedOperatorTokenDeliveryMessage {messageId : String} :
    Touches ts (isMailboxScopedOperatorTokenDeliveryMessage messageId) := by
  refine .bind touches_getOutboundJobByMessageId fun job => ?_
  cases job with
  | none => trivial
  | some _ => exact .bind touches_getDraftByR2KeyForOutboundLifecycle fun _ => trivial

@[simp] theorem touches_allHidden (messages : List MessageRow) :
    Touches ts (allHidden messages) := by
  induction messages with
  | nil => trivial
  | cons message rest ih =>
    refine .bind touches_isMailboxScopedOperatorTokenDeliveryMessage fun hidden => ?_
    split
    · exact ih
    · exact .bind ih fun _ => trivial

@[simp] theorem touches_threadHidden {messages : List MessageRow} :
    Touches ts (threadHidden claims messages) := by
  unfold threadHidden
  split
  · exact touches_allHidden _
  · trivial

@[simp] theorem touches_draftReferencesHidden {threadId sourceMessageId : Option String} :
    Touches ts (draftReferencesHidden claims threadId sourceMessageId) := by
  have hsource : Touches ts (sourceReferenceHidden claims sourceMessageId) := by
    unfold sourceReferenceHidden messageHidden
    split
    · trivial
    · split
      · exact touches_isMailboxScopedOperatorTokenDeliveryMessage
      · trivial
  refine .bind hsource fun hidden => ?_
  split
  · trivial
  · unfold threadReferenceHidden
    split
    · trivial
    · refine .bind touches_getThread fun thread => ?_
      cases thread with
      | none => trivial
      | some thread => exact touches_threadHidden

@[simp] theorem touches_validateDraftAgentBinding :
    Touches ts (validateDraftAgentBinding tenantId agentId mailboxId) := by
  refine .bind touches_validateAgent fun _ => .bind touches_getMailboxById fun mailbox => ?_
  cases mailbox with
  | none => trivial
  | some _ =>
    refine .bind touches_ensure fun _ => .bind touches_hasActiveMailboxBinding fun bound => ?_
    split
    · trivial
    · exact .bind touches_hasActiveMailboxDeployment fun _ => touches_ensure

@[simp] theorem touches_validateDraftFromAddress {sender : String} :
    Touches ts (validateDraftFromAddress env tenantId mailboxId sender) := by
  refine .bind touches_getMailboxById fun mailbox => ?_
  cases mailbox with
  | none => trivial
  | some _ => exact .bind touches_ensure fun _ => touches_validateSender

@[simp] theorem touches_validateStoredDraftFromAddress :
    Touches ts (validateStoredDraftFromAddress env draft) :=
  .bind touches_readDraftPayload fun _ => touches_validateDraftFromAddress

@[simp] theorem touches_validateStoredDraftAttachments :
    Touches ts (validateStoredDraftAttachments draft) :=
  .bind touches_readDraftPayload fun _ => touches_validateStoredAttachments

theorem touches_checkOutboundPolicy {recipients : Recipients} :
    Touches [.sendPolicies, .accounts] (checkOutboundPolicy env tenantId agentId recipients) :=
  .bind touches_evaluateOutboundPolicy fun _ => touches_refuseByPolicy

theorem touches_checkOutboundCreditRequirement {recipients : Recipients}
    {sourceMessageId createdVia : Option String} : Touches [.sendPolicies, .accounts]
      (checkOutboundCreditRequirement env tenantId recipients sourceMessageId createdVia) := by
  refine .bind touches_getOutboundCreditRequirement fun requirement => ?_
  split
  · exact .bind (touches_ensureTenantBillingAccount.mono (by simp)) fun _ => trivial
  · trivial

theorem touches_checkOutboundCredits {recipients : Recipients}
    {sourceMessageId createdVia : Option String} : Touches [.sendPolicies, .accounts]
      (checkOutboundCredits env tenantId recipients sourceMessageId createdVia) :=
  .bind touches_checkOutboundCreditRequirement fun _ => touches_ensure

theorem touches_validateReplayableDraftSend :
    Touches [.sendPolicies, .accounts] (validateReplayableDraftSend env claims draft) :=
  .bind touches_validateDraftReferences fun _ => .bind touches_validateStoredDraftFromAddress
    fun _ => .bind touches_validateStoredDraftAttachments fun _ =>
      .bind touches_draftReferencesHidden fun _ => .bind touches_ensure fun _ =>
        .bind touches_validateActiveDraftMailbox fun _ => .bind touches_validateSendAgentBinding
          fun _ => .bind (.bind touches_readDraftRecipients fun _ => touches_checkOutboundPolicy)
            fun _ => .bind touches_readDraftRecipients fun _ => touches_checkOutboundCredits

theorem touches_validateUnkeyedDraftSend :
    Touches [.sendPolicies, .accounts] (validateUnkeyedDraftSend env draft) :=
  .bind touches_validateDraftReferences fun _ => .bind touches_validateActiveDraftMailbox
    fun _ => .bind touches_validateStoredDraftFromAddress fun _ =>
      .bind touches_validateStoredDraftAttachments fun _ => .bind touches_validateSendAgentBinding
        fun _ => .bind (.bind touches_readDraftRecipients fun _ => touches_checkOutboundPolicy)
          fun _ => .bind touches_readDraftRecipients fun _ => touches_checkOutboundCredits

theorem touches_cancelAccessible : Touches [.drafts] (cancelAccessible env draft) := by
  refine .bind touches_validateDraftAgentBinding fun _ => ?_
  split
  · trivial
  · split
    · trivial
    · exact .bind touches_markDraftStatus fun _ => trivial

@[simp] theorem touches_restoreEnqueuedDraftSend {draftId : String}
    {outboundJobId : Option String} :
    Touches ts (restoreEnqueuedDraftSend draftId outboundJobId) := by
  unfold restoreEnqueuedDraftSend
  split
  · trivial
  · refine .bind touches_getDraft fun stored => ?_
    cases stored with
    | none => trivial
    | some _ =>
      refine .bind touches_getOutboundJob fun job => ?_
      cases job with
      | none => trivial
      | some _ =>
        refine .bind touches_getMessage fun message => ?_
        cases message with
        | none => trivial
        | some _ => exact .bind touches_ensure fun _ => trivial

end MailRuntime
