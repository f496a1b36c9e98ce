import MailRuntime.Outbound.Billing
import MailRuntime.Outbound.Guards
import MailRuntime.Outbound.Provider

/-!
# The consumer of outbound jobs

`handleOutboundSend` of `handlers/queues.ts`. For each job of a batch the consumer reads the
job, its payload, draft, message and delivery events. A job that is `sent` is settled again; one
that is `sending` has its outcome recovered from what is known of the message or, once it is old
enough, is given up; any other is claimed, checked and sent. An exception on the way there
leaves it `retry` or, after too many or of a kind that will not go away, `failed`.

What an exception does depends on which variables were assigned when it was thrown, so an
attempt throws them along with it.
-/

namespace MailRuntime

open Js Interaction

/-- `new OutboundPolicyError(message)`. -/
def outboundPolicyError (message : String) : Exn := ⟨.outboundPolicy, message, 500, false⟩

/-- What the variables of an attempt hold. -/
structure Assigned where
  outboundJob : Option OutboundJobRow := none
  draft : Option DraftRow := none
  recipients : Recipients := ⟨[], [], []⟩
deriving DecidableEq, Repr

/-- The programs of an attempt. -/
abbrev SendOp (α : Type) := Prog Db Label (Assigned × Exn) α

/-- A step of an attempt, while the variables hold that. -/
def Assigned.step {α : Type} (a : Assigned) (p : Op α) : SendOp α :=
  p.tryCatch fun error => .throw (a, error)

/-! ### What the consumer reads -/

/-- `TerminalDeliveryOutcome`. -/
inductive TerminalOutcome where
  | sent | failed
deriving DecidableEq, Repr

/-- `getTerminalDeliveryOutcome`. -/
def getTerminalDeliveryOutcome (events : List DeliveryEventRow) : Option TerminalOutcome :=
  if events.any fun e => e.eventType == .delivery then some .sent
  else if events.any fun e =>
      e.eventType == .bounce || e.eventType == .complaint || e.eventType == .reject then
    some .failed
  else none

/-- The strings among the items of what should be an array. -/
def stringItems (value : Option Json) : List String :=
  ((asArray value).getD []).filterMap fun item => string (some item)

/-- `to`, `cc` and `bcc` of a payload. -/
def sendRecipients (payload : Fields) : Recipients :=
  ⟨stringItems (payload.lookup "to"), stringItems (payload.lookup "cc"),
    stringItems (payload.lookup "bcc")⟩

/-- An item of `attachments` that is an object or an array. -/
def attachmentRef : Json → Option AttachmentRef
  | .obj fields => some ⟨string (fields.lookup "filename"), string (fields.lookup "contentType"),
      string (fields.lookup "r2Key")⟩
  | .arr _ => some ⟨none, none, none⟩
  | _ => none

/-- The rest of a payload. -/
structure PayloadContent where
  sender : String
  subject : String
  text : Option String
  html : Option String
  inReplyTo : Option String
  references : List String
  attachmentRefs : List AttachmentRef
deriving DecidableEq, Repr

/-- The rest of a payload, as the consumer reads it. -/
def payloadContent (payload : Fields) : PayloadContent where
  sender := (string (payload.lookup "from")).getD ""
  subject := (string (payload.lookup "subject")).getD ""
  text := string (payload.lookup "text")
  html := string (payload.lookup "html")
  inReplyTo := string (payload.lookup "inReplyTo")
  references := stringItems (payload.lookup "references")
  attachmentRefs := ((asArray (payload.lookup "attachments")).getD []).filterMap attachmentRef

/-- What the consumer has read of a job before it decides. -/
structure SendContext where
  job : OutboundJobRow
  payload : Json
  draft : Option DraftRow
  message : MessageRow
  outcome : Option TerminalOutcome

/-- What the variables hold then. -/
def SendContext.assigned (c : SendContext) : Assigned := { outboundJob := c.job, draft := c.draft }

/-- What they hold once the recipients are read. -/
def SendContext.assignedTo (c : SendContext) (recipients : Recipients) : Assigned :=
  { c.assigned with recipients := recipients }

/-- The job, or else an exception. -/
def loadOutboundJob (outboundJobId : String) : Op OutboundJobRow := do
  let job ← getOutboundJob outboundJobId
  requireRow job "Outbound job not found"

/-- The parsed payload of a job. -/
def loadSendPayload (draftR2Key : String) : Op Json := do
  match ← r2Get draftR2Key with
  | none => throw (Exn.error "Draft payload not found in R2")
  | some object => object.parseJson

/-- The message of a job and what is known of its delivery. -/
def loadOutboundMessage (messageId : String) : Op (MessageRow × Option TerminalOutcome) := do
  let row ← getMessage messageId
  let message ← requireRow row "Outbound message not found"
  let events ← listDeliveryEventsByMessageId message.id
  pure (message, getTerminalDeliveryOutcome events)

/-- The reads at the head of an attempt. -/
def loadSend (outboundJobId : String) : SendOp SendContext := do
  let job ← Assigned.step {} (loadOutboundJob outboundJobId)
  let payload ← Assigned.step { outboundJob := job } (loadSendPayload job.draftR2Key)
  let draft ← Assigned.step { outboundJob := job }
    (getDraftByR2KeyForOutboundLifecycle job.draftR2Key)
  let (message, outcome) ← Assigned.step { outboundJob := job, draft := draft }
    (loadOutboundMessage job.messageId)
  pure ⟨job, payload, draft, message, outcome⟩

/-! ### Jobs that were sent before -/

/-- What the settlement of the job is told. -/
def SendContext.usage (c : SendContext) (recipients : Recipients) : UsageInput :=
  ⟨c.message.tenantId, c.job.messageId, c.job.id, c.draft.map DraftRow.id,
    c.draft.bind DraftRow.createdVia, c.draft.bind DraftRow.sourceMessageId, recipients⟩

/-- The settlement of a job that was sent. -/
def settleSend (env : Env) (c : SendContext) (recipients : Recipients) : Op Verdict :=
  tryCatch (do
    settleOutboundUsageDebit env (c.usage recipients)
    pure .ack) fun billingError => do
      enqueueDeadLetter "outbound-billing" c.job.id billingError.message
      pure .retry

/-- Statuses are brought up to date; if that fails the job is delivered again. -/
def recovering (outboundJobId reason : String) (p : SendOp Unit) (next : SendOp Verdict) :
    SendOp Verdict := do
  let failure ← (Prog.tryCatch (do
    p
    pure none) fun failure => pure (some failure) : SendOp (Option (Assigned × Exn)))
  match failure with
  | some (a, recoveryError) => a.step do
      enqueueDeadLetter "outbound-send" outboundJobId (reason ++ ":" ++ recoveryError.message)
      pure .retry
  | none => next

/-- The message and the draft are marked as sent where they are not. -/
def completeSent (env : Env) (c : SendContext) : Op Unit := do
  if c.message.status ≠ .replied then updateMessageStatus c.job.messageId .replied else pure ()
  markDraftStatusIf env (c.draft.filter fun d => d.status != .sent) .sent

/-- The branch of a job that is `sent`. -/
def resumeSent (env : Env) (c : SendContext) : SendOp Verdict := do
  let fields ← c.assigned.step (recordFields c.payload)
  let recipients := sendRecipients fields
  let a := c.assignedTo recipients
  recovering c.job.id "sent_recovery_incomplete" (a.step (completeSent env c))
    (a.step (settleSend env c recipients))

/-! ### Jobs that are being sent -/

/-- The message of a job that is `sending` is known to have been sent. -/
def SendContext.knownSent (c : SendContext) : Bool :=
  c.message.providerMessageId.any truthy || c.message.sentAt.isSome ||
  c.message.status == .replied || c.outcome == some .sent

/-- It is known to have failed. -/
def SendContext.knownFailed (c : SendContext) : Bool :=
  c.message.status == .failed || c.outcome == some .failed

/-- The message, the draft and the job are marked as sent. -/
def recoverSent (env : Env) (c : SendContext) : Op Unit := do
  updateMessageStatus c.job.messageId .replied
  markDraftStatusIf env c.draft .sent
  updateOutboundJobStatus env c.job.id .sent none

/-- The branch of a job that is `sending` and known to have been sent. -/
def resumeKnownSent (env : Env) (c : SendContext) : SendOp Verdict := do
  let fields ← c.assigned.step (recordFields c.payload)
  let recipients := sendRecipients fields
  let a := c.assignedTo recipients
  recovering c.job.id "sending_recovery_sent_incomplete" (a.step (recoverSent env c))
    (a.step (settleSend env c recipients))

/-- The credits of a draft that will not be sent are given back. -/
def releaseDraft (env : Env) (draft : DraftRow) (recipients : Recipients) : Op Unit :=
  releaseOutboundUsageReservation env draft.tenantId draft.sourceMessageId draft.createdVia
    recipients

/-- The draft is marked as failed and its credits given back. -/
def recoverFailedDraft (env : Env) (c : SendContext) : SendOp Assigned :=
  match c.draft with
  | none => pure c.assigned
  | some draft => do
    let fields ← c.assigned.step do
      markDraftStatus env draft.id .failed
      recordFields c.payload
    let recipients := sendRecipients fields
    (c.assignedTo recipients).step (releaseDraft env draft recipients)
    pure (c.assignedTo recipients)

/-- The message, the draft and the job are marked as failed. -/
def recoverFailed (env : Env) (c : SendContext) : SendOp Unit := do
  c.assigned.step (updateMessageStatus c.job.messageId .failed)
  let a ← recoverFailedDraft env c
  a.step (updateOutboundJobStatus env c.job.id .failed
    (some (if c.outcome = some .failed then "provider_delivery_failed" else "send_failed")))

/-- The branch of a job that is `sending` and known to have failed. -/
def resumeKnownFailed (env : Env) (c : SendContext) : SendOp Verdict :=
  recovering c.job.id "sending_recovery_failed_incomplete" (recoverFailed env c) (pure .ack)

/-- The reason that is given when nobody can tell whether a job was sent. -/
def uncertainReason : String := "send_attempt_uncertain_manual_review_required"

/-- The draft of a job that has failed, as far as that can be done. -/
def failDraft (env : Env) (draft : Option DraftRow) (recipients : Recipients) : Op Unit :=
  match draft with
  | none => pure ()
  | some draft => do
    catchAll (markDraftStatus env draft.id .failed) ()
    catchAll (releaseDraft env draft recipients) ()

/-- A job is given up. -/
def giveUp (env : Env) (c : SendContext) (recipients : Recipients) : Op Verdict := do
  updateOutboundJobStatus env c.job.id .failed (some uncertainReason)
  catchAll (updateMessageStatus c.job.messageId .failed) ()
  failDraft env c.draft recipients
  enqueueDeadLetter "outbound-send" c.job.id uncertainReason
  pure .ack

/-- The branch of a job that is `sending` and nothing is known of. -/
def resumeInDoubt (env : Env) (c : SendContext) : SendOp Verdict := do
  let now ← c.assigned.step (nowIso env)
  if (now : Int) - c.job.updatedAt < env.outboundSendInDoubtGraceMs then pure .retry
  else do
    let fields ← c.assigned.step (recordFields c.payload)
    let recipients := sendRecipients fields
    (c.assignedTo recipients).step (giveUp env c recipients)

/-! ### Jobs that are to be sent -/

/-- The loop of `getSuppressedRecipients`. -/
def suppressedAmong (env : Env) : List String → Op (List String)
  | [] => pure []
  | recipient :: rest => do
    let suppression ← getSuppression env recipient
    let others ← suppressedAmong env rest
    pure (if suppression.isSome then recipient :: others else others)

/-- `getSuppressedRecipients`. -/
def getSuppressedRecipients (env : Env) (recipients : List String) : Op (List String) :=
  suppressedAmong env
    ((recipients.map (normalizeRecipientAddress env)).filter truthy).eraseDups

/-- `ensureDraftSendAllowed`, where there is a draft. -/
def ensureDraftAllowed (env : Env) (draft : Option DraftRow) : Op Unit :=
  match draft with
  | some draft => ensureDraftSendAllowed env draft
  | none => pure ()

/-- The recipients, once it is certain that none of them is suppressed. -/
def admitRecipients (env : Env) (recipients : Recipients) : Op RoutedRecipients := do
  let routed ← routeOutboundRecipients env recipients
  let suppressed ← getSuppressedRecipients env routed.externalAddresses
  if !suppressed.isEmpty then
    throw (outboundPolicyError ("Suppressed " ++
      (if suppressed.length = 1 then "recipient is" else "recipients are") ++ " blocked: " ++
      join ", " suppressed))
  else match getOutboundRecipientRoutingValidationError routed with
    | some message => throw (outboundPolicyError message)
    | none => pure routed

/-- What is delivered to local mailboxes. -/
def SendContext.delivery (c : SendContext) (recipients : Recipients) (content : PayloadContent)
    (routed : RoutedRecipients) : LocalDelivery where
  outboundJobId := c.job.id
  sender := content.sender
  toList := recipients.toList
  cc := recipients.ccList
  subject := content.subject
  text := content.text
  html := content.html
  inReplyTo := content.inReplyTo
  references := content.references
  attachmentRefs := content.attachmentRefs
  recipients := routed.toInternal ++ routed.ccInternal ++ routed.bccInternal

/-- What the provider is given. -/
def SendContext.sendInput (c : SendContext) (content : PayloadContent) (mailboxAddress : String)
    (routed : RoutedRecipients) : OutboundDraftSendInput where
  sender := content.sender
  toList := routed.toExternal
  cc := routed.ccExternal
  bcc := routed.bccExternal
  subject := content.subject
  text := content.text
  html := content.html
  inReplyTo := content.inReplyTo
  references := content.references
  attachmentRefs := content.attachmentRefs
  replyToAddresses := [mailboxAddress]
  emailTags := [("message_id", c.job.messageId), ("outbound_job_id", c.job.id),
    ("tenant_id", c.message.tenantId), ("mailbox_id", c.message.mailboxId)]

/-- The message is delivered here and sent: the provider's identifier. -/
def deliver (env : Env) (c : SendContext) (recipients : Recipients) (content : PayloadContent)
    (mailboxAddress : String) (routed : RoutedRecipients) : Op String := do
  if routed.toInternal ++ routed.ccInternal ++ routed.bccInternal ≠ [] then
    deliverLocallyToMailboxes env (c.delivery recipients content routed)
  else pure ()
  if routed.externalAddresses ≠ [] then
    sendOutboundDraft env c.job.id c.job.draftR2Key
      (c.sendInput content mailboxAddress routed)
  else pure ("internal-" ++ c.job.id)

/-- The job, the message and the draft are marked as sent. -/
def persistSent (env : Env) (c : SendContext) (providerMessageId : String) : Op Unit := do
  updateOutboundJobStatus env c.job.id .sent none
  markMessageSent env c.job.messageId providerMessageId .replied
  markDraftStatusIf env c.draft .sent

/-- What follows a send. -/
def finishSend (env : Env) (c : SendContext) (recipients : Recipients)
    (providerMessageId : String) : Op Verdict := do
  let failure ← tryCatch (do
    persistSent env c providerMessageId
    pure none) fun error => pure (some error)
  match failure with
  | some error => do
    enqueueDeadLetter "outbound-send" c.job.id ("provider_accepted_persistence_incomplete:" ++
      providerMessageId ++ ":" ++ error.message)
    pure .ack
  | none => settleSend env c recipients

/-- The send of a job that is claimed. -/
def sendClaimed (env : Env) (c : SendContext) : SendOp Verdict := do
  let fields ← c.assigned.step do
    let mailbox ← getMailboxById c.message.mailboxId
    let mailbox ← requireRow mailbox "Mailbox not found"
    let fields ← recordFields c.payload
    pure (mailbox.address, fields)
  let (mailboxAddress, fields) := fields
  let recipients := sendRecipients fields
  let content := payloadContent fields
  (c.assignedTo recipients).step do
    ensureDraftAllowed env c.draft
    let routed ← admitRecipients env recipients
    let providerMessageId ← deliver env c recipients content mailboxAddress routed
    finishSend env c recipients providerMessageId

/-- The branch of a job that is to be sent. -/
def claimAndSend (env : Env) (c : SendContext) : SendOp Verdict := do
  if ← c.assigned.step (claimOutboundJobForSend env c.job.id) then do
    match ← c.assigned.step (getOutboundJob c.job.id) with
    | none => throw ({ draft := c.draft }, Exn.error "Outbound job disappeared after claim")
    | some job => sendClaimed env { c with job := job }
  else pure .ack

/-! ### The consumer -/

/-- An attempt at a job. -/
def attemptSend (env : Env) (outboundJobId : String) : SendOp Verdict := do
  let c ← loadSend outboundJobId
  if c.job.status = .sent then resumeSent env c
  else if c.job.status = .sending then
    if c.knownSent then resumeKnownSent env c
    else if c.knownFailed then resumeKnownFailed env c
    else resumeInDoubt env c
  else claimAndSend env c

/-- An attempt that failed in this way is the last one. -/
def Assigned.exhausted (a : Assigned) (env : Env) (error : Exn) : Bool :=
  error.kind == .outboundPolicy || error.kind == .draftSendValidation ||
  a.outboundJob.any fun o => env.outboundSendMaxRetries < o.retryCount + 1

/-- The message and the draft of a job that has failed. -/
def abandonSend (env : Env) (a : Assigned) : Op Unit := do
  match a.outboundJob with
  | some o => catchAll (updateMessageStatus o.messageId .failed) ()
  | none => pure ()
  match a.draft with
  | some d => catchAll (markDraftStatus env d.id .failed) ()
  | none => pure ()
  match a.outboundJob, a.draft with
  | some _, some d => catchAll (releaseDraft env d a.recipients) ()
  | _, _ => pure ()

/-- The `catch` block of an attempt. -/
def failSend (env : Env) (outboundJobId : String) (a : Assigned) (error : Exn) : Op Verdict := do
  let exhausted := a.exhausted env error
  catchAll (updateOutboundJobStatus env outboundJobId (if exhausted then .failed else .retry)
    (some error.message) (a.outboundJob.map fun o => o.retryCount + 1)) ()
  if exhausted then abandonSend env a else pure ()
  enqueueDeadLetter "outbound-send" outboundJobId error.message
  pure (if exhausted then .ack else .retry)

/-- The processing of one job. -/
def processOutboundSend (env : Env) (outboundJobId : String) : Op Verdict :=
  (attemptSend env outboundJobId).tryCatch fun (a, error) => failSend env outboundJobId a error

/-- `handleOutboundSend`. -/
def handleOutboundSend (env : Env) : List String → Op (List Verdict)
  | [] => pure []
  | outboundJobId :: rest => do
    let verdict ← processOutboundSend env outboundJobId
    let others ← handleOutboundSend env rest
    pure (verdict :: others)

end MailRuntime
