import MailRuntime.Outbound.Provider
import MailRuntime.Routes.OutboundRetry

/-!
# The send of a draft is enqueued

`enqueueDraftSend` of `repositories/mail.ts`. The draft is claimed by a status that only one
caller can take it to. What follows writes in turn the thread, the credits, the message and the
job, and hands the job to the queue; an exception takes all of it back by hand.
-/

namespace MailRuntime

open Js Interaction

/-- A `DraftStatus` as text. -/
def DraftStatus.text : DraftStatus → String
  | draft => "draft"
  | approved => "approved"
  | queued => "queued"
  | sent => "sent"
  | cancelled => "cancelled"
  | failed => "failed"

/-- The exception of a draft whose status does not let it be enqueued. -/
def notEnqueuable (status : String) : Exn :=
  .error ("Draft status " ++ status ++ " cannot be enqueued for send")

/-! ### What is read and checked -/

/-- What is read of a draft's payload and of the routing of its recipients. -/
structure SendPlan where
  sender : String
  toAddr : String
  subject : String
  requirement : CreditRequirement
  externalRecipientCount : Nat
  attachmentKeys : List String
deriving DecidableEq, Repr

/-- `draftPayload`, which has no fields where there is no object. -/
def readSendPayload (draftR2Key : String) : Op Fields := do
  match ← r2Get draftR2Key with
  | none => pure []
  | some object => do
    let payload ← object.parseJson
    recordFields payload

/-- `draftPayload.to.join(",")`, of a list of strings. -/
def joinedRecipients (value : Option Json) : String :=
  ",".intercalate (((asArray value).getD []).map fun item => (string (some item)).getD "")

/-- The mailbox of a draft is active, and is its sender. -/
def checkDraftSender (env : Env) (draft : DraftRow) (sender : String) : Op Unit := do
  let mailbox ← getMailboxById draft.mailboxId
  let mailboxAddress := (mailbox.map fun m => env.toLowerCase (trim m.address)).getD ""
  ensure (truthy mailboxAddress) (Exn.error "Mailbox not found")
  ensure (mailbox.any fun m => m.status == "active") (Exn.error "Mailbox is not active")
  ensure (truthy sender) (Exn.error "Draft from address is required")
  ensure (sender == mailboxAddress)
    (Exn.error "Draft from address must match the mailbox address")

/-- The part of the `try` block before its first write. -/
def planDraftSend (env : Env) (draft : DraftRow) : Op SendPlan := do
  let payload ← readSendPayload draft.draftR2Key
  match parseDraftRecipients payload with
  | none => throw (Exn.error draftRecipientsMessage)
  | some recipients => do
    let requirement ← getOutboundCreditRequirement env recipients draft.sourceMessageId
      draft.createdVia
    let routed ← routeOutboundRecipients env recipients
    let attachments ← parseDraftAttachments
      (Exn.error "Draft attachments must be an array when provided")
      (Exn.error
        "Draft attachments must be an array of objects with filename, contentType, and r2Key")
      (payload.lookup "attachments")
    let sender := env.toLowerCase (trim ((string (payload.lookup "from")).getD ""))
    checkDraftSender env draft sender
    pure {
      sender := sender, toAddr := joinedRecipients (payload.lookup "to")
      subject := (string (payload.lookup "subject")).getD "", requirement := requirement
      externalRecipientCount := routed.externalRecipientCount
      attachmentKeys := attachments.map DraftAttachment.r2Key }

/-- The attachments exist and are the draft's mailbox's. -/
def checkDraftAttachments (tenantId mailboxId : String) : List String → Op Unit
  | [] => pure ()
  | key :: rest => do
    let r2Key := trim key
    ensure (truthy r2Key) (Exn.error "Attachment r2Key is required")
    match ← getAttachmentOwnerByR2Key r2Key with
    | none => throw (Exn.error ("Attachment not found: " ++ r2Key))
    | some (_, ownerTenantId, ownerMailboxId) => do
      ensure (ownerTenantId == tenantId) (Exn.error "Attachment does not belong to tenant")
      ensure (ownerMailboxId == mailboxId) (Exn.error "Attachment does not belong to mailbox")
      checkDraftAttachments tenantId mailboxId rest

/-! ### What is written -/

/-- The identifiers of a send, and its time. -/
structure SendIds where
  outboundJobId : String
  outboundMessageId : String
  timestamp : Nat
deriving DecidableEq, Repr

/-- The draft's thread, an empty one counting as none. -/
def DraftRow.sendThread (draft : DraftRow) : Option String := draft.threadId.filter truthy

/-- The thread that is created for a draft that has none and whose subject is not blank. -/
def createSendThread (env : Env) (draft : DraftRow) (subject outboundMessageId : String) :
    Op (Option ThreadRow) :=
  let normalizedSubject := normalizeSubject env (some subject)
  if draft.sendThread.isNone && truthy normalizedSubject then do
    let thread ← getOrCreateThread env draft.tenantId draft.mailboxId
      ("outbound:" ++ outboundMessageId) (some normalizedSubject)
    pure (some thread)
  else pure none

/-- The draft gets the thread that was created. -/
def assignSendThread (env : Env) (draftId : String) : Option String → Op Unit
  | some threadId => assignDraftThreadId env draftId threadId
  | none => pure ()

/-- The draft gets the thread that was created, and its attachments are checked. -/
def attachSendThread (env : Env) (draft : DraftRow) (plan : SendPlan)
    (createdThreadId : Option String) : Op Unit := do
  assignSendThread env draft.id createdThreadId
  checkDraftAttachments draft.tenantId draft.mailboxId plan.attachmentKeys

/-- The credits are reserved: how many. -/
def reserveSendCredits (env : Env) (tenantId : String) (requirement : CreditRequirement) : Op Int :=
  if requirement.requiresCredits then do
    match ← reserveTenantAvailableCredits env tenantId requirement.creditsRequired with
    | some _ => pure requirement.creditsRequired
    | none => throw (Exn.error (insufficientCreditsToReserve requirement.creditsRequired))
  else pure 0

/-- The row of the message. -/
def outboundMessageRow (env : Env) (draft : DraftRow) (plan : SendPlan) (ids : SendIds)
    (threadId : Option String) : MessageRow where
  id := ids.outboundMessageId
  tenantId := draft.tenantId
  mailboxId := draft.mailboxId
  threadId := threadId
  direction := .outbound
  provider := if 0 < plan.externalRecipientCount then getOutboundProvider env else .internal
  internetMessageId := none
  providerMessageId := none
  fromAddr := plan.sender
  toAddr := plan.toAddr
  subject := some plan.subject
  snippet := none
  status := .tasked
  rawR2Key := none
  normalizedR2Key := none
  receivedAt := none
  sentAt := none
  createdAt := ids.timestamp

/-- The row of the job. -/
def outboundJobRow (env : Env) (draft : DraftRow) (ids : SendIds) : OutboundJobRow where
  id := ids.outboundJobId
  messageId := ids.outboundMessageId
  taskId := none
  status := .queued
  sesRegion := env.SES_REGION
  retryCount := 0
  nextRetryAt := none
  lastError := none
  draftR2Key := draft.draftR2Key
  createdAt := ids.timestamp
  updatedAt := ids.timestamp

/-- `insertOutboundJob`: nothing is inserted if the draft has a visible job. -/
def insertOutboundJob (env : Env) (draft : DraftRow) (ids : SendIds) : Op Nat :=
  jobRows.insertWhereAs (.writeJob ids.outboundJobId .queued (some 0))
    (fun s => (s.jobsOfDraft draft.draftR2Key).isEmpty)
    (fun s => !s.outboundJobs.any fun o => o.id == ids.outboundJobId)
    (outboundJobRow env draft ids)

/-- The exception where the draft has visible jobs already. -/
def refuseVisibleJobs (draftId : String) : List OutboundJobRow → Op Unit
  | [] => pure ()
  | [job] =>
    throw (Exn.error ("Draft " ++ draftId ++ " already has visible outbound job " ++ job.id))
  | _ => throw (Exn.error ("Draft " ++ draftId ++ " has multiple visible outbound jobs"))

/-- The second attempt to insert the job, if jobs were deleted that are not visible. -/
def insertAfterDeletion (env : Env) (draft : DraftRow) (ids : SendIds) (deleted : Nat) : Op Nat :=
  if deleted = 0 then pure 0 else insertOutboundJob env draft ids

/-- What follows the first attempt where the draft has no visible job. -/
def retryInsertJob (env : Env) (draft : DraftRow) (ids : SendIds) : Op Unit := do
  let deleted ← deleteInvalidOutboundJobsForDraftR2Key draft.draftR2Key
  let changes ← insertAfterDeletion env draft ids deleted
  if changes = 0 then do
    let retriedExistingJobs ← listVisibleOutboundJobsByDraftR2Key draft.draftR2Key
    refuseVisibleJobs draft.id retriedExistingJobs
    throw (Exn.error ("Outbound job " ++ ids.outboundJobId ++ " could not be created because " ++
      "dedupe skipped insertion without any visible existing outbound job for " ++
      draft.draftR2Key))
  else pure ()

/-- The job is inserted, or it is found out why it cannot be. -/
def createOutboundJob (env : Env) (draft : DraftRow) (ids : SendIds) : Op Unit := do
  let changes ← insertOutboundJob env draft ids
  if changes = 0 then do
    let existingJobs ← listVisibleOutboundJobsByDraftR2Key draft.draftR2Key
    refuseVisibleJobs draft.id existingJobs
    retryInsertJob env draft ids
  else pure ()

/-- The message and the job are written, looked for and sent to the queue. -/
def writeOutboundJob (env : Env) (draft : DraftRow) (plan : SendPlan) (ids : SendIds)
    (threadId : Option String) : Op Unit := do
  messageRows.insert (fun s => s.messageIdFree ids.outboundMessageId)
    (outboundMessageRow env draft plan ids threadId)
  createOutboundJob env draft ids
  let _ ← requireRow (← getMessage ids.outboundMessageId)
    ("Failed to load outbound message " ++ ids.outboundMessageId)
  let _ ← requireRow (← getOutboundJob ids.outboundJobId)
    ("Failed to load outbound job " ++ ids.outboundJobId)
  sendToOutboundQueue ids.outboundJobId

/-! ### The whole -/

/-- The thread that was created is deleted, unless it is the one the draft had. -/
def undoSendThread (draft : DraftRow) : Option String → Op Unit
  | some threadId =>
    if truthy threadId && draft.threadId != some threadId then
      catchAll (deleteThreadIfUnreferenced threadId) ()
    else pure ()
  | none => pure ()

/-- The credits that were reserved are given back. -/
def undoReservation (env : Env) (tenantId : String) (reserved : Int) : Op Unit :=
  if 0 < reserved then do
    let _ ← catchAll (releaseTenantReservedCredits env tenantId reserved) none
  else pure ()

/-- The `catch` block, with the values of `createdThreadId` and `creditReservationAmount` at the
exception. -/
def undoDraftSend {α : Type} (env : Env) (draft : DraftRow) (ids : SendIds)
    (createdThreadId : Option String) (reserved : Int) (error : Exn) : Op α := do
  jobRows.discardAs (.undo .outboundJobs) fun o => o.id == ids.outboundJobId
  messageRows.discardAs (.undo .messages) fun m => m.id == ids.outboundMessageId
  catchAll (restoreDraftSendState env draft.id draft.status draft.threadId) ()
  undoSendThread draft createdThreadId
  undoReservation env draft.tenantId reserved
  throw error

/-- The `try` block. Each part is taken back with what the parts before it have done. -/
def sendClaimedDraft (env : Env) (draft : DraftRow) (ids : SendIds) : Op Unit := do
  let plan ← tryCatch (planDraftSend env draft) (undoDraftSend env draft ids none 0)
  let thread ← tryCatch (createSendThread env draft plan.subject ids.outboundMessageId)
    (undoDraftSend env draft ids none 0)
  let createdThreadId := thread.map ThreadRow.id
  let reserved ← tryCatch (do
    attachSendThread env draft plan createdThreadId
    reserveSendCredits env draft.tenantId plan.requirement)
    (undoDraftSend env draft ids createdThreadId 0)
  tryCatch (writeOutboundJob env draft plan ids (createdThreadId <|> draft.threadId))
    (undoDraftSend env draft ids createdThreadId reserved)

/-- The claim is given back for a draft that is not visible any more, or else it is deleted. -/
def abandonClaim (env : Env) (draft : DraftRow) : Op Unit :=
  tryCatch (restoreDraftSendState env draft.id draft.status draft.threadId) fun _ => do
    draftRows.discard fun d => d.id == draft.id
    catchAll (r2Delete draft.draftR2Key) ()

/-- The part of `enqueueDraftSend` for a draft that may be claimed. -/
def claimAndEnqueue (env : Env) (draft : DraftRow) : Op String := do
  let outboundJobId ← createId env "obj"
  let timestamp ← nowIso env
  if ← claimDraftForSend draft.id timestamp then do
    match ← getDraft draft.id with
    | none => do
      abandonClaim env draft
      throw (Exn.error ("Draft " ++ draft.id ++ " no longer exists"))
    | some _ => do
      let outboundMessageId ← createId env "msg"
      sendClaimedDraft env draft ⟨outboundJobId, outboundMessageId, timestamp⟩
      pure outboundJobId
  else do
    let latestDraft ← getDraft draft.id
    throw (notEnqueuable ((latestDraft.map fun d => d.status.text).getD "unknown"))

/-- `enqueueDraftSend`: the identifier of the job. -/
def enqueueDraftSend (env : Env) (draftId : String) : Op String := do
  let draft ← requireRow (← getDraft draftId) "Draft not found"
  if draft.claimable then claimAndEnqueue env draft
  else throw (notEnqueuable draft.status.text)

/-! ### Footprints -/

variable {ts : List Table} {env : Env} {draft : DraftRow} {ids : SendIds}

@[simp] theorem touches_readSendPayload {draftR2Key : String} :
    Touches ts (readSendPayload draftR2Key) := by
  refine .bind touches_r2Get fun object => ?_
  cases object with
  | none => trivial
  | some object => exact .bind touches_parseJson fun _ => touches_recordFields

@[simp] theorem touches_checkDraftSender {sender : String} :
    Touches ts (checkDraftSender env draft sender) :=
  .bind touches_getMailboxById fun _ => .bind touches_ensure fun _ => .bind touches_ensure fun _ =>
    .bind touches_ensure fun _ => touches_ensure

@[simp] theorem touches_planDraftSend : Touches ts (planDraftSend env draft) := by
  refine .bind touches_readSendPayload fun payload => ?_
  split
  · trivial
  · exact .bind touches_getOutboundCreditRequirement fun _ =>
      .bind touches_routeOutboundRecipients fun _ => .bind touches_parseDraftAttachments fun _ =>
      .bind touches_checkDraftSender fun _ => trivial

@[simp] theorem touches_checkDraftAttachments {tenantId mailboxId : String} (keys : List String) :
    Touches ts (checkDraftAttachments tenantId mailboxId keys) := by
  induction keys with
  | nil => trivial
  | cons key rest ih =>
    refine .bind touches_ensure fun _ => .bind touches_getAttachmentOwnerByR2Key fun owner => ?_
    cases owner with
    | none => trivial
    | some owner => exact .bind touches_ensure fun _ => .bind touches_ensure fun _ => ih

theorem touches_createSendThread {subject outboundMessageId : String} :
    Touches [.threads] (createSendThread env draft subject outboundMessageId) := by
  rw [createSendThread]
  split
  · exact .bind touches_getOrCreateThread fun _ => trivial
  · trivial

theorem touches_attachSendThread {plan : SendPlan} {createdThreadId : Option String} :
    Touches [.drafts] (attachSendThread env draft plan createdThreadId) := by
  refine .bind ?_ fun _ => touches_checkDraftAttachments _
  cases createdThreadId with
  | none => trivial
  | some threadId => exact touches_assignDraftThreadId

theorem touches_reserveSendCredits {tenantId : String} {requirement : CreditRequirement} :
    Touches [.accounts] (reserveSendCredits env tenantId requirement) := by
  rw [reserveSendCredits]
  split
  · refine .bind ?_ fun account => ?_
    · exact touches_moveCredits (by simp) fun n t h => by
        obtain rfl := Option.some.inj h
        simp
    · cases account <;> trivial
  · trivial

theorem touches_undoSendThread {createdThreadId : Option String} :
    Touches [.threads] (undoSendThread draft createdThreadId) := by
  cases createdThreadId with
  | none => trivial
  | some threadId =>
    rw [undoSendThread]
    split
    · exact .catchAll touches_deleteThreadIfUnreferenced
    · trivial

theorem touches_undoReservation {tenantId : String} {reserved : Int} :
    Touches [.accounts] (undoReservation env tenantId reserved) := by
  rw [undoReservation]
  split
  · exact .bind (.catchAll touches_releaseTenantReservedCredits) fun _ => trivial
  · trivial

@[simp] theorem touches_refuseVisibleJobs {draftId : String} {jobs : List OutboundJobRow} :
    Touches ts (refuseVisibleJobs draftId jobs) := by
  unfold refuseVisibleJobs
  split <;> trivial

end MailRuntime
