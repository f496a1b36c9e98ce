import MailRuntime.Outbound.Payload
import MailRuntime.Outbound.Policy

/-!
# What a draft has to satisfy to be sent

The checks on a draft before it is sent. The consumer of outbound jobs makes them in
`lib/draft-send-guards.ts`, the routes in `routes/api.ts`, with the same texts and HTTP
statuses and each with its own class of exceptions; a check is told how to make one.
-/

namespace MailRuntime

open Js Interaction

/-- A class of exceptions: how one is made from a text and an HTTP status. -/
abbrev Refusal := String → Nat → Exn

/-- `new DraftSendValidationError(message, status)`. -/
def draftSendValidationError : Refusal := fun message status =>
  ⟨.draftSendValidation, message, status, false⟩

/-- `if (!condition) throw error`. -/
def ensure (condition : Bool) (error : Exn) : Op Unit :=
  if condition then pure () else throw error

/-- `SEND_CAPABLE_MAILBOX_ROLES`. -/
def sendCapableMailboxRoles : List MailboxRole := [.primary, .shared, .sendOnly]

variable (refuse : Refusal)

/-- `validateActiveDraftMailbox`: the mailbox. -/
def validateActiveDraftMailbox (tenantId mailboxId : String) : Op MailboxRow := do
  match ← getMailboxById mailboxId with
  | none => throw (refuse "Mailbox not found" 404)
  | some mailbox => do
    ensure (mailbox.tenantId == tenantId) (refuse "Mailbox does not belong to tenant" 409)
    ensure (mailbox.status == "active") (refuse "Mailbox is not active" 409)
    pure mailbox

/-- The agent exists and is the tenant's. -/
def validateAgent (tenantId agentId : String) : Op Unit := do
  match ← getAgent agentId with
  | none => throw (refuse "Agent not found" 404)
  | some agent =>
    ensure (agent.tenantId == tenantId) (refuse "Agent does not belong to tenant" 409)

/-- `validateSendAgentBinding`: the agent has a role that lets it send, or no role at all and a
deployment. -/
def validateSendAgentBinding (tenantId agentId mailboxId : String) : Op Unit := do
  validateAgent refuse tenantId agentId
  let hasBinding ← hasActiveMailboxBinding agentId mailboxId sendCapableMailboxRoles
  let hasAnyBinding ← hasActiveMailboxBinding agentId mailboxId []
  let hasDeployment ← hasActiveMailboxDeployment agentId mailboxId
  ensure (hasBinding || (hasDeployment && !hasAnyBinding))
    (refuse "Agent is not allowed to send for mailbox" 403)

/-- The thread of a draft, if it has one. -/
def validateDraftThread (tenantId mailboxId : String) (threadId : Option String) : Op Unit := do
  match threadId.filter truthy with
  | none => pure ()
  | some threadId => do
    match ← getThread threadId with
    | none => throw (refuse "Thread not found" 404)
    | some thread => do
      ensure (thread.row.tenantId == tenantId) (refuse "Thread does not belong to tenant" 409)
      ensure (thread.row.mailboxId == mailboxId) (refuse "Thread does not belong to mailbox" 409)

/-- The source message of a draft, if it has one. -/
def validateSourceMessage (tenantId mailboxId : String)
    (threadId sourceMessageId : Option String) : Op Unit := do
  match sourceMessageId.filter truthy with
  | none => pure ()
  | some sourceMessageId => do
    match ← getMessage sourceMessageId with
    | none => throw (refuse "Source message not found" 404)
    | some sourceMessage => do
      ensure (sourceMessage.tenantId == tenantId)
        (refuse "Source message does not belong to tenant" 409)
      ensure (sourceMessage.mailboxId == mailboxId)
        (refuse "Source message does not belong to mailbox" 409)
      ensure ((threadId.filter truthy).all fun id => sourceMessage.threadId == some id)
        (refuse "Source message does not belong to thread" 409)

/-- `validateDraftReferences`. -/
def validateDraftReferences (tenantId mailboxId : String)
    (threadId sourceMessageId : Option String) : Op Unit := do
  validateDraftThread refuse tenantId mailboxId threadId
  validateSourceMessage refuse tenantId mailboxId threadId sourceMessageId

/-- `validateDraftAttachments`, on the R2 keys. -/
def validateDraftAttachments (tenantId mailboxId : String) : List String → Op Unit
  | [] => pure ()
  | key :: rest => do
    let r2Key := trim key
    ensure (truthy r2Key) (refuse "Attachment r2Key is required" 400)
    match ← getAttachmentOwnerByR2Key r2Key with
    | none => throw (refuse "Attachment not found" 404)
    | some (_, ownerTenantId, ownerMailboxId) => do
      ensure (ownerTenantId == tenantId) (refuse "Attachment does not belong to tenant" 409)
      ensure (ownerMailboxId == mailboxId) (refuse "Attachment does not belong to mailbox" 409)
      validateDraftAttachments tenantId mailboxId rest

/-- The attachments of a payload and who owns them: `validateStoredDraftAttachments`. -/
def validateStoredAttachments (tenantId mailboxId : String) (payload : Fields) : Op Unit := do
  let attachments ← parseDraftAttachments
    (refuse "Draft attachments must be an array when provided" 400)
    (refuse "Draft attachments must include filename, contentType, and r2Key" 400)
    (payload.lookup "attachments")
  validateDraftAttachments refuse tenantId mailboxId (attachments.map DraftAttachment.r2Key)

/-- The sender is the mailbox. -/
def validateSender (env : Env) (sender address : String) : Op Unit :=
  let provided := env.toLowerCase (trim sender)
  ensure (truthy provided && provided == env.toLowerCase (trim address))
    (refuse "from must match the mailbox address" 400)

/-- The exception of a refusal of the policy. -/
def refuseByPolicy (decision : PolicyDecision) : Op Unit :=
  match decision.refusal with
  | some (_, message) => throw (refuse message decision.status)
  | none => pure ()

/-! ### The consumer's checks -/

/-- `validateStoredDraftPayload`. -/
def validateStoredDraftPayload (env : Env) (tenantId mailboxId mailboxAddress draftR2Key : String) :
    Op Recipients := do
  let payload ← readDraftPayload (draftSendValidationError "Draft payload not found" 404) draftR2Key
  validateSender draftSendValidationError env ((string (payload.lookup "from")).getD "")
    mailboxAddress
  validateStoredAttachments draftSendValidationError tenantId mailboxId payload
  match parseDraftRecipients payload with
  | some recipients => pure recipients
  | none => throw (draftSendValidationError draftRecipientsMessage 400)

/-- `ensureDraftSendAllowed`, of a draft. -/
def ensureDraftSendAllowed (env : Env) (draft : DraftRow) : Op Unit := do
  let mailbox ← validateActiveDraftMailbox draftSendValidationError draft.tenantId draft.mailboxId
  validateSendAgentBinding draftSendValidationError draft.tenantId draft.agentId draft.mailboxId
  validateDraftReferences draftSendValidationError draft.tenantId draft.mailboxId draft.threadId
    draft.sourceMessageId
  let recipients ← validateStoredDraftPayload env draft.tenantId draft.mailboxId mailbox.address
    draft.draftR2Key
  let decision ← evaluateOutboundPolicy env draft.tenantId draft.agentId recipients
    (some draft.draftR2Key)
  refuseByPolicy draftSendValidationError decision

/-- The error of a reservation that no account has the credits for. -/
def insufficientCreditsToReserve (creditsRequired : Int) : String :=
  "Insufficient credits for external sending. Required: " ++ toString creditsRequired

/-- The part of `reserveDraftSendCredits` after the check of the requirement. -/
def reserveChecked (env : Env) (tenantId : String) (check : CreditCheck) : Op Unit := do
  if !check.hasSufficientCredits then
    throw (draftSendValidationError (insufficientCredits check) 402)
  else if check.requirement.requiresCredits then do
    match ← reserveTenantAvailableCredits env tenantId check.requirement.creditsRequired with
    | some _ => pure ()
    | none => throw (draftSendValidationError
        (insufficientCreditsToReserve check.requirement.creditsRequired) 402)
  else pure ()

/-- `reserveDraftSendCredits`, of a draft. -/
def reserveDraftSendCredits (env : Env) (draft : DraftRow) : Op Unit := do
  let recipients ← readDraftRecipients (draftSendValidationError "Draft payload not found" 404)
    (draftSendValidationError draftRecipientsMessage 400) draft.draftR2Key
  let check ← checkOutboundCreditRequirement env draft.tenantId recipients draft.sourceMessageId
    draft.createdVia
  reserveChecked env draft.tenantId check

/-! ### Footprints -/

variable {ts : List Table} {env : Env} {refuse}

@[simp] theorem touches_ensure {condition : Bool} {error : Exn} :
    Touches ts (ensure condition error) := by
  rw [ensure]
  split <;> trivial

@[simp] theorem touches_validateActiveDraftMailbox {tenantId mailboxId : String} :
    Touches ts (validateActiveDraftMailbox refuse tenantId mailboxId) := by
  refine .bind touches_getMailboxById fun mailbox => ?_
  cases mailbox with
  | none => trivial
  | some mailbox => exact .bind touches_ensure fun _ => .bind touches_ensure fun _ => trivial

@[simp] theorem touches_validateAgent {tenantId agentId : String} :
    Touches ts (validateAgent refuse tenantId agentId) := by
  refine .bind touches_getAgent fun agent => ?_
  cases agent with
  | none => trivial
  | some agent => exact touches_ensure

@[simp] theorem touches_validateSendAgentBinding {tenantId agentId mailboxId : String} :
    Touches ts (validateSendAgentBinding refuse tenantId agentId mailboxId) :=
  .bind touches_validateAgent fun _ => .bind touches_hasActiveMailboxBinding fun _ =>
    .bind touches_hasActiveMailboxBinding fun _ =>
    .bind touches_hasActiveMailboxDeployment fun _ => touches_ensure

@[simp] theorem touches_validateDraftThread {tenantId mailboxId : String}
    {threadId : Option String} :
    Touches ts (validateDraftThread refuse tenantId mailboxId threadId) := by
  unfold validateDraftThread
  split
  · trivial
  · refine .bind touches_getThread fun thread => ?_
    cases thread with
    | none => trivial
    | some thread => exact .bind touches_ensure fun _ => touches_ensure

@[simp] theorem touches_validateSourceMessage {tenantId mailboxId : String}
    {threadId sourceMessageId : Option String} :
    Touches ts (validateSourceMessage refuse tenantId mailboxId threadId sourceMessageId) := by
  unfold validateSourceMessage
  split
  · trivial
  · refine .bind touches_getMessage fun message => ?_
    cases message with
    | none => trivial
    | some message =>
      exact .bind touches_ensure fun _ => .bind touches_ensure fun _ => touches_ensure

@[simp] theorem touches_validateDraftReferences {tenantId mailboxId : String}
    {threadId sourceMessageId : Option String} :
    Touches ts (validateDraftReferences refuse tenantId mailboxId threadId sourceMessageId) :=
  .bind touches_validateDraftThread fun _ => touches_validateSourceMessage

@[simp] theorem touches_validateDraftAttachments {tenantId mailboxId : String}
    (keys : List String) :
    Touches ts (validateDraftAttachments refuse tenantId mailboxId keys) := by
  induction keys with
  | nil => trivial
  | cons key rest ih =>
    refine .bind touches_ensure fun _ => .bind touches_getAttachmentOwnerByR2Key fun owner => ?_
    cases owner with
    | none => trivial
    | some owner => exact .bind touches_ensure fun _ => .bind touches_ensure fun _ => ih

@[simp] theorem touches_validateStoredAttachments {tenantId mailboxId : String}
    {payload : Fields} :
    Touches ts (validateStoredAttachments refuse tenantId mailboxId payload) :=
  .bind touches_parseDraftAttachments fun _ => touches_validateDraftAttachments _

@[simp] theorem touches_validateSender {sender address : String} :
    Touches ts (validateSender refuse env sender address) := touches_ensure

@[simp] theorem touches_refuseByPolicy {decision : PolicyDecision} :
    Touches ts (refuseByPolicy refuse decision) := by
  unfold refuseByPolicy
  split <;> trivial

@[simp] theorem touches_validateStoredDraftPayload
    {tenantId mailboxId mailboxAddress draftR2Key : String} :
    Touches ts (validateStoredDraftPayload env tenantId mailboxId mailboxAddress draftR2Key) := by
  refine .bind touches_readDraftPayload fun payload => .bind touches_validateSender fun _ =>
    .bind touches_validateStoredAttachments fun _ => ?_
  split <;> trivial

theorem touches_ensureDraftSendAllowed {draft : DraftRow} :
    Touches [.sendPolicies, .accounts] (ensureDraftSendAllowed env draft) :=
  .bind touches_validateActiveDraftMailbox fun _ => .bind touches_validateSendAgentBinding fun _ =>
    .bind touches_validateDraftReferences fun _ => .bind touches_validateStoredDraftPayload fun _ =>
    .bind touches_evaluateOutboundPolicy fun _ => touches_refuseByPolicy

end MailRuntime
