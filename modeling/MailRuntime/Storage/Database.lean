import MailRuntime.Js.Json

/-!
# The database and the object store

The D1 tables, one list of rows each, with the columns the modelled functions read or
write; a nullable column is an `Option`. Status columns are enumerations. A column of
JSON text holds the parsed value, and `none` where the text is null or does not parse,
which the readers of these columns do not tell apart. Times are milliseconds.

Beside the tables there are the R2 objects, the queues, and `draws`, the number of
values taken so far from what the runtime has no control over: fresh identifiers, the
clock, the answers of a provider.
-/

namespace MailRuntime

open Js

/-! ### Enumerations -/

/-- `TenantBillingStatus`. -/
inductive BillingStatus where
  | trial | active | delinquent | suspended
deriving DecidableEq, Repr

/-- `PricingTier`. -/
inductive PricingTier where
  | free | paidReview | paidActive | enterprise
deriving DecidableEq, Repr

/-- `CreditLedgerEntryType`. -/
inductive EntryType where
  | topup | debitSend | debitReply | refund | adjustment
deriving DecidableEq, Repr

/-- `PaymentReceiptType`. -/
inductive ReceiptType where
  | topup | upgrade | refund | adjustment
deriving DecidableEq, Repr

/-- `PaymentReceiptStatus`. -/
inductive ReceiptStatus where
  | pending | verified | settled | failed | refunded
deriving DecidableEq, Repr

/-- `TenantOutboundStatus`. -/
inductive OutboundStatus where
  | internalOnly | externalReview | externalEnabled | suspended
deriving DecidableEq, Repr

/-- `OutboundJobStatus`. -/
inductive JobStatus where
  | queued | sending | sent | retry | failed
deriving DecidableEq, Repr

/-- `DraftStatus`. -/
inductive DraftStatus where
  | draft | approved | queued | sent | cancelled | failed
deriving DecidableEq, Repr

/-- `MessageStatus`. -/
inductive MessageStatus where
  | received | normalized | tasked | replied | ignored | failed
deriving DecidableEq, Repr

/-- `MessageProvider`. -/
inductive Provider where
  | cloudflare | internal | ses | resend
deriving DecidableEq, Repr

/-- `MessageRecord["direction"]`. -/
inductive Direction where
  | inbound | outbound
deriving DecidableEq, Repr

/-- `DeliveryEventType`. -/
inductive DeliveryEventType where
  | delivery | bounce | complaint | reject | unknown
deriving DecidableEq, Repr

/-- `TaskStatus`. -/
inductive TaskStatus where
  | queued | running | done | needsReview | failed
deriving DecidableEq, Repr

/-- `AgentStatus`. -/
inductive AgentStatus where
  | draft | active | disabled | archived
deriving DecidableEq, Repr

/-- `AgentDeploymentStatus`. -/
inductive DeploymentStatus where
  | active | paused | rolledBack
deriving DecidableEq, Repr

/-- `AgentDeploymentRecord["targetType"]`. -/
inductive DeploymentTarget where
  | mailbox | workflow | tenantDefault
deriving DecidableEq, Repr

/-- `AgentMailboxBindingRecord["role"]`. -/
inductive MailboxRole where
  | primary | shared | sendOnly | receiveOnly
deriving DecidableEq, Repr

/-- `IdempotencyRecord["status"]`. -/
inductive IdempotencyStatus where
  | pending | completed
deriving DecidableEq, Repr

/-! ### Rows -/

/-- A row of `mailboxes`. -/
structure MailboxRow where
  id : String
  tenantId : String
  address : String
  status : String
deriving DecidableEq, Repr

/-- A row of `agents`. -/
structure AgentRow where
  id : String
  tenantId : String
  status : AgentStatus
  defaultVersionId : Option String
deriving DecidableEq, Repr

/-- A row of `agent_versions`. -/
structure AgentVersionRow where
  id : String
  agentId : String
  model : Option String
deriving DecidableEq, Repr

/-- A row of `agent_mailboxes`; `active` is `status = 'active'`. -/
structure AgentMailboxRow where
  tenantId : String
  agentId : String
  mailboxId : String
  role : MailboxRole
  active : Bool
deriving DecidableEq, Repr

/-- A row of `agent_deployments`. -/
structure DeploymentRow where
  id : String
  tenantId : String
  agentId : String
  agentVersionId : String
  targetType : DeploymentTarget
  targetId : String
  status : DeploymentStatus
  updatedAt : Nat
deriving DecidableEq, Repr

/-- A row of `agent_policies`; the confidence threshold is counted in hundredths. -/
structure AgentPolicyRow where
  agentId : String
  autoReplyEnabled : Bool
  humanReviewRequired : Bool
  confidenceThreshold : Nat
  maxAutoRepliesPerThread : Nat
  allowedRecipientDomains : List String
  blockedSenderDomains : List String
  allowedTools : List String
deriving DecidableEq, Repr

/-- A row of `tenant_send_policies`. -/
structure SendPolicyRow where
  tenantId : String
  pricingTier : PricingTier
  outboundStatus : OutboundStatus
  internalDomainAllowlist : List String
  externalSendEnabled : Bool
  reviewRequired : Bool
  updatedAt : Nat
deriving DecidableEq, Repr

/-- A row of `threads`. -/
structure ThreadRow where
  id : String
  tenantId : String
  mailboxId : String
  threadKey : String
  subjectNorm : Option String
deriving DecidableEq, Repr

/-- A row of `messages`. -/
structure MessageRow where
  id : String
  tenantId : String
  mailboxId : String
  threadId : Option String
  direction : Direction
  provider : Provider
  internetMessageId : Option String
  providerMessageId : Option String
  fromAddr : String
  toAddr : String
  subject : Option String
  snippet : Option String
  status : MessageStatus
  rawR2Key : Option String
  normalizedR2Key : Option String
  receivedAt : Option Nat
  sentAt : Option Nat
  createdAt : Nat
deriving DecidableEq, Repr

/-- A row of `attachments`. -/
structure AttachmentRow where
  id : String
  messageId : String
  filename : Option String
  contentType : Option String
  sizeBytes : Nat
  sha256 : Option String
  r2Key : String
  createdAt : Nat
deriving DecidableEq, Repr

/-- A row of `tasks`. -/
structure TaskRow where
  id : String
  tenantId : String
  mailboxId : String
  sourceMessageId : String
  taskType : String
  priority : Nat
  status : TaskStatus
  assignedAgent : Option String
  resultR2Key : Option String
  createdAt : Nat
  updatedAt : Nat
deriving DecidableEq, Repr

/-- A row of `agent_runs`. -/
structure AgentRunRow where
  id : String
  taskId : String
  agentId : Option String
  model : String
  status : TaskStatus
  traceR2Key : String
  startedAt : Nat
  completedAt : Nat
deriving DecidableEq, Repr

/-- A row of `drafts`. -/
structure DraftRow where
  id : String
  tenantId : String
  agentId : String
  mailboxId : String
  threadId : Option String
  sourceMessageId : Option String
  createdVia : Option String
  status : DraftStatus
  draftR2Key : String
  createdAt : Nat
  updatedAt : Nat
deriving DecidableEq, Repr

/-- A row of `outbound_jobs`. -/
structure OutboundJobRow where
  id : String
  messageId : String
  taskId : Option String
  status : JobStatus
  sesRegion : String
  retryCount : Nat
  nextRetryAt : Option Nat
  lastError : Option String
  draftR2Key : String
  createdAt : Nat
  updatedAt : Nat
deriving DecidableEq, Repr

/-- A row of `delivery_events`. -/
structure DeliveryEventRow where
  id : String
  messageId : Option String
  provider : String
  providerMessageId : Option String
  eventType : DeliveryEventType
  payloadR2Key : String
  createdAt : Nat
deriving DecidableEq, Repr

/-- A row of `suppressions`. -/
structure SuppressionRow where
  email : String
  reason : String
deriving DecidableEq, Repr

/-- A row of `idempotency_keys`. -/
structure IdempotencyRow where
  operation : String
  tenantId : String
  idempotencyKey : String
  requestFingerprint : String
  status : IdempotencyStatus
  resourceId : Option String
  response : Option Json
  createdAt : Nat
  updatedAt : Nat

/-- A row of `tenant_billing_accounts`. -/
structure BillingAccountRow where
  tenantId : String
  status : BillingStatus
  pricingTier : PricingTier
  defaultNetwork : Option String
  defaultAsset : Option String
  availableCredits : Int
  reservedCredits : Int
  updatedAt : Nat
deriving DecidableEq, Repr

/-- A row of `tenant_credit_ledger`. -/
structure CreditLedgerRow where
  id : String
  tenantId : String
  entryType : EntryType
  creditsDelta : Int
  reason : String
  paymentReceiptId : Option String
  referenceId : Option String
  metadata : Option Json
  createdAt : Nat

/-- A row of `tenant_payment_receipts`. -/
structure PaymentReceiptRow where
  id : String
  tenantId : String
  receiptType : ReceiptType
  paymentScheme : String
  network : Option String
  asset : Option String
  amountAtomic : String
  amountDisplay : Option String
  paymentReference : Option String
  settlementReference : Option String
  paymentProofFingerprint : Option String
  status : ReceiptStatus
  metadata : Option Json
  createdAt : Nat
  updatedAt : Nat

/-! ### Objects and queues -/

/-- What an R2 object holds. -/
inductive Blob where
  /-- JSON text. -/
  | json (value : Json)
  /-- Raw bytes, with the content type they were stored under. -/
  | bytes (content : List UInt8) (contentType : Option String)

/-- `DeadLetterJob`. -/
structure DeadLetterJob where
  source : String
  refId : String
  reason : String
deriving DecidableEq, Repr

/-- `EmailIngestJob`. -/
structure EmailIngestJob where
  messageId : String
  tenantId : String
  mailboxId : String
  rawR2Key : String
deriving DecidableEq, Repr

/-- `AgentExecuteJob`. -/
structure AgentExecuteJob where
  taskId : String
  agentId : String
  agentVersionId : Option String
  deploymentId : Option String
deriving DecidableEq, Repr

/-- The tables, the objects, the queues and the number of draws. -/
structure Db where
  mailboxes : List MailboxRow := []
  agents : List AgentRow := []
  agentVersions : List AgentVersionRow := []
  agentMailboxes : List AgentMailboxRow := []
  agentDeployments : List DeploymentRow := []
  agentPolicies : List AgentPolicyRow := []
  sendPolicies : List SendPolicyRow := []
  threads : List ThreadRow := []
  messages : List MessageRow := []
  attachments : List AttachmentRow := []
  tasks : List TaskRow := []
  agentRuns : List AgentRunRow := []
  drafts : List DraftRow := []
  outboundJobs : List OutboundJobRow := []
  deliveryEvents : List DeliveryEventRow := []
  suppressions : List SuppressionRow := []
  idempotencyKeys : List IdempotencyRow := []
  accounts : List BillingAccountRow := []
  ledger : List CreditLedgerRow := []
  receipts : List PaymentReceiptRow := []
  objects : List (String × Blob) := []
  outboundQueue : List String := []
  ingestQueue : List EmailIngestJob := []
  executeQueue : List AgentExecuteJob := []
  deadLetters : List DeadLetterJob := []
  draws : Nat := 0

/-- The parts of the database a statement may be about. -/
inductive Table where
  | mailboxes | agents | agentVersions | agentMailboxes | agentDeployments | agentPolicies
  | sendPolicies | threads | messages | attachments | tasks | agentRuns | drafts | outboundJobs
  | deliveryEvents | suppressions | idempotencyKeys | accounts | ledger | receipts | objects
  | outboundQueue | ingestQueue | executeQueue | deadLetters
deriving DecidableEq, Repr

/-- The two databases have the same `t`. -/
def Table.Same : Table → Db → Db → Prop
  | mailboxes, s, s' => s.mailboxes = s'.mailboxes
  | agents, s, s' => s.agents = s'.agents
  | agentVersions, s, s' => s.agentVersions = s'.agentVersions
  | agentMailboxes, s, s' => s.agentMailboxes = s'.agentMailboxes
  | agentDeployments, s, s' => s.agentDeployments = s'.agentDeployments
  | agentPolicies, s, s' => s.agentPolicies = s'.agentPolicies
  | sendPolicies, s, s' => s.sendPolicies = s'.sendPolicies
  | threads, s, s' => s.threads = s'.threads
  | messages, s, s' => s.messages = s'.messages
  | attachments, s, s' => s.attachments = s'.attachments
  | tasks, s, s' => s.tasks = s'.tasks
  | agentRuns, s, s' => s.agentRuns = s'.agentRuns
  | drafts, s, s' => s.drafts = s'.drafts
  | outboundJobs, s, s' => s.outboundJobs = s'.outboundJobs
  | deliveryEvents, s, s' => s.deliveryEvents = s'.deliveryEvents
  | suppressions, s, s' => s.suppressions = s'.suppressions
  | idempotencyKeys, s, s' => s.idempotencyKeys = s'.idempotencyKeys
  | accounts, s, s' => s.accounts = s'.accounts
  | ledger, s, s' => s.ledger = s'.ledger
  | receipts, s, s' => s.receipts = s'.receipts
  | objects, s, s' => s.objects = s'.objects
  | outboundQueue, s, s' => s.outboundQueue = s'.outboundQueue
  | ingestQueue, s, s' => s.ingestQueue = s'.ingestQueue
  | executeQueue, s, s' => s.executeQueue = s'.executeQueue
  | deadLetters, s, s' => s.deadLetters = s'.deadLetters

theorem Table.Same.rfl {t : Table} {s : Db} : t.Same s s := by cases t <;> exact Eq.refl _

theorem Table.Same.trans {t : Table} {s s' s'' : Db} (h : t.Same s s') (h' : t.Same s' s'') :
    t.Same s s'' := by cases t <;> exact Eq.trans h h'

end MailRuntime
