import MailRuntime.Repositories.Messages

/-!
# Outbound jobs

The part of `repositories/mail.ts` about outbound jobs. A job is visible while its message
is. Its status is written without a look at what it was, except by the consumer's claim,
which takes a job from `queued` or `retry` to `sending`.
-/

namespace MailRuntime

open Js Interaction

/-- The job's message is visible. -/
def Db.jobVisible (s : Db) (o : OutboundJobRow) : Bool := s.hasMessage o.messageId

/-- The visible job with an identifier. -/
def Db.outboundJob (s : Db) (outboundJobId : String) : Option OutboundJobRow :=
  s.outboundJobs.find? fun o => o.id == outboundJobId && s.jobVisible o

/-- The visible jobs of a message. -/
def Db.jobsOfMessage (s : Db) (messageId : String) : List OutboundJobRow :=
  s.outboundJobs.filter fun o => o.messageId == messageId && s.jobVisible o

/-- The visible jobs of a draft. -/
def Db.jobsOfDraft (s : Db) (draftR2Key : String) : List OutboundJobRow :=
  s.outboundJobs.filter fun o => o.draftR2Key == draftR2Key && s.jobVisible o

/-- `getOutboundJob`. -/
def getOutboundJob (outboundJobId : String) : Op (Option OutboundJobRow) :=
  query (.read .outboundJobs) fun s => s.outboundJob outboundJobId

/-- `getOutboundJobByMessageId`. -/
def getOutboundJobByMessageId (messageId : String) : Op (Option OutboundJobRow) :=
  query (.read .outboundJobs) fun s => only (s.jobsOfMessage messageId)

/-- `listVisibleOutboundJobsByDraftR2Key`; no caller tells two rows from more. -/
def listVisibleOutboundJobsByDraftR2Key (draftR2Key : String) : Op (List OutboundJobRow) :=
  query (.read .outboundJobs) fun s => s.jobsOfDraft draftR2Key

/-- `getOutboundJobByDraftR2Key`. -/
def getOutboundJobByDraftR2Key (draftR2Key : String) : Op (Option OutboundJobRow) := do
  let rows ← listVisibleOutboundJobsByDraftR2Key draftR2Key
  pure (only rows)

/-- `deleteInvalidOutboundJobsForDraftR2Key`: how many there were. -/
def deleteInvalidOutboundJobsForDraftR2Key (draftR2Key : String) : Op Nat := do
  let rows ← jobRows.select fun s o => o.draftR2Key == draftR2Key && !s.jobVisible o
  jobRows.discardEach OutboundJobRow.id (rows.map OutboundJobRow.id)
  pure rows.length

/-- `updateOutboundJobStatus`; the retry count stays unless one is given, the time of the next
retry and the last error do not. -/
def updateOutboundJobStatus (env : Env) (outboundJobId : String) (status : JobStatus)
    (lastError : Option String) (retryCount nextRetryAt : Option Nat := none) : Op Unit := do
  let updatedAt ← nowIso env
  let changes ← jobRows.updateAs (.writeJob outboundJobId status retryCount)
    (fun s o => o.id == outboundJobId && s.jobVisible o) fun o =>
      { o with
        status := status, retryCount := retryCount.getD o.retryCount
        nextRetryAt := nextRetryAt, lastError := lastError, updatedAt := updatedAt }
  requireStateUpdateApplied changes ("Outbound job " ++ outboundJobId)

/-- The consumer may take the job. -/
def OutboundJobRow.claimable (o : OutboundJobRow) : Bool :=
  o.status == .queued || o.status == .retry

/-- `claimOutboundJobForSend`. -/
def claimOutboundJobForSend (env : Env) (outboundJobId : String) : Op Bool := do
  let updatedAt ← nowIso env
  let changes ← jobRows.updateAs (.claimJob outboundJobId)
    (fun s o => o.id == outboundJobId && o.claimable && s.jobVisible o) fun o =>
      { o with status := .sending, lastError := none, updatedAt := updatedAt }
  if changes = 0 then pure false
  else do
    match ← getOutboundJob outboundJobId with
    | none => do
      jobRows.discard fun o => o.id == outboundJobId
      pure false
    | some _ => pure true

/-! ### Footprints -/

variable {ts : List Table} {env : Env}

@[simp] theorem touches_getOutboundJob {outboundJobId : String} :
    Touches ts (getOutboundJob outboundJobId) := touches_query rfl

@[simp] theorem touches_getOutboundJobByMessageId {messageId : String} :
    Touches ts (getOutboundJobByMessageId messageId) := touches_query rfl

@[simp] theorem touches_listVisibleOutboundJobsByDraftR2Key {draftR2Key : String} :
    Touches ts (listVisibleOutboundJobsByDraftR2Key draftR2Key) := touches_query rfl

@[simp] theorem touches_getOutboundJobByDraftR2Key {draftR2Key : String} :
    Touches ts (getOutboundJobByDraftR2Key draftR2Key) :=
  .bind touches_listVisibleOutboundJobsByDraftR2Key fun _ => trivial

theorem touches_updateOutboundJobStatus {outboundJobId : String} {status : JobStatus}
    {lastError : Option String} {retryCount nextRetryAt : Option Nat} :
    Touches [.outboundJobs]
      (updateOutboundJobStatus env outboundJobId status lastError retryCount nextRetryAt) :=
  .bind touches_nowIso fun _ => .bind (jobRows.touches_updateAs fun _ => rfl) fun _ =>
    touches_requireStateUpdateApplied

end MailRuntime
