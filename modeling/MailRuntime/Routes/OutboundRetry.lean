import MailRuntime.Handlers.OutboundSend

/-!
# The retry of a failed job

`POST /admin/api/outbound-jobs/:outboundJobId/retry` of `routes/site.ts`, after the check of the
caller's access. What was read of the job, its draft and its message decides whether it may be
retried. The credits are reserved next, and only then come the writes that an exception takes
back.
-/

namespace MailRuntime

open Js Interaction

/-- `new SiteRequestError(message, status)`. -/
def siteRequestError : Refusal := fun message status => ⟨.siteRequest, message, status, false⟩

/-- `readDraftRecipientsForAdmin`. -/
def readDraftRecipientsForAdmin (draftR2Key : String) : Op Recipients :=
  readDraftRecipients (siteRequestError "Draft payload not found" 409)
    (siteRequestError draftRecipientsMessage 409) draftR2Key

/-- An `OutboundJobStatus` as text. -/
def JobStatus.text : JobStatus → String
  | queued => "queued"
  | sending => "sending"
  | sent => "sent"
  | retry => "retry"
  | failed => "failed"

/-- What the route answers: `{ ok: true, outboundJobId, status: "queued" }`, or an error with an
HTTP status. -/
inductive RetryResponse where
  | queued (outboundJobId : String)
  | error (message : String) (status : Nat)
deriving DecidableEq, Repr

/-- The answer to an exception. -/
def retryError (e : Exn) : RetryResponse :=
  .error e.message
    (if e.kind == .siteRequest || e.kind == .draftSendValidation then e.status else 502)

/-- Why a job cannot be retried, if it cannot. -/
def retryRefusal (job : OutboundJobRow) (message : MessageRow) (events : List DeliveryEventRow) :
    Option String :=
  if message.providerMessageId.any truthy || message.sentAt.isSome || !events.isEmpty then
    some "Outbound jobs with provider delivery events cannot be retried from the queue state"
  else if job.lastError == some uncertainReason then
    some ("Outbound jobs with uncertain prior send attempts require manual verification before " ++
      "any retry")
  else if job.status != .failed then
    some ("Outbound job status " ++ job.status.text ++ " cannot be retried")
  else none

/-- `env.OUTBOUND_SEND_QUEUE.send({ outboundJobId })`. -/
def sendToOutboundQueue (outboundJobId : String) : Op Unit := do
  let _ ← execute (fun _ => .write .outboundQueue) fun s =>
    (1, { s with outboundQueue := s.outboundQueue ++ [outboundJobId] })

theorem touches_sendToOutboundQueue {outboundJobId : String} :
    Touches [.outboundQueue] (sendToOutboundQueue outboundJobId) := by
  refine .bind (touches_execute ?_ fun _ => rfl) fun _ => trivial
  intro s t ht
  cases t <;> first | rfl | exact absurd rfl ht

/-- The writes of a retry. -/
def requeue (env : Env) (job : OutboundJobRow) (draft : DraftRow) : Op Unit := do
  updateOutboundJobStatus env job.id .queued none (some 0)
  updateMessageStatus job.messageId .tasked
  markDraftStatus env draft.id .queued
  sendToOutboundQueue job.id

/-- What takes them back: the snapshots are restored and the credits released. -/
def unqueue (env : Env) (job : OutboundJobRow) (message : MessageRow) (draft : DraftRow)
    (recipients : Recipients) : Op Unit := do
  catchAll (updateOutboundJobStatus env job.id job.status job.lastError (some job.retryCount)
    job.nextRetryAt) ()
  catchAll (updateMessageStatus job.messageId message.status) ()
  catchAll (markDraftStatus env draft.id draft.status) ()
  catchAll (releaseOutboundUsageReservation env draft.tenantId draft.sourceMessageId
    draft.createdVia recipients) ()

/-- The writes, taken back if one of them fails. -/
def requeueOrRestore (env : Env) (job : OutboundJobRow) (message : MessageRow) (draft : DraftRow)
    (recipients : Recipients) : Op Unit :=
  tryCatch (requeue env job draft) fun error => do
    unqueue env job message draft recipients
    throw error

/-- The retry of a job that may be retried. -/
def retryFailedJob (env : Env) (job : OutboundJobRow) (message : MessageRow) (draft : DraftRow) :
    Op RetryResponse := do
  ensureDraftSendAllowed env draft
  let recipients ← readDraftRecipientsForAdmin job.draftR2Key
  -- no exception of this statement, or of those it is made of, is handled below
  reserveDraftSendCredits env draft
  requeueOrRestore env job message draft recipients
  pure (.queued job.id)

/-- The route, but for its handling of exceptions. -/
def retryJob (env : Env) (outboundJobId : String) : Op RetryResponse := do
  match ← getOutboundJob outboundJobId with
  | none => pure (.error "Outbound job not found" 404)
  | some job => do
    match ← getDraftByR2KeyForOutboundLifecycle job.draftR2Key with
    | none => pure (.error "Outbound draft not found" 409)
    | some draft => do
      match ← getMessage job.messageId with
      | none => pure (.error "Outbound message not found" 409)
      | some message => do
        let events ← listDeliveryEventsByMessageId message.id
        match retryRefusal job message events with
        | some error => pure (.error error 409)
        | none => retryFailedJob env job message draft

/-- `POST /admin/api/outbound-jobs/:outboundJobId/retry`. -/
def retryOutboundJob (env : Env) (outboundJobId : String) : Op RetryResponse :=
  tryCatch (retryJob env outboundJobId) fun error => pure (retryError error)

end MailRuntime
