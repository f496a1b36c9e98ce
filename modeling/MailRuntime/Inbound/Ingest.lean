import MailRuntime.Repositories.Tasks

/-!
# Ingest of an inbound message

`lib/email-ingest.ts`: the raw object of a message is parsed, a thread is found or created,
the parsed parts are stored as a JSON object and on the message's row, the attachments are
stored, and a task is given to the agent of the mailbox. The keys of all objects are made
from the message's or the task's identifier, so that a second run writes over the first.
-/

namespace MailRuntime

open Js Interaction

/-- `RECEIVE_CAPABLE_MAILBOX_ROLES`. -/
def receiveCapableMailboxRoles : List MailboxRole := [.primary, .shared, .receiveOnly]

/-- `object.text()`. -/
def Blob.text (env : Env) : Blob → List Char
  | .json value => (env.stringify value).toList
  | .bytes content _ => utf8Decode content

/-- One operation for each key. -/
def forEachKey (p : String → Op Unit) : List String → Op Unit
  | [] => pure ()
  | key :: rest => do
    p key
    forEachKey p rest

/-- The keys that `deleteR2Objects` deletes. -/
@[irreducible] def uniqueKeys (r2Keys : List String) : List String :=
  ((r2Keys.map trim).filter truthy).eraseDups

/-- `deleteR2Objects`. -/
def deleteR2Objects (r2Keys : List String) : Op Unit :=
  forEachKey (fun key => catchAll (r2Delete key) ()) (uniqueKeys r2Keys)

/-- `deleteR2Objects`, in a `catch` block. -/
def discardR2Objects (r2Keys : List String) : Op Unit :=
  forEachKey discardObject (uniqueKeys r2Keys)

/-! ### A task that needs review -/

/-- What `recordTaskNeedsReview` is told. -/
structure ReviewInput where
  taskId : String
  sourceMessageId : String
  mailboxId : String
  agentId : Option String
  agentVersionId : Option String
  deploymentId : Option String
  queuedAgentId : Option String
  queuedAgentVersionId : Option String
  queuedDeploymentId : Option String
  reviewReason : String
  sourceMessageStatus : Option String
deriving DecidableEq, Repr

/-- `value ?? null` of an optional string. -/
def orNull (value : Option String) : Json := (value.map Json.str).getD .null

/-- The trace of a task that needs review. -/
def ReviewInput.trace (input : ReviewInput) (runId model : String) (effectiveAgentId : Option String)
    (timestamp : Nat) : Json :=
  .obj [
    ("runId", .str runId), ("taskId", .str input.taskId),
    ("sourceMessageId", .str input.sourceMessageId), ("mailboxId", .str input.mailboxId),
    ("queuedAgentId", orNull input.queuedAgentId),
    ("queuedAgentVersionId", orNull input.queuedAgentVersionId),
    ("queuedDeploymentId", orNull input.queuedDeploymentId),
    ("agentId", orNull effectiveAgentId), ("agentVersionId", orNull input.agentVersionId),
    ("deploymentId", orNull input.deploymentId), ("model", .str model),
    ("status", .str "needs_review"), ("reviewReason", .str input.reviewReason),
    ("sourceMessageStatus", orNull input.sourceMessageStatus),
    ("startedAt", .num timestamp), ("completedAt", .num timestamp)]

/-- The version that is said to have run: `effectiveAgentId && agentVersionId ? … : null`. -/
def runVersion (agentId versionId : Option String) : Op (Option AgentVersionRow) :=
  match agentId.filter truthy, versionId.filter truthy with
  | some agentId, some versionId => getAgentVersion agentId versionId
  | _, _ => pure none

/-- The key of a task's trace. -/
def traceR2KeyOf (taskId : String) : String := "traces/run_" ++ taskId ++ ".json"

/-- `INSERT OR REPLACE INTO agent_runs`. -/
def replaceAgentRun (row : AgentRunRow) : Op Unit := do
  let _ ← execute (fun _ => .write .agentRuns) fun s =>
    (1, { s with agentRuns := (s.agentRuns.filter fun r => r.id != row.id) ++ [row] })
  pure ()

/-- `recordTaskNeedsReview`: the key of the trace. -/
def recordTaskNeedsReview (env : Env) (input : ReviewInput) : Op String := do
  let runId := "run_" ++ input.taskId
  let timestamp ← nowIso env
  let effectiveAgentId := input.agentId <|> input.queuedAgentId
  let version ← runVersion effectiveAgentId input.agentVersionId
  let model := (version.bind AgentVersionRow.model).getD "gpt-5"
  let traceR2Key := traceR2KeyOf input.taskId
  r2Put traceR2Key (.json (input.trace runId model effectiveAgentId timestamp))
  tryCatch (do
    replaceAgentRun ⟨runId, input.taskId, effectiveAgentId, model, .needsReview, traceR2Key,
      timestamp, timestamp⟩
    updateTaskStatus env input.taskId .needsReview (some traceR2Key)) fun error => do
      agentRunRows.discard fun r => r.id == runId
      discardR2Objects [traceR2Key]
      throw error
  pure traceR2Key

/-! ### The parts of ingest -/

/-- The raw object of a job, parsed. -/
def loadParsedEmail (env : Env) (rawR2Key : String) : Op ParsedEmail := do
  match ← r2Get rawR2Key with
  | none => throw (Exn.error "Raw email object not found")
  | some rawObject =>
    match parseRawEmail env (rawObject.text env) with
    | some parsed => pure parsed
    | none => throw (Exn.error "atob() called with invalid base64-encoded data")

/-- The identifiers a reply refers to, the nearest first. -/
def ParsedEmail.referencedMessageIds (parsed : ParsedEmail) : List String :=
  (parsed.inReplyTo.toList ++ parsed.references.reverse).filter fun value => truthy (trim value)

/-- `parsed.threadKey`, a new identifier if there is none. -/
def threadKeyOf (env : Env) (parsed : ParsedEmail) : Op String :=
  match parsed.threadKey with
  | some threadKey => pure threadKey
  | none => createId env "thread"

/-- The thread of a parsed message. -/
def threadOfParsed (env : Env) (job : EmailIngestJob) (parsed : ParsedEmail) : Op ThreadRow := do
  match ← findThreadByReplyContext env job.tenantId job.mailboxId parsed.referencedMessageIds
      parsed.subject (parsed.replyTo <|> parsed.sender) with
  | some thread => pure thread
  | none => do
    let threadKey ← threadKeyOf env parsed
    getOrCreateThread env job.tenantId job.mailboxId threadKey
      (some (normalizeSubject env parsed.subject))

/-- The key of a message's normalized form. -/
def normalizedR2KeyOf (messageId : String) : String := "normalized/" ++ messageId ++ ".json"

/-- The normalized form of a message. -/
def ParsedEmail.normalized (parsed : ParsedEmail) : Json :=
  .obj (Draft.stored [
    ("text", some (.str (parsed.text.getD ""))), ("html", some (.str (parsed.html.getD ""))),
    ("headers", some (.obj (parsed.headers.map fun (key, value) =>
      (key, .str (String.ofList value))))),
    ("from", ofString parsed.sender), ("replyTo", ofString parsed.replyTo),
    ("messageId", ofString parsed.messageId), ("inReplyTo", ofString parsed.inReplyTo),
    ("references", some (.arr (parsed.references.map .str)))])

/-- What is written on the row of the message. -/
def ParsedEmail.input (parsed : ParsedEmail) (messageId threadId : String) : NormalizedInput where
  messageId := messageId
  threadId := threadId
  normalizedR2Key := normalizedR2KeyOf messageId
  subject := parsed.subject
  snippet := parsed.snippet
  internetMessageId := parsed.messageId
  fromAddr := parsed.replyTo <|> parsed.sender
  status := .normalized

/-- The normalized form is stored, and the message's row is written. -/
def storeNormalized (job : EmailIngestJob) (parsed : ParsedEmail) (threadId : String) :
    Op Unit := do
  let normalizedR2Key := normalizedR2KeyOf job.messageId
  r2Put normalizedR2Key (.json parsed.normalized)
  tryCatch (updateInboundMessageNormalized (parsed.input job.messageId threadId)) fun error => do
    discardR2Objects [normalizedR2Key]
    catchAll (deleteThreadIfUnreferenced threadId) ()
    throw error

/-- The identifier of the attachment with a number. -/
def attachmentIdOf (messageId : String) (number : Nat) : String :=
  "att_" ++ messageId ++ "_" ++ toString number

/-- What is stored of the attachment with a number. -/
def ParsedAttachment.input (attachment : ParsedAttachment) (messageId : String) (number : Nat) :
    AttachmentInput where
  id := attachmentIdOf messageId number
  filename := attachment.filename
  contentType := some attachment.contentType
  sizeBytes := attachment.content.length
  r2Key := "attachments/" ++ messageId ++ "/" ++ attachmentIdOf messageId number

/-- The loop that uploads the attachments, from a number on: what is stored of them. -/
def uploadAttachments (messageId : String) :
    Nat → List ParsedAttachment → Op (List AttachmentInput)
  | _, [] => pure []
  | number, attachment :: rest => do
    let row := attachment.input messageId number
    r2Put row.r2Key (.bytes attachment.content (some attachment.contentType))
    let others ← uploadAttachments messageId (number + 1) rest
    pure (row :: others)

/-- The attachments are uploaded, take the place of those of an earlier run, and the objects
of those that are gone are deleted. -/
def storeAttachments (env : Env) (messageId : String) (attachments : List ParsedAttachment) :
    Op Unit := do
  let rows ← uploadAttachments messageId 1 attachments
  let stale ← tryCatch (insertAttachments env messageId rows) fun error => do
    discardR2Objects (rows.map AttachmentInput.r2Key)
    throw error
  deleteR2Objects stale

/-- The task of the message: one for the agent of the mailbox, or else one that is there. -/
def taskOfMessage (env : Env) (job : EmailIngestJob) (target : Option ExecutionTarget) :
    Op (Option TaskRow) :=
  match target with
  | some target => do
    let task ← getOrCreateTaskForSourceMessage env {
      tenantId := job.tenantId, mailboxId := job.mailboxId, sourceMessageId := job.messageId
      taskType := "reply", priority := 50, status := .queued, assignedAgent := some target.agentId }
    pure (some task)
  | none => getTaskBySourceMessageId job.messageId "reply"

/-- The task is still to be worked on. -/
def TaskRow.isOpen (t : TaskRow) : Bool :=
  t.status == .queued || t.status == .running || t.status == .needsReview

/-- The status the message gets after its task: `tasked`, or what it was before unless that
comes before ingest. -/
def statusAfterIngest (existing : Option MessageRow) (task : Option TaskRow) :
    Option MessageStatus :=
  if task.any TaskRow.isOpen then some .tasked
  else (existing.map MessageRow.status).filter fun status =>
    status != .received && status != .normalized

/-- The text of a message's status. -/
def MessageStatus.text : MessageStatus → String
  | received => "received"
  | normalized => "normalized"
  | tasked => "tasked"
  | replied => "replied"
  | ignored => "ignored"
  | failed => "failed"

/-- The task is sent to its agent, and is given to review if that fails. -/
def sendTask (env : Env) (existing : Option MessageRow) (target : ExecutionTarget)
    (task : TaskRow) : Op Unit :=
  tryCatch (do
    let _ ← execute (fun _ => .write .executeQueue) fun s =>
      (1, { s with executeQueue := s.executeQueue ++
        [⟨task.id, target.agentId, target.agentVersionId, target.deploymentId⟩] })
    pure ()) fun error => do
      let _ ← recordTaskNeedsReview env {
        taskId := task.id, sourceMessageId := task.sourceMessageId, mailboxId := task.mailboxId
        agentId := some target.agentId, agentVersionId := target.agentVersionId
        deploymentId := target.deploymentId, queuedAgentId := some target.agentId
        queuedAgentVersionId := target.agentVersionId
        queuedDeploymentId := target.deploymentId
        reviewReason := "agent_execute_queue_unavailable"
        sourceMessageStatus := some
          ((existing.map fun m => m.status.text).getD "normalized") }
      catchAll (enqueueDeadLetter "agent-execute-dispatch" task.id error.message) ()

/-- The status of the message, and the task that is to be sent. -/
def finishIngest (env : Env) (job : EmailIngestJob) (existing : Option MessageRow) :
    Op Unit := do
  let target ← resolveAgentExecutionTarget job.mailboxId none receiveCapableMailboxRoles
  let task ← taskOfMessage env job target
  match statusAfterIngest existing task with
  | some status => updateMessageStatus job.messageId status
  | none => pure ()
  match target, task.filter fun t => t.status == .queued with
  | some target, some task => sendTask env existing target task
  | _, _ => pure ()

/-- `processEmailIngestJob`. -/
def processEmailIngestJob (env : Env) (job : EmailIngestJob) : Op Unit := do
  let existing ← getMessage job.messageId
  let parsed ← loadParsedEmail env job.rawR2Key
  let thread ← threadOfParsed env job parsed
  storeNormalized job parsed thread.id
  updateThreadTimestamp env thread.id
  storeAttachments env job.messageId parsed.attachments
  finishIngest env job existing

/-- `env.EMAIL_INGEST_QUEUE.send(job)`. -/
def sendIngestJob (job : EmailIngestJob) : Op Unit := do
  let _ ← execute (fun _ => .write .ingestQueue) fun s =>
    (1, { s with ingestQueue := s.ingestQueue ++ [job] })
  pure ()

/-- `dispatchEmailIngestWithFallback`. -/
def dispatchEmailIngestWithFallback (env : Env) (job : EmailIngestJob) : Op Unit :=
  tryCatch (sendIngestJob job) fun _ => processEmailIngestJob env job

/-- What a consumer answers for a message of its queue. -/
inductive Verdict where
  | ack | retry
deriving DecidableEq, Repr

/-- `handleEmailIngest`. -/
def handleEmailIngest (env : Env) : List EmailIngestJob → Op (List Verdict)
  | [] => pure []
  | job :: rest => do
    let verdict ← tryCatch (do
      processEmailIngestJob env job
      pure Verdict.ack) fun error => do
        enqueueDeadLetter "email-ingest" job.messageId error.message
        pure Verdict.retry
    let others ← handleEmailIngest env rest
    pure (verdict :: others)

/-! ### Footprints -/

variable {ts : List Table} {env : Env}

theorem touches_forEachKey {p : String → Op Unit} (h : ∀ key, Touches ts (p key))
    (keys : List String) : Touches ts (forEachKey p keys) := by
  induction keys with
  | nil => trivial
  | cons key rest ih => exact .bind (h key) fun _ => ih

theorem touches_deleteR2Objects {r2Keys : List String} :
    Touches [.objects] (deleteR2Objects r2Keys) :=
  touches_forEachKey (fun _ => .catchAll touches_r2Delete) _

theorem touches_discardR2Objects {r2Keys : List String} :
    Touches [.objects] (discardR2Objects r2Keys) :=
  touches_forEachKey (fun _ => touches_discardObject) _

@[simp] theorem touches_getAgentVersion {agentId versionId : String} :
    Touches ts (getAgentVersion agentId versionId) := by
  refine .bind (touches_query rfl) fun version => ?_
  cases version with
  | none => trivial
  | some _ => exact .bind (touches_query rfl) fun _ => .bind (touches_query rfl) fun _ => trivial

theorem touches_replaceAgentRun {row : AgentRunRow} :
    Touches [.agentRuns] (replaceAgentRun row) := by
  refine .bind (touches_execute ?_ fun _ => rfl) fun _ => trivial
  intro s t ht
  cases t <;> first | rfl | exact absurd rfl ht

theorem touches_recordTaskNeedsReview {input : ReviewInput} :
    Touches [.objects, .agentRuns, .tasks] (recordTaskNeedsReview env input) := by
  refine .bind touches_nowIso fun timestamp => .bind ?_ fun version =>
    .bind (touches_r2Put.mono (by simp)) fun _ => .bind (.tryCatch ?_ fun _ => ?_) fun _ => trivial
  · rw [runVersion.eq_def]
    split
    · exact touches_getAgentVersion
    · trivial
  · exact .bind (touches_replaceAgentRun.mono (by simp)) fun _ =>
      touches_updateTaskStatus.mono (by simp)
  · exact .bind (agentRunRows.touches_discard.mono (by simp [agentRunRows])) fun _ =>
      .bind (touches_discardR2Objects.mono (by simp)) fun _ => trivial

@[simp] theorem touches_loadParsedEmail {rawR2Key : String} :
    Touches ts (loadParsedEmail env rawR2Key) := by
  refine .bind touches_r2Get fun rawObject => ?_
  cases rawObject with
  | none => trivial
  | some rawObject =>
    dsimp only
    split <;> trivial

theorem touches_threadOfParsed {job : EmailIngestJob} {parsed : ParsedEmail} :
    Touches [.threads, .messages] (threadOfParsed env job parsed) := by
  refine .bind touches_findThreadByReplyContext fun thread => ?_
  cases thread with
  | some _ => trivial
  | none =>
    refine .bind ?_ fun threadKey => touches_getOrCreateThread.mono (by simp)
    rw [threadKeyOf]
    split
    · trivial
    · exact touches_createId

theorem touches_storeNormalized {job : EmailIngestJob} {parsed : ParsedEmail} {threadId : String} :
    Touches [.threads, .messages, .objects] (storeNormalized job parsed threadId) := by
  refine .bind (touches_r2Put.mono (by simp)) fun _ =>
    .tryCatch (touches_updateInboundMessageNormalized.mono (by simp)) fun _ =>
    .bind (touches_discardR2Objects.mono (by simp)) fun _ =>
    .bind (.catchAll (touches_deleteThreadIfUnreferenced.mono (by simp))) fun _ => trivial

theorem touches_uploadAttachments {messageId : String} (attachments : List ParsedAttachment)
    (number : Nat) : Touches [.objects] (uploadAttachments messageId number attachments) := by
  induction attachments generalizing number with
  | nil => trivial
  | cons attachment rest ih =>
    exact .bind touches_r2Put fun _ => .bind (ih _) fun _ => trivial

theorem touches_storeAttachments {messageId : String} {attachments : List ParsedAttachment} :
    Touches [.objects, .attachments] (storeAttachments env messageId attachments) :=
  .bind ((touches_uploadAttachments _ _).mono (by simp)) fun _ =>
    .bind (.tryCatch (touches_insertAttachments.mono (by simp)) fun _ =>
      .bind (touches_discardR2Objects.mono (by simp)) fun _ => trivial) fun _ =>
    touches_deleteR2Objects.mono (by simp)

theorem touches_taskOfMessage {job : EmailIngestJob} {target : Option ExecutionTarget} :
    Touches [.tasks] (taskOfMessage env job target) := by
  unfold taskOfMessage
  split
  · exact .bind touches_getOrCreateTaskForSourceMessage fun _ => trivial
  · exact touches_getTaskBySourceMessageId

theorem touches_sendTask {existing : Option MessageRow} {target : ExecutionTarget}
    {task : TaskRow} : Touches [.executeQueue, .objects, .agentRuns, .tasks, .deadLetters]
      (sendTask env existing target task) := by
  refine .tryCatch (.bind ((touches_execute (u := .executeQueue) ?_ fun _ => rfl).mono (by simp))
    fun _ => trivial) fun _ => .bind (touches_recordTaskNeedsReview.mono (by simp)) fun _ =>
      .catchAll (touches_enqueueDeadLetter.mono (by simp))
  intro s t ht
  cases t <;> first | rfl | exact absurd rfl ht

/-- The tables that the end of ingest writes. -/
theorem touches_finishIngest {job : EmailIngestJob} {existing : Option MessageRow} :
    Touches [.messages, .executeQueue, .objects, .agentRuns, .tasks, .deadLetters]
      (finishIngest env job existing) := by
  refine .bind touches_resolveAgentExecutionTarget fun target =>
    .bind (touches_taskOfMessage.mono (by simp)) fun task => ?_
  have hsend : Touches [.messages, .executeQueue, .objects, .agentRuns, .tasks, .deadLetters]
      (match target, task.filter fun t => t.status == .queued with
      | some target, some task => sendTask env existing target task
      | _, _ => pure ()) := by
    split
    · exact touches_sendTask.mono (by simp)
    · trivial
  dsimp only
  split
  · exact .bind (touches_updateMessageStatus.mono (by simp)) fun _ => hsend
  · exact hsend

/-- The tables that ingest writes. -/
def ingestTables : List Table :=
  [.threads, .messages, .objects, .attachments, .tasks, .agentRuns, .executeQueue, .deadLetters]

theorem touches_processEmailIngestJob {job : EmailIngestJob} :
    Touches ingestTables (processEmailIngestJob env job) :=
  .bind touches_getMessage fun _ => .bind touches_loadParsedEmail fun _ =>
    .bind (touches_threadOfParsed.mono (by simp [ingestTables])) fun _ =>
    .bind (touches_storeNormalized.mono (by simp [ingestTables])) fun _ =>
    .bind (touches_updateThreadTimestamp.mono (by simp [ingestTables])) fun _ =>
    .bind (touches_storeAttachments.mono (by simp [ingestTables])) fun _ =>
    touches_finishIngest.mono (by simp [ingestTables])

theorem touches_sendIngestJob {job : EmailIngestJob} :
    Touches [.ingestQueue] (sendIngestJob job) := by
  refine .bind (touches_execute ?_ fun _ => rfl) fun _ => trivial
  intro s t ht
  cases t <;> first | rfl | exact absurd rfl ht

theorem touches_dispatchEmailIngestWithFallback {job : EmailIngestJob} :
    Touches (.ingestQueue :: ingestTables) (dispatchEmailIngestWithFallback env job) :=
  .tryCatch (touches_sendIngestJob.mono (by simp)) fun _ =>
    touches_processEmailIngestJob.mono fun _ h => List.mem_cons_of_mem _ h

end MailRuntime
