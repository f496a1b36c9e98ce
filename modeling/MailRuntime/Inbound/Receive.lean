import MailRuntime.Inbound.Ingest

/-!
# Receipt of an e-mail

`handlers/email.ts`. A message whose `Message-ID` the mailbox has already is resolved to
that message, which is sent to ingest again if it has not got through it; any other message
is stored and sent to ingest.
-/

namespace MailRuntime

open Js Interaction

/-- `ForwardableEmailMessage`: the envelope, the `message-id` header and the raw bytes. -/
structure ForwardableEmailMessage where
  sender : String
  recipient : String
  messageIdHeader : Option String
  raw : List UInt8
deriving DecidableEq, Repr

/-- The key of a raw message. -/
def rawR2KeyOf (env : Env) (receivedAt : Nat) (messageId : String) : String :=
  "raw/" ++ (env.yearMonth receivedAt).1 ++ "/" ++ (env.yearMonth receivedAt).2 ++ "/" ++
    messageId ++ ".eml"

/-- `failInboundMessage`. -/
def failInboundMessage (messageId source : String) (error : Exn) : Op Unit := do
  catchAll (updateMessageStatus messageId .failed) ()
  catchAll (enqueueDeadLetter source messageId error.message) ()

/-- A dispatch after whose failure the message is marked as failed. -/
def dispatchOrFail (env : Env) (source : String) (job : EmailIngestJob) : Op Unit :=
  tryCatch (dispatchEmailIngestWithFallback env job) fun error => do
    failInboundMessage job.messageId source error
    throw error

/-- `resumeExistingInboundMessage`. -/
def resumeExistingInboundMessage (env : Env) (job : EmailIngestJob) : Op Unit :=
  dispatchOrFail env "email-receive-resume" job

/-- The message has not got through ingest: its job, if its raw object is known. -/
def MessageRow.pendingIngest (m : MessageRow) : Option EmailIngestJob :=
  if m.status = .received ∨ m.status = .failed then
    (m.rawR2Key.filter truthy).map fun rawR2Key => ⟨m.id, m.tenantId, m.mailboxId, rawR2Key⟩
  else none

/-- An existing message is sent to ingest again if it has not got through it. -/
def resumeIfPending (env : Env) (existing : MessageRow) : Op Unit :=
  match existing.pendingIngest with
  | some job => resumeExistingInboundMessage env job
  | none => pure ()

/-- The message of a mailbox under a normalized `Message-ID`, if it has one. -/
def existingInboundMessage (env : Env) (mailboxId : String) (internetMessageId : Option String) :
    Op (Option MessageRow) :=
  match internetMessageId with
  | some internetMessageId => getInboundMessageByInternetMessageId env mailboxId internetMessageId
  | none => pure none

/-- The message is stored, and sent to ingest. -/
def storeEmail (env : Env) (message : ForwardableEmailMessage) (mailbox : MailboxRow)
    (internetMessageId : Option String) : Op Unit := do
  let messageId ← createId env "msg"
  let receivedAt ← nowIso env
  let rawR2Key := rawR2KeyOf env receivedAt messageId
  r2Put rawR2Key (.bytes message.raw none)
  let created ← tryCatch (createInboundMessage env {
    id := messageId, tenantId := mailbox.tenantId, mailboxId := mailbox.id
    provider := .cloudflare, internetMessageId := internetMessageId, fromAddr := message.sender
    toAddr := env.toLowerCase message.recipient, status := .received, rawR2Key := rawR2Key
    receivedAt := receivedAt, createdAt := receivedAt }) fun error => do
      discardObject rawR2Key
      throw error
  if created then
    dispatchOrFail env "email-receive" ⟨messageId, mailbox.tenantId, mailbox.id, rawR2Key⟩
  else do
    catchAll (r2Delete rawR2Key) ()
    match ← existingInboundMessage env mailbox.id internetMessageId with
    | some existing => resumeIfPending env existing
    | none => pure ()

/-- `handleEmail`: whether the message was accepted; else it was rejected as one for an
unknown mailbox. -/
def handleEmail (env : Env) (message : ForwardableEmailMessage) : Op Bool := do
  match ← getMailboxByAddress env (env.toLowerCase message.recipient) with
  | none => pure false
  | some mailbox =>
    if mailbox.status = "active" then do
      let internetMessageId := normalizeInternetMessageId env message.messageIdHeader
      match ← existingInboundMessage env mailbox.id internetMessageId with
      | some existing => resumeIfPending env existing
      | none => storeEmail env message mailbox internetMessageId
      pure true
    else pure false

end MailRuntime
