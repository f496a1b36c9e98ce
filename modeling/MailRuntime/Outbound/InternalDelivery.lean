import MailRuntime.Inbound.Receive
import MailRuntime.Mail.Mime
import MailRuntime.Outbound.Payload

/-!
# Delivery to local mailboxes

`lib/internal-delivery.ts`. A message for recipients with a mailbox here is written as raw
e-mail under a `Message-ID` made from the outbound job, and received by each of the
mailboxes one by one.
-/

namespace MailRuntime

open Js Interaction

/-- An attachment as the consumer of outbound jobs reads it from a payload: any of its fields
may be missing or of another type. -/
structure AttachmentRef where
  filename : Option String
  contentType : Option String
  r2Key : Option String
deriving DecidableEq, Repr

/-- `r2Key.split("/").pop()`. -/
def lastSegment (r2Key : String) : String := (splitOnChar '/' r2Key).getLast?.getD "attachment.bin"

/-- `new Uint8Array(await object.arrayBuffer())`. -/
def Blob.content (env : Env) : Blob → List UInt8
  | .json value => utf8 (env.stringify value)
  | .bytes content _ => content

/-- `object.httpMetadata?.contentType`; JSON objects are stored under theirs. -/
def Blob.contentType : Blob → Option String
  | .json _ => some "application/json"
  | .bytes _ contentType => contentType

/-- `loadAttachments`, of the module for local mailboxes and of that for providers. -/
def loadAttachments (env : Env) : List AttachmentRef → Op (List MimeAttachment)
  | [] => pure []
  | ref :: rest => do
    let r2Key := trim (ref.r2Key.getD "")
    if truthy r2Key then do
      match ← r2Get r2Key with
      | none => throw (Exn.error ("Attachment not found in R2: " ++ r2Key))
      | some object => do
        let attachment : MimeAttachment :=
          ⟨ref.filename.getD (lastSegment r2Key),
            ref.contentType.getD (object.contentType.getD "application/octet-stream"),
            object.content env⟩
        let others ← loadAttachments env rest
        pure (attachment :: others)
    else loadAttachments env rest

/-- `messageIdDomain`. -/
def messageIdDomain (env : Env) (sender : String) : String :=
  (recipientDomain (env.toLowerCase (trim sender))).getD "internal.mailagents"

/-- `buildDeterministicMessageId`. -/
def buildDeterministicMessageId (env : Env) (outboundJobId sender : String) : String :=
  "<" ++ outboundJobId ++ "@" ++ messageIdDomain env sender ++ ">"

/-- What `deliverLocallyToMailboxes` is told. -/
structure LocalDelivery where
  outboundJobId : String
  sender : String
  toList : List String
  cc : List String
  subject : String
  text : Option String
  html : Option String
  inReplyTo : Option String
  references : List String
  attachmentRefs : List AttachmentRef
  recipients : List LocalMailboxRecipient
deriving DecidableEq, Repr

/-- An existing message that has not got through ingest is sent there again. -/
def dispatchIfPending (env : Env) (existing : Option MessageRow) : Op Unit :=
  match existing.bind MessageRow.pendingIngest with
  | some job => dispatchEmailIngestWithFallback env job
  | none => pure ()

/-- What follows the creation of a recipient's message, or the discovery that it has one. -/
def dispatchLocal (env : Env) (internetMessageId messageId rawR2Key : String)
    (recipient : LocalMailboxRecipient) (created : Bool) : Op Unit :=
  if created then
    dispatchEmailIngestWithFallback env
      ⟨messageId, recipient.tenantId, recipient.mailboxId, rawR2Key⟩
  else do
    catchAll (r2Delete rawR2Key) ()
    let existing ← getInboundMessageByInternetMessageId env recipient.mailboxId internetMessageId
    dispatchIfPending env existing

/-- The raw object of a message that was not created is deleted after an exception. -/
def discardRaw {α : Type} (rawR2Key : String) (error : Exn) : Op α := do
  discardObject rawR2Key
  throw error

/-- The delivery to one recipient. The raw object is deleted after an exception unless the
message was created. -/
def deliverToRecipient (env : Env) (sender internetMessageId : String) (rawBytes : List UInt8)
    (recipient : LocalMailboxRecipient) : Op Unit := do
  let timestamp ← nowIso env
  let inboundMessageId ← createId env "msg"
  let rawR2Key := rawR2KeyOf env timestamp inboundMessageId
  r2Put rawR2Key (.bytes rawBytes (some "message/rfc822"))
  let created ← tryCatch (createInboundMessage env {
    id := inboundMessageId, tenantId := recipient.tenantId, mailboxId := recipient.mailboxId
    provider := .internal, internetMessageId := some internetMessageId
    fromAddr := env.toLowerCase (trim sender), toAddr := recipient.address, status := .received
    rawR2Key := rawR2Key, receivedAt := timestamp, createdAt := timestamp }) (discardRaw rawR2Key)
  let dispatch := dispatchLocal env internetMessageId inboundMessageId rawR2Key recipient created
  if created then dispatch else tryCatch dispatch (discardRaw rawR2Key)

/-- The loop over the recipients. -/
def deliverToEach (env : Env) (sender internetMessageId : String) (rawBytes : List UInt8) :
    List LocalMailboxRecipient → Op Unit
  | [] => pure ()
  | recipient :: rest => do
    deliverToRecipient env sender internetMessageId rawBytes recipient
    deliverToEach env sender internetMessageId rawBytes rest

/-- The e-mail that is delivered. -/
def LocalDelivery.mime (input : LocalDelivery) (date internetMessageId : String)
    (attachments : List MimeAttachment) : BuildMimeInput where
  sender := input.sender
  toList := input.toList
  cc := input.cc
  subject := input.subject
  text := input.text
  html := input.html
  date := some date
  messageId := some internetMessageId
  inReplyTo := input.inReplyTo
  references := input.references
  attachments := attachments

/-- `deliverLocallyToMailboxes`; its result is not used. -/
def deliverLocallyToMailboxes (env : Env) (input : LocalDelivery) : Op Unit :=
  if input.recipients.isEmpty then pure ()
  else do
    let internetMessageId := buildDeterministicMessageId env input.outboundJobId input.sender
    let attachments ← loadAttachments env input.attachmentRefs
    let now ← nowIso env
    let rawBytes ← buildRawMimeMessage env
      (input.mime (env.toUTCString now) internetMessageId attachments)
    deliverToEach env input.sender internetMessageId rawBytes input.recipients

/-! ### Footprints -/

variable {ts : List Table} {env : Env}

@[simp] theorem touches_loadAttachments (refs : List AttachmentRef) :
    Touches ts (loadAttachments env refs) := by
  induction refs with
  | nil => trivial
  | cons ref rest ih =>
    rw [loadAttachments]
    split
    · refine .bind touches_r2Get fun object => ?_
      cases object with
      | none => trivial
      | some object => exact .bind ih fun _ => trivial
    · exact ih

theorem touches_discardRaw {α : Type} {rawR2Key : String} {error : Exn} :
    Touches [.objects] (discardRaw rawR2Key error : Op α) :=
  .bind touches_discardObject fun _ => trivial

theorem touches_dispatchLocal {internetMessageId messageId rawR2Key : String}
    {recipient : LocalMailboxRecipient} {created : Bool} :
    Touches (.ingestQueue :: ingestTables)
      (dispatchLocal env internetMessageId messageId rawR2Key recipient created) := by
  rw [dispatchLocal]
  split
  · exact touches_dispatchEmailIngestWithFallback
  · refine .bind (.catchAll (touches_r2Delete.mono (by simp [ingestTables]))) fun _ =>
      .bind touches_getInboundMessageByInternetMessageId fun existing => ?_
    rw [dispatchIfPending]
    split
    · exact touches_dispatchEmailIngestWithFallback
    · trivial

theorem touches_deliverToRecipient {sender internetMessageId : String} {rawBytes : List UInt8}
    {recipient : LocalMailboxRecipient} : Touches (.ingestQueue :: ingestTables)
      (deliverToRecipient env sender internetMessageId rawBytes recipient) := by
  refine .bind touches_nowIso fun _ => .bind touches_createId fun _ =>
    .bind (touches_r2Put.mono (by simp [ingestTables])) fun _ =>
    .bind (.tryCatch (touches_createInboundMessage.mono (by simp [ingestTables])) fun _ =>
      touches_discardRaw.mono (by simp [ingestTables])) fun created => ?_
  dsimp only
  split
  · exact touches_dispatchLocal
  · exact .tryCatch touches_dispatchLocal fun _ => touches_discardRaw.mono (by simp [ingestTables])

theorem touches_deliverToEach {sender internetMessageId : String} {rawBytes : List UInt8}
    (recipients : List LocalMailboxRecipient) : Touches (.ingestQueue :: ingestTables)
      (deliverToEach env sender internetMessageId rawBytes recipients) := by
  induction recipients with
  | nil => trivial
  | cons recipient rest ih => exact .bind touches_deliverToRecipient fun _ => ih

theorem touches_deliverLocallyToMailboxes {input : LocalDelivery} :
    Touches (.ingestQueue :: ingestTables) (deliverLocallyToMailboxes env input) := by
  rw [deliverLocallyToMailboxes]
  split
  · trivial
  · exact .bind (touches_loadAttachments _) fun _ => .bind touches_nowIso fun _ =>
      .bind touches_buildRawMimeMessage fun _ => touches_deliverToEach _

end MailRuntime
