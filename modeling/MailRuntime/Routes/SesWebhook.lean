import MailRuntime.Outbound.Billing
import MailRuntime.Outbound.Payload

/-!
# The SES webhook

`lib/ses-events.ts` and `POST /v1/webhooks/ses` of `routes/api.ts`. An event is reduced to
what matters of it, its message is looked for by the provider's identifier and else by a
tag, its payload is stored under the hash of its text and the event is recorded, unless one
with that payload is there already. A terminal event then decides the outcome of the
message's job from all events recorded of the message, and writes it to the message, the
job and the draft.
-/

namespace MailRuntime

open Js Interaction

/-! ### Events -/

/-- `NormalizedSesEvent`. -/
structure SesEvent where
  providerMessageId : Option String
  eventType : DeliveryEventType
  mailTags : List (String × String)
  recipients : List String := []
  reason : Option String := none
deriving DecidableEq, Repr

/-- A recipient as `normalizeRecipients` reads it, blank if it is none. -/
def sesRecipient (env : Env) : Json → String
  | .str s => env.toLowerCase (trim s)
  | .obj fields => ((string (fields.lookup "emailAddress")).map fun s =>
      env.toLowerCase (trim s)).getD ""
  | _ => ""

/-- `normalizeRecipients`, of what should be an array. -/
def normalizeRecipients (env : Env) (values : Option Json) : List String :=
  ((((asArray values).getD []).map (sesRecipient env)).filter truthy).eraseDups

/-- The value of a tag. -/
def tagValue : Json → Option String
  | .arr (.str s :: _) => some s
  | .str s => some s
  | _ => none

/-- `toTagMap`. -/
def toTagMap (tags : Option Json) : List (String × String) :=
  (objectEntries tags).filterMap fun (key, value) => (tagValue value).map fun s => (key, s)

/-- The event type that a text in lower case stands for. -/
def sesEventType (text : String) : DeliveryEventType :=
  if text = "delivery" then .delivery
  else if text = "bounce" then .bounce
  else if text = "complaint" then .complaint
  else if text = "reject" then .reject
  else .unknown

/-- `normalizeSesEvent`. -/
def normalizeSesEvent (env : Env) (payload : Fields) : SesEvent :=
  let detail := fieldsOf (orNullish (payload.lookup "detail") (some (.obj payload)))
  let eventType := sesEventType (env.toLowerCase (toText ((orNullish (detail.lookup "eventType")
    (orNullish (detail.lookup "event-type") (some (.str "unknown")))).getD .null)))
  let mail := fieldsOf (detail.lookup "mail")
  let event : SesEvent := {
    providerMessageId := string (mail.lookup "messageId"), eventType := eventType
    mailTags := toTagMap (mail.lookup "tags") }
  match eventType with
  | .delivery =>
    let delivery := fieldsOf (detail.lookup "delivery")
    { event with recipients := normalizeRecipients env (delivery.lookup "recipients") }
  | .bounce =>
    let bounce := fieldsOf (detail.lookup "bounce")
    { event with
      recipients := normalizeRecipients env (bounce.lookup "bouncedRecipients")
      reason := string (bounce.lookup "bounceType") }
  | .complaint =>
    let complaint := fieldsOf (detail.lookup "complaint")
    { event with
      recipients := normalizeRecipients env (complaint.lookup "complainedRecipients")
      reason := string (complaint.lookup "complaintFeedbackType") }
  | .reject | .unknown => event

/-- `isTerminalSesEvent`. -/
def isTerminal : DeliveryEventType → Bool
  | .delivery | .bounce | .complaint | .reject => true
  | .unknown => false

/-- The name of an event type. -/
def eventTypeText : DeliveryEventType → String
  | .delivery => "delivery"
  | .bounce => "bounce"
  | .complaint => "complaint"
  | .reject => "reject"
  | .unknown => "unknown"

/-- `normalized.reason ?? normalized.eventType`. -/
def SesEvent.error (event : SesEvent) : String :=
  event.reason.getD (eventTypeText event.eventType)

/-- `buildSesPayloadR2Key`. -/
def buildSesPayloadR2Key (env : Env) (body : Fields) : String :=
  "events/ses/" ++ env.sha256Hex (env.stringify (.obj body)) ++ ".json"

/-! ### The message of an event -/

/-- The message with the provider's identifier. -/
def providerMessageOf (event : SesEvent) : Op (Option MessageRow) :=
  match event.providerMessageId.filter truthy with
  | some providerMessageId => getMessageByProviderMessageId providerMessageId
  | none => pure none

/-- The message with the tag, if the provider's identifier leads to none. -/
def taggedMessageOf (event : SesEvent) (providerMessage : Option MessageRow) :
    Op (Option MessageRow) :=
  match providerMessage, (event.mailTags.lookup "message_id").filter truthy with
  | none, some taggedMessageId => getMessage taggedMessageId
  | _, _ => pure none

/-- What is wrong with the tags of an event, if something is. -/
def sesMismatch (event : SesEvent) (providerMessage taggedMessage : Option MessageRow) :
    Option String :=
  let taggedMessageId := (event.mailTags.lookup "message_id").filter truthy
  let taggedTenantId := (event.mailTags.lookup "tenant_id").filter truthy
  let providerMessageId := event.providerMessageId.filter truthy
  let message := providerMessage <|> taggedMessage
  if providerMessage.any fun m => taggedMessageId.any (m.id != ·) then
    some "Webhook message tag mismatch"
  else if message.any fun m => taggedTenantId.any (m.tenantId != ·) then
    some "Webhook tenant tag mismatch"
  else if taggedMessage.any fun m => providerMessageId.any fun id =>
      (m.providerMessageId.filter truthy).any (· != id) then
    some "Webhook provider message mismatch"
  else none

/-! ### The webhook -/

/-- The payload is stored and the event recorded. -/
def recordSesEvent (env : Env) (body : Fields) (event : SesEvent) (message : Option MessageRow) :
    Op Unit := do
  let payloadR2Key := buildSesPayloadR2Key env body
  r2Put payloadR2Key (.json (.obj body))
  tryCatch (do
    let _ ← insertDeliveryEvent env (message.map MessageRow.id) event.providerMessageId
      event.eventType payloadR2Key) fun error => do
    discardObject payloadR2Key
    throw error

/-- The provider's identifier is filled in where the message has none. -/
def backfillSesMessage (env : Env) (event : SesEvent) (message : Option MessageRow) : Op Unit :=
  match message, event.providerMessageId.filter truthy with
  | some m, some providerMessageId =>
    if (m.providerMessageId.filter truthy).isNone || m.sentAt.isNone then
      backfillMessageProviderAcceptance env m.id providerMessageId
    else pure ()
  | _, _ => pure ()

/-- The credits of a job whose outcome is known are taken or given back. -/
def settleSesOutcome (env : Env) (job : OutboundJobRow) (draft : Option DraftRow)
    (treatAsDelivered : Bool) : Op Unit :=
  match draft with
  | none => pure ()
  | some draft => do
    let recipients ← readDraftRecipientsForRoute job.draftR2Key
    if treatAsDelivered then
      settleOutboundUsageDebit env ⟨draft.tenantId, job.messageId, job.id, some draft.id,
        draft.createdVia, draft.sourceMessageId, recipients⟩
    else if job.status ≠ .failed then
      releaseOutboundUsageReservation env draft.tenantId draft.sourceMessageId draft.createdVia
        recipients
    else pure ()

/-- The outcome is written to the message, the job and the draft. -/
def writeSesOutcome (env : Env) (event : SesEvent) (message : MessageRow) (job : OutboundJobRow)
    (draft : Option DraftRow) (treatAsDelivered : Bool) : Op Unit :=
  if treatAsDelivered then do
    updateMessageStatus message.id .replied
    updateOutboundJobStatus env job.id .sent none
    markDraftStatusIf env draft .sent
  else do
    updateMessageStatus message.id .failed
    updateOutboundJobStatus env job.id .failed (some event.error)
    markDraftStatusIf env draft .failed

/-- The part of the webhook for a terminal event of a message that has a job. -/
def decideSesOutcome (env : Env) (event : SesEvent) (message : MessageRow)
    (job : OutboundJobRow) : Op Unit := do
  let draft ← getDraftByR2KeyForOutboundLifecycle job.draftR2Key
  let deliveryEvents ← listDeliveryEventsByMessageId message.id
  let treatAsDelivered := event.eventType == .delivery ||
    deliveryEvents.any fun e => e.eventType == .delivery
  settleSesOutcome env job draft treatAsDelivered
  writeSesOutcome env event message job draft treatAsDelivered

/-- The part of the webhook for terminal events. -/
def applySesEvent (env : Env) (event : SesEvent) (message : Option MessageRow) : Op Unit :=
  if isTerminal event.eventType then
    match message with
    | some m => do
      match ← getOutboundJobByMessageId m.id with
      | some job => decideSesOutcome env event m job
      | none => pure ()
    | none =>
      match event.providerMessageId.filter truthy with
      | some providerMessageId => updateMessageStatusByProviderMessageId providerMessageId
          (if event.eventType = .delivery then .replied else .failed)
      | none => pure ()
  else pure ()

/-- `addSuppression` of each recipient. -/
def addSuppressions (env : Env) (reason : String) : List String → Op Unit
  | [] => pure ()
  | recipient :: rest => do
    addSuppression env recipient reason
    addSuppressions env reason rest

/-- The recipients of a bounce or a complaint are suppressed. -/
def suppressSesRecipients (env : Env) (event : SesEvent) : Op Unit :=
  if event.eventType = .bounce ∨ event.eventType = .complaint then
    addSuppressions env event.error event.recipients
  else pure ()

/-- The answers of the webhook. -/
inductive WebhookResponse where
  /-- `{ error }` with a status. -/
  | error (status : Nat) (error : String)
  /-- Status 202. -/
  | accepted (eventType : DeliveryEventType) (providerMessageId : Option String)
deriving DecidableEq, Repr

/-- The webhook, for a body that is an object and comes from who knows the secret. -/
def receiveSesEvent (env : Env) (body : Fields) : Op WebhookResponse := do
  let event := normalizeSesEvent env body
  let providerMessage ← providerMessageOf event
  let taggedMessage ← taggedMessageOf event providerMessage
  let message := providerMessage <|> taggedMessage
  match sesMismatch event providerMessage taggedMessage with
  | some error => pure (.error 409 error)
  | none => do
    recordSesEvent env body event message
    backfillSesMessage env event message
    applySesEvent env event message
    suppressSesRecipients env event
    pure (.accepted event.eventType event.providerMessageId)

/-- `POST /v1/webhooks/ses`, with the secret that the request provides. -/
def sesWebhook (env : Env) (provided : Option String) (body : Fields) : Op WebhookResponse :=
  match env.WEBHOOK_SHARED_SECRET.filter truthy with
  | none => pure (.error 500 "WEBHOOK_SHARED_SECRET is not configured")
  | some secret =>
    if provided = some secret then receiveSesEvent env body
    else pure (.error 401 "Unauthorized webhook")

end MailRuntime
