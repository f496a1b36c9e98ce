import MailRuntime.Repositories.Agents
import MailRuntime.Storage.Rows

/-!
# Messages, attachments, delivery events and suppressions

The part of `repositories/mail.ts` about messages and what hangs on them. A message is
visible while its mailbox exists and is of its tenant; most queries see visible messages
only. Where the source reads two rows at most and wants exactly one, that is `only`.

Inbound messages are deduplicated by their `Message-ID`, delivery events by the key of
their payload, both by an `INSERT` with a `NOT EXISTS` on the visible rows.
-/

namespace MailRuntime

open Js Interaction

/-- `rows.length !== 1 ? null : rows[0]`. -/
def only {α : Type} : List α → Option α
  | [row] => some row
  | _ => none

/-! ### Messages -/

/-- The message's mailbox exists and is its tenant's. -/
def Db.messageVisible (s : Db) (m : MessageRow) : Bool := s.ownsMailbox m.tenantId m.mailboxId

/-- The visible message with an identifier. -/
def Db.message (s : Db) (messageId : String) : Option MessageRow :=
  s.messages.find? fun m => m.id == messageId && s.messageVisible m

/-- There is such a message: the `EXISTS` on `messages` that guards jobs and events. -/
def Db.hasMessage (s : Db) (messageId : String) : Bool :=
  s.messages.any fun m => m.id == messageId && s.messageVisible m

/-- `getMessage`. -/
def getMessage (messageId : String) : Op (Option MessageRow) :=
  query (.read .messages) fun s => s.message messageId

/-- The visible messages that a provider knows by an identifier. -/
def Db.messagesOfProvider (s : Db) (providerMessageId : String) : List MessageRow :=
  s.messages.filter fun m => m.providerMessageId == some providerMessageId && s.messageVisible m

/-- `getMessageByProviderMessageId`. -/
def getMessageByProviderMessageId (providerMessageId : String) : Op (Option MessageRow) :=
  query (.read .messages) fun s => only (s.messagesOfProvider providerMessageId)

/-- Another visible message that the provider knows by the identifier. -/
def Db.providerMessageIdConflict (s : Db) (providerMessageId messageId : String) :
    Option MessageRow :=
  s.messages.find? fun m =>
    m.providerMessageId == some providerMessageId && m.id != messageId && s.messageVisible m

/-- `UPDATE messages SET … WHERE id = ?`, of a visible message. -/
def updateMessage (messageId : String) (set : MessageRow → MessageRow) : Op Nat :=
  messageRows.update (fun s m => m.id == messageId && s.messageVisible m) set

/-- `updateMessageStatus`. -/
def updateMessageStatus (messageId : String) (status : MessageStatus) : Op Unit := do
  let changes ← updateMessage messageId fun m => { m with status := status }
  requireStateUpdateApplied changes ("Message " ++ messageId)

/-- `updateMessageStatusByProviderMessageId`. -/
def updateMessageStatusByProviderMessageId (providerMessageId : String) (status : MessageStatus) :
    Op Unit := do
  match ← getMessageByProviderMessageId providerMessageId with
  | none => pure ()
  | some m => do
    let _ ← updateMessage m.id fun m => { m with status := status }
    pure ()

/-- An `UPDATE` that gives a message its provider's identifier, unless another has it. -/
def updateProviderAcceptance (messageId providerMessageId : String)
    (set : MessageRow → MessageRow) : Op Unit := do
  let changes ← messageRows.update (fun s m => m.id == messageId && s.messageVisible m &&
    (s.providerMessageIdConflict providerMessageId m.id).isNone) set
  if changes = 0 then do
    let conflict ← query (.read .messages) fun s =>
      s.providerMessageIdConflict providerMessageId messageId
    match conflict with
    | some other => throw (Exn.error ("Provider message id " ++ providerMessageId ++
        " is already associated with visible message " ++ other.id))
    | none => requireStateUpdateApplied changes ("Message " ++ messageId)
  else pure ()

/-- `backfillMessageProviderAcceptance`. -/
def backfillMessageProviderAcceptance (env : Env) (messageId providerMessageId : String) :
    Op Unit := do
  let timestamp ← nowIso env
  updateProviderAcceptance messageId providerMessageId fun m =>
    { m with
      providerMessageId := m.providerMessageId <|> some providerMessageId
      sentAt := m.sentAt <|> some timestamp }

/-- `markMessageSent`. -/
def markMessageSent (env : Env) (messageId providerMessageId : String) (status : MessageStatus) :
    Op Unit := do
  let timestamp ← nowIso env
  updateProviderAcceptance messageId providerMessageId fun m =>
    { m with
      providerMessageId := some providerMessageId, status := status, sentAt := some timestamp }

/-! ### Inbound messages -/

/-- `normalizeInternetMessageId`. -/
def normalizeInternetMessageId (env : Env) (value : Option String) : Option String :=
  (value.map fun v => env.toLowerCase (trim v)).filter truthy

/-- An inbound message of a mailbox under a `Message-ID`. -/
def MessageRow.isInbound (m : MessageRow) (mailboxId internetMessageId : String) : Bool :=
  m.mailboxId == mailboxId && m.direction == .inbound &&
  m.internetMessageId == some internetMessageId

/-- The visible inbound messages of a mailbox under a `Message-ID`. -/
def Db.inboundMessages (s : Db) (mailboxId internetMessageId : String) : List MessageRow :=
  s.messages.filter fun m => m.isInbound mailboxId internetMessageId && s.messageVisible m

/-- `getInboundMessageByInternetMessageId`. -/
def getInboundMessageByInternetMessageId (env : Env) (mailboxId internetMessageId : String) :
    Op (Option MessageRow) :=
  match normalizeInternetMessageId env (some internetMessageId) with
  | none => pure none
  | some key => query (.read .messages) fun s => only (s.inboundMessages mailboxId key)

/-- `deleteInvalidInboundMessageDuplicates`: how many there were. -/
def deleteInvalidInboundMessageDuplicates (tenantId mailboxId internetMessageId : String) :
    Op Nat := do
  let rows ← messageRows.select fun s m =>
    m.isInbound mailboxId internetMessageId && !(m.tenantId == tenantId && s.messageVisible m)
  messageRows.discardEach MessageRow.id (rows.map MessageRow.id)
  pure rows.length

/-- What `createInboundMessage` is told. -/
structure InboundMessage where
  id : String
  tenantId : String
  mailboxId : String
  provider : Provider
  internetMessageId : Option String
  fromAddr : String
  toAddr : String
  status : MessageStatus
  rawR2Key : String
  receivedAt : Nat
  createdAt : Nat
deriving DecidableEq, Repr

/-- The row of an inbound message, under a normalized `Message-ID`. -/
def InboundMessage.row (input : InboundMessage) (key : Option String) : MessageRow where
  id := input.id
  tenantId := input.tenantId
  mailboxId := input.mailboxId
  threadId := none
  direction := .inbound
  provider := input.provider
  internetMessageId := key
  providerMessageId := none
  fromAddr := input.fromAddr
  toAddr := input.toAddr
  subject := none
  snippet := none
  status := input.status
  rawR2Key := some input.rawR2Key
  normalizedR2Key := none
  receivedAt := some input.receivedAt
  sentAt := none
  createdAt := input.createdAt

/-- No message has the identifier. -/
def Db.messageIdFree (s : Db) (messageId : String) : Bool :=
  !s.messages.any fun m => m.id == messageId

/-- `finalizeCreatedInboundMessage`. -/
def finalizeCreatedInboundMessage (input : InboundMessage) : Op Unit := do
  let mailboxExists ← query (.read .mailboxes) fun s => s.ownsMailbox input.tenantId input.mailboxId
  if !mailboxExists then do
    messageRows.discard fun m => m.id == input.id
    throw (Exn.error ("Inbound message " ++ input.id ++
      " could not be finalized because mailbox " ++ input.mailboxId ++ " no longer exists"))
  else do
    match ← getMessage input.id with
    | none => do
      messageRows.discard fun m => m.id == input.id
      throw (Exn.error ("Failed to load inbound message " ++ input.id))
    | some _ => pure ()

/-- `insertInboundMessage`: nothing happens if a visible message of the tenant has the key. -/
def insertInboundMessage (input : InboundMessage) (key : String) : Op Nat :=
  messageRows.insertWhere
    (fun s => !(s.inboundMessages input.mailboxId key).any fun m => m.tenantId == input.tenantId)
    (fun s => s.messageIdFree input.id) (input.row (some key))

/-- The insertion of an inbound message whose key no visible message has, as it seems. -/
def retryInboundMessage (env : Env) (input : InboundMessage) (key : String) : Op Bool := do
  let skipped := Exn.error ("Inbound message " ++ input.id ++ " could not be created because " ++
    "dedupe skipped insertion without any visible existing message for " ++ key)
  let deleted ← deleteInvalidInboundMessageDuplicates input.tenantId input.mailboxId key
  if deleted = 0 then throw skipped
  else do
    let changes ← insertInboundMessage input key
    if changes = 0 then do
      match ← getInboundMessageByInternetMessageId env input.mailboxId key with
      | some _ => pure false
      | none => throw skipped
    else do
      finalizeCreatedInboundMessage input
      pure true

/-- `createInboundMessage`: whether the message is new. -/
def createInboundMessage (env : Env) (input : InboundMessage) : Op Bool := do
  match normalizeInternetMessageId env input.internetMessageId with
  | none => do
    messageRows.insert (fun s => s.messageIdFree input.id) (input.row none)
    finalizeCreatedInboundMessage input
    pure true
  | some key => do
    let changes ← insertInboundMessage input key
    if changes = 0 then do
      match ← getInboundMessageByInternetMessageId env input.mailboxId key with
      | some _ => pure false
      | none => retryInboundMessage env input key
    else do
      finalizeCreatedInboundMessage input
      pure true

/-! ### Attachments -/

/-- The message and owner of each attachment under an R2 key, each once. -/
def Db.attachmentOwners (s : Db) (r2Key : String) : List (String × String × String) :=
  ((s.attachments.filter fun a => a.r2Key == r2Key).flatMap fun a =>
    (s.messages.filter fun m => m.id == a.messageId && s.messageVisible m).map fun m =>
      (m.id, m.tenantId, m.mailboxId)).eraseDups

/-- `getAttachmentOwnerByR2Key`: the message, the tenant and the mailbox. -/
def getAttachmentOwnerByR2Key (r2Key : String) : Op (Option (String × String × String)) :=
  query (.read .attachments) fun s => only (s.attachmentOwners r2Key)

/-! ### Delivery events -/

/-- The event belongs to no message, or to a visible one. -/
def Db.deliveryEventVisible (s : Db) (e : DeliveryEventRow) : Bool :=
  e.messageId.all fun messageId => s.hasMessage messageId

/-- A visible event has the payload. -/
def Db.hasDeliveryEvent (s : Db) (payloadR2Key : String) : Bool :=
  s.deliveryEvents.any fun e => e.payloadR2Key == payloadR2Key && s.deliveryEventVisible e

/-- `insertEvent`. -/
def insertEvent (env : Env) (messageId providerMessageId : Option String)
    (eventType : DeliveryEventType) (payloadR2Key : String) : Op Nat := do
  let id ← createId env "evt"
  let createdAt ← nowIso env
  deliveryEventRows.insertWhere (fun s => !s.hasDeliveryEvent payloadR2Key)
    (fun s => !s.deliveryEvents.any fun e => e.id == id)
    ⟨id, messageId, "ses", providerMessageId, eventType, payloadR2Key, createdAt⟩

/-- `hasVisibleDeliveryEventForPayloadR2Key`. -/
def hasVisibleDeliveryEventForPayloadR2Key (payloadR2Key : String) : Op Bool :=
  query (.read .deliveryEvents) fun s => s.hasDeliveryEvent payloadR2Key

/-- `deleteInvalidDeliveryEventsForPayloadR2Key`: how many there were. -/
def deleteInvalidDeliveryEventsForPayloadR2Key (payloadR2Key : String) : Op Nat := do
  let rows ← deliveryEventRows.select fun s e =>
    e.payloadR2Key == payloadR2Key && !s.deliveryEventVisible e
  deliveryEventRows.discardEach DeliveryEventRow.id (rows.map DeliveryEventRow.id)
  pure rows.length

/-- `insertDeliveryEvent`: whether the event is new. -/
def insertDeliveryEvent (env : Env) (messageId providerMessageId : Option String)
    (eventType : DeliveryEventType) (payloadR2Key : String) : Op Bool := do
  let skipped := Exn.error ("Delivery event could not be inserted because payload dedupe " ++
    "skipped insertion without any visible existing event for " ++ payloadR2Key)
  let changes ← insertEvent env messageId providerMessageId eventType payloadR2Key
  if changes = 0 then do
    if ← hasVisibleDeliveryEventForPayloadR2Key payloadR2Key then pure false
    else do
      let deleted ← deleteInvalidDeliveryEventsForPayloadR2Key payloadR2Key
      if deleted = 0 then throw skipped
      else do
        let changes ← insertEvent env messageId providerMessageId eventType payloadR2Key
        if changes = 0 then do
          if ← hasVisibleDeliveryEventForPayloadR2Key payloadR2Key then pure false
          else throw skipped
        else pure true
  else pure true

/-- The events of a visible message. -/
def Db.deliveryEventsOf (s : Db) (messageId : String) : List DeliveryEventRow :=
  s.deliveryEvents.filter fun e => e.messageId == some messageId && s.hasMessage messageId

/-- `listDeliveryEventsByMessageId`; their order is not used. -/
def listDeliveryEventsByMessageId (messageId : String) : Op (List DeliveryEventRow) :=
  query (.read .deliveryEvents) fun s => s.deliveryEventsOf messageId

/-! ### Suppressions -/

/-- The suppression of an address. -/
def Db.suppression (s : Db) (env : Env) (email : String) : Option SuppressionRow :=
  s.suppressions.find? fun r => sqlLower r.email == env.toLowerCase (trim email)

/-- `getSuppression`. -/
def getSuppression (env : Env) (email : String) : Op (Option SuppressionRow) :=
  query (.read .suppressions) fun s => s.suppression env email

/-- `updateExisting` of `addSuppression`. -/
def updateSuppression (env : Env) (email reason : String) : Op Bool := do
  match ← getSuppression env email with
  | none => pure false
  | some existing => do
    let changes ← suppressionRows.update (fun _ r => r.email == existing.email) fun r =>
      { r with reason := reason }
    pure (decide (0 < changes))

/-- `addSuppression`. -/
def addSuppression (env : Env) (email reason : String) : Op Unit := do
  let _ ← nowIso env
  if ← updateSuppression env email reason then pure ()
  else
    let normalizedEmail := env.toLowerCase (trim email)
    tryCatch
      (suppressionRows.insert (fun s => !s.suppressions.any fun r => r.email == normalizedEmail)
        ⟨normalizedEmail, reason⟩)
      fun error =>
        if error.isUniqueConstraintError then do
          if ← updateSuppression env email reason then pure () else throw error
        else throw error

/-! ### Footprints -/

variable {ts : List Table} {env : Env}

@[simp] theorem touches_getMessage {messageId : String} : Touches ts (getMessage messageId) :=
  touches_query rfl

@[simp] theorem touches_getMessageByProviderMessageId {providerMessageId : String} :
    Touches ts (getMessageByProviderMessageId providerMessageId) := touches_query rfl

theorem touches_updateMessage {messageId : String} {set : MessageRow → MessageRow} :
    Touches [.messages] (updateMessage messageId set) := messageRows.touches_update

theorem touches_updateMessageStatus {messageId : String} {status : MessageStatus} :
    Touches [.messages] (updateMessageStatus messageId status) :=
  .bind touches_updateMessage fun _ => touches_requireStateUpdateApplied

theorem touches_updateProviderAcceptance {messageId providerMessageId : String}
    {set : MessageRow → MessageRow} :
    Touches [.messages] (updateProviderAcceptance messageId providerMessageId set) := by
  refine .bind messageRows.touches_update fun changes => ?_
  split
  · refine .bind (touches_query rfl) fun conflict => ?_
    cases conflict with
    | some other => trivial
    | none => exact touches_requireStateUpdateApplied
  · trivial

theorem touches_backfillMessageProviderAcceptance {messageId providerMessageId : String} :
    Touches [.messages] (backfillMessageProviderAcceptance env messageId providerMessageId) :=
  .bind touches_nowIso fun _ => touches_updateProviderAcceptance

theorem touches_markMessageSent {messageId providerMessageId : String} {status : MessageStatus} :
    Touches [.messages] (markMessageSent env messageId providerMessageId status) :=
  .bind touches_nowIso fun _ => touches_updateProviderAcceptance

@[simp] theorem touches_getInboundMessageByInternetMessageId
    {mailboxId internetMessageId : String} :
    Touches ts (getInboundMessageByInternetMessageId env mailboxId internetMessageId) := by
  rw [getInboundMessageByInternetMessageId]
  split
  · trivial
  · exact touches_query rfl

theorem touches_finalizeCreatedInboundMessage {input : InboundMessage} :
    Touches [.messages] (finalizeCreatedInboundMessage input) := by
  refine .bind (touches_query rfl) fun mailboxExists => ?_
  split
  · exact .bind messageRows.touches_discard fun _ => trivial
  · refine .bind touches_getMessage fun row => ?_
    cases row with
    | none => exact .bind messageRows.touches_discard fun _ => trivial
    | some _ => trivial

theorem touches_insertInboundMessage {input : InboundMessage} {key : String} :
    Touches [.messages] (insertInboundMessage input key) := messageRows.touches_insertWhere

theorem touches_retryInboundMessage {input : InboundMessage} {key : String} :
    Touches [.messages] (retryInboundMessage env input key) := by
  refine .bind (.bind messageRows.touches_select fun rows =>
    .bind (messageRows.touches_discardEach _) fun _ => trivial) fun deleted => ?_
  split
  · trivial
  · refine .bind touches_insertInboundMessage fun changes => ?_
    split
    · refine .bind touches_getInboundMessageByInternetMessageId fun row => ?_
      cases row <;> trivial
    · exact .bind touches_finalizeCreatedInboundMessage fun _ => trivial

theorem touches_createInboundMessage {input : InboundMessage} :
    Touches [.messages] (createInboundMessage env input) := by
  rw [createInboundMessage]
  split
  · exact .bind messageRows.touches_insert fun _ =>
      .bind touches_finalizeCreatedInboundMessage fun _ => trivial
  · refine .bind touches_insertInboundMessage fun changes => ?_
    split
    · refine .bind touches_getInboundMessageByInternetMessageId fun row => ?_
      cases row with
      | some _ => trivial
      | none => exact touches_retryInboundMessage
    · exact .bind touches_finalizeCreatedInboundMessage fun _ => trivial

@[simp] theorem touches_getAttachmentOwnerByR2Key {r2Key : String} :
    Touches ts (getAttachmentOwnerByR2Key r2Key) := touches_query rfl

theorem touches_insertEvent {messageId providerMessageId : Option String}
    {eventType : DeliveryEventType} {payloadR2Key : String} :
    Touches [.deliveryEvents]
      (insertEvent env messageId providerMessageId eventType payloadR2Key) :=
  .bind touches_createId fun _ => .bind touches_nowIso fun _ =>
    deliveryEventRows.touches_insertWhere

theorem touches_insertDeliveryEvent {messageId providerMessageId : Option String}
    {eventType : DeliveryEventType} {payloadR2Key : String} :
    Touches [.deliveryEvents]
      (insertDeliveryEvent env messageId providerMessageId eventType payloadR2Key) := by
  refine .bind touches_insertEvent fun changes => ?_
  split
  · refine .bind (touches_query rfl) fun known => ?_
    split
    · trivial
    · refine .bind (.bind deliveryEventRows.touches_select fun rows =>
        .bind (deliveryEventRows.touches_discardEach _) fun _ => trivial) fun deleted => ?_
      split
      · trivial
      · refine .bind touches_insertEvent fun changes => ?_
        split
        · refine .bind (touches_query rfl) fun known => ?_
          split <;> trivial
        · trivial
  · trivial

@[simp] theorem touches_listDeliveryEventsByMessageId {messageId : String} :
    Touches ts (listDeliveryEventsByMessageId messageId) := touches_query rfl

@[simp] theorem touches_getSuppression {email : String} : Touches ts (getSuppression env email) :=
  touches_query rfl

theorem touches_updateSuppression {email reason : String} :
    Touches [.suppressions] (updateSuppression env email reason) := by
  refine .bind touches_getSuppression fun row => ?_
  cases row with
  | none => trivial
  | some existing => exact .bind suppressionRows.touches_update fun _ => trivial

theorem touches_addSuppression {email reason : String} :
    Touches [.suppressions] (addSuppression env email reason) := by
  refine .bind touches_nowIso fun _ => .bind touches_updateSuppression fun updated => ?_
  split
  · trivial
  · refine .tryCatch suppressionRows.touches_insert fun error => ?_
    split
    · refine .bind touches_updateSuppression fun updated => ?_
      split <;> trivial
    · trivial

end MailRuntime
