import MailRuntime.Mail.Parser
import MailRuntime.Outbound.Routing
import MailRuntime.Repositories.Drafts

/-!
# What ingest writes

The part of `repositories/mail.ts` that the ingest of an inbound message uses: the search
for the thread a reply belongs to, the `UPDATE` with what was parsed, and the replacement
of the message's attachments.
-/

namespace MailRuntime

open Js Interaction

/-! ### The thread of a reply -/

/-- `ORDER BY created_at DESC`. -/
def newestFirst (messages : List MessageRow) : List MessageRow :=
  messages.insertionSort fun a b => b.createdAt ≤ a.createdAt

/-- The visible thread of a message. -/
def Db.threadOf (s : Db) (m : MessageRow) : Option ThreadRow :=
  s.threads.find? fun t =>
    m.threadId == some t.id && t.mailboxId == m.mailboxId && t.tenantId == m.tenantId &&
    s.threadVisible t

/-- The threads of the two newest messages of a mailbox under a `Message-ID`. -/
def Db.threadsByMessageId (s : Db) (tenantId mailboxId internetMessageId : String) :
    List ThreadRow :=
  let messages := s.messages.filter fun m =>
    m.mailboxId == mailboxId && m.tenantId == tenantId &&
    (m.internetMessageId.map sqlLower) == some internetMessageId
  ((newestFirst messages).filterMap s.threadOf).take 2

/-- The loop of `findThreadByInternetMessageIds`. -/
def findThreadAmong (tenantId mailboxId : String) : List String → Op (Option ThreadRow)
  | [] => pure none
  | internetMessageId :: rest => do
    let rows ← query (.read .messages) fun s =>
      s.threadsByMessageId tenantId mailboxId internetMessageId
    match rows with
    | [] => findThreadAmong tenantId mailboxId rest
    | row :: others => pure (if others.all fun r => r.id == row.id then some row else none)

/-- `findThreadByInternetMessageIds`. -/
def findThreadByInternetMessageIds (env : Env) (tenantId mailboxId : String)
    (internetMessageIds : List String) : Op (Option ThreadRow) :=
  findThreadAmong tenantId mailboxId
    (internetMessageIds.filterMap fun id => normalizeInternetMessageId env (some id)).eraseDups

/-- `normalizeEmailAddress`. -/
def normalizeEmailAddress (env : Env) (value : Option String) : Option String :=
  (value.map fun v => env.toLowerCase (trim v)).filter truthy

/-- `parseStoredRecipientList`. -/
def parseStoredRecipientList (env : Env) (value : String) : List String :=
  (splitOnChar ',' value).filterMap fun item => normalizeEmailAddress env (some item)

/-- `ReplyFallbackCandidateRow`: an outbound message with its thread and, if it has exactly one
visible job, the key of the draft it was sent from. -/
structure ReplyFallbackCandidate where
  message : MessageRow
  thread : Option ThreadRow
  draftR2Key : Option String
deriving DecidableEq, Repr

/-- `row.thread_id ?? row.message_id`. -/
def ReplyFallbackCandidate.key (row : ReplyFallbackCandidate) : String :=
  row.message.threadId.getD row.message.id

/-- The newest outbound messages of a mailbox, without those that have several jobs. -/
def Db.replyFallbackCandidates (s : Db) (tenantId mailboxId : String) :
    List ReplyFallbackCandidate :=
  let messages := s.messages.filter fun m =>
    m.mailboxId == mailboxId && m.tenantId == tenantId && m.direction == .outbound &&
    s.messageVisible m && decide ((s.jobsOfMessage m.id).length ≤ 1)
  ((newestFirst messages).take 50).map fun m =>
    ⟨m, s.threadOf m, (only (s.jobsOfMessage m.id)).map OutboundJobRow.draftR2Key⟩

/-- The recipients a field of a draft's payload adds. -/
def payloadRecipients (env : Env) (payload : Fields) (key : String) : List String :=
  ((asArray (payload.lookup key)).getD []).filterMap fun value =>
    normalizeEmailAddress env (string (some value))

/-- The recipients of the draft that a candidate was sent from, where it is one of the
candidate's mailbox and has a payload. -/
def draftFallbackRecipients (env : Env) (row : ReplyFallbackCandidate) (draftR2Key : String) :
    Op (List String) := do
  match ← getDraftByR2KeyForOutboundLifecycle draftR2Key with
  | none => pure []
  | some draft =>
    if draft.tenantId = row.message.tenantId ∧ draft.mailboxId = row.message.mailboxId then do
      match ← r2Get draftR2Key with
      | none => pure []
      | some object => do
        let value ← object.parseJson
        let payload ← recordFields value
        pure (["to", "cc", "bcc"].flatMap (payloadRecipients env payload))
    else pure []

/-- `loadReplyFallbackRecipients`. -/
def loadReplyFallbackRecipients (env : Env) (row : ReplyFallbackCandidate) :
    Op (List String) := do
  let recipients := parseStoredRecipientList env row.message.toAddr
  match (row.draftR2Key.map trim).filter truthy with
  | none => pure recipients
  | some draftR2Key => do
    let others ← draftFallbackRecipients env row draftR2Key
    pure (recipients ++ others)

/-- The loop of `findThreadByReplyContext`: the candidates that were sent to the participant
under the subject. -/
def matchingCandidates (env : Env) (subjectNorm participantAddress : String) :
    List ReplyFallbackCandidate → Op (List ReplyFallbackCandidate)
  | [] => pure []
  | row :: rest => do
    let recipients ← loadReplyFallbackRecipients env row
    let others ← matchingCandidates env subjectNorm participantAddress rest
    if recipients.contains participantAddress &&
        normalizeSubject env row.message.subject == subjectNorm then
      pure (row :: others)
    else pure others

/-- The candidate was sent under one of the referenced identifiers. -/
def ReplyFallbackCandidate.isReferenced (env : Env) (referencedIds : List String)
    (row : ReplyFallbackCandidate) : Bool :=
  (normalizeEmailAddress env row.message.providerMessageId).any referencedIds.contains ||
  (normalizeEmailAddress env row.message.internetMessageId).any referencedIds.contains

/-- The candidate whose thread is taken: of those referenced, or else of all, if they are of
one thread. -/
def selectCandidate (env : Env) (referencedIds : List String)
    (candidates : List ReplyFallbackCandidate) : Option ReplyFallbackCandidate :=
  let exactKeys := (candidates.filter fun row => row.isReferenced env referencedIds).map
    ReplyFallbackCandidate.key
  let effective :=
    if exactKeys.isEmpty then candidates
    else candidates.filter fun row => exactKeys.contains row.key
  match effective with
  | [] => none
  | selected :: others => if others.all fun r => r.key == selected.key then some selected else none

/-- The thread of the selected candidate, which is created and given to it if it has none. -/
def threadOfCandidate (env : Env) (selected : ReplyFallbackCandidate) (subjectNorm : String) :
    Op ThreadRow := do
  match selected.message.threadId.filter truthy, selected.thread with
  | some _, some thread =>
    pure { thread with subjectNorm := thread.subjectNorm <|> some subjectNorm }
  | _, _ => do
    let thread ← getOrCreateThread env selected.message.tenantId selected.message.mailboxId
      ((selected.message.internetMessageId <|> selected.message.providerMessageId).getD
        ("outbound:" ++ selected.message.id)) (some subjectNorm)
    tryCatch (assignMessageThreadId selected.message.id thread.id) fun error => do
      catchAll (deleteThreadIfUnreferenced thread.id) ()
      throw error
    pure thread

/-- `findThreadByReplyContext`. -/
def findThreadByReplyContext (env : Env) (tenantId mailboxId : String)
    (internetMessageIds : List String) (subject participantAddress : Option String) :
    Op (Option ThreadRow) := do
  match ← findThreadByInternetMessageIds env tenantId mailboxId internetMessageIds with
  | some exactThread => pure (some exactThread)
  | none => do
    let subjectNorm := normalizeSubject env subject
    match normalizeEmailAddress env participantAddress with
    | none => pure none
    | some participantAddress =>
      if truthy subjectNorm then do
        let rows ← query (.read .messages) fun s => s.replyFallbackCandidates tenantId mailboxId
        let candidates ← matchingCandidates env subjectNorm participantAddress rows
        let referencedIds := internetMessageIds.filterMap fun id =>
          normalizeInternetMessageId env (some id)
        match selectCandidate env referencedIds candidates with
        | none => pure none
        | some selected => do
          let thread ← threadOfCandidate env selected subjectNorm
          pure (some thread)
      else pure none

/-! ### The normalized message -/

/-- What `updateInboundMessageNormalized` is told. -/
structure NormalizedInput where
  messageId : String
  threadId : String
  normalizedR2Key : String
  subject : Option String
  snippet : Option String
  internetMessageId : Option String
  fromAddr : Option String
  status : MessageStatus
deriving DecidableEq, Repr

/-- The message with what was parsed; its `Message-ID` and its sender stay where none was. -/
def NormalizedInput.set (input : NormalizedInput) (m : MessageRow) : MessageRow :=
  { m with
    threadId := some input.threadId
    normalizedR2Key := some input.normalizedR2Key
    subject := input.subject
    snippet := input.snippet
    internetMessageId := input.internetMessageId <|> m.internetMessageId
    fromAddr := input.fromAddr.getD m.fromAddr
    status := input.status }

/-- `updateInboundMessageNormalized`. -/
def updateInboundMessageNormalized (input : NormalizedInput) : Op Unit := do
  let changes ← messageRows.updateAs (.writeMessageKey input.messageId input.internetMessageId)
    (fun s m => m.id == input.messageId && s.hasThread m.tenantId m.mailboxId input.threadId)
    input.set
  requireStateUpdateApplied changes ("Inbound message " ++ input.messageId)

/-- `updateThreadTimestamp`; the column it writes is read nowhere here. -/
def updateThreadTimestamp (env : Env) (threadId : String) : Op Unit := do
  let _ ← nowIso env
  let changes ← threadRows.update (fun s t => t.id == threadId && s.threadVisible t) id
  requireStateUpdateApplied changes ("Thread " ++ threadId)

/-! ### Attachments -/

/-- An attachment as `insertAttachments` is given it. -/
structure AttachmentInput where
  id : String
  filename : Option String := none
  contentType : Option String := none
  sizeBytes : Nat
  r2Key : String
  sha256 : Option String := none
deriving DecidableEq, Repr

/-- The row of an attachment. -/
def AttachmentInput.row (input : AttachmentInput) (messageId : String) (createdAt : Nat) :
    AttachmentRow where
  id := input.id
  messageId := messageId
  filename := input.filename
  contentType := input.contentType
  sizeBytes := input.sizeBytes
  sha256 := input.sha256
  r2Key := input.r2Key
  createdAt := createdAt

/-- `INSERT INTO attachments …`. -/
def insertAttachmentRow (l : Label) (row : AttachmentRow) : Op Unit :=
  insertRow (fun _ => l) (fun s => !s.attachments.any fun a => a.id == row.id)
    fun s => attachmentRows.inserted s row

/-- The loop that inserts the new attachments. -/
def insertNewAttachments (env : Env) (messageId : String) : List AttachmentInput → Op Unit
  | [] => pure ()
  | input :: rest => do
    let createdAt ← nowIso env
    insertAttachmentRow (.insertAttachment input.id) (input.row messageId createdAt)
    insertNewAttachments env messageId rest

/-- The loop that inserts the old attachments again. -/
def restoreAttachments : List AttachmentRow → Op Unit
  | [] => pure ()
  | row :: rest => do
    insertAttachmentRow (.undo .attachments) row
    restoreAttachments rest

/-- `DELETE FROM attachments WHERE message_id = ?`. -/
def deleteAttachmentsOf (messageId : String) : Op Unit := do
  let _ ← attachmentRows.delete fun _ a => a.messageId == messageId
  pure ()

/-- `if (!(await getMessage(…))) …; throw new Error(…)`. -/
def requireMessage (messageId : String) (otherwise : Op Unit) : Op Unit := do
  match ← getMessage messageId with
  | some _ => pure ()
  | none => do
    otherwise
    throw (Exn.error ("Message " ++ messageId ++ " no longer exists"))

/-- `ORDER BY created_at ASC`. -/
def byCreatedAt (rows : List AttachmentRow) : List AttachmentRow :=
  rows.insertionSort fun a b => a.createdAt ≤ b.createdAt

/-- `insertAttachments`: the keys of the attachments that are replaced. -/
def insertAttachments (env : Env) (messageId : String) (attachments : List AttachmentInput) :
    Op (List String) := do
  requireMessage messageId (pure ())
  let rows ← attachmentRows.select fun _ a => a.messageId == messageId
  let existingRows := byCreatedAt rows
  deleteAttachmentsOf messageId
  tryCatch (insertNewAttachments env messageId attachments) fun error => do
    deleteAttachmentsOf messageId
    restoreAttachments existingRows
    throw error
  requireMessage messageId (catchAll (deleteAttachmentsOf messageId) ())
  pure ((existingRows.map AttachmentRow.r2Key).filter fun r2Key =>
    !attachments.any fun a => a.r2Key == r2Key)

/-! ### Footprints -/

variable {ts : List Table} {env : Env}

theorem touches_findThreadAmong {tenantId mailboxId : String} (ids : List String) :
    Touches ts (findThreadAmong tenantId mailboxId ids) := by
  induction ids with
  | nil => trivial
  | cons id rest ih =>
    refine .bind (touches_query rfl) fun rows => ?_
    cases rows with
    | nil => exact ih
    | cons row others => trivial

theorem touches_loadReplyFallbackRecipients {row : ReplyFallbackCandidate} :
    Touches ts (loadReplyFallbackRecipients env row) := by
  rw [loadReplyFallbackRecipients]
  split
  · trivial
  · refine .bind (.bind touches_getDraftByR2KeyForOutboundLifecycle fun draft => ?_)
      fun _ => trivial
    cases draft with
    | none => trivial
    | some draft =>
      dsimp only
      split
      · refine .bind touches_r2Get fun object => ?_
        cases object with
        | none => trivial
        | some object =>
          exact .bind touches_parseJson fun _ => .bind touches_recordFields fun _ => trivial
      · trivial

theorem touches_matchingCandidates {subjectNorm participantAddress : String}
    (rows : List ReplyFallbackCandidate) :
    Touches ts (matchingCandidates env subjectNorm participantAddress rows) := by
  induction rows with
  | nil => trivial
  | cons row rest ih =>
    refine .bind touches_loadReplyFallbackRecipients fun _ => .bind ih fun _ => ?_
    split <;> trivial

theorem touches_threadOfCandidate {selected : ReplyFallbackCandidate} {subjectNorm : String} :
    Touches [.threads, .messages] (threadOfCandidate env selected subjectNorm) := by
  rw [threadOfCandidate]
  split
  · trivial
  · refine .bind (touches_getOrCreateThread.mono (by simp)) fun thread =>
      .bind (.tryCatch (touches_assignMessageThreadId.mono (by simp)) fun _ => ?_) fun _ => trivial
    exact .bind (.catchAll (touches_deleteThreadIfUnreferenced.mono (by simp))) fun _ => trivial

theorem touches_findThreadByReplyContext {tenantId mailboxId : String} {ids : List String}
    {subject participantAddress : Option String} : Touches [.threads, .messages]
      (findThreadByReplyContext env tenantId mailboxId ids subject participantAddress) := by
  refine .bind (touches_findThreadAmong _) fun exactThread => ?_
  cases exactThread with
  | some _ => trivial
  | none =>
    dsimp only
    split
    · trivial
    · split
      · refine .bind (touches_query rfl) fun rows =>
          .bind (touches_matchingCandidates rows) fun candidates => ?_
        split
        · trivial
        · exact .bind touches_threadOfCandidate fun _ => trivial
      · trivial

theorem touches_updateInboundMessageNormalized {input : NormalizedInput} :
    Touches [.messages] (updateInboundMessageNormalized input) :=
  .bind (messageRows.touches_updateAs fun _ => rfl) fun _ => touches_requireStateUpdateApplied

theorem touches_updateThreadTimestamp {threadId : String} :
    Touches [.threads] (updateThreadTimestamp env threadId) :=
  .bind touches_nowIso fun _ => .bind threadRows.touches_update fun _ =>
    touches_requireStateUpdateApplied

theorem touches_insertAttachmentRow {l : Label} {row : AttachmentRow}
    (hl : l.table = some .attachments) : Touches [.attachments] (insertAttachmentRow l row) :=
  touches_insertRow (fun s t ht => attachmentRows.frame s _ t ht) fun _ => hl

theorem touches_insertNewAttachments {messageId : String} (attachments : List AttachmentInput) :
    Touches [.attachments] (insertNewAttachments env messageId attachments) := by
  induction attachments with
  | nil => trivial
  | cons input rest ih =>
    exact .bind touches_nowIso fun _ => .bind (touches_insertAttachmentRow rfl) fun _ => ih

theorem touches_restoreAttachments (rows : List AttachmentRow) :
    Touches [.attachments] (restoreAttachments rows) := by
  induction rows with
  | nil => trivial
  | cons row rest ih => exact .bind (touches_insertAttachmentRow rfl) fun _ => ih

theorem touches_deleteAttachmentsOf {messageId : String} :
    Touches [.attachments] (deleteAttachmentsOf messageId) :=
  .bind attachmentRows.touches_delete fun _ => trivial

theorem touches_requireMessage {messageId : String} {otherwise : Op Unit}
    (h : Touches ts otherwise) : Touches ts (requireMessage messageId otherwise) := by
  refine .bind touches_getMessage fun row => ?_
  cases row with
  | some _ => trivial
  | none => exact .bind h fun _ => trivial

theorem touches_insertAttachments {messageId : String} {attachments : List AttachmentInput} :
    Touches [.attachments] (insertAttachments env messageId attachments) := by
  refine .bind (touches_requireMessage trivial) fun _ => .bind attachmentRows.touches_select
    fun existingRows => .bind touches_deleteAttachmentsOf fun _ =>
    .bind (.tryCatch (touches_insertNewAttachments _) fun _ => ?_) fun _ =>
    .bind (touches_requireMessage (.catchAll touches_deleteAttachmentsOf)) fun _ => trivial
  exact .bind touches_deleteAttachmentsOf fun _ =>
    .bind (touches_restoreAttachments _) fun _ => trivial

end MailRuntime
