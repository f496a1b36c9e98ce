import MailRuntime.Repositories.Jobs

/-!
# Threads and drafts

The part of `repositories/mail.ts` about threads and drafts, up to the send of a draft. A
draft is visible while its agent and its mailbox exist and are its tenant's and, except to
the consumer of outbound jobs, its thread and its source message are too. Its status moves
from `draft` or `approved` to `queued` by a claim; all other writes of it look at nothing.
-/

namespace MailRuntime

open Js Interaction

/-! ### Threads -/

/-- The thread's mailbox exists and is its tenant's. -/
def Db.threadVisible (s : Db) (t : ThreadRow) : Bool := s.ownsMailbox t.tenantId t.mailboxId

/-- The thread exists, is visible and is of the mailbox. -/
def Db.hasThread (s : Db) (tenantId mailboxId threadId : String) : Bool :=
  s.threads.any fun t =>
    t.id == threadId && t.mailboxId == mailboxId && t.tenantId == tenantId && s.threadVisible t

/-- `ThreadRecord`. -/
structure ThreadRecord where
  row : ThreadRow
  messages : List MessageRow
deriving DecidableEq, Repr

/-- The visible messages of a thread, of its mailbox and tenant. -/
def Db.messagesOfThread (s : Db) (t : ThreadRow) : List MessageRow :=
  s.messages.filter fun m =>
    m.threadId == some t.id && m.mailboxId == t.mailboxId && m.tenantId == t.tenantId &&
    s.messageVisible m

/-- `getThread`. -/
def getThread (threadId : String) : Op (Option ThreadRecord) := do
  match ← threadRows.first fun s t => t.id == threadId && s.threadVisible t with
  | none => pure none
  | some thread => do
    let messages ← query (.read .messages) fun s => s.messagesOfThread thread
    pure (some ⟨thread, messages⟩)

/-- `loadVisibleThread`. -/
def loadVisibleThread (tenantId mailboxId threadKey : String) : Op (Option ThreadRow) :=
  threadRows.first fun s t =>
    t.mailboxId == mailboxId && t.threadKey == threadKey && t.tenantId == tenantId &&
    s.threadVisible t

/-- `deleteInvalidThreadsForMailboxThreadKey`: how many there were. -/
def deleteInvalidThreadsForMailboxThreadKey (tenantId mailboxId threadKey : String) : Op Nat := do
  let rows ← threadRows.select fun s t =>
    t.mailboxId == mailboxId && t.threadKey == threadKey &&
    !(t.tenantId == tenantId && s.threadVisible t)
  threadRows.discardEach ThreadRow.id (rows.map ThreadRow.id)
  pure rows.length

/-- No thread has the identifier, nor the mailbox and the key of this one. -/
def Db.threadFree (s : Db) (t : ThreadRow) : Bool :=
  !s.threads.any fun r => r.id == t.id || (r.mailboxId == t.mailboxId && r.threadKey == t.threadKey)

/-- `insertThread`. -/
def insertThread (env : Env) (row : ThreadRow) : Op Unit := do
  let _ ← nowIso env
  threadRows.insert (fun s => s.threadFree row) row

/-- The insertion of a thread, and what follows a conflict: the thread that is there already,
if one is. -/
def insertThreadOrLoad (env : Env) (row : ThreadRow) : Op (Option ThreadRow) :=
  tryCatch (do
    insertThread env row
    pure none) fun error =>
      if error.isUniqueConstraintError then do
        match ← loadVisibleThread row.tenantId row.mailboxId row.threadKey with
        | some concurrent => pure (some concurrent)
        | none => do
          let deleted ← deleteInvalidThreadsForMailboxThreadKey row.tenantId row.mailboxId
            row.threadKey
          if deleted = 0 then throw error
          else tryCatch (do
            insertThread env row
            pure none) fun retryError =>
              if retryError.isUniqueConstraintError then do
                match ← loadVisibleThread row.tenantId row.mailboxId row.threadKey with
                | some retriedConcurrent => pure (some retriedConcurrent)
                | none => throw retryError
              else throw retryError
      else throw error

/-- The checks that follow the insertion of a thread. -/
def finalizeThread (row : ThreadRow) : Op ThreadRow := do
  let mailbox ← query (.read .mailboxes) fun s => s.ownsMailbox row.tenantId row.mailboxId
  if !mailbox then do
    threadRows.discard fun t => t.id == row.id
    throw (Exn.error ("Thread " ++ row.id ++ " could not be finalized because mailbox " ++
      row.mailboxId ++ " no longer exists"))
  else do
    let created ← threadRows.first fun _ t =>
      t.id == row.id && t.tenantId == row.tenantId && t.mailboxId == row.mailboxId
    match created with
    | none => do
      threadRows.discard fun t => t.id == row.id
      throw (Exn.error ("Failed to load thread " ++ row.id))
    | some thread => pure thread

/-- `getOrCreateThread`. -/
def getOrCreateThread (env : Env) (tenantId mailboxId threadKey : String)
    (subjectNorm : Option String) : Op ThreadRow := do
  match ← loadVisibleThread tenantId mailboxId threadKey with
  | some existing => pure existing
  | none => do
    let id ← createId env "thr"
    let row : ThreadRow := ⟨id, tenantId, mailboxId, threadKey, subjectNorm⟩
    match ← insertThreadOrLoad env row with
    | some thread => pure thread
    | none => finalizeThread row

/-- The draft's agent and mailbox exist and are its tenant's. -/
def Db.draftOwned (s : Db) (d : DraftRow) : Bool :=
  s.ownsAgent d.tenantId d.agentId && s.ownsMailbox d.tenantId d.mailboxId

/-- `deleteThreadIfUnreferenced`, which always takes back the creation of the thread. -/
def deleteThreadIfUnreferenced (threadId : String) : Op Unit := do
  let _ ← execute (fun _ => .undo .threads) fun s => threadRows.deleted s fun t =>
    t.id == threadId &&
    !(s.messages.any fun m => m.threadId == some threadId && s.messageVisible m) &&
    !(s.drafts.any fun d => d.threadId == some threadId && s.draftOwned d)

/-- `assignMessageThreadId`. -/
def assignMessageThreadId (messageId threadId : String) : Op Unit := do
  let changes ← messageRows.update
    (fun s m => m.id == messageId && s.hasThread m.tenantId m.mailboxId threadId)
    fun m => { m with threadId := some threadId }
  requireStateUpdateApplied changes ("Message " ++ messageId)

/-! ### Drafts -/

/-- The draft's thread and source message, where it has them, exist, are visible and are of
its mailbox. -/
def Db.draftReferencesValid (s : Db) (d : DraftRow) : Bool :=
  (d.threadId.all fun threadId => s.hasThread d.tenantId d.mailboxId threadId) &&
  d.sourceMessageId.all fun messageId => s.messages.any fun m =>
    m.id == messageId && m.mailboxId == d.mailboxId && m.tenantId == d.tenantId &&
    s.messageVisible m

/-- The conditions of the queries on drafts. -/
def Db.draftVisible (s : Db) (d : DraftRow) : Bool := s.draftOwned d && s.draftReferencesValid d

/-- The visible draft with an identifier. -/
def Db.draft (s : Db) (draftId : String) : Option DraftRow :=
  s.drafts.find? fun d => d.id == draftId && s.draftVisible d

/-- `getDraft`. -/
def getDraft (draftId : String) : Op (Option DraftRow) :=
  query (.read .drafts) fun s => s.draft draftId

/-- The visible drafts with an R2 key. -/
def Db.draftsByKey (s : Db) (draftR2Key : String) : List DraftRow :=
  s.drafts.filter fun d => d.draftR2Key == draftR2Key && s.draftVisible d

/-- The drafts with an R2 key that the consumer sees, whatever they refer to. -/
def Db.lifecycleDrafts (s : Db) (draftR2Key : String) : List DraftRow :=
  s.drafts.filter fun d => d.draftR2Key == draftR2Key && s.draftOwned d

/-- `getDraftByR2Key`. -/
def getDraftByR2Key (draftR2Key : String) : Op (Option DraftRow) :=
  query (.read .drafts) fun s => only (s.draftsByKey draftR2Key)

/-- `getDraftByR2KeyForOutboundLifecycle`. -/
def getDraftByR2KeyForOutboundLifecycle (draftR2Key : String) : Op (Option DraftRow) :=
  query (.read .drafts) fun s => only (s.lifecycleDrafts draftR2Key)

/-- What `createDraft` is told. -/
structure DraftInput where
  tenantId : String
  agentId : String
  mailboxId : String
  threadId : Option String
  sourceMessageId : Option String
  createdVia : Option String
  payload : Json

/-- The key of a draft's payload. -/
def draftR2KeyOf (draftId : String) : String := "drafts/" ++ draftId ++ ".json"

/-- The row of a new draft. -/
def DraftInput.row (input : DraftInput) (id : String) (timestamp : Nat) : DraftRow where
  id := id
  tenantId := input.tenantId
  agentId := input.agentId
  mailboxId := input.mailboxId
  threadId := input.threadId
  sourceMessageId := input.sourceMessageId
  createdVia := input.createdVia
  status := .draft
  draftR2Key := draftR2KeyOf id
  createdAt := timestamp
  updatedAt := timestamp

/-- The deletion of a draft that turned out not to be valid, with its payload. -/
def abandonDraft (row : DraftRow) : Op Unit := do
  draftRows.discard fun d => d.id == row.id
  catchAll (r2Delete row.draftR2Key) ()

/-- A row that a new draft refers to exists; a reference that is the empty string counts as
none. -/
def referenceExists (t : Table) (reference : Option String) (holds : Db → String → Bool) :
    Op Bool :=
  match reference.filter truthy with
  | none => pure true
  | some id => query (.read t) fun s => holds s id

/-- The existence checks of `createDraft`. -/
def draftReferencesExist (input : DraftInput) : Op Bool := do
  let agentExists ← query (.read .agents) fun s => s.ownsAgent input.tenantId input.agentId
  let mailboxExists ← query (.read .mailboxes) fun s => s.ownsMailbox input.tenantId input.mailboxId
  let threadExists ← referenceExists .threads input.threadId fun s threadId =>
    s.threads.any fun t =>
      t.id == threadId && t.tenantId == input.tenantId && t.mailboxId == input.mailboxId
  let sourceMessageExists ← referenceExists .messages input.sourceMessageId fun s messageId =>
    s.messages.any fun m =>
      m.id == messageId && m.tenantId == input.tenantId && m.mailboxId == input.mailboxId
  pure (agentExists && mailboxExists && threadExists && sourceMessageExists)

/-- `createDraft`. -/
def createDraft (env : Env) (input : DraftInput) : Op DraftRow := do
  let id ← createId env "drf"
  let timestamp ← nowIso env
  let row := input.row id timestamp
  r2Put row.draftR2Key (.json input.payload)
  tryCatch (draftRows.insert (fun s => !s.drafts.any fun d => d.id == id) row) fun error => do
    catchAll (r2Delete row.draftR2Key) ()
    throw error
  if ← draftReferencesExist input then do
    match ← getDraft id with
    | some created => pure created
    | none => do
      abandonDraft row
      throw (Exn.error "Failed to load created draft")
  else do
    abandonDraft row
    throw (Exn.error ("Draft " ++ id ++ " could not be finalized because the agent, mailbox, or " ++
      "referenced message/thread no longer exists"))

/-- `deleteDraft` of `deleteDraftIfUnqueued`. -/
def deleteUnqueuedDraft (draftId : String) : Op Nat :=
  draftRows.delete fun s d =>
    d.id == draftId && (d.status == .draft || d.status == .approved) &&
    !(s.outboundJobs.any fun o => o.draftR2Key == d.draftR2Key && s.jobVisible o)

/-- The attempts of `deleteDraftIfUnqueued`: how many drafts they deleted. -/
def deleteUnqueuedDraftTwice (draftId draftR2Key : String) : Op Nat := do
  let first ← deleteUnqueuedDraft draftId
  if first = 0 then do
    match ← getOutboundJobByDraftR2Key draftR2Key with
    | some _ => pure 0
    | none => do
      let deleted ← deleteInvalidOutboundJobsForDraftR2Key draftR2Key
      if deleted = 0 then pure 0 else deleteUnqueuedDraft draftId
  else pure first

/-- `deleteDraftIfUnqueued`, of a draft whose payload has the key. -/
def deleteUnqueued (draftId draftR2Key : String) : Op Bool := do
  let _ ← catchAll (deleteInvalidOutboundJobsForDraftR2Key draftR2Key) 0
  let changes ← deleteUnqueuedDraftTwice draftId draftR2Key
  if changes = 0 then pure false
  else do
    catchAll (r2Delete draftR2Key) ()
    pure true

/-- `deleteDraftIfUnqueued`. -/
def deleteDraftIfUnqueued (draftId : String) : Op Bool := do
  match ← getDraft draftId with
  | some visible => deleteUnqueued draftId visible.draftR2Key
  | none => do
    match ← draftRows.first fun _ d => d.id == draftId with
    | some fallback => deleteUnqueued draftId fallback.draftR2Key
    | none => pure false

/-- The draft may be claimed for sending. -/
def DraftRow.claimable (d : DraftRow) : Bool := d.status == .draft || d.status == .approved

/-- `claimDraftForSend`. -/
def claimDraftForSend (draftId : String) (updatedAt : Nat) : Op Bool := do
  let changes ← draftRows.updateAs (.writeDraft draftId .queued)
    (fun s d => d.id == draftId && d.claimable && s.draftOwned d)
    fun d => { d with status := .queued, updatedAt := updatedAt }
  pure (decide (0 < changes))

/-- `assignDraftThreadId`. -/
def assignDraftThreadId (env : Env) (draftId threadId : String) : Op Unit := do
  let updatedAt ← nowIso env
  let changes ← draftRows.update
    (fun s d => d.id == draftId && s.hasThread d.tenantId d.mailboxId threadId)
    fun d => { d with threadId := some threadId, updatedAt := updatedAt }
  requireStateUpdateApplied changes ("Draft " ++ draftId)

/-- `restoreDraftSendState`. -/
def restoreDraftSendState (env : Env) (draftId : String) (status : DraftStatus)
    (threadId : Option String) : Op Unit := do
  let updatedAt ← nowIso env
  let changes ← draftRows.updateAs (.writeDraft draftId status)
    (fun s d => d.id == draftId && s.draftOwned d &&
      threadId.all fun t => s.hasThread d.tenantId d.mailboxId t)
    fun d => { d with status := status, threadId := threadId, updatedAt := updatedAt }
  requireStateUpdateApplied changes ("Draft " ++ draftId)

/-- `markDraftStatus`. -/
def markDraftStatus (env : Env) (draftId : String) (status : DraftStatus) : Op Unit := do
  let updatedAt ← nowIso env
  let changes ← draftRows.updateAs (.writeDraft draftId status)
    (fun s d => d.id == draftId && s.draftOwned d)
    fun d => { d with status := status, updatedAt := updatedAt }
  requireStateUpdateApplied changes ("Draft " ++ draftId)

/-- `markDraftStatus`, where there is a draft. -/
def markDraftStatusIf (env : Env) (draft : Option DraftRow) (status : DraftStatus) : Op Unit :=
  match draft with
  | some draft => markDraftStatus env draft.id status
  | none => pure ()

/-! ### Footprints -/

variable {ts : List Table} {env : Env}

@[simp] theorem touches_getThread {threadId : String} : Touches ts (getThread threadId) := by
  refine .bind threadRows.touches_first fun thread => ?_
  cases thread with
  | none => trivial
  | some thread => exact .bind (touches_query rfl) fun _ => trivial

@[simp] theorem touches_loadVisibleThread {tenantId mailboxId threadKey : String} :
    Touches ts (loadVisibleThread tenantId mailboxId threadKey) := threadRows.touches_first

theorem touches_insertThread {row : ThreadRow} : Touches [.threads] (insertThread env row) :=
  .bind touches_nowIso fun _ => threadRows.touches_insert

theorem touches_insertThreadOrLoad {row : ThreadRow} :
    Touches [.threads] (insertThreadOrLoad env row) := by
  have hinsert : Touches [.threads] (do insertThread env row; pure (none : Option ThreadRow)) :=
    .bind touches_insertThread fun _ => trivial
  refine .tryCatch hinsert fun error => ?_
  split
  · refine .bind touches_loadVisibleThread fun concurrent => ?_
    cases concurrent with
    | some _ => trivial
    | none =>
      refine .bind (.bind threadRows.touches_select fun rows =>
        .bind (threadRows.touches_discardEach _) fun _ => trivial) fun deleted => ?_
      split
      · trivial
      · refine .tryCatch hinsert fun retryError => ?_
        split
        · refine .bind touches_loadVisibleThread fun concurrent => ?_
          cases concurrent <;> trivial
        · trivial
  · trivial

theorem touches_finalizeThread {row : ThreadRow} : Touches [.threads] (finalizeThread row) := by
  refine .bind (touches_query rfl) fun mailbox => ?_
  split
  · exact .bind threadRows.touches_discard fun _ => trivial
  · refine .bind threadRows.touches_first fun created => ?_
    cases created with
    | none => exact .bind threadRows.touches_discard fun _ => trivial
    | some _ => trivial

theorem touches_getOrCreateThread {tenantId mailboxId threadKey : String}
    {subjectNorm : Option String} :
    Touches [.threads] (getOrCreateThread env tenantId mailboxId threadKey subjectNorm) := by
  refine .bind touches_loadVisibleThread fun existing => ?_
  cases existing with
  | some _ => trivial
  | none =>
    refine .bind touches_createId fun id => .bind touches_insertThreadOrLoad fun thread => ?_
    cases thread with
    | some _ => trivial
    | none => exact touches_finalizeThread

theorem touches_deleteThreadIfUnreferenced {threadId : String} :
    Touches [.threads] (deleteThreadIfUnreferenced threadId) :=
  .bind (touches_execute (fun _ _ ht => threadRows.frame_deleted ht) fun _ => rfl) fun _ => trivial

theorem touches_assignMessageThreadId {messageId threadId : String} :
    Touches [.messages] (assignMessageThreadId messageId threadId) :=
  .bind messageRows.touches_update fun _ => touches_requireStateUpdateApplied

@[simp] theorem touches_getDraft {draftId : String} : Touches ts (getDraft draftId) :=
  touches_query rfl

@[simp] theorem touches_getDraftByR2Key {draftR2Key : String} :
    Touches ts (getDraftByR2Key draftR2Key) := touches_query rfl

@[simp] theorem touches_getDraftByR2KeyForOutboundLifecycle {draftR2Key : String} :
    Touches ts (getDraftByR2KeyForOutboundLifecycle draftR2Key) := touches_query rfl

theorem touches_claimDraftForSend {draftId : String} {updatedAt : Nat} :
    Touches [.drafts] (claimDraftForSend draftId updatedAt) :=
  .bind (draftRows.touches_updateAs fun _ => rfl) fun _ => trivial

theorem touches_assignDraftThreadId {draftId threadId : String} :
    Touches [.drafts] (assignDraftThreadId env draftId threadId) :=
  .bind touches_nowIso fun _ => .bind draftRows.touches_update fun _ =>
    touches_requireStateUpdateApplied

theorem touches_restoreDraftSendState {draftId : String} {status : DraftStatus}
    {threadId : Option String} :
    Touches [.drafts] (restoreDraftSendState env draftId status threadId) :=
  .bind touches_nowIso fun _ => .bind (draftRows.touches_updateAs fun _ => rfl) fun _ =>
    touches_requireStateUpdateApplied

theorem touches_markDraftStatus {draftId : String} {status : DraftStatus} :
    Touches [.drafts] (markDraftStatus env draftId status) :=
  .bind touches_nowIso fun _ => .bind (draftRows.touches_updateAs fun _ => rfl) fun _ =>
    touches_requireStateUpdateApplied

@[simp] theorem touches_referenceExists {t : Table} {reference : Option String}
    {holds : Db → String → Bool} : Touches ts (referenceExists t reference holds) := by
  unfold referenceExists
  split
  · trivial
  · exact touches_query rfl

@[simp] theorem touches_draftReferencesExist {input : DraftInput} :
    Touches ts (draftReferencesExist input) :=
  .bind (touches_query rfl) fun _ => .bind (touches_query rfl) fun _ =>
    .bind touches_referenceExists fun _ => .bind touches_referenceExists fun _ => trivial

theorem touches_abandonDraft {row : DraftRow} : Touches [.drafts, .objects] (abandonDraft row) :=
  .bind (draftRows.touches_discard.mono (by simp [draftRows])) fun _ =>
    .catchAll (touches_r2Delete.mono (by simp))

theorem touches_createDraft {input : DraftInput} :
    Touches [.drafts, .objects] (createDraft env input) := by
  refine .bind touches_createId fun id => .bind touches_nowIso fun timestamp =>
    .bind (touches_r2Put.mono (by simp)) fun _ => .bind (.tryCatch
      (draftRows.touches_insert.mono (by simp [draftRows])) fun error =>
        .bind (.catchAll (touches_r2Delete.mono (by simp))) fun _ => trivial) fun _ =>
      .bind touches_draftReferencesExist fun exist => ?_
  split
  · refine .bind touches_getDraft fun created => ?_
    cases created with
    | some _ => trivial
    | none => exact .bind touches_abandonDraft fun _ => trivial
  · exact .bind touches_abandonDraft fun _ => trivial

end MailRuntime
