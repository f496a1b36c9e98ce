import MailRuntime.Delivery.Outcomes
import MailRuntime.Objects.Recorded
import MailRuntime.Inbound.Redelivery

/-!
# No recorded object is lost

Any number of executions one after another, each of which may fail anywhere and as often as it
will: receipts of e-mail, deliveries to local mailboxes, ingests and webhooks. As long as none of
them deletes an object whose key a row records, every key that a row records is that of an object
that is there. The run at the end is an ingest that is repeated: it stores the normalized message
under the same key again, fails to write the row, and deletes what the row still records.
-/

namespace MailRuntime

open Js Interaction

/-- Every key that a row records is that of an object that is there. -/
def Db.RecordsStored (s : Db) : Prop := s.HasObjects s.recordedKeys

instance (s : Db) (keys : List String) : Decidable (s.HasObjects keys) :=
  inferInstanceAs (Decidable (∀ key ∈ keys, (s.object key).isSome = true))

instance (s : Db) : Decidable s.RecordsStored := inferInstanceAs (Decidable (s.HasObjects _))

/-- A single execution that keeps the recorded objects, if it may delete what it does. -/
def keepingObjects : Protocol Unit Db Label where
  inv w := w.store.RecordsStored
  keeps _ _ := True
  rely _ w w' := w' = w
  allow := SparesRecorded
  keeps_refl _ := trivial
  keeps_trans _ _ _ _ _ := trivial
  rely_refl _ _ := rfl
  rely_trans _ _ _ _ h h' := h'.trans h

section Safe

variable {w w' : World Unit Db Label} {α β : Type} {keys : List String} {key : String} {env : Env}
  {s s' : Db}

theorem keepingObjects_good (h : w'.store.RecordsStored) : keepingObjects.Good () w w' :=
  ⟨h, trivial, fun k hk => absurd (Subsingleton.elim k ()) hk⟩

theorem Db.RecordsOnly.keepsStored (h : s.RecordsOnly keys s') (hs : s.RecordsStored)
    (hkeys : s.HasObjects keys) : s'.RecordsStored := by
  intro key hkey
  obtain hkey | hkey := h.recorded key hkey
  · exact h.objects key (hs key hkey)
  · exact h.objects key (hkeys key hkey)

theorem Db.RecordsOnly.hasObjects (h : s.RecordsOnly keys s') (hkeys : s.HasObjects keys) :
    s'.HasObjects keys := fun key hkey => h.objects key (hkeys key hkey)

theorem hasObjects_stable : keepingObjects.Stable () fun w => w.store.HasObjects keys := by
  intro w w' h hl
  obtain rfl := hl.rely
  exact h

/-- A program that records only keys of objects that are there is safe. -/
theorem safe_records {p : Op α} (hp : OpRecords keys p) (hw : w.store.RecordsStored)
    (hkeys : w.store.HasObjects keys) :
    keepingObjects.Safe () (fun _ w' => w'.store.HasObjects keys)
      (fun _ w' => w'.store.HasObjects keys) p w := by
  refine Protocol.Safe.quiet hasObjects_stable ?_ ?_ hp hw hkeys
  · intro run hrun w hw hkeys
    have honly : w.store.RecordsOnly keys (run w.store) :=
      Db.recordsOnly_of_same fun t _ => hrun w.store t
    exact ⟨keepingObjects_good (honly.keepsStored hw hkeys), honly.hasObjects hkeys⟩
  · intro name run hrun w o hw hkeys _
    have honly := hrun w.store
    refine ⟨keepingObjects_good (World.after_store_of w () name run hw
      (honly.keepsStored hw hkeys)),
      World.after_store_of (p := fun s => s.HasObjects keys) w () name run hkeys ?_⟩
    exact honly.hasObjects hkeys

/-- A query. -/
theorem safe_storeQuery {l : Label} {f : Db → α} {Q : α → World Unit Db Label → Prop}
    (hw : w.store.RecordsStored) (h : ∀ w', w'.store = w.store → Q (f w.store) w') :
    keepingObjects.Safe () Q (fun _ _ => True) (query l f) w := by
  refine Protocol.Safe.perform fun o _ => ?_
  have hstore : (w.after () (fun _ => l) (fun s => s) o).store = w.store := World.after_id_store ..
  refine ⟨keepingObjects_good (hstore ▸ hw), fun w' hlater => ?_⟩
  obtain rfl := hlater.rely
  split
  · exact h _ hstore
  · trivial

/-! ### Objects -/

theorem lookup_cons_ite (key key' : String) (value : Blob) (l : List (String × Blob)) :
    ((key, value) :: l).lookup key' = if key' = key then some value else l.lookup key' := by
  rw [List.lookup_cons]
  by_cases hkey : key' = key
  · rw [if_pos hkey, beq_iff_eq.2 hkey]
  · rw [if_neg hkey, beq_eq_false_iff_ne.2 hkey]

theorem lookup_filter_ne (l : List (String × Blob)) (key key' : String) :
    (l.filter fun o => o.1 != key).lookup key' = if key' = key then none else l.lookup key' := by
  induction l with
  | nil => exact (ite_self _).symm
  | cons o rest ih =>
    obtain ⟨k, value⟩ := o
    rw [lookup_cons_ite]
    by_cases hk : k = key
    · subst hk
      rw [List.filter_cons_of_neg (by simp), ih]
      split <;> rfl
    · rw [List.filter_cons_of_pos (by simpa using hk), lookup_cons_ite, ih]
      by_cases hkey : key' = k
      · rw [if_pos hkey, if_pos hkey, if_neg (hkey.trans_ne hk)]
      · rw [if_neg hkey, if_neg hkey]

theorem Db.object_deleted (s : Db) (key key' : String) :
    ({ s with objects := s.withoutObject key } : Db).object key' =
      if key' = key then none else s.object key' := lookup_filter_ne s.objects key key'

theorem Db.object_stored (s : Db) (key : String) (value : Blob) (key' : String) :
    ({ s with objects := (key, value) :: s.withoutObject key } : Db).object key' =
      if key' = key then some value else s.object key' := by
  rw [Db.object, lookup_cons_ite, Db.withoutObject, lookup_filter_ne]
  split <;> rfl

theorem Db.hasObjects_stored (h : s.HasObjects keys) (value : Blob) :
    ({ s with objects := (key, value) :: s.withoutObject key } : Db).HasObjects (key :: keys) := by
  rw [Db.hasObjects_cons]
  refine ⟨by simp [Db.object_stored], fun key' hkey' => ?_⟩
  rw [Db.object_stored]
  split
  · rfl
  · exact h key' hkey'

/-- An object is stored. -/
theorem safe_r2Put {value : Blob} (hw : w.store.RecordsStored) (hkeys : w.store.HasObjects keys) :
    keepingObjects.Safe () (fun _ w' => w'.store.HasObjects (key :: keys)) (fun _ _ => True)
      (r2Put key value) w := by
  have hstored : ({ w.store with
      objects := (key, value) :: w.store.withoutObject key } : Db).RecordsStored :=
    fun key' hkey' => Db.hasObjects_stored hw value key' (List.mem_cons_of_mem _ hkey')
  refine Protocol.Safe.bind (Q := fun _ w' => w'.store.HasObjects (key :: keys)) hw
    (Protocol.Safe.perform fun o _ => ?_) (fun _ _ _ h => h) fun _ _ _ h => h
  refine ⟨keepingObjects_good (World.after_store_of w () _ _ hw hstored), fun w' hlater => ?_⟩
  obtain rfl := hlater.rely
  split
  · next hdone =>
    subst hdone
    exact Db.hasObjects_stored hkeys value
  · trivial

/-- An object is deleted that no row records. -/
theorem safe_deleteObject {l : Label} (hl : l.deletedObject = some key)
    (hw : w.store.RecordsStored) :
    keepingObjects.Safe () (fun _ _ => True) (fun _ _ => True)
      (execute (fun _ => l) fun s => (1, { s with objects := s.withoutObject key })) w := by
  refine Protocol.Safe.perform fun o hallow => ?_
  have hinv : (w.after () (fun _ => l)
      (fun s => { s with objects := s.withoutObject key }) o).store.RecordsStored := by
    rw [World.after_store]
    split
    · next heff =>
      have hspared : key ∉ w.store.recordedKeys := hallow key hl heff
      intro key' hkey'
      rw [Db.object_deleted, if_neg]
      · exact hw key' hkey'
      · rintro rfl
        exact hspared hkey'
    · exact hw
  refine ⟨keepingObjects_good hinv, fun w' _ => ?_⟩
  split <;> trivial

/-! ### Programs -/

/-- The program keeps the recorded objects. -/
def KeepsObjects (p : Op α) : Prop :=
  ∀ w : World Unit Db Label, w.store.RecordsStored →
    keepingObjects.Safe () (fun _ _ => True) (fun _ _ => True) p w

theorem KeepsObjects.bind {p : Op α} {f : α → Op β} (hp : KeepsObjects p)
    (hf : ∀ a, KeepsObjects (f a)) : KeepsObjects (p >>= f) := fun w hw =>
  Protocol.Safe.bind hw (hp w hw) (fun a w' hw' _ => hf a w' hw') fun _ _ _ h => h

theorem KeepsObjects.tryCatch {p : Op α} {f : Exn → Op α} (hp : KeepsObjects p)
    (hf : ∀ e, KeepsObjects (f e)) : KeepsObjects (tryCatch p f) := fun w hw =>
  Protocol.Safe.tryCatch hw (hp w hw) fun e w' hw' _ => hf e w' hw'

theorem KeepsObjects.catchAll {p : Op α} {value : α} (hp : KeepsObjects p) :
    KeepsObjects (catchAll p value) := hp.tryCatch fun _ _ _ => trivial

theorem keepsObjects_pure (a : α) : KeepsObjects (pure a) := fun _ _ => trivial

theorem keepsObjects_throw (e : Exn) : KeepsObjects (throw e : Op α) := fun _ _ => trivial

/-- What records nothing keeps them. -/
theorem keepsObjects_of_records {p : Op α} (hp : OpRecords [] p) : KeepsObjects p := fun _ hw =>
  Protocol.Safe.mono hw (safe_records hp hw Db.hasObjects_nil) (fun _ _ _ _ => trivial)
    fun _ _ _ _ => trivial

/-- What records only keys of objects that are there keeps them, and so does whatever keeps them
and is done about a failure. -/
theorem safe_recording {p : Op α} {f : Exn → Op α} (hp : OpRecords keys p)
    (hf : ∀ e, KeepsObjects (f e)) (hw : w.store.RecordsStored) (hkeys : w.store.HasObjects keys) :
    keepingObjects.Safe () (fun _ _ => True) (fun _ _ => True) (tryCatch p f) w :=
  Protocol.Safe.tryCatch (E := fun _ _ => True) hw (Protocol.Safe.mono hw (safe_records hp hw hkeys)
    (fun _ _ _ _ => trivial) fun _ _ _ _ => trivial) fun e w hw _ => hf e w hw

/-- **An object is stored, and then its key is recorded**, and whatever is done about a failure of
that keeps the recorded objects. -/
theorem keepsObjects_stored {value : Blob} {p : Op α} {f : Exn → Op α} {g : α → Op β}
    (hp : OpRecords [key] p) (hf : ∀ e, KeepsObjects (f e)) (hg : ∀ a, KeepsObjects (g a)) :
    KeepsObjects (r2Put key value >>= fun _ => (tryCatch p f : Op α) >>= g) := by
  intro w hw
  refine Protocol.Safe.bind hw (safe_r2Put hw Db.hasObjects_nil) ?_ fun _ _ _ h => h
  exact fun _ w hw hkey => Protocol.Safe.bind hw (safe_recording hp hf hw hkey)
    (fun a w hw _ => hg a w hw) fun _ _ _ h => h

theorem keepsObjects_r2Delete : KeepsObjects (r2Delete key) := fun _ hw =>
  Protocol.Safe.bind hw (safe_deleteObject rfl hw) (fun _ _ _ _ => trivial) fun _ _ _ h => h

theorem keepsObjects_discardObject : KeepsObjects (discardObject key) := .catchAll fun _ hw =>
  Protocol.Safe.bind hw (safe_deleteObject rfl hw) (fun _ _ _ _ => trivial) fun _ _ _ h => h

theorem keepsObjects_forEachKey {p : String → Op Unit} (hp : ∀ key, KeepsObjects (p key))
    (keys : List String) : KeepsObjects (forEachKey p keys) := by
  induction keys with
  | nil => exact fun w hw => trivial
  | cons key rest ih => exact .bind (hp key) fun _ => ih

theorem keepsObjects_deleteR2Objects {r2Keys : List String} :
    KeepsObjects (deleteR2Objects r2Keys) :=
  keepsObjects_forEachKey (fun _ => .catchAll keepsObjects_r2Delete) _

theorem keepsObjects_discardR2Objects {r2Keys : List String} :
    KeepsObjects (discardR2Objects r2Keys) :=
  keepsObjects_forEachKey (fun _ => keepsObjects_discardObject) _

/-! ### Ingest -/

theorem keepsObjects_storeNormalized {job : EmailIngestJob} {parsed : ParsedEmail}
    {threadId : String} : KeepsObjects (storeNormalized job parsed threadId) := by
  intro w hw
  refine Protocol.Safe.bind hw (safe_r2Put hw Db.hasObjects_nil) ?_ fun _ _ _ h => h
  refine fun _ w hw hkey => safe_recording records_updateInboundMessageNormalized
    (fun _ => ?_) hw hkey
  exact keepsObjects_discardR2Objects.bind fun _ => (keepsObjects_of_records (.catchAll
    (records_of_touches touches_deleteThreadIfUnreferenced (by decide)))).bind fun _ =>
      keepsObjects_throw _

theorem records_findThreadByReplyContext {tenantId mailboxId : String} {ids : List String}
    {subject participantAddress : Option String} : OpRecords keys
      (findThreadByReplyContext env tenantId mailboxId ids subject participantAddress) := by
  refine .bind (records_reads (touches_findThreadAmong _)) fun exactThread => ?_
  cases exactThread with
  | some _ => trivial
  | none =>
    dsimp only
    split
    · trivial
    · split
      · refine .bind (records_reads (touches_query rfl)) fun rows =>
          .bind (records_reads (touches_matchingCandidates rows)) fun candidates => ?_
        split
        · trivial
        · refine .bind ?_ fun _ => trivial
          rw [threadOfCandidate]
          split
          · trivial
          · refine .bind (records_of_touches touches_getOrCreateThread (by decide)) fun thread =>
              .bind (.tryCatch records_assignMessageThreadId fun _ => ?_) fun _ => trivial
            exact .bind (.catchAll (records_of_touches touches_deleteThreadIfUnreferenced
              (by decide))) fun _ => trivial
      · trivial

theorem records_threadOfParsed {job : EmailIngestJob} {parsed : ParsedEmail} :
    OpRecords keys (threadOfParsed env job parsed) := by
  refine .bind records_findThreadByReplyContext fun thread => ?_
  cases thread with
  | some _ => trivial
  | none =>
    refine .bind (records_reads ?_) fun threadKey =>
      records_of_touches touches_getOrCreateThread (by decide)
    rw [threadKeyOf]
    split
    · trivial
    · exact touches_createId

/-- The attachments are uploaded. -/
theorem safe_uploadAttachments {messageId : String} (attachments : List ParsedAttachment)
    (number : Nat) (hw : w.store.RecordsStored) (hkeys : w.store.HasObjects keys) :
    keepingObjects.Safe ()
      (fun rows w' => w'.store.HasObjects (keys ++ rows.map AttachmentInput.r2Key))
      (fun _ _ => True) (uploadAttachments messageId number attachments) w := by
  induction attachments generalizing number keys w with
  | nil =>
    refine Protocol.safe_ret.2 ?_
    rwa [List.map_nil, List.append_nil]
  | cons attachment rest ih =>
    refine Protocol.Safe.bind hw (safe_r2Put hw hkeys) ?_ fun _ _ _ h => h
    intro _ w' hw' hput
    refine Protocol.Safe.bind hw' (ih (number + 1) hw' hput) ?_ fun _ _ _ h => h
    intro rows w'' _ hrows
    refine hrows.mono fun key hkey => ?_
    simp only [List.map_cons, List.mem_append, List.mem_cons] at hkey ⊢
    tauto

/-- The rows of attachments are replaced, or put back. -/
theorem safe_insertAttachments {messageId : String} {attachments : List AttachmentInput}
    (hw : w.store.RecordsStored)
    (hkeys : w.store.HasObjects (attachments.map AttachmentInput.r2Key)) :
    keepingObjects.Safe () (fun _ _ => True) (fun _ _ => True)
      (insertAttachments env messageId attachments) w := by
  refine Protocol.Safe.bind hw (safe_records (records_requireMessage trivial) hw hkeys) ?_
    fun _ _ _ _ => trivial
  intro _ w hw hkeys
  refine Protocol.Safe.bind (Q := fun rows w' => w'.store.HasObjects
    (attachments.map AttachmentInput.r2Key ++ rows.map AttachmentRow.r2Key)) hw
    (safe_storeQuery hw fun w' hstore key hkey => ?_) ?_ fun _ _ _ h => h
  · rw [hstore]
    obtain hkey | hkey := List.mem_append.1 hkey
    · exact hkeys key hkey
    · obtain ⟨a, ha, rfl⟩ := List.mem_map.1 hkey
      exact hw _ (Db.mem_recordedKeys.2 (.inr (.inl ⟨a, List.mem_of_mem_filter ha, rfl⟩)))
  · intro rows w' hw' hkeys'
    refine Protocol.Safe.mono hw' (safe_records (.bind records_deleteAttachmentsOf fun _ =>
      .bind (.tryCatch (records_insertNewAttachments _ fun a ha =>
        List.mem_append_left _ (List.mem_map_of_mem ha)) fun _ =>
          .bind records_deleteAttachmentsOf fun _ => .bind (records_restoreAttachments _ ?_)
            fun _ => trivial) fun _ =>
      .bind (records_requireMessage (.catchAll records_deleteAttachmentsOf)) fun _ => trivial)
      hw' hkeys') (fun _ _ _ _ => trivial) fun _ _ _ _ => trivial
    intro a ha
    refine List.mem_append_right _ (List.mem_map_of_mem ?_)
    rw [byCreatedAt, List.mem_insertionSort] at ha
    exact ha

theorem keepsObjects_storeAttachments {messageId : String} {attachments : List ParsedAttachment} :
    KeepsObjects (storeAttachments env messageId attachments) := by
  intro w hw
  refine Protocol.Safe.bind hw (safe_uploadAttachments attachments 1 hw Db.hasObjects_nil) ?_
    fun _ _ _ h => h
  intro rows w hw hrows
  refine Protocol.Safe.bind (Q := fun _ _ => True) hw (Protocol.Safe.tryCatch (E := fun _ _ => True)
    hw (safe_insertAttachments hw hrows) fun e w' hw' _ => ?_) ?_ fun _ _ _ h => h
  · exact keepsObjects_discardR2Objects.bind (fun _ => keepsObjects_throw _) w' hw'
  · exact fun stale w' hw' _ => keepsObjects_deleteR2Objects w' hw'

/-- The trace of a task that is given to review is stored and recorded. -/
theorem keepsObjects_recordTaskNeedsReview {input : ReviewInput} :
    KeepsObjects (recordTaskNeedsReview env input) := by
  refine (keepsObjects_of_records (records_reads touches_nowIso)).bind fun timestamp =>
    (keepsObjects_of_records (records_reads ?_)).bind fun version => ?_
  · rw [runVersion.eq_def]
    split
    · exact touches_getAgentVersion
    · trivial
  · refine keepsObjects_stored (.bind (records_of_touches touches_replaceAgentRun (by decide))
      fun _ => records_updateTaskStatus) (fun _ => ?_) fun _ => keepsObjects_pure _
    exact (keepsObjects_of_records
      (records_of_touches agentRunRows.touches_discard (by decide))).bind fun _ =>
      keepsObjects_discardR2Objects.bind fun _ => keepsObjects_throw _

theorem keepsObjects_enqueueDeadLetter {source refId reason : String} :
    KeepsObjects (enqueueDeadLetter source refId reason) :=
  keepsObjects_of_records (records_of_touches touches_enqueueDeadLetter (by decide))

theorem keepsObjects_sendTask {existing : Option MessageRow} {target : ExecutionTarget}
    {task : TaskRow} : KeepsObjects (sendTask env existing target task) := by
  refine .tryCatch (keepsObjects_of_records (.bind (Prog.each_perform.2 fun s =>
    Db.recordsOnly_of_same fun t ht => ?_) fun _ => trivial)) fun _ =>
      keepsObjects_recordTaskNeedsReview.bind fun _ => .catchAll keepsObjects_enqueueDeadLetter
  cases t <;> first | rfl | exact absurd ht (by decide)

theorem keepsObjects_finishIngest {job : EmailIngestJob} {existing : Option MessageRow} :
    KeepsObjects (finishIngest env job existing) := by
  refine (keepsObjects_of_records (records_reads touches_resolveAgentExecutionTarget)).bind
    fun target => (keepsObjects_of_records records_taskOfMessage).bind fun task => ?_
  dsimp only
  split
  · refine (keepsObjects_of_records records_updateMessageStatus).bind fun _ => ?_
    split
    · exact keepsObjects_sendTask
    · exact keepsObjects_pure ()
  · split
    · exact keepsObjects_sendTask
    · exact keepsObjects_pure ()

theorem keepsObjects_processEmailIngestJob {job : EmailIngestJob} :
    KeepsObjects (processEmailIngestJob env job) :=
  (keepsObjects_of_records (records_reads touches_getMessage)).bind fun _ =>
  (keepsObjects_of_records (records_reads touches_loadParsedEmail)).bind fun _ =>
  (keepsObjects_of_records records_threadOfParsed).bind fun _ =>
  keepsObjects_storeNormalized.bind fun _ =>
  (keepsObjects_of_records (records_of_touches touches_updateThreadTimestamp (by decide))).bind
    fun _ => keepsObjects_storeAttachments.bind fun _ => keepsObjects_finishIngest

theorem keepsObjects_dispatchEmailIngestWithFallback {job : EmailIngestJob} :
    KeepsObjects (dispatchEmailIngestWithFallback env job) :=
  .tryCatch (keepsObjects_of_records (records_of_touches touches_sendIngestJob (by decide)))
    fun _ => keepsObjects_processEmailIngestJob

theorem keepsObjects_handleEmailIngest (jobs : List EmailIngestJob) :
    KeepsObjects (handleEmailIngest env jobs) := by
  induction jobs with
  | nil => exact keepsObjects_pure []
  | cons job rest ih =>
    refine .bind (.tryCatch (keepsObjects_processEmailIngestJob.bind fun _ => keepsObjects_pure _)
      fun _ => keepsObjects_enqueueDeadLetter.bind fun _ => keepsObjects_pure _) fun _ => ?_
    exact ih.bind fun _ => keepsObjects_pure _

/-! ### Receipt -/

theorem keepsObjects_dispatchOrFail {source : String} {job : EmailIngestJob} :
    KeepsObjects (dispatchOrFail env source job) :=
  .tryCatch keepsObjects_dispatchEmailIngestWithFallback fun _ =>
    .bind (.bind (.catchAll (keepsObjects_of_records records_updateMessageStatus)) fun _ =>
      .catchAll keepsObjects_enqueueDeadLetter) fun _ => keepsObjects_throw _

theorem keepsObjects_resumeIfPending {existing : MessageRow} :
    KeepsObjects (resumeIfPending env existing) := by
  unfold resumeIfPending
  split
  · exact keepsObjects_dispatchOrFail
  · exact keepsObjects_pure ()

theorem keepsObjects_existingInboundMessage {mailboxId : String}
    {internetMessageId : Option String} :
    KeepsObjects (existingInboundMessage env mailboxId internetMessageId) := by
  cases internetMessageId with
  | none => exact keepsObjects_pure none
  | some _ =>
    exact keepsObjects_of_records (records_reads touches_getInboundMessageByInternetMessageId)

theorem records_rawOf {input : InboundMessage} (h : input.rawR2Key = key) :
    OpRecords [key] (createInboundMessage env input) := h ▸ records_createInboundMessage

theorem keepsObjects_storeEmail {message : ForwardableEmailMessage} {mailbox : MailboxRow}
    {internetMessageId : Option String} :
    KeepsObjects (storeEmail env message mailbox internetMessageId) := by
  refine (keepsObjects_of_records (records_reads touches_createId)).bind fun messageId =>
    (keepsObjects_of_records (records_reads touches_nowIso)).bind fun receivedAt => ?_
  refine keepsObjects_stored (records_rawOf rfl) (fun _ =>
    keepsObjects_discardObject.bind fun _ => keepsObjects_throw _) fun created => ?_
  split
  · exact keepsObjects_dispatchOrFail
  · refine (KeepsObjects.catchAll keepsObjects_r2Delete).bind fun _ =>
      keepsObjects_existingInboundMessage.bind fun existing => ?_
    cases existing with
    | none => exact keepsObjects_pure ()
    | some _ => exact keepsObjects_resumeIfPending

theorem keepsObjects_handleEmail {message : ForwardableEmailMessage} :
    KeepsObjects (handleEmail env message) := by
  refine (keepsObjects_of_records (records_reads touches_getMailboxByAddress)).bind
    fun mailbox => ?_
  cases mailbox with
  | none => exact keepsObjects_pure false
  | some mailbox =>
    dsimp only
    split
    · refine keepsObjects_existingInboundMessage.bind fun existing => ?_
      cases existing with
      | some _ => exact keepsObjects_resumeIfPending.bind fun _ => keepsObjects_pure true
      | none => exact keepsObjects_storeEmail.bind fun _ => keepsObjects_pure true
    · exact keepsObjects_pure false

/-! ### Delivery to local mailboxes -/

theorem keepsObjects_discardRaw {rawR2Key : String} {error : Exn} :
    KeepsObjects (discardRaw rawR2Key error : Op α) :=
  keepsObjects_discardObject.bind fun _ => keepsObjects_throw _

theorem keepsObjects_dispatchLocal {internetMessageId messageId rawR2Key : String}
    {recipient : LocalMailboxRecipient} {created : Bool} :
    KeepsObjects (dispatchLocal env internetMessageId messageId rawR2Key recipient created) := by
  rw [dispatchLocal]
  split
  · exact keepsObjects_dispatchEmailIngestWithFallback
  · refine (KeepsObjects.catchAll keepsObjects_r2Delete).bind fun _ =>
      (keepsObjects_of_records (records_reads touches_getInboundMessageByInternetMessageId)).bind
        fun existing => ?_
    rw [dispatchIfPending]
    split
    · exact keepsObjects_dispatchEmailIngestWithFallback
    · exact keepsObjects_pure ()

theorem keepsObjects_deliverToRecipient {sender internetMessageId : String}
    {rawBytes : List UInt8} {recipient : LocalMailboxRecipient} :
    KeepsObjects (deliverToRecipient env sender internetMessageId rawBytes recipient) := by
  refine (keepsObjects_of_records (records_reads touches_nowIso)).bind fun timestamp =>
    (keepsObjects_of_records (records_reads touches_createId)).bind fun messageId => ?_
  refine keepsObjects_stored (records_rawOf rfl)
    (fun _ => keepsObjects_discardRaw) fun created => ?_
  dsimp only
  split
  · exact keepsObjects_dispatchLocal
  · exact .tryCatch keepsObjects_dispatchLocal fun _ => keepsObjects_discardRaw

theorem keepsObjects_deliverToEach {sender internetMessageId : String} {rawBytes : List UInt8}
    (recipients : List LocalMailboxRecipient) :
    KeepsObjects (deliverToEach env sender internetMessageId rawBytes recipients) := by
  induction recipients with
  | nil => exact keepsObjects_pure ()
  | cons recipient rest ih => exact keepsObjects_deliverToRecipient.bind fun _ => ih

theorem keepsObjects_deliverLocallyToMailboxes {input : LocalDelivery} :
    KeepsObjects (deliverLocallyToMailboxes env input) := by
  rw [deliverLocallyToMailboxes]
  split
  · exact keepsObjects_pure ()
  · exact (keepsObjects_of_records (records_reads (touches_loadAttachments _))).bind fun _ =>
      (keepsObjects_of_records (records_reads touches_nowIso)).bind fun _ =>
      (keepsObjects_of_records (records_reads touches_buildRawMimeMessage)).bind fun _ =>
      keepsObjects_deliverToEach _

/-! ### The SES webhook -/

theorem keepsObjects_recordSesEvent {body : Fields} {event : SesEvent}
    {message : Option MessageRow} : KeepsObjects (recordSesEvent env body event message) := by
  intro w hw
  refine Protocol.Safe.bind hw (safe_r2Put hw Db.hasObjects_nil) ?_ fun _ _ _ h => h
  exact fun _ w hw hkey => safe_recording (.bind records_insertDeliveryEvent fun _ => trivial)
    (fun _ => keepsObjects_discardObject.bind fun _ => keepsObjects_throw _) hw hkey

theorem touches_providerMessageOf {event : SesEvent} : Touches [] (providerMessageOf event) := by
  unfold providerMessageOf
  split
  · exact touches_getMessageByProviderMessageId
  · trivial

theorem touches_taggedMessageOf {event : SesEvent} {providerMessage : Option MessageRow} :
    Touches [] (taggedMessageOf event providerMessage) := by
  unfold taggedMessageOf
  split
  · exact touches_getMessage
  · trivial

theorem keepsObjects_backfillSesMessage {event : SesEvent} {message : Option MessageRow} :
    KeepsObjects (backfillSesMessage env event message) := by
  refine keepsObjects_of_records ?_
  unfold backfillSesMessage
  split
  · split
    · exact records_backfillMessageProviderAcceptance
    · trivial
  · trivial

theorem keepsObjects_writeSesOutcome {event : SesEvent} {message : MessageRow}
    {job : OutboundJobRow} {draft : Option DraftRow} {treatAsDelivered : Bool} :
    KeepsObjects (writeSesOutcome env event message job draft treatAsDelivered) := by
  refine keepsObjects_of_records ?_
  have hjob : ∀ (id : String) (status : JobStatus) (error : Option String), OpRecords []
      (updateOutboundJobStatus env id status error) := fun _ _ _ =>
    records_of_touches touches_updateOutboundJobStatus (by decide)
  have hmark : ∀ status, OpRecords [] (markDraftStatusIf env draft status) := by
    intro status
    cases draft with
    | none => trivial
    | some draft => exact records_of_touches touches_markDraftStatus (by decide)
  unfold writeSesOutcome
  split
  · exact .bind records_updateMessageStatus fun _ => .bind (hjob _ _ _) fun _ => hmark _
  · exact .bind records_updateMessageStatus fun _ => .bind (hjob _ _ _) fun _ => hmark _

theorem keepsObjects_applySesEvent {event : SesEvent} {message : Option MessageRow} :
    KeepsObjects (applySesEvent env event message) := by
  unfold applySesEvent
  split
  · cases message with
    | some m =>
      refine (keepsObjects_of_records (records_reads touches_getOutboundJobByMessageId)).bind
        fun job => ?_
      cases job with
      | none => exact keepsObjects_pure ()
      | some job =>
        exact (keepsObjects_of_records (records_reads
            touches_getDraftByR2KeyForOutboundLifecycle)).bind fun _ =>
          (keepsObjects_of_records (records_reads
            touches_listDeliveryEventsByMessageId)).bind fun _ =>
          (keepsObjects_of_records (records_of_touches touches_settleSesOutcome (by decide))).bind
            fun _ => keepsObjects_writeSesOutcome
    | none =>
      dsimp only
      split
      · exact keepsObjects_of_records records_updateMessageStatusByProviderMessageId
      · exact keepsObjects_pure ()
  · exact keepsObjects_pure ()

theorem keepsObjects_sesWebhook {provided : Option String} {body : Fields} :
    KeepsObjects (sesWebhook env provided body) := by
  unfold sesWebhook
  split
  · exact keepsObjects_pure _
  · split
    · refine (keepsObjects_of_records (records_reads touches_providerMessageOf)).bind fun _ =>
        (keepsObjects_of_records (records_reads touches_taggedMessageOf)).bind fun _ => ?_
      dsimp only
      split
      · exact keepsObjects_pure _
      · exact keepsObjects_recordSesEvent.bind fun _ =>
          keepsObjects_backfillSesMessage.bind fun _ => keepsObjects_applySesEvent.bind fun _ =>
          (keepsObjects_of_records (records_of_touches touches_suppressSesRecipients
            (by decide))).bind fun _ => keepsObjects_pure _
    · exact keepsObjects_pure _

end Safe

/-! ### Runs -/

/-- An execution: of the e-mail handler, of the delivery to local mailboxes, of a batch of the
ingest queue or of the SES webhook. -/
inductive Execution where
  | receive (env : Env) (message : ForwardableEmailMessage)
  | deliver (env : Env) (input : LocalDelivery)
  | ingest (env : Env) (jobs : List EmailIngestJob)
  | webhook (env : Env) (provided : Option String) (body : Fields)

/-- What the execution does; its result does not matter. -/
def Execution.prog : Execution → Op Unit
  | .receive env message => do
    let _ ← handleEmail env message
  | .deliver env input => deliverLocallyToMailboxes env input
  | .ingest env jobs => do
    let _ ← handleEmailIngest env jobs
  | .webhook env provided body => do
    let _ ← sesWebhook env provided body

theorem keepsObjects_execution (x : Execution) : KeepsObjects x.prog := by
  cases x with
  | receive env message => exact keepsObjects_handleEmail.bind fun _ => keepsObjects_pure ()
  | deliver env input => exact keepsObjects_deliverLocallyToMailboxes
  | ingest env jobs =>
    exact (keepsObjects_handleEmailIngest jobs).bind fun _ => keepsObjects_pure ()
  | webhook env provided body => exact keepsObjects_sesWebhook.bind fun _ => keepsObjects_pure ()

/-- An execution that is about to start in a store. -/
def Execution.start (x : Execution) (s : Db) : Config Unit Db Label Exn Unit :=
  ⟨⟨s, []⟩, fun _ => x.prog⟩

/-- Executions one after another, each with what becomes of its statements. It is over or has
crashed when the next one starts, and deletes no object whose key a row records. -/
inductive Executions : Db → Db → Prop
  | nil (s : Db) : Executions s s
  | cons {s s' : Db} (x : Execution) (outcomes : List Outcome)
      (spares : (x.start s).Meets SparesRecorded (outcomes.map ((), ·)))
      (following : Executions ((x.start s).exec (outcomes.map ((), ·))).world.store s') :
      Executions s s'

/-- **No recorded object is lost** to executions that spare those that are recorded, wherever
their statements fail. -/
theorem Executions.recordsStored {s s' : Db} (h : Executions s s') (hs : s.RecordsStored) :
    s'.RecordsStored := by
  induction h with
  | nil => exact hs
  | @cons s s' x outcomes spares following ih =>
    have hholds : ∀ i : Unit, keepingObjects.Holds i (fun _ _ => True) (fun _ _ => True)
        ((x.start s).threads i) (x.start s).world := fun _ w hl =>
      keepsObjects_execution x w hl.inv
    exact ih (Protocol.exec hs hholds spares).1

/-! ### Two runs -/

/-- Everything is carried out but a statement after so many steps. -/
@[irreducible] def refusal (k : Nat) : List Outcome := (List.replicate 60 .done).set k .refused

/-- The store after an execution with that outcome. -/
def Execution.refusedAt (x : Execution) (k : Nat) (s : Db) : Db :=
  ((x.start s).exec ((refusal k).map ((), ·))).world.store

/-- The receipt of an e-mail. -/
def receipt : Execution := .receive mailEnv (sampleEmail "<a@d>")

/-- Its ingest. -/
def receiptIngest : Execution := .ingest mailEnv [⟨mailEnv.createId "msg" 1, "t", "mbx",
  rawR2KeyOf mailEnv 2 (mailEnv.createId "msg" 1)⟩]

/-- The ingest fails to record the normalized message at first, and deletes it. -/
theorem received_and_ingested :
    (receiptIngest.refusedAt 60 (receiptIngest.refusedAt 10 (receipt.refusedAt 60
      mailboxDb))).RecordsStored :=
  Executions.recordsStored (.cons receipt (refusal 60) (by decide +kernel)
    (.cons receiptIngest (refusal 10) (by decide +kernel)
      (.cons receiptIngest (refusal 60) (by decide +kernel) (.nil _)))) (by decide)

/-- An ingest that is repeated may delete what the row still records. -/
theorem repeated_ingest_loses : ¬ (receiptIngest.refusedAt 5 (receiptIngest.refusedAt 60
    (receipt.refusedAt 60 mailboxDb))).RecordsStored := by
  decide +kernel

end MailRuntime
