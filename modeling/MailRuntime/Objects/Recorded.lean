import MailRuntime.Interaction.RelyGuarantee
import MailRuntime.Outbound.InternalDelivery
import MailRuntime.Routes.SesWebhook

/-!
# Objects that rows record

Rows of five columns record the keys of R2 objects. An execution of receipt, of ingest or of the
SES webhook stores an object before a row records it, and deletes objects: those of a message that
was there already or of attachments that were replaced, and after an exception those that it has
stored itself.

## What is proved

Whatever fails, a row records only keys of objects that are there, as long as no object is deleted
whose key a row records (`SparesRecorded`).
-/

namespace MailRuntime

open Js Interaction

/-! ### The keys -/

/-- The keys that rows record. -/
def Db.recordedKeys (s : Db) : List String :=
  s.messages.flatMap (fun m => m.rawR2Key.toList ++ m.normalizedR2Key.toList) ++
    s.attachments.map AttachmentRow.r2Key ++ s.tasks.flatMap (fun t => t.resultR2Key.toList) ++
    s.deliveryEvents.map DeliveryEventRow.payloadR2Key

/-- The keys are of objects that are there. -/
def Db.HasObjects (s : Db) (keys : List String) : Prop :=
  ∀ key ∈ keys, (s.object key).isSome = true

/-- The object that the statement deletes. -/
def Label.deletedObject : Label → Option String
  | .deleteObject key | .discardObject key => some key
  | _ => none

/-- No object is deleted whose key a row records. -/
def SparesRecorded {ι : Type} (_ : ι) (w : World ι Db Label) (l : Label) (o : Outcome) : Prop :=
  ∀ key ∈ l.deletedObject, o.effective = true → key ∉ w.store.recordedKeys

instance {ι : Type} (i : ι) (w : World ι Db Label) (l : Label) (o : Outcome) :
    Decidable (SparesRecorded i w l o) := by
  unfold SparesRecorded
  infer_instance

variable {s s' s'' : Db} {keys : List String} {key : String}

theorem Db.mem_recordedKeys : key ∈ s.recordedKeys ↔
    (∃ m ∈ s.messages, m.rawR2Key = some key ∨ m.normalizedR2Key = some key) ∨
      (∃ a ∈ s.attachments, a.r2Key = key) ∨ (∃ t ∈ s.tasks, t.resultR2Key = some key) ∨
        ∃ e ∈ s.deliveryEvents, e.payloadR2Key = key := by
  simp only [Db.recordedKeys, List.mem_append, List.mem_flatMap, List.mem_map, Option.mem_toList,
    or_assoc]

@[simp] theorem Db.hasObjects_nil : s.HasObjects [] := fun _ h => by cases h

theorem Db.hasObjects_cons :
    s.HasObjects (key :: keys) ↔ (s.object key).isSome = true ∧ s.HasObjects keys :=
  List.forall_mem_cons

theorem Db.HasObjects.mono (h : s.HasObjects keys) {keys' : List String}
    (hsub : ∀ key ∈ keys', key ∈ keys) : s.HasObjects keys' := fun key hkey => h key (hsub key hkey)

/-! ### What a statement records -/

/-- Rows record only some keys besides those they recorded, and no object is gone. -/
structure Db.RecordsOnly (s : Db) (keys : List String) (s' : Db) : Prop where
  recorded : ∀ key ∈ s'.recordedKeys, key ∈ s.recordedKeys ∨ key ∈ keys
  objects : ∀ key, (s.object key).isSome = true → (s'.object key).isSome = true

theorem Db.RecordsOnly.refl (s : Db) : s.RecordsOnly keys s := ⟨fun _ h => .inl h, fun _ h => h⟩

/-- All statements of the program record only these keys, and delete no object. -/
def OpRecords {α : Type} (keys : List String) (p : Op α) : Prop :=
  p.Each Draws fun _ run => ∀ s : Db, s.RecordsOnly keys (run s)

/-- The tables in which keys are recorded, and the objects. -/
def recordingTables : List Table := [.messages, .attachments, .tasks, .deliveryEvents, .objects]

theorem Db.recordsOnly_of_same (h : ∀ t ∈ recordingTables, t.Same s s') :
    s.RecordsOnly keys s' := by
  have hmessages : s.messages = s'.messages := h .messages (by decide)
  have hattachments : s.attachments = s'.attachments := h .attachments (by decide)
  have htasks : s.tasks = s'.tasks := h .tasks (by decide)
  have hevents : s.deliveryEvents = s'.deliveryEvents := h .deliveryEvents (by decide)
  have hobjects : s.objects = s'.objects := h .objects (by decide)
  refine ⟨fun key hkey => .inl ?_, fun key hkey => ?_⟩
  · rwa [Db.recordedKeys, ← hmessages, ← hattachments, ← htasks, ← hevents] at hkey
  · rwa [Db.object, ← hobjects]

/-- Rows may go, and such as record only these keys may come. -/
theorem Db.recordsOnly_of_rows (hobjects : s'.objects = s.objects)
    (hmessages : ∀ m ∈ s'.messages, m ∈ s.messages ∨
      ∀ key, m.rawR2Key = some key ∨ m.normalizedR2Key = some key → key ∈ keys)
    (hattachments : ∀ a ∈ s'.attachments, a ∈ s.attachments ∨ a.r2Key ∈ keys)
    (htasks : ∀ t ∈ s'.tasks, t ∈ s.tasks ∨ ∀ key, t.resultR2Key = some key → key ∈ keys)
    (hevents : ∀ e ∈ s'.deliveryEvents, e ∈ s.deliveryEvents ∨ e.payloadR2Key ∈ keys) :
    s.RecordsOnly keys s' := by
  refine ⟨fun key hkey => ?_, fun key hkey => ?_⟩
  · rw [Db.mem_recordedKeys] at hkey ⊢
    obtain ⟨m, hm, hkey⟩ | ⟨a, ha, rfl⟩ | ⟨t, ht, hkey⟩ | ⟨e, he, rfl⟩ := hkey
    · exact (hmessages m hm).imp (fun hm => .inl ⟨m, hm, hkey⟩) fun h => h key hkey
    · exact (hattachments a ha).imp_left fun ha => .inr (.inl ⟨a, ha, rfl⟩)
    · exact (htasks t ht).imp (fun ht => .inr (.inr (.inl ⟨t, ht, hkey⟩))) fun h => h key hkey
    · exact (hevents e he).imp_left fun he => .inr (.inr (.inr ⟨e, he, rfl⟩))
  · rwa [Db.object, hobjects]

section Programs

variable {α β : Type} {ts : List Table}

theorem OpRecords.bind {p : Op α} {f : α → Op β} (hp : OpRecords keys p)
    (hf : ∀ a, OpRecords keys (f a)) : OpRecords keys (p >>= f) := Prog.Each.bind hp hf

theorem OpRecords.tryCatch {p : Op α} {f : Exn → Op α} (hp : OpRecords keys p)
    (hf : ∀ e, OpRecords keys (f e)) : OpRecords keys (tryCatch p f) := Prog.Each.tryCatch hp hf

theorem OpRecords.catchAll {p : Op α} {value : α} (hp : OpRecords keys p) :
    OpRecords keys (catchAll p value) := Prog.Each.tryCatch hp fun _ => trivial

theorem OpRecords.mono {p : Op α} (hp : OpRecords keys p) {keys' : List String}
    (h : ∀ key ∈ keys, key ∈ keys') : OpRecords keys' p :=
  Prog.Each.mono hp (fun _ hrun => hrun) fun _ _ hrun s =>
    ⟨fun key hkey => ((hrun s).recorded key hkey).imp_right (h key), (hrun s).objects⟩

/-- What touches other tables records nothing. -/
theorem records_of_touches {p : Op α} (hp : Touches ts p) (h : ∀ t ∈ recordingTables, t ∉ ts) :
    OpRecords keys p :=
  Prog.Each.mono hp (fun _ hrun => hrun) fun _ _ hwithin s =>
    Db.recordsOnly_of_same fun t ht => (hwithin s).1 t (h t ht)

theorem records_reads {p : Op α} (hp : Touches [] p) : OpRecords keys p :=
  records_of_touches hp fun _ _ => List.not_mem_nil

/-- An update of messages, which record these keys after it or those they did before. -/
theorem records_updateMessages {l : Nat → Label} {target : Db → MessageRow → Bool}
    {set : MessageRow → MessageRow}
    (hset : ∀ m key, (set m).rawR2Key = some key ∨ (set m).normalizedR2Key = some key →
      (m.rawR2Key = some key ∨ m.normalizedR2Key = some key) ∨ key ∈ keys) :
    OpRecords keys (messageRows.updateAs l target set) := by
  refine Prog.each_perform.2 fun s => ⟨fun key hkey => ?_, fun _ h => h⟩
  rw [Db.mem_recordedKeys] at hkey ⊢
  obtain ⟨m, hm, hkey⟩ | hkey := hkey
  · obtain ⟨m₀, hm₀, rfl⟩ := List.mem_map.1 hm
    split at hkey
    · exact (hset m₀ key hkey).imp_left fun h => .inl ⟨m₀, hm₀, h⟩
    · exact .inl (.inl ⟨m₀, hm₀, hkey⟩)
  · exact .inl (.inr hkey)

/-- An update of tasks, which record these keys after it or those they did before. -/
theorem records_updateTasks {l : Nat → Label} {target : Db → TaskRow → Bool}
    {set : TaskRow → TaskRow}
    (hset : ∀ t key, (set t).resultR2Key = some key → t.resultR2Key = some key ∨ key ∈ keys) :
    OpRecords keys (taskRows.updateAs l target set) := by
  refine Prog.each_perform.2 fun s => ⟨fun key hkey => ?_, fun _ h => h⟩
  rw [Db.mem_recordedKeys] at hkey ⊢
  obtain hkey | hkey | ⟨t, ht, hkey⟩ | hkey := hkey
  · exact .inl (.inl hkey)
  · exact .inl (.inr (.inl hkey))
  · obtain ⟨t₀, ht₀, rfl⟩ := List.mem_map.1 ht
    split at hkey
    · exact (hset t₀ key hkey).imp_left fun h => .inr (.inr (.inl ⟨t₀, ht₀, h⟩))
    · exact .inl (.inr (.inr (.inl ⟨t₀, ht₀, hkey⟩)))
  · exact .inl (.inr (.inr (.inr hkey)))

section Rows

variable {ρ : Type} {R : Rows ρ}

/-- Some rows of a table are deleted. -/
theorem records_discardAs {l : Label} {doomed : ρ → Bool}
    (hdeleted : ∀ s : Db, s.RecordsOnly keys (R.deleted s doomed).2) :
    OpRecords keys (R.discardAs l doomed) :=
  .catchAll (.bind (Prog.each_perform.2 hdeleted) fun _ => trivial)

theorem records_discardEach {column : ρ → String} (values : List String)
    (hdeleted : ∀ (s : Db) doomed, s.RecordsOnly keys (R.deleted s doomed).2) :
    OpRecords keys (R.discardEach column values) := by
  induction values with
  | nil => trivial
  | cons value rest ih => exact .bind (records_discardAs fun s => hdeleted s _) fun _ => ih

/-- A row that records only these keys is inserted. -/
theorem records_insertWhereAs {l : Nat → Label} {wanted free : Db → Bool} {row : ρ}
    (hinserted : ∀ s : Db, s.RecordsOnly keys (R.inserted s row)) :
    OpRecords keys (R.insertWhereAs l wanted free row) := by
  refine .bind (Prog.each_perform.2 fun s => ?_) fun outcome => ?_
  · dsimp only
    split
    · split
      · exact hinserted s
      · exact .refl s
    · exact .refl s
  · cases outcome <;> trivial

theorem records_insertRow {l : Nat → Label} {free : Db → Bool} {row : ρ}
    (hinserted : ∀ s : Db, s.RecordsOnly keys (R.inserted s row)) :
    OpRecords keys (insertRow l free fun s => R.inserted s row) := by
  refine .bind (Prog.each_perform.2 fun s => ?_) fun changes => ?_
  · dsimp only
    split
    · exact hinserted s
    · exact .refl s
  · split <;> trivial

end Rows

theorem Db.recordsOnly_deletedMessages (s : Db) (doomed : MessageRow → Bool) :
    s.RecordsOnly keys (messageRows.deleted s doomed).2 :=
  Db.recordsOnly_of_rows rfl (fun _ h => .inl (List.mem_of_mem_filter h)) (fun _ h => .inl h)
    (fun _ h => .inl h) fun _ h => .inl h

theorem Db.recordsOnly_deletedAttachments (s : Db) (doomed : AttachmentRow → Bool) :
    s.RecordsOnly keys (attachmentRows.deleted s doomed).2 :=
  Db.recordsOnly_of_rows rfl (fun _ h => .inl h) (fun _ h => .inl (List.mem_of_mem_filter h))
    (fun _ h => .inl h) fun _ h => .inl h

theorem Db.recordsOnly_deletedTasks (s : Db) (doomed : TaskRow → Bool) :
    s.RecordsOnly keys (taskRows.deleted s doomed).2 :=
  Db.recordsOnly_of_rows rfl (fun _ h => .inl h) (fun _ h => .inl h)
    (fun _ h => .inl (List.mem_of_mem_filter h)) fun _ h => .inl h

theorem Db.recordsOnly_deletedEvents (s : Db) (doomed : DeliveryEventRow → Bool) :
    s.RecordsOnly keys (deliveryEventRows.deleted s doomed).2 :=
  Db.recordsOnly_of_rows rfl (fun _ h => .inl h) (fun _ h => .inl h) (fun _ h => .inl h)
    fun _ h => .inl (List.mem_of_mem_filter h)

theorem Db.recordsOnly_insertedMessage (s : Db) {row : MessageRow}
    (hrow : ∀ key, row.rawR2Key = some key ∨ row.normalizedR2Key = some key → key ∈ keys) :
    s.RecordsOnly keys (messageRows.inserted s row) := by
  refine Db.recordsOnly_of_rows rfl (fun m hm => ?_) (fun _ h => .inl h) (fun _ h => .inl h)
    fun _ h => .inl h
  obtain hm | hm := List.mem_append.1 hm
  · exact .inl hm
  · exact .inr (List.mem_singleton.1 hm ▸ hrow)

theorem Db.recordsOnly_insertedAttachment (s : Db) {row : AttachmentRow} (hrow : row.r2Key ∈ keys) :
    s.RecordsOnly keys (attachmentRows.inserted s row) := by
  refine Db.recordsOnly_of_rows rfl (fun _ h => .inl h) (fun a ha => ?_) (fun _ h => .inl h)
    fun _ h => .inl h
  obtain ha | ha := List.mem_append.1 ha
  · exact .inl ha
  · exact .inr (List.mem_singleton.1 ha ▸ hrow)

theorem Db.recordsOnly_insertedTask (s : Db) {row : TaskRow} (hrow : row.resultR2Key = none) :
    s.RecordsOnly keys (taskRows.inserted s row) := by
  refine Db.recordsOnly_of_rows rfl (fun _ h => .inl h) (fun _ h => .inl h) (fun t ht => ?_)
    fun _ h => .inl h
  obtain ht | ht := List.mem_append.1 ht
  · exact .inl ht
  · obtain rfl := List.mem_singleton.1 ht
    exact .inr fun key hkey => by rw [hrow] at hkey; cases hkey

theorem Db.recordsOnly_insertedEvent (s : Db) {row : DeliveryEventRow}
    (hrow : row.payloadR2Key ∈ keys) :
    s.RecordsOnly keys (deliveryEventRows.inserted s row) := by
  refine Db.recordsOnly_of_rows rfl (fun _ h => .inl h) (fun _ h => .inl h) (fun _ h => .inl h)
    fun e he => ?_
  obtain he | he := List.mem_append.1 he
  · exact .inl he
  · exact .inr (List.mem_singleton.1 he ▸ hrow)

/-! ### Messages -/

variable {env : Env}

theorem records_updateMessage {messageId : String} {set : MessageRow → MessageRow}
    (hset : ∀ m, (set m).rawR2Key = m.rawR2Key ∧ (set m).normalizedR2Key = m.normalizedR2Key) :
    OpRecords keys (updateMessage messageId set) :=
  records_updateMessages (l := fun _ => .write .messages) fun m key hkey =>
    .inl (by rwa [(hset m).1, (hset m).2] at hkey)

theorem records_updateMessageStatus {messageId : String} {status : MessageStatus} :
    OpRecords keys (updateMessageStatus messageId status) :=
  .bind (records_updateMessage fun _ => ⟨rfl, rfl⟩) fun _ =>
    records_reads touches_requireStateUpdateApplied

theorem records_updateMessageStatusByProviderMessageId {providerMessageId : String}
    {status : MessageStatus} :
    OpRecords keys (updateMessageStatusByProviderMessageId providerMessageId status) := by
  refine .bind (records_reads touches_getMessageByProviderMessageId) fun row => ?_
  cases row with
  | none => trivial
  | some m => exact .bind (records_updateMessage fun _ => ⟨rfl, rfl⟩) fun _ => trivial

theorem records_backfillMessageProviderAcceptance {messageId providerMessageId : String} :
    OpRecords keys (backfillMessageProviderAcceptance env messageId providerMessageId) := by
  refine .bind (records_reads touches_nowIso) fun timestamp =>
    .bind (records_updateMessages fun m key hkey => .inl hkey) fun changes => ?_
  split
  · refine .bind (records_reads (touches_query rfl)) fun conflict => ?_
    cases conflict with
    | some other => trivial
    | none => exact records_reads touches_requireStateUpdateApplied
  · trivial

theorem records_assignMessageThreadId {messageId threadId : String} :
    OpRecords keys (assignMessageThreadId messageId threadId) :=
  .bind (records_updateMessages fun _ _ hkey => .inl hkey) fun _ =>
    records_reads touches_requireStateUpdateApplied

/-- The normalized form of a message is recorded. -/
theorem records_updateInboundMessageNormalized {input : NormalizedInput} :
    OpRecords [input.normalizedR2Key] (updateInboundMessageNormalized input) := by
  refine .bind (records_updateMessages fun m key hkey => ?_) fun _ =>
    records_reads touches_requireStateUpdateApplied
  obtain hkey | hkey := hkey
  · exact .inl (.inl hkey)
  · exact .inr (List.mem_singleton.2 (Option.some.inj hkey).symm)

theorem records_finalizeCreatedInboundMessage {input : InboundMessage} :
    OpRecords keys (finalizeCreatedInboundMessage input) := by
  refine .bind (records_reads (touches_query rfl)) fun mailboxExists => ?_
  split
  · exact .bind (records_discardAs fun s => s.recordsOnly_deletedMessages _) fun _ => trivial
  · refine .bind (records_reads touches_getMessage) fun row => ?_
    cases row with
    | none =>
      exact .bind (records_discardAs fun s => s.recordsOnly_deletedMessages _) fun _ => trivial
    | some _ => trivial

theorem InboundMessage.recorded_row (input : InboundMessage) (messageKey : Option String)
    (key : String) (h : (input.row messageKey).rawR2Key = some key ∨
      (input.row messageKey).normalizedR2Key = some key) : key ∈ [input.rawR2Key] := by
  obtain h | h := h
  · exact List.mem_singleton.2 (Option.some.inj h).symm
  · cases h

theorem records_insertInboundMessage {input : InboundMessage} {messageKey : String} :
    OpRecords [input.rawR2Key] (insertInboundMessage input messageKey) :=
  records_insertWhereAs (l := fun _ => .write .messages) fun s =>
    s.recordsOnly_insertedMessage (input.recorded_row _)

theorem records_retryInboundMessage {input : InboundMessage} {messageKey : String} :
    OpRecords [input.rawR2Key] (retryInboundMessage env input messageKey) := by
  refine .bind (.bind (records_reads messageRows.touches_select) fun rows =>
    .bind (records_discardEach _ Db.recordsOnly_deletedMessages) fun _ => trivial)
    fun deleted => ?_
  split
  · trivial
  · refine .bind records_insertInboundMessage fun changes => ?_
    split
    · refine .bind (records_reads touches_getInboundMessageByInternetMessageId) fun row => ?_
      cases row <;> trivial
    · exact .bind records_finalizeCreatedInboundMessage fun _ => trivial

/-- The raw form of a message is recorded. -/
theorem records_createInboundMessage {input : InboundMessage} :
    OpRecords [input.rawR2Key] (createInboundMessage env input) := by
  rw [createInboundMessage]
  split
  · exact .bind (records_insertRow fun s => s.recordsOnly_insertedMessage (input.recorded_row _))
      fun _ => .bind records_finalizeCreatedInboundMessage fun _ => trivial
  · refine .bind records_insertInboundMessage fun changes => ?_
    split
    · refine .bind (records_reads touches_getInboundMessageByInternetMessageId) fun row => ?_
      cases row with
      | some _ => trivial
      | none => exact records_retryInboundMessage
    · exact .bind records_finalizeCreatedInboundMessage fun _ => trivial

/-! ### Tasks -/

theorem records_updateTask {l : Nat → Label} {taskId : String} {set : TaskRow → TaskRow}
    (hset : ∀ t key, (set t).resultR2Key = some key → t.resultR2Key = some key ∨ key ∈ keys) :
    OpRecords keys (updateTask l taskId set) :=
  .bind (records_updateTasks hset) fun _ => records_reads touches_requireStateUpdateApplied

theorem records_deleteTask {taskId : String} : OpRecords keys (deleteTask taskId) :=
  records_discardAs fun s => s.recordsOnly_deletedTasks _

theorem records_cleanupTaskIfParentsMissing {input : TaskInput} {taskId : String} :
    OpRecords keys (cleanupTaskIfParentsMissing input taskId) := by
  refine .bind (records_reads (touches_query rfl)) fun _ =>
    .bind (records_reads (touches_query rfl)) fun _ => .bind (records_reads ?_) fun _ => ?_
  · rw [assignedAgentExists]
    split
    · trivial
    · exact touches_query rfl
  · split
    · trivial
    · exact .bind records_deleteTask fun _ => trivial

theorem records_insertTask {input : TaskInput} {id : String} {timestamp : Nat} :
    OpRecords keys (insertTask input id timestamp) :=
  records_insertWhereAs fun s => s.recordsOnly_insertedTask rfl

theorem records_resetTask {input : TaskInput} {timestamp : Nat} {existing : Option TaskRow} :
    OpRecords keys (resetTask input timestamp existing) := by
  refine .bind (records_reads touches_requireRow) fun existingTask => ?_
  split
  · exact .bind (records_updateTask fun t key hkey => by cases hkey) fun _ =>
      .bind (records_reads touches_getTask) fun _ => records_reads touches_requireRow
  · trivial

theorem records_retryTask {input : TaskInput} {id : String} {timestamp : Nat} :
    OpRecords keys (retryTask input id timestamp) := by
  refine .bind (.bind (records_reads taskRows.touches_select) fun rows =>
    .bind (records_discardEach _ Db.recordsOnly_deletedTasks) fun _ => trivial) fun deleted => ?_
  split
  · exact records_resetTask
  · refine .bind records_insertTask fun changes => ?_
    split
    · exact .bind (records_reads touches_getTaskBySourceMessageId) fun _ => records_resetTask
    · refine .bind records_cleanupTaskIfParentsMissing fun _ =>
        .bind (records_reads touches_getTask) fun row => ?_
      cases row with
      | some _ => trivial
      | none => exact .bind records_deleteTask fun _ => trivial

theorem records_getOrCreateTaskForSourceMessage {input : TaskInput} :
    OpRecords keys (getOrCreateTaskForSourceMessage env input) := by
  refine .bind (records_reads touches_createId) fun id =>
    .bind (records_reads touches_nowIso) fun timestamp => .bind records_insertTask fun changes => ?_
  split
  · refine .bind (records_reads touches_getTaskBySourceMessageId) fun existing => ?_
    cases existing with
    | some _ => exact records_resetTask
    | none => exact records_retryTask
  · exact .bind records_cleanupTaskIfParentsMissing fun _ =>
      .bind (records_reads touches_getTask) fun _ => records_reads touches_requireRow

theorem records_taskOfMessage {job : EmailIngestJob} {target : Option ExecutionTarget} :
    OpRecords keys (taskOfMessage env job target) := by
  unfold taskOfMessage
  split
  · exact .bind records_getOrCreateTaskForSourceMessage fun _ => trivial
  · exact records_reads touches_getTaskBySourceMessageId

/-- The trace of a task that is given to review is recorded. -/
theorem records_updateTaskStatus {taskId resultR2Key : String} {status : TaskStatus} :
    OpRecords [resultR2Key] (updateTaskStatus env taskId status (some resultR2Key)) :=
  .bind (records_reads touches_nowIso) fun _ => records_updateTask fun _ _ hkey =>
    .inr (List.mem_singleton.2 (Option.some.inj hkey).symm)

/-! ### Attachments and events -/

theorem records_deleteAttachmentsOf {messageId : String} :
    OpRecords keys (deleteAttachmentsOf messageId) :=
  .bind (Prog.each_perform.2 fun s => s.recordsOnly_deletedAttachments _) fun _ => trivial

theorem records_insertNewAttachments {messageId : String} (attachments : List AttachmentInput)
    (h : ∀ a ∈ attachments, a.r2Key ∈ keys) :
    OpRecords keys (insertNewAttachments env messageId attachments) := by
  induction attachments with
  | nil => trivial
  | cons input rest ih =>
    rw [List.forall_mem_cons] at h
    exact .bind (records_reads touches_nowIso) fun _ =>
      .bind (records_insertRow fun s => s.recordsOnly_insertedAttachment h.1) fun _ => ih h.2

theorem records_restoreAttachments (rows : List AttachmentRow) (h : ∀ a ∈ rows, a.r2Key ∈ keys) :
    OpRecords keys (restoreAttachments rows) := by
  induction rows with
  | nil => trivial
  | cons row rest ih =>
    rw [List.forall_mem_cons] at h
    exact .bind (records_insertRow fun s => s.recordsOnly_insertedAttachment h.1) fun _ => ih h.2

theorem records_requireMessage {messageId : String} {otherwise : Op Unit}
    (h : OpRecords keys otherwise) : OpRecords keys (requireMessage messageId otherwise) := by
  refine .bind (records_reads touches_getMessage) fun row => ?_
  cases row with
  | some _ => trivial
  | none => exact .bind h fun _ => trivial

theorem records_insertEvent {messageId providerMessageId : Option String}
    {eventType : DeliveryEventType} {payloadR2Key : String} : OpRecords [payloadR2Key]
      (insertEvent env messageId providerMessageId eventType payloadR2Key) :=
  .bind (records_reads touches_createId) fun _ => .bind (records_reads touches_nowIso) fun _ =>
    records_insertWhereAs (l := fun _ => .write .deliveryEvents) fun s =>
      s.recordsOnly_insertedEvent (List.mem_singleton_self _)

/-- The payload of an event is recorded. -/
theorem records_insertDeliveryEvent {messageId providerMessageId : Option String}
    {eventType : DeliveryEventType} {payloadR2Key : String} : OpRecords [payloadR2Key]
      (insertDeliveryEvent env messageId providerMessageId eventType payloadR2Key) := by
  refine .bind records_insertEvent fun changes => ?_
  split
  · refine .bind (records_reads (touches_query rfl)) fun known => ?_
    split
    · trivial
    · refine .bind (.bind (records_reads deliveryEventRows.touches_select) fun rows =>
        .bind (records_discardEach _ Db.recordsOnly_deletedEvents) fun _ => trivial)
          fun deleted => ?_
      split
      · trivial
      · refine .bind records_insertEvent fun changes => ?_
        split
        · refine .bind (records_reads (touches_query rfl)) fun known => ?_
          split <;> trivial
        · trivial
  · trivial

end Programs

end MailRuntime
