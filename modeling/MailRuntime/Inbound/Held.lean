import MailRuntime.Enqueueing.Jobs
import MailRuntime.Inbound.Redelivery

/-!
# What mailboxes hold

A mailbox holds the visible inbound messages that it has. As long as ingest writes no other
`Message-ID` over that of a message (`IdsKept`), its statements leave what a mailbox holds there,
under the key it came under (`Kept`, `kept_processEmailIngestJob`). Receipt and local delivery
delete messages as well, and are not among the programs here.
-/

namespace MailRuntime

open Js Interaction

/-- The mailbox has a visible inbound message under the key. -/
def Db.HasInbound (s : Db) (mailboxId key : String) : Prop :=
  ∃ m ∈ s.messages, s.holds mailboxId m = true ∧ m.internetMessageId = some key

/-- The same under the key that a `Message-ID` has, unless it has none. -/
def Db.HasDelivered (s : Db) (env : Env) (mailboxId : String) (internetMessageId : Option String) :
    Prop :=
  ∀ key, normalizeInternetMessageId env internetMessageId = some key → s.HasInbound mailboxId key

/-- A parsed `Message-ID` may be written on a message: it is that of the message, or the message
has none and no other message of the mailbox has it. -/
def Db.mayWriteId (s : Db) (env : Env) (internetMessageId : String) (m : MessageRow) : Bool :=
  m.internetMessageId == some internetMessageId ||
  (m.internetMessageId.isNone && s.mayWriteKey env internetMessageId m)

/-- If the statement writes a parsed `Message-ID` on a visible inbound message, it may. -/
def Db.keepsIds (s : Db) (env : Env) : Label → Bool
  | .writeMessageKey messageId (some internetMessageId) _ => s.messages.all fun m =>
      !(m.id == messageId && s.holds m.mailboxId m) || s.mayWriteId env internetMessageId m
  | _ => true

/-- Ingest writes no `Message-ID` over another. -/
def IdsKept {ι : Type} (env : Env) (_ : ι) (w : World ι Db Label) (l : Label) (o : Outcome) :
    Prop := o.effective = true → w.store.keepsIds env l = true

instance {ι : Type} (env : Env) (i : ι) (w : World ι Db Label) (l : Label) (o : Outcome) :
    Decidable (IdsKept env i w l o) := by
  unfold IdsKept
  infer_instance

/-- The keys of messages are in order, and those that are not visible have identifiers that are
not drawn any more. -/
structure Db.Receiving (env : Env) (s : Db) : Prop where
  keyed : s.MessagesKeyed env
  hidden : ∀ m ∈ s.messages, env.Mints m.id → s.messageVisible m = true

/-- What mailboxes hold stays there under its key, and the messages that come are visible. -/
structure Kept (env : Env) (s s' : Db) : Prop where
  mailboxes : s'.mailboxes = s.mailboxes
  held : ∀ mailboxId, ∀ m ∈ s.messages, s.holds mailboxId m = true → ∃ m' ∈ s'.messages,
    m'.id = m.id ∧ s'.holds mailboxId m' = true ∧
      ∀ key, m.internetMessageId = some key → m'.internetMessageId = some key
  known : ∀ m' ∈ s'.messages,
    (∃ m ∈ s.messages, m.id = m'.id ∧ m.mailboxId = m'.mailboxId ∧ m.tenantId = m'.tenantId) ∨
      env.Mints m'.id ∧ s'.messageVisible m' = true

section Statements

variable {env : Env} {s s' s'' : Db} {mailboxId key : String}

theorem Db.messageVisible_congr (h : s'.mailboxes = s.mailboxes) {m m' : MessageRow}
    (hmailbox : m.mailboxId = m'.mailboxId) (htenant : m.tenantId = m'.tenantId) :
    s'.messageVisible m' = s.messageVisible m := by
  simp only [Db.messageVisible, Db.ownsMailbox, h, hmailbox, htenant]

theorem Kept.of_messages (hmailboxes : s'.mailboxes = s.mailboxes)
    (hmessages : s'.messages = s.messages) : Kept env s s' where
  mailboxes := hmailboxes
  held mailboxId m hm hheld :=
    ⟨m, hmessages ▸ hm, rfl, (Db.holds_congr hmailboxes.symm mailboxId m).trans hheld,
      fun _ h => h⟩
  known m' hm' := .inl ⟨m', hmessages ▸ hm', rfl, rfl, rfl⟩

theorem Kept.refl (s : Db) : Kept env s s := .of_messages rfl rfl

theorem Kept.trans (h : Kept env s s') (h' : Kept env s' s'') : Kept env s s'' where
  mailboxes := h'.mailboxes.trans h.mailboxes
  held mailboxId m hm hheld := by
    obtain ⟨m', hm', hid, hheld', hkey⟩ := h.held mailboxId m hm hheld
    obtain ⟨m'', hm'', hid', hheld'', hkey'⟩ := h'.held mailboxId m' hm' hheld'
    exact ⟨m'', hm'', hid'.trans hid, hheld'', fun key hm => hkey' key (hkey key hm)⟩
  known m'' hm'' := by
    obtain ⟨m', hm', hid, hmailbox, htenant⟩ | hnew := h'.known m'' hm''
    · obtain ⟨m, hm, hid', hmailbox', htenant'⟩ | ⟨hmints, hvisible⟩ := h.known m' hm'
      · exact .inl ⟨m, hm, hid'.trans hid, hmailbox'.trans hmailbox, htenant'.trans htenant⟩
      · exact .inr ⟨hid ▸ hmints,
          (Db.messageVisible_congr h'.mailboxes hmailbox htenant).trans hvisible⟩
    · exact .inr hnew

theorem Kept.hasInbound (h : Kept env s s') (hs : s.HasInbound mailboxId key) :
    s'.HasInbound mailboxId key := by
  obtain ⟨m, hm, hheld, hkey⟩ := hs
  obtain ⟨m', hm', -, hheld', hkey'⟩ := h.held mailboxId m hm hheld
  exact ⟨m', hm', hheld', hkey' key hkey⟩

theorem Kept.hasDelivered {internetMessageId : Option String} (h : Kept env s s')
    (hs : s.HasDelivered env mailboxId internetMessageId) :
    s'.HasDelivered env mailboxId internetMessageId := fun key hkey => h.hasInbound (hs key hkey)

theorem Kept.ownsMailbox (h : Kept env s s') (tenantId mailboxId : String) :
    s'.ownsMailbox tenantId mailboxId = s.ownsMailbox tenantId mailboxId := by
  rw [Db.ownsMailbox, Db.ownsMailbox, h.mailboxes]

theorem Kept.receiving (h : Kept env s s') (hkeyed : s'.MessagesKeyed env)
    (hs : s.Receiving env) : s'.Receiving env := by
  refine ⟨hkeyed, fun m' hm' hmints => ?_⟩
  obtain ⟨m, hm, hid, hmailbox, htenant⟩ | ⟨-, hvisible⟩ := h.known m' hm'
  · exact (Db.messageVisible_congr h.mailboxes hmailbox htenant).trans
      (hs.hidden m hm (hid ▸ hmints))
  · exact hvisible

/-- Messages are updated that keep what they are known by. -/
theorem Kept.updated (target : MessageRow → Bool) (set : MessageRow → MessageRow)
    (hset : ∀ m, (set m).id = m.id ∧ (set m).tenantId = m.tenantId ∧
      (set m).mailboxId = m.mailboxId ∧ (set m).direction = m.direction)
    (hkey : ∀ m ∈ s.messages, target m = true → ∀ mailboxId, s.holds mailboxId m = true →
      ∀ key, m.internetMessageId = some key → (set m).internetMessageId = some key) :
    Kept env s (messageRows.updated s target set).2 where
  mailboxes := rfl
  held mailboxId m hm hheld := by
    refine ⟨if target m then set m else m, List.mem_map_of_mem hm, ?_, ?_, ?_⟩
    · split
      · exact (hset m).1
      · rfl
    · obtain ⟨-, htenant, hmailbox, hdirection⟩ := hset m
      split
      · simp only [Db.holds, Db.messageVisible, htenant, hmailbox, hdirection]
        exact hheld
      · exact hheld
    · split
      · next ht => exact hkey m hm ht mailboxId hheld
      · exact fun _ h => h
  known m' hm' := by
    obtain ⟨m, hm, rfl⟩ := List.mem_map.1 hm'
    refine .inl ⟨m, hm, ?_⟩
    split
    · obtain ⟨hid, htenant, hmailbox, -⟩ := hset m
      exact ⟨hid.symm, hmailbox.symm, htenant.symm⟩
    · exact ⟨rfl, rfl, rfl⟩

/-- Messages are deleted that no mailbox holds. -/
theorem Kept.deleted {doomed : MessageRow → Bool}
    (h : ∀ m ∈ s.messages, doomed m = true → ∀ mailboxId, s.holds mailboxId m = false) :
    Kept env s (messageRows.deleted s doomed).2 where
  mailboxes := rfl
  held mailboxId m hm hheld := by
    refine ⟨m, List.mem_filter.2 ⟨hm, ?_⟩, rfl, hheld, fun _ h => h⟩
    rw [Bool.not_eq_true']
    refine Bool.eq_false_iff.2 fun hd => ?_
    rw [h m hm hd mailboxId] at hheld
    cases hheld
  known m' hm' := .inl ⟨m', List.mem_of_mem_filter hm', rfl, rfl, rfl⟩

/-- A visible message is inserted. -/
theorem Kept.inserted {row : MessageRow} (hmints : env.Mints row.id)
    (hvisible : s.messageVisible row = true) : Kept env s (messageRows.inserted s row) where
  mailboxes := rfl
  held _ m hm hheld := ⟨m, List.mem_append_left _ hm, rfl, hheld, fun _ h => h⟩
  known m' hm' := by
    obtain hm' | hm' := List.mem_append.1 hm'
    · exact .inl ⟨m', hm', rfl, rfl, rfl⟩
    · rw [List.mem_singleton.1 hm']
      exact .inr ⟨hmints, hvisible⟩

theorem Db.keepsKeys_of_keepsIds {l : Label} (h : s.keepsIds env l = true) :
    s.keepsKeys env l = true := by
  unfold Db.keepsKeys
  split
  · refine List.all_eq_true.2 fun m hm => ?_
    have hmay := List.all_eq_true.1 h m hm
    simp only [Db.mayWriteId, Bool.or_eq_true, Bool.and_eq_true] at hmay ⊢
    refine hmay.imp_right fun hmay => ?_
    obtain hsame | ⟨-, hmay⟩ := hmay
    · simp [Db.mayWriteKey, hsame]
    · exact hmay
  · rfl

/-! ### What the programs keep -/

/-- All statements of the program keep what mailboxes hold, where they write no `Message-ID` that
they may not. -/
def OpKept (env : Env) {α : Type} (p : Op α) : Prop :=
  p.Each Draws fun name run => ∀ s, s.keepsIds env (name s) = true → Kept env s (run s)

variable {α β : Type} {ts : List Table}

theorem OpKept.bind {p : Op α} {f : α → Op β} (hp : OpKept env p) (hf : ∀ a, OpKept env (f a)) :
    OpKept env (p >>= f) := Prog.Each.bind hp hf

theorem OpKept.tryCatch {p : Op α} {f : Exn → Op α} (hp : OpKept env p)
    (hf : ∀ e, OpKept env (f e)) : OpKept env (tryCatch p f) := Prog.Each.tryCatch hp hf

theorem OpKept.catchAll {p : Op α} {value : α} (hp : OpKept env p) :
    OpKept env (catchAll p value) := Prog.Each.tryCatch hp fun _ => trivial

theorem kept_of_touches {p : Op α} (hp : Touches ts p) (hmailboxes : Table.mailboxes ∉ ts)
    (hmessages : Table.messages ∉ ts) : OpKept env p :=
  Prog.Each.mono hp (fun _ h => h) fun _ _ hw s _ =>
    .of_messages ((hw s).1 _ hmailboxes).symm ((hw s).1 _ hmessages).symm

theorem kept_reads {p : Op α} (hp : Touches [] p) : OpKept env p :=
  kept_of_touches hp (by simp) (by simp)

theorem kept_updateMessageStatus (messageId : String) (status : MessageStatus) :
    OpKept env (updateMessageStatus messageId status) := by
  refine .bind (Prog.each_perform.2 fun s _ => ?_) fun _ =>
    kept_reads touches_requireStateUpdateApplied
  exact .updated _ _ (fun _ => ⟨rfl, rfl, rfl, rfl⟩) fun _ _ _ _ _ _ h => h

theorem kept_assignMessageThreadId (messageId threadId : String) :
    OpKept env (assignMessageThreadId messageId threadId) := by
  refine .bind (Prog.each_perform.2 fun s _ => ?_) fun _ =>
    kept_reads touches_requireStateUpdateApplied
  exact .updated _ _ (fun _ => ⟨rfl, rfl, rfl, rfl⟩) fun _ _ _ _ _ _ h => h

theorem kept_updateInboundMessageNormalized (input : NormalizedInput) :
    OpKept env (updateInboundMessageNormalized input) := by
  refine .bind (Prog.each_perform.2 fun s hkeeps => ?_) fun _ =>
    kept_reads touches_requireStateUpdateApplied
  refine .updated _ _ (fun _ => ⟨rfl, rfl, rfl, rfl⟩) fun m hm ht mailboxId hheld key hkey => ?_
  simp only [Bool.and_eq_true, beq_iff_eq] at ht
  cases hid : input.internetMessageId with
  | none => simpa [NormalizedInput.set, hid] using hkey
  | some internetMessageId =>
    -- the message has a key, so that what is written is that key
    rw [hid] at hkeeps
    have hmailbox : m.mailboxId = mailboxId := by
      simp only [Db.holds, Bool.and_eq_true, beq_iff_eq] at hheld
      exact hheld.1.1
    have hmay := List.all_eq_true.1 hkeeps m hm
    rw [hmailbox] at hmay
    simp only [ht.1, hheld, Db.mayWriteId, hkey, beq_self_eq_true, Option.isNone_some,
      Bool.and_self, Bool.not_true, Bool.false_and, Bool.or_false, Bool.false_or,
      beq_iff_eq] at hmay
    simpa [NormalizedInput.set, hid] using hmay.symm

/-! ### Ingest -/

theorem kept_threadOfCandidate (selected : ReplyFallbackCandidate) (subjectNorm : String) :
    OpKept env (threadOfCandidate env selected subjectNorm) := by
  rw [threadOfCandidate]
  split
  · trivial
  · refine .bind (kept_of_touches touches_getOrCreateThread (by simp) (by simp)) fun thread =>
      .bind (.tryCatch (kept_assignMessageThreadId _ _) fun _ => ?_) fun _ => trivial
    exact .bind (kept_of_touches (.catchAll touches_deleteThreadIfUnreferenced) (by simp)
      (by simp)) fun _ => trivial

theorem kept_findThreadByReplyContext (tenantId mailboxId : String) (ids : List String)
    (subject participantAddress : Option String) : OpKept env
      (findThreadByReplyContext env tenantId mailboxId ids subject participantAddress) := by
  refine .bind (kept_reads (touches_findThreadAmong _)) fun exactThread => ?_
  cases exactThread with
  | some _ => trivial
  | none =>
    dsimp only
    split
    · trivial
    · split
      · refine .bind (kept_reads (touches_query rfl)) fun rows =>
          .bind (kept_reads (touches_matchingCandidates rows)) fun candidates => ?_
        split
        · trivial
        · exact .bind (kept_threadOfCandidate _ _) fun _ => trivial
      · trivial

theorem kept_threadOfParsed (job : EmailIngestJob) (parsed : ParsedEmail) :
    OpKept env (threadOfParsed env job parsed) := by
  refine .bind (kept_findThreadByReplyContext _ _ _ _ _) fun thread => ?_
  cases thread with
  | some _ => trivial
  | none =>
    refine .bind (kept_reads ?_) fun threadKey =>
      kept_of_touches touches_getOrCreateThread (by simp) (by simp)
    rw [threadKeyOf]
    split
    · trivial
    · exact touches_createId

theorem kept_storeNormalized (job : EmailIngestJob) (parsed : ParsedEmail) (threadId : String) :
    OpKept env (storeNormalized job parsed threadId) :=
  .bind (kept_of_touches touches_r2Put (by simp) (by simp)) fun _ =>
    .tryCatch (kept_updateInboundMessageNormalized _) fun _ =>
    .bind (kept_of_touches touches_discardR2Objects (by simp) (by simp)) fun _ =>
    .bind (kept_of_touches (.catchAll touches_deleteThreadIfUnreferenced) (by simp) (by simp))
      fun _ => trivial

theorem kept_finishIngest (job : EmailIngestJob) (existing : Option MessageRow) :
    OpKept env (finishIngest env job existing) := by
  have hsend : ∀ {target task}, OpKept env (sendTask env existing target task) :=
    kept_of_touches touches_sendTask (by simp) (by simp)
  refine .bind (kept_reads touches_resolveAgentExecutionTarget) fun target =>
    .bind (kept_of_touches touches_taskOfMessage (by simp) (by simp)) fun task => ?_
  dsimp only
  split
  · refine .bind (kept_updateMessageStatus _ _) fun _ => ?_
    split
    · exact hsend
    · trivial
  · split
    · exact hsend
    · trivial

theorem kept_processEmailIngestJob (job : EmailIngestJob) :
    OpKept env (processEmailIngestJob env job) :=
  .bind (kept_reads touches_getMessage) fun _ =>
    .bind (kept_reads touches_loadParsedEmail) fun _ =>
    .bind (kept_threadOfParsed _ _) fun _ =>
    .bind (kept_storeNormalized _ _ _) fun _ =>
    .bind (kept_of_touches touches_updateThreadTimestamp (by simp) (by simp)) fun _ =>
    .bind (kept_of_touches touches_storeAttachments (by simp) (by simp)) fun _ =>
    kept_finishIngest _ _

theorem kept_handleEmailIngest (batch : List EmailIngestJob) :
    OpKept env (handleEmailIngest env batch) := by
  induction batch with
  | nil => trivial
  | cons job rest ih =>
    refine .bind (.tryCatch (.bind (kept_processEmailIngestJob job) fun _ => trivial) fun _ => ?_)
      fun _ => .bind ih fun _ => trivial
    exact .bind (kept_of_touches touches_enqueueDeadLetter (by simp) (by simp)) fun _ => trivial

theorem kept_dispatchEmailIngestWithFallback (job : EmailIngestJob) :
    OpKept env (dispatchEmailIngestWithFallback env job) :=
  .tryCatch (kept_of_touches touches_sendIngestJob (by simp) (by simp)) fun _ =>
    kept_processEmailIngestJob job

theorem kept_dispatchOrFail (source : String) (job : EmailIngestJob) :
    OpKept env (dispatchOrFail env source job) :=
  .tryCatch (kept_dispatchEmailIngestWithFallback job) fun _ =>
    .bind (.bind (.catchAll (kept_updateMessageStatus _ _)) fun _ =>
      kept_of_touches (.catchAll touches_enqueueDeadLetter) (by simp) (by simp)) fun _ => trivial

theorem kept_resumeIfPending (existing : MessageRow) :
    OpKept env (resumeIfPending env existing) := by
  rw [resumeIfPending]
  split
  · exact kept_dispatchOrFail _ _
  · trivial

theorem kept_dispatchLocal (internetMessageId messageId rawR2Key : String)
    (recipient : LocalMailboxRecipient) (created : Bool) : OpKept env
      (dispatchLocal env internetMessageId messageId rawR2Key recipient created) := by
  rw [dispatchLocal]
  split
  · exact kept_dispatchEmailIngestWithFallback _
  · refine .bind (kept_of_touches (.catchAll touches_r2Delete) (by simp) (by simp)) fun _ =>
      .bind (kept_reads touches_getInboundMessageByInternetMessageId) fun existing => ?_
    rw [dispatchIfPending]
    split
    · exact kept_dispatchEmailIngestWithFallback _
    · trivial

end Statements

end MailRuntime
