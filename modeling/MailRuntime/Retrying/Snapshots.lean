import MailRuntime.Retrying.Funds
import MailRuntime.Sending.Refusal
import MailRuntime.Storage.Columns

/-!
# What a retry can take back

What a retry reads of the database before it writes, what is to be the same if it fails, and
what is known of the database wherever it fails: any statuses may have been written on its
rows, but the rows are all there and found again, so that the snapshots can be restored.
-/

namespace MailRuntime

open Js Interaction

/-! ### What the trace says -/

section Trace

variable {ι : Type}

/-- Credits are reserved by the statement. -/
def reserving (e : Event ι Label) : Bool :=
  match e.label with
  | .reserveCredits _ _ n => decide (0 < n) && e.outcome.effective
  | _ => false

/-- Credits have been reserved. -/
def reserved (trace : List (Event ι Label)) : Bool := trace.any reserving

/-- A statement has failed after credits had been reserved. -/
def troubled : List (Event ι Label) → Bool
  | [] => false
  | e :: rest => troubled rest || (reserved rest && e.outcome != .done)

theorem reserved_cons (e : Event ι Label) (trace : List (Event ι Label)) :
    reserved (e :: trace) = (reserving e || reserved trace) := rfl

theorem reserved_cons_of_reserved {trace : List (Event ι Label)} (h : reserved trace = true)
    (e : Event ι Label) : reserved (e :: trace) = true := by
  rw [reserved_cons, h, Bool.or_true]

theorem troubled_cons_of_failed {trace : List (Event ι Label)} {e : Event ι Label}
    (h : reserved trace = true) (he : e.outcome ≠ .done) : troubled (e :: trace) = true := by
  rw [troubled, h, Bool.true_and]
  simp [he]

theorem troubled_cons_of_troubled {trace : List (Event ι Label)} (h : troubled trace = true)
    (e : Event ι Label) : troubled (e :: trace) = true := by
  rw [troubled, h, Bool.true_or]

end Trace

/-! ### The condition -/

/-- A reservation does not lose its answer, and the account can be looked at right after it. -/
def ReservationAnswered (w : World Unit Db Label) (l : Label) (o : Outcome) : Prop :=
  match l with
  | .reserveCredits _ _ n => o = .lost → n = 0
  | .read .accounts => w.trace.head?.any reserving = true → o = .done
  | _ => True

instance (w : World Unit Db Label) (l : Label) (o : Outcome) :
    Decidable (ReservationAnswered w l o) := by
  apply Label.casesOn (motive := fun l => Decidable (ReservationAnswered w l o)) l
  case read =>
    intro table
    apply Table.casesOn (motive := fun table =>
      Decidable (ReservationAnswered w (.read table) o)) table
    all_goals
      unfold ReservationAnswered
      infer_instance
  all_goals
    intros
    unfold ReservationAnswered
    infer_instance

/-- After a failure that follows a reservation, nothing fails any more. -/
def Compensates (w : World Unit Db Label) (o : Outcome) : Prop :=
  troubled w.trace = true → o = .done

instance (w : World Unit Db Label) (o : Outcome) : Decidable (Compensates w o) := by
  unfold Compensates
  infer_instance

/-! ### What is to be the same -/

/-- The statuses of `outbound_jobs`; a job is visible by its message. -/
def jobStatuses : StatusColumn OutboundJobRow JobStatus String :=
  ⟨OutboundJobRow.id, OutboundJobRow.status, OutboundJobRow.messageId⟩

/-- The statuses of `messages`; a message is visible by its tenant's mailbox. -/
def messageStatuses : StatusColumn MessageRow MessageStatus (String × String) :=
  ⟨MessageRow.id, MessageRow.status, fun m => (m.tenantId, m.mailboxId)⟩

/-- The statuses of `drafts`; a draft is visible by its tenant's agent and mailbox. -/
def draftStatuses : StatusColumn DraftRow DraftStatus (String × String × String) :=
  ⟨DraftRow.id, DraftRow.status, fun d => (d.tenantId, d.agentId, d.mailboxId)⟩

/-- No job, message or draft has another status and no tenant other credits. -/
structure Db.SameSends (s s' : Db) : Prop where
  jobs : jobStatuses.statuses s'.outboundJobs = jobStatuses.statuses s.outboundJobs
  messages : messageStatuses.statuses s'.messages = messageStatuses.statuses s.messages
  drafts : draftStatuses.statuses s'.drafts = draftStatuses.statuses s.drafts
  available : ∀ tenantId, s'.availableCredits tenantId = s.availableCredits tenantId
  reserved : ∀ tenantId, s'.reservedCredits tenantId = s.reservedCredits tenantId

/-- The primary keys of the tables a retry writes, and no reserved credits below zero. -/
structure Db.SendsKeyed (s : Db) : Prop where
  jobs : (s.outboundJobs.map OutboundJobRow.id).Nodup
  messages : (s.messages.map MessageRow.id).Nodup
  drafts : (s.drafts.map DraftRow.id).Nodup
  accounts : s.AccountsKeyed
  reserved : ∀ tenantId, 0 ≤ s.reservedCredits tenantId

/-- What a retry has read of a database. -/
structure Snapshot (s : Db) (job : OutboundJobRow) (message : MessageRow) (draft : DraftRow) :
    Prop where
  jobMem : job ∈ s.outboundJobs
  jobVisible : s.hasMessage job.messageId = true
  messageMem : message ∈ s.messages
  messageId : message.id = job.messageId
  messageVisible : s.messageVisible message = true
  draftMem : draft ∈ s.drafts
  draftOwned : s.draftOwned draft = true
  draftR2Key : draft.draftR2Key = job.draftR2Key

variable {s s' : Db} {job : OutboundJobRow} {message : MessageRow} {draft : DraftRow}

/-- How far a retry gets: the statuses of its rows may be any, and `held` credits of the
tenant are reserved that were not. -/
structure Astray (s : Db) (job : OutboundJobRow) (message : MessageRow) (draft : DraftRow)
    (held : Int) (s' : Db) : Prop where
  jobs : jobStatuses.SameBut job.id s.outboundJobs s'.outboundJobs
  messages : messageStatuses.SameBut message.id s.messages s'.messages
  drafts : draftStatuses.SameBut draft.id s.drafts s'.drafts
  mailboxes : s'.mailboxes = s.mailboxes
  agents : s'.agents = s.agents
  available : ∀ t, s'.availableCredits t =
    s.availableCredits t - if t = draft.tenantId then held else 0
  reserved : ∀ t, s'.reservedCredits t =
    s.reservedCredits t + if t = draft.tenantId then held else 0

/-! ### The rows are found again -/

namespace Astray

variable {held : Int}

theorem ownsMailbox (h : Astray s job message draft held s') :
    s'.ownsMailbox = s.ownsMailbox := by
  funext tenantId mailboxId
  rw [Db.ownsMailbox, h.mailboxes, Db.ownsMailbox]

theorem ownsAgent (h : Astray s job message draft held s') : s'.ownsAgent = s.ownsAgent := by
  funext tenantId agentId
  rw [Db.ownsAgent, h.agents, Db.ownsAgent]

/-- A message that was there is. -/
theorem hasMessage (h : Astray s job message draft held s') {messageId : String}
    (hmessage : s.hasMessage messageId = true) : s'.hasMessage messageId = true := by
  obtain ⟨m, hm, hvisible⟩ := List.any_eq_true.1 hmessage
  simp only [Bool.and_eq_true, beq_iff_eq] at hvisible
  obtain ⟨hid, hvisible⟩ := hvisible
  obtain ⟨m', hm', hid', hkeys⟩ := h.messages.exists_row hm
  simp only [messageStatuses, Prod.mk.injEq] at hid' hkeys
  refine List.any_eq_true.2 ⟨m', hm', ?_⟩
  rw [Db.messageVisible] at hvisible ⊢
  rw [h.ownsMailbox, hkeys.1, hkeys.2, hvisible, hid', hid]
  simp

variable (hsnap : Snapshot s job message draft) (h : Astray s job message draft held s')

include hsnap h

/-- The job that was read is there to be written. -/
theorem job_target (r : OutboundJobRow) (hid : r.id = job.id) (hkeys : r.messageId = job.messageId) :
    (r.id == job.id && s'.jobVisible r) = true := by
  rw [Db.jobVisible, hkeys, h.hasMessage hsnap.jobVisible, hid]
  simp

theorem message_target (r : MessageRow) (hid : r.id = message.id)
    (hkeys : messageStatuses.keys r = messageStatuses.keys message) :
    (r.id == job.messageId && s'.messageVisible r) = true := by
  have hvisible := hsnap.messageVisible
  simp only [messageStatuses, Prod.mk.injEq] at hkeys
  rw [Db.messageVisible] at hvisible ⊢
  rw [h.ownsMailbox, hkeys.1, hkeys.2, hvisible, hid, hsnap.messageId]
  simp

theorem draft_target (r : DraftRow) (hid : r.id = draft.id)
    (hkeys : draftStatuses.keys r = draftStatuses.keys draft) :
    (r.id == draft.id && s'.draftOwned r) = true := by
  have howned := hsnap.draftOwned
  simp only [draftStatuses, Prod.mk.injEq] at hkeys
  rw [Db.draftOwned] at howned ⊢
  rw [h.ownsMailbox, h.ownsAgent, hkeys.1, hkeys.2.1, hkeys.2.2, howned, hid]
  simp

end Astray

/-! ### The programs that only read -/

section Reads

variable {env : Env}

theorem reads_readDraftRecipients {missing invalid : Exn} {draftR2Key : String} :
    (readDraftRecipients missing invalid draftR2Key).Reads := by
  refine .bind (.bind (reads_query _ _) fun object => ?_) fun payload => ?_
  · cases object with
    | none => trivial
    | some object =>
      refine .bind ?_ fun value => ?_
      · cases object <;> trivial
      · cases value <;> trivial
  · split <;> trivial

/-- What a reader of recipients finds. -/
theorem recipients_of_parse {invalid : Exn} {fields : Fields} {recipients : Recipients}
    (h : (match parseDraftRecipients fields with
      | some recipients => (pure recipients : Op Recipients)
      | none => throw invalid).run s = (.ok recipients, s)) :
    parseDraftRecipients fields = some recipients := by
  rcases hparse : parseDraftRecipients fields with _ | found
  · rw [hparse] at h
    cases h
  · rw [hparse] at h
    cases h
    rfl

theorem recipients_of_run {missing invalid : Exn} {draftR2Key : String} {recipients : Recipients}
    (h : (readDraftRecipients missing invalid draftR2Key).run s = (.ok recipients, s)) :
    (s.payloadFields draftR2Key).bind parseDraftRecipients = some recipients := by
  rw [readDraftRecipients, readDraftPayload] at h
  rw [Db.payloadFields]
  have hget : (r2Get draftR2Key).run s = (.ok (s.object draftR2Key), s) := rfl
  simp only [Prog.run_bind, hget, Prog.andThen_ok] at h
  rcases hobject : s.object draftR2Key with _ | object
  · rw [hobject] at h
    cases h
  · rw [hobject] at h
    cases object with
    | bytes content contentType => cases h
    | json value =>
      cases value with
      | null => cases h
      | obj fields => exact recipients_of_parse h
      | _ => exact recipients_of_parse h

/-- Of the database, the routing of recipients reads the mailboxes only. -/
theorem readsOnly_localMailboxes {τ : Type} {view : Db → τ}
    (hview : ∀ s s', view s = view s' → s.mailboxes = s'.mailboxes) (addresses : List String) :
    (localMailboxes env addresses).ReadsOnly view := by
  induction addresses with
  | nil => trivial
  | cons address rest ih =>
    refine .bind (readsOnly_query fun s s' h => ?_) fun _ => .bind ih fun _ => trivial
    simp only [Db.mailboxByAddress, hview s s' h]

theorem readsOnly_getOutboundCreditRequirement {τ : Type} {view : Db → τ}
    (hview : ∀ s s', view s = view s' → s.mailboxes = s'.mailboxes) {recipients : Recipients}
    {sourceMessageId createdVia : Option String} :
    (getOutboundCreditRequirement env recipients sourceMessageId createdVia).ReadsOnly view :=
  .bind (.bind (readsOnly_localMailboxes hview _) fun _ => trivial) fun _ => trivial

theorem reads_getOutboundCreditRequirement {recipients : Recipients}
    {sourceMessageId createdVia : Option String} :
    (getOutboundCreditRequirement env recipients sourceMessageId createdVia).Reads := by
  have hreads : (getOutboundCreditRequirement env recipients sourceMessageId
      createdVia).ReadsOnly Db.mailboxes := readsOnly_getOutboundCreditRequirement fun _ _ h => h
  exact hreads.reads

theorem run_getOutboundCreditRequirement {recipients : Recipients}
    {sourceMessageId createdVia : Option String} :
    (getOutboundCreditRequirement env recipients sourceMessageId createdVia).run s =
      (.ok (creditRequirement env (s.route env recipients) sourceMessageId createdVia), s) := by
  simp only [getOutboundCreditRequirement, Prog.run_bind, run_routeOutboundRecipients,
    Prog.andThen_ok, Prog.pure_eq, Prog.run_ret]

end Reads

end MailRuntime
