import MailRuntime.Delivery.Tracked

/-!
# The outcome of a send does not depend on the order of its events

A provider reports on a message any number of times, in any order. The webhook decides the
outcome anew from all events recorded of the message, so what is written last is decided by
the set of the events: delivered if one of them is a delivery, failed otherwise. An event
whose payload has a row in the table already gets no other one. Where that row is not one of
the message, the delivery it reports is forgotten with the next event.

## What is proved

`Recorded` is the invariant between the events processed so far and the table of events. A
webhook call keeps it and writes the outcome that it determines (`receives_step`);
`outcome_of_events_iff` is the run, with the exact condition on the table of events before it.
-/

namespace MailRuntime

open Js Interaction

/-- The message that an event resolves to. -/
def Db.sesMessage (s : Db) (event : SesEvent) : Option MessageRow :=
  let providerMessage := (event.providerMessageId.filter truthy).bind fun id =>
    only (s.messagesOfProvider id)
  let taggedMessage := ((event.mailTags.lookup "message_id").filter truthy).bind s.message
  providerMessage <|> taggedMessage

/-- The events are processed one at a time, each to completion, and each resolves to the
message. -/
inductive Receives (env : Env) (provided : Option String) (messageId : String) :
    List Fields → Db → Db → Prop
  | nil (s : Db) : Receives env provided messageId [] s s
  | cons {body : Fields} {rest : List Fields} {s s₁ s' : Db} {eventType : DeliveryEventType}
      {providerMessageId : Option String}
      (resolves : (s.sesMessage (normalizeSesEvent env body)).map MessageRow.id = some messageId)
      (accepted : (sesWebhook env provided body).run s =
        (.ok (.accepted eventType providerMessageId), s₁))
      (following : Receives env provided messageId rest s₁ s') :
      Receives env provided messageId (body :: rest) s s'

/-- The type of the event in a body. -/
def bodyType (env : Env) (body : Fields) : DeliveryEventType :=
  (normalizeSesEvent env body).eventType

/-- One of the bodies is a delivery. -/
def someDelivery (env : Env) (bodies : List Fields) : Prop :=
  ∃ b ∈ bodies, bodyType env b = .delivery

instance (env : Env) (bodies : List Fields) : Decidable (someDelivery env bodies) :=
  inferInstanceAs (Decidable (∃ b ∈ bodies, bodyType env b = .delivery))

/-- No two of the bodies are stored under one key. -/
def KeysDiffer (env : Env) (bodies : List Fields) : Prop :=
  ∀ b ∈ bodies, ∀ b' ∈ bodies, buildSesPayloadR2Key env b = buildSesPayloadR2Key env b' → b = b'

/-- One of the bodies is a delivery that gets a row of its own: no visible row with its payload
is in the table of events. -/
def leavesEvidence (env : Env) (s : Db) (bodies : List Fields) : Prop :=
  ∃ b ∈ bodies, bodyType env b = .delivery ∧
    s.hasDeliveryEvent (buildSesPayloadR2Key env b) = false

instance (env : Env) (s : Db) (bodies : List Fields) : Decidable (leavesEvidence env s bodies) :=
  inferInstanceAs (Decidable (∃ b ∈ bodies, bodyType env b = .delivery ∧
    s.hasDeliveryEvent (buildSesPayloadR2Key env b) = false))

/-- The event is recorded under the message, with the type and the key of the body. -/
def DeliveryEventRow.Records (env : Env) (messageId : String) (e : DeliveryEventRow)
    (body : Fields) : Prop :=
  e.messageId = some messageId ∧ e.eventType = bodyType env body ∧
    e.payloadR2Key = buildSesPayloadR2Key env body

/-- What the table of events says after the bodies in `done`, of those in `all`, were
processed, where it was the one of `s₀` before. -/
structure Recorded (env : Env) (messageId : String) (all : List Fields) (s₀ : Db)
    (done : List Fields) (s : Db) : Prop where
  among : done ⊆ all
  visible : s.hasMessage = s₀.hasMessage
  before : s₀.deliveryEvents ⊆ s.deliveryEvents
  added : ∀ e ∈ s.deliveryEvents, e ∈ s₀.deliveryEvents ∨
    ∃ b ∈ done, e.Records env messageId b ∧
      s₀.hasDeliveryEvent (buildSesPayloadR2Key env b) = false
  stored : ∀ b ∈ done, s₀.hasDeliveryEvent (buildSesPayloadR2Key env b) = false →
    ∃ e ∈ s.deliveryEvents, e.Records env messageId b

variable {env : Env} {messageId : String} {all done : List Fields} {s₀ s s' : Db}
  {m : MessageRow} {j : OutboundJobRow} {d : DraftRow}

theorem Recorded.congr (h : Recorded env messageId all s₀ done s)
    (he : s.deliveryEvents = s'.deliveryEvents) (hm : s'.hasMessage = s.hasMessage) :
    Recorded env messageId all s₀ done s' := by
  obtain ⟨hamong, hvisible, hbefore, hadded, hstored⟩ := h
  rw [he] at hbefore hadded hstored
  exact ⟨hamong, hm.trans hvisible, hbefore, hadded, hstored⟩

theorem Tracked.hasMessage (h : Tracked s messageId m j d) : s.hasMessage messageId = true := by
  have hmem := List.mem_of_find?_eq_some h.message
  have hm := h.message_id
  unfold Db.hasMessage
  rw [List.any_eq_true]
  exact ⟨m, hmem, by simpa using hm⟩

/-! ### Which messages are visible -/

theorem hasMessage_of_same (hmessages : s.messages = s'.messages)
    (hmailboxes : s.mailboxes = s'.mailboxes) : s'.hasMessage = s.hasMessage := by
  funext id
  simp only [Db.hasMessage, Db.messageVisible, Db.ownsMailbox, hmessages, hmailboxes]

/-- A program that touches neither messages nor mailboxes. -/
theorem Touches.hasMessage {α : Type} {ts : List Table} {p : Op α} {r : Except Exn α}
    (hp : Touches ts p) (hts : ∀ t ∈ [Table.messages, .mailboxes], t ∉ ts)
    (hrun : p.run s = (r, s')) : s'.hasMessage = s.hasMessage :=
  hasMessage_of_same (hp.same_of_run hrun (t := .messages) (hts _ (by decide)))
    (hp.same_of_run hrun (t := .mailboxes) (hts _ (by decide)))

theorem hasMessage_updateMessageStatus (id : String) (status : MessageStatus) :
    ((updateMessageStatus id status).run s).2.hasMessage = s.hasMessage := by
  rw [run_updateMessageStatus]
  funext messageId
  exact (keeps_updateMessage s _ _ fun _ => by exact ⟨rfl, rfl, rfl⟩).hasMessage messageId

theorem run_updateProviderAcceptance (id pid : String) (set : MessageRow → MessageRow) (s : Db) :
    ((updateProviderAcceptance id pid set).run s).2 =
      (messageRows.updated s (fun r => r.id == id && s.messageVisible r &&
        (s.providerMessageIdConflict pid r.id).isNone) set).2 := by
  simp only [updateProviderAcceptance, Rows.update, Rows.updateAs, execute, Prog.run_bind,
    Prog.run_perform, Prog.andThen_ok]
  split
  · simp only [query, Prog.run_bind, Prog.run_perform, Prog.andThen_ok]
    split
    · rfl
    · exact run_requireStateUpdateApplied _ _ _
  · rfl

theorem hasMessage_updateProviderAcceptance (id pid : String) {set : MessageRow → MessageRow}
    (hset : ∀ r, (set r).id = r.id ∧ (set r).tenantId = r.tenantId ∧
      (set r).mailboxId = r.mailboxId) (s : Db) :
    ((updateProviderAcceptance id pid set).run s).2.hasMessage = s.hasMessage := by
  rw [run_updateProviderAcceptance]
  exact funext (keeps_updateMessage s _ _ hset).hasMessage

theorem hasMessage_backfillSesMessage (event : SesEvent) (message : Option MessageRow) (s : Db) :
    ((backfillSesMessage env event message).run s).2.hasMessage = s.hasMessage := by
  unfold backfillSesMessage
  split
  · split
    · rename_i m providerMessageId _ _
      exact hasMessage_updateProviderAcceptance m.id providerMessageId
        (fun _ => by exact ⟨rfl, rfl, rfl⟩) { s with draws := s.draws + 1 }
    · rfl
  · rfl

/-! ### Recording an event -/

theorem run_insertEvent (mid pid : Option String) (eventType : DeliveryEventType)
    (payloadR2Key : String) (s : Db) :
    (insertEvent env mid pid eventType payloadR2Key).run s =
      if s.hasDeliveryEvent payloadR2Key then (.ok 0, { s with draws := s.draws + 1 + 1 })
      else if s.deliveryEvents.any fun e => e.id == env.createId "evt" s.draws then
        (.error Exn.unique, { s with draws := s.draws + 1 + 1 })
      else (.ok 1, deliveryEventRows.inserted { s with draws := s.draws + 1 + 1 }
        ⟨env.createId "evt" s.draws, mid, "ses", pid, eventType, payloadR2Key,
          env.clock (s.draws + 1)⟩) := by
  simp only [insertEvent, createId, nowIso, Rows.insertWhere, Rows.insertWhereAs, Prog.run_bind,
    Prog.run_draw, Prog.run_perform, Prog.andThen_ok]
  have hvisible : Db.hasDeliveryEvent { s with draws := s.draws + 1 + 1 } payloadR2Key =
      s.hasDeliveryEvent payloadR2Key := rfl
  simp only [hvisible, Bool.not_eq_eq_eq_not, Bool.not_true]
  cases hhas : s.hasDeliveryEvent payloadR2Key
  · cases hid : s.deliveryEvents.any fun e => e.id == env.createId "evt" s.draws
    · simp
    · simp
  · simp

theorem hasDeliveryEvent_iff (payloadR2Key : String) :
    s.hasDeliveryEvent payloadR2Key = true ↔
      ∃ e ∈ s.deliveryEvents, e.payloadR2Key = payloadR2Key ∧ s.deliveryEventVisible e = true := by
  simp [Db.hasDeliveryEvent]

theorem Recorded.eventVisible (h : Recorded env messageId all s₀ done s) (e : DeliveryEventRow) :
    s.deliveryEventVisible e = s₀.deliveryEventVisible e := by
  unfold Db.deliveryEventVisible
  rw [h.visible]

/-- A payload that had a visible row before has it still. -/
theorem Recorded.unrecorded (h : Recorded env messageId all s₀ done s) {payloadR2Key : String}
    (hnone : s.hasDeliveryEvent payloadR2Key = false) :
    s₀.hasDeliveryEvent payloadR2Key = false := by
  rw [Bool.eq_false_iff] at hnone ⊢
  intro hhas
  obtain ⟨e, he, hkey, hvisible⟩ := (hasDeliveryEvent_iff _).1 hhas
  exact hnone ((hasDeliveryEvent_iff _).2
    ⟨e, h.before he, hkey, (h.eventVisible e).trans hvisible⟩)

/-- One body more, whose payload has a visible row: it had one before, or the body was
processed already. -/
theorem Recorded.again (h : Recorded env messageId all s₀ done s) (hkeys : KeysDiffer env all)
    {b : Fields} (hb : b ∈ all)
    (hhas : s.hasDeliveryEvent (buildSesPayloadR2Key env b) = true) :
    Recorded env messageId all s₀ (b :: done) s where
  among := List.cons_subset.2 ⟨hb, h.among⟩
  visible := h.visible
  before := h.before
  added e he := (h.added e he).imp_right fun ⟨b', hb', hrecords⟩ =>
    ⟨b', List.mem_cons_of_mem _ hb', hrecords⟩
  stored b' hb' hnone := by
    rcases List.mem_cons.1 hb' with rfl | hb'
    · obtain ⟨e, he, hkey, hvisible⟩ := (hasDeliveryEvent_iff _).1 hhas
      rcases h.added e he with hbefore | ⟨b', hdone, hrecords, -⟩
      · rw [Bool.eq_false_iff] at hnone
        exact absurd ((hasDeliveryEvent_iff _).2
          ⟨e, hbefore, hkey, (h.eventVisible e).symm.trans hvisible⟩) hnone
      · have hsame := hkeys _ hb b' (h.among hdone) (hkey.symm.trans hrecords.2.2)
        rw [← hsame] at hdone
        exact h.stored _ hdone hnone
    · exact h.stored b' hb' hnone

/-- One body more, whose row was inserted. -/
theorem Recorded.inserted (h : Recorded env messageId all s₀ done s) {b : Fields} (hb : b ∈ all)
    (hnone : s.hasDeliveryEvent (buildSesPayloadR2Key env b) = false) {e : DeliveryEventRow}
    (hrecords : e.Records env messageId b) {n : Nat} :
    Recorded env messageId all s₀ (b :: done)
      (deliveryEventRows.inserted { s with draws := n } e) where
  among := List.cons_subset.2 ⟨hb, h.among⟩
  visible := h.visible
  before _ he := List.mem_append_left _ (h.before he)
  added e' he' := by
    rcases List.mem_append.1 he' with he' | he'
    · exact (h.added e' he').imp_right fun ⟨b', hb', hrecords'⟩ =>
        ⟨b', List.mem_cons_of_mem _ hb', hrecords'⟩
    · obtain rfl := List.mem_singleton.1 he'
      exact .inr ⟨b, List.mem_cons_self, hrecords, h.unrecorded hnone⟩
  stored b' hb' hnone' := by
    rcases List.mem_cons.1 hb' with rfl | hb'
    · exact ⟨e, List.mem_append_right _ (List.mem_singleton.2 rfl), hrecords⟩
    · obtain ⟨e', he', hrecords'⟩ := h.stored b' hb' hnone'
      exact ⟨e', List.mem_append_left _ he', hrecords'⟩

theorem Recorded.insert (h : Recorded env messageId all s₀ done s) (hkeys : KeysDiffer env all)
    {b : Fields} (hb : b ∈ all) {pid : Option String} {new : Bool}
    (hrun : (insertDeliveryEvent env (some messageId) pid (bodyType env b)
      (buildSesPayloadR2Key env b)).run s = (.ok new, s')) :
    Recorded env messageId all s₀ (b :: done) s' := by
  simp only [insertDeliveryEvent, Prog.run_bind, run_insertEvent] at hrun
  by_cases hhas : s.hasDeliveryEvent (buildSesPayloadR2Key env b) = true
  · have hknown : (hasVisibleDeliveryEventForPayloadR2Key (buildSesPayloadR2Key env b)).run
        { s with draws := s.draws + 1 + 1 } =
          (.ok true, { s with draws := s.draws + 1 + 1 }) := by
      rw [← hhas]
      rfl
    simp only [hhas, if_true, Prog.andThen_ok, Prog.run_bind, hknown] at hrun
    obtain ⟨-, rfl⟩ := Prod.mk.inj hrun
    exact (h.again hkeys hb hhas).congr rfl rfl
  · by_cases hid : (s.deliveryEvents.any fun e => e.id == env.createId "evt" s.draws) = true
    · rw [if_neg hhas, if_pos hid, Prog.andThen_error] at hrun
      cases hrun
    · rw [if_neg hhas, if_neg hid, Prog.andThen_ok, if_neg Nat.one_ne_zero] at hrun
      obtain ⟨-, rfl⟩ := Prod.mk.inj hrun
      exact h.inserted hb (Bool.eq_false_iff.2 hhas) ⟨rfl, rfl, rfl⟩

/-- A delivery is among the events of the message exactly if one got a row of its own. -/
theorem Recorded.delivered_iff (h : Recorded env messageId all s₀ done s)
    (hnone : ∀ e ∈ s₀.deliveryEvents, e.messageId ≠ some messageId)
    (hvisible : s.hasMessage messageId = true) :
    ((s.deliveryEventsOf messageId).any fun e => e.eventType == .delivery) = true ↔
      leavesEvidence env s₀ done := by
  rw [List.any_eq_true]
  constructor
  · rintro ⟨e, he, ht⟩
    obtain ⟨he, hm⟩ := List.mem_filter.1 he
    simp only [Bool.and_eq_true, beq_iff_eq] at hm ht
    rcases h.added e he with hbefore | ⟨b, hb, hrecords, hunrecorded⟩
    · exact absurd hm.1 (hnone e hbefore)
    · exact ⟨b, hb, hrecords.2.1.symm.trans ht, hunrecorded⟩
  · rintro ⟨b, hb, ht, hunrecorded⟩
    obtain ⟨e, he, hm, het, -⟩ := h.stored b hb hunrecorded
    refine ⟨e, List.mem_filter.2 ⟨he, ?_⟩, ?_⟩
    · simpa [hm] using hvisible
    · simp [het, ht]

theorem Recorded.recordSesEvent (h : Recorded env messageId all s₀ done s)
    (hkeys : KeysDiffer env all) {b : Fields} (hb : b ∈ all) {row : MessageRow}
    (hrow : row.id = messageId)
    (hrun : (recordSesEvent env b (normalizeSesEvent env b) (some row)).run s = (.ok (), s')) :
    Recorded env messageId all s₀ (b :: done) s' := by
  obtain ⟨_, s₁, hput, hrun⟩ := Prog.run_bind_ok hrun
  have h₁ := h.congr (touches_r2Put.same_of_run hput (t := .deliveryEvents) (by decide))
    (touches_r2Put.hasMessage (by decide) hput)
  rw [Prog.tryCatch_eq, Prog.run_tryCatch, Option.map_some, hrow] at hrun
  rcases hinsert : (insertDeliveryEvent env (some messageId)
    (normalizeSesEvent env b).providerMessageId (normalizeSesEvent env b).eventType
    (buildSesPayloadR2Key env b)).run s₁ with ⟨e | new, s₂⟩
  · rw [Prog.run_bind, hinsert, Prog.andThen_error, Prog.orElse_error] at hrun
    obtain ⟨-, s₃, -, hthrow⟩ := Prog.run_bind_ok hrun
    cases hthrow
  · rw [Prog.run_bind, hinsert, Prog.andThen_ok] at hrun
    obtain ⟨-, rfl⟩ := Prod.mk.inj hrun
    exact h₁.insert hkeys hb hinsert

theorem touches_recordSesEvent {body : Fields} {event : SesEvent} {message : Option MessageRow} :
    Touches [.objects, .deliveryEvents] (recordSesEvent env body event message) :=
  .bind (touches_r2Put.mono (by simp)) fun _ =>
    .tryCatch (.bind (touches_insertDeliveryEvent.mono (by simp)) fun _ => trivial) fun _ =>
      .bind (touches_discardObject.mono (by simp)) fun _ => trivial

/-! ### The rest of the webhook -/

theorem run_providerMessageOf (event : SesEvent) (s : Db) :
    (providerMessageOf event).run s =
      (.ok ((event.providerMessageId.filter truthy).bind fun id =>
        only (s.messagesOfProvider id)), s) := by
  unfold providerMessageOf
  cases event.providerMessageId.filter truthy <;> rfl

theorem run_taggedMessageOf (event : SesEvent) (providerMessage : Option MessageRow) (s : Db) :
    ∃ tagged, (taggedMessageOf event providerMessage).run s = (.ok tagged, s) ∧
      (providerMessage <|> tagged) = (providerMessage <|>
        ((event.mailTags.lookup "message_id").filter truthy).bind s.message) := by
  unfold taggedMessageOf
  cases providerMessage with
  | some row =>
    refine ⟨none, ?_, rfl⟩
    split <;> simp_all
  | none =>
    cases h : (event.mailTags.lookup "message_id").filter truthy with
    | none => exact ⟨none, rfl, rfl⟩
    | some id => exact ⟨s.message id, rfl, rfl⟩

theorem touches_backfillSesMessage {event : SesEvent} {message : Option MessageRow} :
    Touches [.messages] (backfillSesMessage env event message) := by
  unfold backfillSesMessage
  split
  · split
    · exact touches_backfillMessageProviderAcceptance
    · trivial
  · trivial

theorem Tracked.updateProviderAcceptance (h : Tracked s messageId m j d) (id pid : String)
    {set : MessageRow → MessageRow}
    (hset : ∀ r, (set r).id = r.id ∧ (set r).tenantId = r.tenantId ∧
      (set r).mailboxId = r.mailboxId) :
    ∃ m', Tracked ((updateProviderAcceptance id pid set).run s).2 messageId m' j d := by
  have hstate : ((MailRuntime.updateProviderAcceptance id pid set).run s).2 =
      (messageRows.updated s (fun r => r.id == id && s.messageVisible r &&
        (s.providerMessageIdConflict pid r.id).isNone) set).2 := by
    simp only [MailRuntime.updateProviderAcceptance, Rows.update, Rows.updateAs, execute,
      Prog.run_bind, Prog.run_perform, Prog.andThen_ok]
    split
    · simp only [query, Prog.run_bind, Prog.run_perform, Prog.andThen_ok]
      split
      · rfl
      · exact run_requireStateUpdateApplied _ _ _
    · rfl
  rw [hstate]
  exact ⟨_, h.updateMessage _ _ hset⟩

theorem Tracked.backfillSesMessage (h : Tracked s messageId m j d) (env : Env) (event : SesEvent)
    (message : Option MessageRow) :
    ∃ m', Tracked ((backfillSesMessage env event message).run s).2 messageId m' j d := by
  unfold MailRuntime.backfillSesMessage
  split
  · split
    · exact (h.drawn (s.draws + 1)).updateProviderAcceptance _ _ fun _ => ⟨rfl, rfl, rfl⟩
    · exact ⟨m, h⟩
  · exact ⟨m, h⟩

theorem touches_settleSesOutcome {job : OutboundJobRow} {draft : Option DraftRow}
    {treatAsDelivered : Bool} :
    Touches [.accounts, .ledger] (settleSesOutcome env job draft treatAsDelivered) := by
  cases draft with
  | none => trivial
  | some draft =>
    refine .bind touches_readDraftRecipients fun recipients => ?_
    split
    · exact touches_settleOutboundUsageDebit
    · split
      · exact touches_releaseOutboundUsageReservation.mono (by simp)
      · trivial

theorem touches_markDraftStatusIf {draft : Option DraftRow} {status : DraftStatus} :
    Touches [.drafts] (markDraftStatusIf env draft status) := by
  cases draft with
  | none => trivial
  | some draft => exact touches_markDraftStatus

theorem touches_writeSesOutcome {event : SesEvent} {message : MessageRow} {job : OutboundJobRow}
    {draft : Option DraftRow} {treatAsDelivered : Bool} :
    Touches [.messages, .outboundJobs, .drafts]
      (writeSesOutcome env event message job draft treatAsDelivered) := by
  unfold writeSesOutcome
  split
  · exact .bind (touches_updateMessageStatus.mono (by simp)) fun _ =>
      .bind (touches_updateOutboundJobStatus.mono (by simp)) fun _ =>
        touches_markDraftStatusIf.mono (by simp)
  · exact .bind (touches_updateMessageStatus.mono (by simp)) fun _ =>
      .bind (touches_updateOutboundJobStatus.mono (by simp)) fun _ =>
        touches_markDraftStatusIf.mono (by simp)

theorem touches_addSuppressions {reason : String} (recipients : List String) :
    Touches [.suppressions] (addSuppressions env reason recipients) := by
  induction recipients with
  | nil => trivial
  | cons recipient rest ih => exact .bind touches_addSuppression fun _ => ih

theorem touches_suppressSesRecipients {event : SesEvent} :
    Touches [.suppressions] (suppressSesRecipients env event) := by
  unfold suppressSesRecipients
  split
  · exact touches_addSuppressions _
  · trivial

/-! ### One event -/

/-- The message, its job and its draft agree on the outcome. -/
def Decided (s : Db) (messageId : String) (delivered : Prop) : Prop :=
  ∃ m j d, Tracked s messageId m j d ∧
    (delivered → m.status = .replied ∧ j.status = .sent ∧ d.status = .sent) ∧
    (¬delivered → m.status = .failed ∧ j.status = .failed ∧ d.status = .failed)

/-- The three writes, of the same outcome. -/
theorem Tracked.writeSesOutcome (h : Tracked s messageId m j d) (event : SesEvent)
    {row : MessageRow} (hrow : row.id = messageId) (treatAsDelivered : Bool)
    (hrun : (writeSesOutcome env event row j (some d) treatAsDelivered).run s = (.ok (), s')) :
    Decided s' messageId (treatAsDelivered = true) := by
  subst hrow
  unfold MailRuntime.writeSesOutcome at hrun
  cases treatAsDelivered with
  | true =>
    rw [if_pos rfl] at hrun
    obtain ⟨_, s₁, h₁, hrun⟩ := Prog.run_bind_ok hrun
    obtain ⟨_, s₂, h₂, h₃⟩ := Prog.run_bind_ok hrun
    have hmessage := h.updateMessageStatus .replied
    rw [h₁] at hmessage
    obtain ⟨j', hj', hjob⟩ := hmessage.updateOutboundJobStatus env .sent none
    rw [h₂] at hjob
    obtain ⟨d', hd', hdraft⟩ := hjob.markDraftStatus env .sent
    change (MailRuntime.markDraftStatus env d.id .sent).run s₂ = _ at h₃
    rw [h₃] at hdraft
    exact ⟨_, j', d', hdraft, fun _ => ⟨rfl, hj', hd'⟩, fun hn => absurd rfl hn⟩
  | false =>
    rw [if_neg Bool.false_ne_true] at hrun
    obtain ⟨_, s₁, h₁, hrun⟩ := Prog.run_bind_ok hrun
    obtain ⟨_, s₂, h₂, h₃⟩ := Prog.run_bind_ok hrun
    have hmessage := h.updateMessageStatus .failed
    rw [h₁] at hmessage
    obtain ⟨j', hj', hjob⟩ := hmessage.updateOutboundJobStatus env .failed (some event.error)
    rw [h₂] at hjob
    obtain ⟨d', hd', hdraft⟩ := hjob.markDraftStatus env .failed
    change (MailRuntime.markDraftStatus env d.id .failed).run s₂ = _ at h₃
    rw [h₃] at hdraft
    exact ⟨_, j', d', hdraft, fun ht => absurd ht Bool.false_ne_true, fun _ => ⟨rfl, hj', hd'⟩⟩

theorem hasMessage_updateMessageStatus_bind {id : String} {status : MessageStatus} {p : Op Unit}
    (hp : Touches [.outboundJobs, .drafts] p)
    (hrun : (updateMessageStatus id status >>= fun _ => p).run s = (.ok (), s')) :
    s'.hasMessage = s.hasMessage := by
  obtain ⟨_, s₁, h₁, hrun⟩ := Prog.run_bind_ok hrun
  have hfirst := hasMessage_updateMessageStatus (s := s) id status
  rw [h₁] at hfirst
  exact (hp.hasMessage (by decide) hrun).trans hfirst

/-- The writes leave the same messages visible. -/
theorem hasMessage_writeSesOutcome {event : SesEvent} {row : MessageRow}
    {draft : Option DraftRow} {treatAsDelivered : Bool}
    (hrun : (writeSesOutcome env event row j draft treatAsDelivered).run s = (.ok (), s')) :
    s'.hasMessage = s.hasMessage := by
  have hrest : ∀ status lastError draftStatus, Touches [.outboundJobs, .drafts]
      (do
        updateOutboundJobStatus env j.id status lastError
        markDraftStatusIf env draft draftStatus) := fun _ _ _ =>
    .bind (touches_updateOutboundJobStatus.mono (by simp)) fun _ =>
      touches_markDraftStatusIf.mono (by simp)
  unfold writeSesOutcome at hrun
  split at hrun
  · exact hasMessage_updateMessageStatus_bind (hrest _ _ _) hrun
  · exact hasMessage_updateMessageStatus_bind (hrest _ _ _) hrun

/-- What the job, the message and the draft are told is decided by the event and by those
recorded. -/
theorem Tracked.decideSesOutcome (h : Tracked s messageId m j d)
    (hrec : Recorded env messageId all s₀ done s)
    (hnone : ∀ e ∈ s₀.deliveryEvents, e.messageId ≠ some messageId) {event : SesEvent}
    {row : MessageRow} (hrow : row.id = messageId)
    (hrun : (decideSesOutcome env event row j).run s = (.ok (), s')) :
    Recorded env messageId all s₀ done s' ∧
      Decided s' messageId (event.eventType = .delivery ∨ leavesEvidence env s₀ done) := by
  obtain ⟨draft, s₁, h₁, hrun⟩ := Prog.run_bind_ok hrun
  have hdraft : (getDraftByR2KeyForOutboundLifecycle j.draftR2Key).run s = (.ok (some d), s) := by
    simp [getDraftByR2KeyForOutboundLifecycle, query, h.draft, only]
  rw [hdraft] at h₁
  obtain ⟨hd, rfl⟩ := Prod.mk.inj h₁
  obtain rfl := Except.ok.inj hd
  obtain ⟨events, s₁, h₁, hrun⟩ := Prog.run_bind_ok hrun
  obtain ⟨he, rfl⟩ := Prod.mk.inj h₁
  obtain rfl := Except.ok.inj he
  obtain ⟨_, s₁, hsettle, hwrite⟩ := Prog.run_bind_ok hrun
  have hiff : (event.eventType == .delivery ||
      (s.deliveryEventsOf row.id).any fun e => e.eventType == .delivery) = true ↔
        (event.eventType = .delivery ∨ leavesEvidence env s₀ done) := by
    rw [hrow, Bool.or_eq_true, hrec.delivered_iff hnone h.hasMessage, beq_iff_eq]
  have htracked := h.of_run touches_settleSesOutcome (by decide) hsettle
  have hrec₁ := hrec.congr
    (touches_settleSesOutcome.same_of_run hsettle (t := .deliveryEvents) (by decide))
    (touches_settleSesOutcome.hasMessage (by decide) hsettle)
  refine ⟨hrec₁.congr
    (touches_writeSesOutcome.same_of_run hwrite (t := .deliveryEvents) (by decide))
    (hasMessage_writeSesOutcome hwrite), ?_⟩
  rw [← hiff]
  exact htracked.writeSesOutcome event hrow _ hwrite

/-- A call of the webhook for an event that resolves to the message. -/
theorem Tracked.receiveSesEvent (h : Tracked s messageId m j d)
    (hrec : Recorded env messageId all s₀ done s)
    (hnone : ∀ e ∈ s₀.deliveryEvents, e.messageId ≠ some messageId)
    (hkeys : KeysDiffer env all) {b : Fields} (hb : b ∈ all)
    (hterminal : isTerminal (bodyType env b) = true)
    (hresolves : (s.sesMessage (normalizeSesEvent env b)).map MessageRow.id = some messageId)
    {eventType : DeliveryEventType} {pid : Option String}
    (hrun : (receiveSesEvent env b).run s = (.ok (.accepted eventType pid), s')) :
    Recorded env messageId all s₀ (b :: done) s' ∧
      Decided s' messageId (bodyType env b = .delivery ∨ leavesEvidence env s₀ (b :: done)) := by
  unfold MailRuntime.receiveSesEvent at hrun
  obtain ⟨providerMessage, s₁, h₁, hrun⟩ := Prog.run_bind_ok hrun
  rw [run_providerMessageOf] at h₁
  obtain ⟨hprovider, rfl⟩ := Prod.mk.inj h₁
  obtain rfl := Except.ok.inj hprovider
  obtain ⟨taggedMessage, s₁, h₁, hrun⟩ := Prog.run_bind_ok hrun
  obtain ⟨tagged, htagged, hmessage⟩ := run_taggedMessageOf (normalizeSesEvent env b)
    (((normalizeSesEvent env b).providerMessageId.filter truthy).bind fun id =>
      only (s.messagesOfProvider id)) s
  rw [htagged] at h₁
  obtain ⟨ht, rfl⟩ := Prod.mk.inj h₁
  obtain rfl := Except.ok.inj ht
  -- the message found is the one the event resolves to
  obtain ⟨row, hfound, hrow⟩ := Option.map_eq_some_iff.1 hresolves
  rw [Db.sesMessage, ← hmessage] at hfound
  split at hrun
  · cases hrun
  · rw [hfound] at hrun
    obtain ⟨_, s₁, hrecord, hrun⟩ := Prog.run_bind_ok hrun
    obtain ⟨_, s₂, hbackfill, hrun⟩ := Prog.run_bind_ok hrun
    obtain ⟨_, s₃, happly, hrun⟩ := Prog.run_bind_ok hrun
    obtain ⟨_, s₄, hsuppress, hrun⟩ := Prog.run_bind_ok hrun
    obtain ⟨-, rfl⟩ := Prod.mk.inj hrun
    have hrec₁ := hrec.recordSesEvent hkeys hb hrow hrecord
    have h₁ := h.of_run touches_recordSesEvent (by decide) hrecord
    have hvisible := @hasMessage_backfillSesMessage env (normalizeSesEvent env b) (some row) s₁
    obtain ⟨m₂, h₂⟩ := h₁.backfillSesMessage env (normalizeSesEvent env b) (some row)
    rw [hbackfill] at h₂ hvisible
    have hrec₂ := hrec₁.congr
      (touches_backfillSesMessage.same_of_run hbackfill (t := .deliveryEvents) (by decide)) hvisible
    have hjob : (getOutboundJobByMessageId row.id).run s₂ = (.ok (some j), s₂) := by
      simp [getOutboundJobByMessageId, query, hrow, h₂.job, only]
    unfold applySesEvent at happly
    rw [if_pos (show isTerminal (normalizeSesEvent env b).eventType = true from hterminal)]
      at happly
    simp only [Prog.run_bind, hjob, Prog.andThen_ok] at happly
    obtain ⟨hrec₃, m', j', d', htracked, hstatuses⟩ := h₂.decideSesOutcome hrec₂ hnone hrow happly
    exact ⟨hrec₃.congr
        (touches_suppressSesRecipients.same_of_run hsuppress (t := .deliveryEvents) (by decide))
        (touches_suppressSesRecipients.hasMessage (by decide) hsuppress),
      m', j', d', htracked.of_run touches_suppressSesRecipients (by decide) hsuppress, hstatuses⟩

/-! ### Any number of events -/

theorem receives_step {provided : Option String} (h : Tracked s messageId m j d)
    (hrec : Recorded env messageId all s₀ done s)
    (hnone : ∀ e ∈ s₀.deliveryEvents, e.messageId ≠ some messageId)
    (hkeys : KeysDiffer env all) {b : Fields} (hb : b ∈ all)
    (hterminal : isTerminal (bodyType env b) = true)
    (hresolves : (s.sesMessage (normalizeSesEvent env b)).map MessageRow.id = some messageId)
    {eventType : DeliveryEventType} {pid : Option String}
    (hrun : (sesWebhook env provided b).run s = (.ok (.accepted eventType pid), s')) :
    Recorded env messageId all s₀ (b :: done) s' ∧
      Decided s' messageId (bodyType env b = .delivery ∨ leavesEvidence env s₀ (b :: done)) := by
  unfold sesWebhook at hrun
  split at hrun
  · cases hrun
  · split at hrun
    · exact h.receiveSesEvent hrec hnone hkeys hb hterminal hresolves hrun
    · cases hrun

theorem Receives.decided {provided : Option String} {bodies : List Fields}
    (hreceives : Receives env provided messageId bodies s s') (hne : bodies ≠ [])
    (hnone : ∀ e ∈ s₀.deliveryEvents, e.messageId ≠ some messageId)
    (hkeys : KeysDiffer env all) (hmem : ∀ b ∈ bodies, b ∈ all)
    (hterminal : ∀ b ∈ bodies, isTerminal (bodyType env b) = true)
    (h : Tracked s messageId m j d) (hrec : Recorded env messageId all s₀ done s) :
    Decided s' messageId (bodyType env (bodies.getLast hne) = .delivery ∨
      leavesEvidence env s₀ (bodies ++ done)) := by
  induction hreceives generalizing m j d done with
  | nil => exact absurd rfl hne
  | @cons body rest s s₁ s' _ _ hresolves hrun hrest ih =>
    obtain ⟨hrec₁, hdecided⟩ := receives_step h hrec hnone hkeys (hmem body List.mem_cons_self)
      (hterminal body List.mem_cons_self) hresolves hrun
    by_cases hnil : rest = []
    · subst hnil
      cases hrest
      exact hdecided
    · obtain ⟨m₁, j₁, d₁, htracked, -⟩ := hdecided
      have hend := ih hnil (fun b hb => hmem b (List.mem_cons_of_mem _ hb))
        (fun b hb => hterminal b (List.mem_cons_of_mem _ hb)) htracked hrec₁
      have hiff : leavesEvidence env s₀ (rest ++ body :: done) ↔
          leavesEvidence env s₀ (body :: rest ++ done) := by
        unfold leavesEvidence
        simp only [List.perm_middle.mem_iff, List.cons_append]
      rw [← hiff, List.getLast_cons hnil]
      exact hend

/-- **The outcome and the order of events**: after any non-empty sequence of terminal events
that resolve to a message, its job, the message and its draft agree, on `sent`, `replied` and
`sent` or on `failed`; and they are delivered exactly if a delivery was among the events, for
those sequences with a delivery that end in one, or have one whose payload had no row in the
table of events before. No event of the message was in it. -/
theorem outcome_of_events_iff (env : Env) (provided : Option String) (messageId : String)
    (bodies : List Fields) (s s' : Db) (m : MessageRow) (j : OutboundJobRow) (d : DraftRow)
    (htracked : Tracked s messageId m j d)
    (hnone : ∀ e ∈ s.deliveryEvents, e.messageId ≠ some messageId)
    (hne : bodies ≠ []) (hterminal : ∀ b ∈ bodies, isTerminal (bodyType env b) = true)
    (hkeys : KeysDiffer env bodies) (hreceives : Receives env provided messageId bodies s s') :
    ∃ m' j' d', Tracked s' messageId m' j' d' ∧
      ((j'.status, m'.status, d'.status) = (.sent, .replied, .sent) ∨
        (j'.status, m'.status, d'.status) = (.failed, .failed, .failed)) ∧
      ((j'.status, m'.status, d'.status) =
          (if someDelivery env bodies then (.sent, .replied, .sent)
            else (.failed, .failed, .failed)) ↔
        (someDelivery env bodies → bodyType env (bodies.getLast hne) = .delivery ∨
          leavesEvidence env s bodies)) := by
  have hrec : Recorded env messageId bodies s [] s :=
    ⟨List.nil_subset _, rfl, List.Subset.refl _, fun _ he => .inl he,
      fun b hb => absurd hb List.not_mem_nil⟩
  obtain ⟨m', j', d', ht, hdelivered, hfailed⟩ :=
    hreceives.decided hne hnone hkeys (fun _ hb => hb) hterminal htracked hrec
  rw [List.append_nil] at hdelivered hfailed
  refine ⟨m', j', d', ht, ?_⟩
  by_cases hend : bodyType env (bodies.getLast hne) = .delivery ∨ leavesEvidence env s bodies
  · obtain ⟨hm, hj, hd⟩ := hdelivered hend
    have hsome : someDelivery env bodies := hend.elim
      (fun hlast => ⟨_, List.getLast_mem hne, hlast⟩) fun ⟨b, hb, htype, _⟩ => ⟨b, hb, htype⟩
    rw [if_pos hsome, hm, hj, hd]
    exact ⟨.inl rfl, fun _ _ => hend, fun _ => rfl⟩
  · obtain ⟨hm, hj, hd⟩ := hfailed hend
    rw [hm, hj, hd]
    refine ⟨.inr rfl, fun hstatus hsome => ?_, fun hcondition => ?_⟩
    · rw [if_pos hsome] at hstatus
      cases hstatus
    · rw [if_neg fun hsome => hend (hcondition hsome)]

/-- An environment that knows the webhook's secret and whose JSON texts tell objects apart. -/
def webhookEnv : Env :=
  { Env.bare with
    WEBHOOK_SHARED_SECRET := some "k"
    stringify := fun v => join "," ((fieldsOf (some v)).map fun (key, v) => key ++ toText v) }

/-- A message that was sent, with its job and its draft. -/
def sentDb : Db where
  mailboxes := [⟨"mbx", "t", "a@b", "active"⟩]
  agents := [⟨"a", "t", .active, none⟩]
  messages := [⟨"msg", "t", "mbx", none, .outbound, .ses, none, some "p", "a@b", "c@d", none, none,
    .replied, none, none, none, some 0, 0⟩]
  outboundJobs := [⟨"obj", "msg", none, .sent, "", 0, none, none, "drafts/d.json", 0, 0⟩]
  drafts := [⟨"d", "t", "a", "mbx", none, none, none, .sent, "drafts/d.json", 0, 0⟩]
  objects := [("drafts/d.json", .json (.obj [("to", .arr [.str "c@d"])]))]

/-- An event of that message. -/
def sampleEvent (eventType : String) : Fields :=
  [("eventType", .str eventType), ("mail", .obj [("messageId", .str "p")])]

theorem keysDiffer_sample :
    KeysDiffer webhookEnv [sampleEvent "delivery", sampleEvent "bounce"] := by
  intro b hb b' hb' hkey
  simp only [List.mem_cons, List.not_mem_nil, or_false] at hb hb'
  rcases hb with rfl | rfl <;> rcases hb' with rfl | rfl <;>
    first | rfl | exact absurd hkey (by decide +kernel)

/-- A bounce, a delivery and the bounce again. -/
theorem outcome_of_events_sentDb :
    ∃ s' m' j' d', Receives webhookEnv (some "k") "msg"
        [sampleEvent "bounce", sampleEvent "delivery", sampleEvent "bounce"] sentDb s' ∧
      Tracked s' "msg" m' j' d' ∧
      (j'.status, m'.status, d'.status) = (.sent, .replied, .sent) := by
  have hreceives : Receives webhookEnv (some "k") "msg"
      [sampleEvent "bounce", sampleEvent "delivery", sampleEvent "bounce"] sentDb _ :=
    .cons (by decide +kernel) (Prod.ext rfl rfl) (.cons (by decide +kernel) (Prod.ext rfl rfl)
      (.cons (by decide +kernel) (Prod.ext rfl rfl) (.nil _)))
  have hmem : ∀ b ∈ [sampleEvent "bounce", sampleEvent "delivery", sampleEvent "bounce"],
      b ∈ [sampleEvent "delivery", sampleEvent "bounce"] := by
    simp
  obtain ⟨m', j', d', htracked, -, hiff⟩ := outcome_of_events_iff webhookEnv (some "k") "msg"
    [sampleEvent "bounce", sampleEvent "delivery", sampleEvent "bounce"] sentDb _ _ _ _
    ⟨rfl, rfl, rfl⟩ (fun e he => by cases he) (List.cons_ne_nil _ _) (by decide +kernel)
    (fun b hb b' hb' => keysDiffer_sample b (hmem b hb) b' (hmem b' hb')) hreceives
  exact ⟨_, m', j', d', hreceives, htracked,
    hiff.2 fun _ => .inr ⟨sampleEvent "delivery", by simp, rfl, rfl⟩⟩

/-- The message after the delivery was reported once before, when no message was found for it. -/
def earlierDb : Db :=
  { sentDb with
    deliveryEvents := [⟨"evt", none, "ses", some "p", .delivery,
      buildSesPayloadR2Key webhookEnv (sampleEvent "delivery"), 0⟩] }

/-- The delivery reported again gets no row, so that the bounce after it finds no delivery of
the message and overwrites `sent`. -/
theorem bounce_after_delivery_fails :
    ∃ s' m' j' d', Receives webhookEnv (some "k") "msg"
        [sampleEvent "delivery", sampleEvent "bounce"] earlierDb s' ∧
      (∀ e ∈ earlierDb.deliveryEvents, e.messageId ≠ some "msg") ∧
      (∀ b ∈ [sampleEvent "delivery", sampleEvent "bounce"],
        isTerminal (bodyType webhookEnv b) = true) ∧
      KeysDiffer webhookEnv [sampleEvent "delivery", sampleEvent "bounce"] ∧
      someDelivery webhookEnv [sampleEvent "delivery", sampleEvent "bounce"] ∧
      Tracked s' "msg" m' j' d' ∧
      (j'.status, m'.status, d'.status) = (.failed, .failed, .failed) := by
  have hreceives : Receives webhookEnv (some "k") "msg"
      [sampleEvent "delivery", sampleEvent "bounce"] earlierDb _ :=
    .cons (by decide +kernel) (Prod.ext rfl rfl) (.cons (by decide +kernel) (Prod.ext rfl rfl)
      (.nil _))
  exact ⟨_, _, _, _, hreceives, by simp [earlierDb], by decide +kernel, keysDiffer_sample,
    by decide +kernel, ⟨rfl, rfl, rfl⟩, rfl⟩

end MailRuntime
