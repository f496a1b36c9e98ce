import MailRuntime.Handlers.OutboundSend

/-!
# The branches of an attempt

The branches of the consumer are put together from a few kinds of programs. `Covers` says of a
kind of steps that those programs take no others, and so do all branches then, but for the send
itself: one lemma for each branch, whatever the property of steps is.
-/

namespace MailRuntime

open Js Interaction

theorem touches_suppressedAmong {ts : List Table} {env : Env} (recipients : List String) :
    Touches ts (suppressedAmong env recipients) := by
  induction recipients with
  | nil => trivial
  | cons recipient rest ih =>
    exact .bind touches_getSuppression fun _ => .bind ih fun _ => trivial

theorem touches_admitRecipients {ts : List Table} {env : Env} {recipients : Recipients} :
    Touches ts (admitRecipients env recipients) := by
  refine .bind touches_routeOutboundRecipients fun routed =>
    .bind (touches_suppressedAmong _) fun suppressed => ?_
  split
  · trivial
  · split <;> trivial

/-- What the consumer writes on a job: `sent`, `failed`, or `retry` with a count within the
configured maximum. -/
def Written (env : Env) (status : JobStatus) (retryCount : Option Nat) : Prop :=
  status = .sent ∨ status = .failed ∨
    (status = .retry ∧ ∀ n, retryCount = some n → n ≤ env.outboundSendMaxRetries)

/-- The steps of what the consumer is put together from are of these kinds: of programs that leave
the mailboxes, the suppressions and the jobs alone, of what is written on a job, and of the
claim. -/
structure Covers (env : Env) (T : (Db → Db) → Prop) (S : (Db → Label) → (Db → Db) → Prop) :
    Prop where
  other : ∀ {α : Type} {ts : List Table} {p : Op α}, Touches ts p → Table.mailboxes ∉ ts →
    Table.suppressions ∉ ts → Table.outboundJobs ∉ ts → p.Each T S
  writeJob : ∀ {outboundJobId : String} {status : JobStatus} {lastError : Option String}
    {retryCount nextRetryAt : Option Nat}, Written env status retryCount →
    (updateOutboundJobStatus env outboundJobId status lastError retryCount nextRetryAt).Each T S
  claimJob : ∀ {outboundJobId : String}, (claimOutboundJobForSend env outboundJobId).Each T S

namespace Covers

variable {env : Env} {T : (Db → Db) → Prop} {S : (Db → Label) → (Db → Db) → Prop}
  {α : Type} {a : Assigned} {c : SendContext} {recipients : Recipients}

theorem step {p : Op α} (hp : p.Each T S) : (a.step p).Each T S := hp.tryCatch fun _ => trivial

theorem catchAll {p : Op α} {value : α} (hp : p.Each T S) :
    (MailRuntime.catchAll p value).Each T S := hp.tryCatch fun _ => trivial

variable (h : Covers env T S)
include h

/-- A program that writes no table. -/
theorem reads {p : Op α} (hp : Touches [] p) : p.Each T S :=
  h.other hp (by simp) (by simp) (by simp)

theorem updateMessageStatus {messageId : String} {status : MessageStatus} :
    (MailRuntime.updateMessageStatus messageId status).Each T S :=
  h.other touches_updateMessageStatus (by simp) (by simp) (by simp)

theorem markMessageSent {messageId providerMessageId : String} {status : MessageStatus} :
    (MailRuntime.markMessageSent env messageId providerMessageId status).Each T S :=
  h.other touches_markMessageSent (by simp) (by simp) (by simp)

theorem markDraftStatus {draftId : String} {status : DraftStatus} :
    (MailRuntime.markDraftStatus env draftId status).Each T S :=
  h.other touches_markDraftStatus (by simp) (by simp) (by simp)

theorem markDraftStatusIf {draft : Option DraftRow} {status : DraftStatus} :
    (MailRuntime.markDraftStatusIf env draft status).Each T S := by
  cases draft with
  | none => trivial
  | some d => exact h.markDraftStatus

theorem releaseDraft {draft : DraftRow} :
    (MailRuntime.releaseDraft env draft recipients).Each T S :=
  h.other touches_releaseOutboundUsageReservation (by simp) (by simp) (by simp)

theorem enqueueDeadLetter {source refId reason : String} :
    (MailRuntime.enqueueDeadLetter source refId reason).Each T S :=
  h.other touches_enqueueDeadLetter (by simp) (by simp) (by simp)

theorem settleSend : (MailRuntime.settleSend env c recipients).Each T S := by
  refine .tryCatch (.bind ?_ fun _ => trivial) fun _ => .bind h.enqueueDeadLetter fun _ => trivial
  exact h.other touches_settleOutboundUsageDebit (by simp) (by simp) (by simp)

theorem recovering {outboundJobId reason : String} {p : SendOp Unit} {next : SendOp Verdict}
    (hp : p.Each T S) (hnext : next.Each T S) :
    (MailRuntime.recovering outboundJobId reason p next).Each T S := by
  refine .bind (.tryCatch (.bind hp fun _ => trivial) fun _ => trivial) fun failure => ?_
  cases failure with
  | some failure => exact step (.bind h.enqueueDeadLetter fun _ => trivial)
  | none => exact hnext

theorem fields {payload : Json} : (a.step (recordFields payload)).Each T S :=
  step (h.reads touches_recordFields)

theorem loadSend {outboundJobId : String} : (MailRuntime.loadSend outboundJobId).Each T S := by
  refine .bind (step (.bind (h.reads touches_getOutboundJob) fun _ => h.reads touches_requireRow))
    fun job => .bind (step (.bind (h.reads touches_r2Get) fun object => ?_)) fun payload =>
    .bind (step (h.reads touches_getDraftByR2KeyForOutboundLifecycle)) fun draft =>
    .bind (step (.bind (h.reads touches_getMessage) fun _ => .bind (h.reads touches_requireRow)
      fun _ => .bind (h.reads touches_listDeliveryEventsByMessageId) fun _ => trivial))
    fun _ => trivial
  cases object with
  | none => trivial
  | some object => exact h.reads touches_parseJson

theorem resumeSent : (MailRuntime.resumeSent env c).Each T S := by
  refine .bind h.fields fun fields => h.recovering (step ?_) (step h.settleSend)
  rw [completeSent]
  split
  · exact .bind h.updateMessageStatus fun _ => h.markDraftStatusIf
  · exact h.markDraftStatusIf

theorem resumeKnownSent : (MailRuntime.resumeKnownSent env c).Each T S :=
  .bind h.fields fun _ => h.recovering (step (.bind h.updateMessageStatus fun _ =>
    .bind h.markDraftStatusIf fun _ => h.writeJob (.inl rfl))) (step h.settleSend)

theorem recoverFailedDraft : (MailRuntime.recoverFailedDraft env c).Each T S := by
  unfold MailRuntime.recoverFailedDraft
  split
  · trivial
  · exact .bind (step (.bind h.markDraftStatus fun _ => h.reads touches_recordFields))
      fun _ => .bind (step h.releaseDraft) fun _ => trivial

theorem resumeKnownFailed : (MailRuntime.resumeKnownFailed env c).Each T S :=
  h.recovering (.bind (step h.updateMessageStatus) fun _ =>
    .bind h.recoverFailedDraft fun _ => step (h.writeJob (.inr (.inl rfl)))) trivial

theorem failDraft {draft : Option DraftRow} :
    (MailRuntime.failDraft env draft recipients).Each T S := by
  cases draft with
  | none => trivial
  | some d => exact .bind (catchAll h.markDraftStatus) fun _ => catchAll h.releaseDraft

theorem resumeInDoubt : (MailRuntime.resumeInDoubt env c).Each T S := by
  refine .bind (step (h.reads touches_nowIso)) fun now => ?_
  split
  · trivial
  · exact .bind h.fields fun fields => step (.bind (h.writeJob (.inr (.inl rfl))) fun _ =>
      .bind (catchAll h.updateMessageStatus) fun _ => .bind h.failDraft fun _ =>
      .bind h.enqueueDeadLetter fun _ => trivial)

theorem ensureDraftAllowed {draft : Option DraftRow} :
    (MailRuntime.ensureDraftAllowed env draft).Each T S := by
  cases draft with
  | none => trivial
  | some d => exact h.other touches_ensureDraftSendAllowed (by simp) (by simp) (by simp)

theorem persistSent {providerMessageId : String} :
    (MailRuntime.persistSent env c providerMessageId).Each T S :=
  .bind (h.writeJob (.inl rfl)) fun _ => .bind h.markMessageSent fun _ => h.markDraftStatusIf

theorem finishSend {providerMessageId : String} :
    (MailRuntime.finishSend env c recipients providerMessageId).Each T S := by
  refine .bind (.tryCatch (.bind h.persistSent fun _ => trivial) fun _ => trivial) fun failure => ?_
  cases failure with
  | some error => exact .bind h.enqueueDeadLetter fun _ => trivial
  | none => exact h.settleSend

theorem abandonSend : (MailRuntime.abandonSend env a).Each T S := by
  obtain ⟨job, draft, recipients⟩ := a
  cases job with
  | none =>
    cases draft with
    | none => trivial
    | some d => exact .bind (catchAll h.markDraftStatus) fun _ => trivial
  | some o =>
    refine .bind (catchAll h.updateMessageStatus) fun _ => ?_
    cases draft with
    | none => trivial
    | some d => exact .bind (catchAll h.markDraftStatus) fun _ => catchAll h.releaseDraft

theorem failSend {outboundJobId : String} {error : Exn} :
    (MailRuntime.failSend env outboundJobId a error).Each T S := by
  refine .bind (catchAll (h.writeJob ?_)) fun _ => ?_
  · split
    · exact .inr (.inl rfl)
    · next hretry =>
      refine .inr (.inr ⟨rfl, fun n hn => ?_⟩)
      obtain ⟨o, ho, rfl⟩ := Option.map_eq_some_iff.1 hn
      by_contra hmax
      refine hretry ?_
      simp only [Assigned.exhausted, ho, Option.any_some, Bool.or_eq_true, decide_eq_true_eq]
      exact .inr (by omega)
  · have hend : Prog.Each T S (do
        MailRuntime.enqueueDeadLetter "outbound-send" outboundJobId error.message
        pure (if a.exhausted env error then Verdict.ack else .retry)) :=
      .bind h.enqueueDeadLetter fun _ => trivial
    split
    · exact .bind h.abandonSend fun _ => hend
    · exact hend

end Covers

end MailRuntime
