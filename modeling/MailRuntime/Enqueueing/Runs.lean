import MailRuntime.Enqueueing.Calls
import MailRuntime.Routes.Sends

/-!
# Runs of calls on drafts

Any number of requests create drafts, send them with and without idempotency keys, cancel and
delete them, and any statement of any of them may fail.
-/

namespace MailRuntime

open Js Interaction

/-- A call on a draft. -/
inductive DraftCall where
  | create (input : DraftInput)
  | enqueue (draftId : String)
  | send (claims : Auth.AccessTokenClaims) (draftId : String) (idempotencyKey : Option String)
  | createAndSend (input : SendInput)
  | cancel (claims : Auth.AccessTokenClaims) (draftId : String)
  | delete (draftId : String)

/-- What a call returns. -/
inductive CallAnswer where
  | done
  | enqueued (outboundJobId : String)
  | routed (answer : RouteAnswer)
  | sent (response : Json)

/-- The call's program. -/
def DraftCall.program (env : Env) (isoText : Nat → String) : DraftCall → Op CallAnswer
  | create input => (fun _ => .done) <$> createDraft env input
  | enqueue draftId => .enqueued <$> enqueueDraftSend env draftId
  | send claims draftId idempotencyKey => .routed <$> sendDraft env claims draftId idempotencyKey
  | createAndSend input => .sent <$> createAndSendDraft env isoText input
  | cancel claims draftId => .routed <$> cancelDraft env claims draftId
  | delete draftId => (fun _ => .done) <$> deleteDraftIfUnqueued draftId

section

variable {ι : Type} {envs : ι → Env} {w : World ι Db Label} {i : ι} {α β : Type}
  {R : β → World ι Db Label → Prop} {draft : DraftRow} {isoText : Nat → String}
  {claims : Auth.AccessTokenClaims} {slot : IdempotencySlot}

/-! ### Sequences -/

/-- What follows a program that leaves jobs alone, in a call that has inserted none. -/
theorem safe_unqueued_bind {p : Op α} {f : α → Op β} (hseparate : Separate envs) (hp : OpApart p)
    (hw : OneJob envs w) (h : Unqueued (envs i) w)
    (hf : ∀ a w', OneJob envs w' → Unqueued (envs i) w' →
      (enqueueing envs).Safe i R (fun _ _ => True) (f a) w') :
    (enqueueing envs).Safe i R (fun _ _ => True) (p >>= f) w :=
  Protocol.Safe.bind hw (safe_apart hseparate ofJobs_unqueued hp hw h) hf fun _ _ _ _ => trivial

/-- What an exception is answered with leaves jobs alone. -/
theorem safe_tryCatch_apart {p : Op α} {f : Exn → Op α} (hseparate : Separate envs)
    (hw : OneJob envs w) (hf : ∀ e, OpApart (f e))
    (h : (enqueueing envs).Safe i (fun _ _ => True) (fun _ _ => True) p w) :
    (enqueueing envs).Safe i (fun _ _ => True) (fun _ _ => True) (tryCatch p f) w :=
  Protocol.Safe.tryCatch hw h fun e _ hw _ => safe_apart_true hseparate (hf e) hw

/-- What comes last leaves jobs alone. -/
theorem safe_bind_apart {p : Op α} {f : α → Op β} (hseparate : Separate envs)
    (hw : OneJob envs w) (hf : ∀ a, OpApart (f a))
    (h : (enqueueing envs).Safe i (fun _ _ => True) (fun _ _ => True) p w) :
    (enqueueing envs).Safe i (fun _ _ => True) (fun _ _ => True) (p >>= f) w :=
  Protocol.Safe.bind hw h (fun a _ hw _ => safe_apart_true hseparate (hf a) hw) fun _ _ _ h => h

theorem apart_ret (a : α) : OpApart (Prog.ret a : Op α) := trivial

theorem apart_keys {p : Op α} (hp : Touches [.idempotencyKeys] p) : OpApart p :=
  apart_of_touches hp (by simp)

theorem apart_checks {p : Op α} (hp : Touches [.sendPolicies, .accounts] p) : OpApart p :=
  apart_of_touches hp (by simp)

theorem safe_enqueue {draftId : String} (hseparate : Separate envs) (hw : OneJob envs w)
    (h : Unqueued (envs i) w) : (enqueueing envs).Safe i (fun _ _ => True) (fun _ _ => True)
      (enqueueDraftSend (envs i) draftId) w :=
  Protocol.Safe.mono hw (safe_enqueueDraftSend hseparate hw h) (fun _ _ _ _ => trivial)
    fun _ _ _ h => h

/-! ### Sends of a draft -/

theorem apart_recordDraftSend {env : Env} {draftId outboundJobId : String} :
    OpApart (recordDraftSend env slot draftId outboundJobId) :=
  .bind (apart_keys touches_updateIdempotencyKeyResource) fun _ =>
    .bind (apart_keys touches_completeIdempotencyKey) fun _ => trivial

theorem safe_sendReserved (hseparate : Separate envs) (hw : OneJob envs w)
    (h : Unqueued (envs i) w) : (enqueueing envs).Safe i (fun _ _ => True) (fun _ _ => True)
      (sendReserved (envs i) claims slot draft) w := by
  refine safe_bind_apart hseparate hw (fun _ => .tryCatch apart_recordDraftSend fun _ => trivial) ?_
  refine safe_tryCatch_apart hseparate hw
    (fun _ => .bind (apart_keys touches_releaseIdempotencyKey) fun _ => trivial) ?_
  exact safe_unqueued_bind hseparate (apart_checks touches_validateReplayableDraftSend) hw h
    fun _ w hw h => safe_enqueue hseparate hw h

theorem apart_replayPendingSend {env : Env} {record : IdempotencyRow} :
    OpApart (replayPendingSend env claims slot draft record) := by
  unfold replayPendingSend
  split
  · trivial
  · exact .bind (apart_checks touches_validateReplayableDraftSend) fun _ =>
      .bind (apart_reads touches_restoreEnqueuedDraftSend) fun _ =>
        .bind (.catchAll (apart_keys touches_completeIdempotencyKey)) fun _ => trivial

theorem apart_storedResponse {record : IdempotencyRow} {otherwise : Op Fields}
    (h : OpApart otherwise) : OpApart (storedResponse record otherwise) := by
  unfold storedResponse
  split
  · exact h
  · exact h
  · trivial

theorem safe_sendWithKey {idempotencyKey : String} (hseparate : Separate envs)
    (hw : OneJob envs w) (h : Unqueued (envs i) w) :
    (enqueueing envs).Safe i (fun _ _ => True) (fun _ _ => True)
      (sendWithKey (envs i) claims idempotencyKey draft) w := by
  refine safe_unqueued_bind hseparate (apart_keys touches_reserveIdempotencyKey) hw h ?_
  intro reservation w hw h
  cases reservation with
  | conflict _ => trivial
  | pending record => exact safe_apart_true hseparate apart_replayPendingSend hw
  | completed record =>
    exact safe_apart_true hseparate (.bind (apart_checks touches_validateReplayableDraftSend)
      fun _ => .bind (apart_storedResponse (apart_reads touches_restoreEnqueuedDraftSend))
        fun _ => trivial) hw
  | reserved =>
    dsimp only
    split
    · exact safe_sendReserved hseparate hw h
    · exact safe_apart_true hseparate (.bind (apart_keys touches_releaseIdempotencyKey)
        fun _ => trivial) hw

theorem safe_sendAccessible {idempotencyKey : Option String} (hseparate : Separate envs)
    (hw : OneJob envs w) (h : Unqueued (envs i) w) :
    (enqueueing envs).Safe i (fun _ _ => True) (fun _ _ => True)
      (sendAccessible (envs i) claims idempotencyKey draft) w := by
  refine safe_unqueued_bind hseparate (apart_reads touches_validateDraftAgentBinding) hw h ?_
  intro _ w hw h
  split
  · unfold sendWithoutKey
    split
    · refine safe_unqueued_bind hseparate (apart_checks touches_validateUnkeyedDraftSend) hw h ?_
      exact fun _ w hw h => safe_bind_apart hseparate hw (fun _ => apart_ret _)
        (safe_enqueue hseparate hw h)
    · trivial
  · split
    · exact safe_sendWithKey hseparate hw h
    · trivial

theorem safe_sendDraft {draftId : String} {idempotencyKey : Option String}
    (hseparate : Separate envs) (hw : OneJob envs w) (h : Unqueued (envs i) w) :
    (enqueueing envs).Safe i (fun _ _ => True) (fun _ _ => True)
      (sendDraft (envs i) claims draftId idempotencyKey) w := by
  refine safe_unqueued_bind hseparate (apart_reads touches_getDraft) hw h ?_
  intro found w hw h
  cases found with
  | none => trivial
  | some draft =>
    dsimp only
    split
    · trivial
    · exact safe_sendAccessible hseparate hw h

theorem apart_cancelDraft {env : Env} {draftId : String} :
    OpApart (cancelDraft env claims draftId) := by
  refine .bind (apart_reads touches_getDraft) fun found => ?_
  cases found with
  | none => trivial
  | some draft =>
    dsimp only
    split
    · trivial
    · refine .bind (apart_reads touches_validateDraftAgentBinding) fun _ => ?_
      split
      · trivial
      · split
        · trivial
        · exact .bind apart_markDraftStatus fun _ => trivial

/-! ### Drafts that are created and sent -/

theorem safe_resumeDraftSend (hseparate : Separate envs) (hw : OneJob envs w)
    (h : Unqueued (envs i) w) : (enqueueing envs).Safe i (fun _ _ => True) (fun _ _ => True)
      (resumeDraftSend (envs i) draft) w := by
  refine safe_unqueued_bind hseparate (apart_reads touches_ensure) hw h fun _ w hw h => ?_
  refine safe_bind_apart hseparate hw (fun jobId => ?_) (safe_enqueue hseparate hw h)
  refine .bind (apart_reads touches_getDraft) fun resumed => ?_
  cases resumed with
  | none => trivial
  | some _ =>
    refine .bind (apart_reads touches_getOutboundJob) fun job => ?_
    cases job <;> trivial

theorem safe_restoreDraftSendReplay {draftId : Option String} (hseparate : Separate envs)
    (hw : OneJob envs w) (h : Unqueued (envs i) w) :
    (enqueueing envs).Safe i (fun _ _ => True) (fun _ _ => True)
      (restoreDraftSendReplay (envs i) draftId) w := by
  unfold restoreDraftSendReplay
  split
  · trivial
  · refine safe_unqueued_bind hseparate (apart_reads touches_getDraft) hw h ?_
    intro found w hw h
    cases found with
    | none => trivial
    | some stored =>
      refine safe_bind_apart hseparate hw (fun _ => .bind (apart_reads touches_getMessage)
        fun message => by cases message <;> trivial) ?_
      refine safe_unqueued_bind hseparate (apart_reads touches_getOutboundJobByDraftR2Key) hw h ?_
      intro job w hw h
      cases job with
      | some _ => trivial
      | none => exact safe_resumeDraftSend hseparate hw h

theorem safe_sendCreated (hseparate : Separate envs) (hw : OneJob envs w)
    (h : Unqueued (envs i) w) : (enqueueing envs).Safe i (fun _ _ => True) (fun _ _ => True)
      (sendCreated (envs i) isoText draft) w :=
  safe_bind_apart hseparate hw (fun _ => apart_ret _) (safe_enqueue hseparate hw h)

theorem safe_createAndSendReserved {input : SendInput} (hseparate : Separate envs)
    (hw : OneJob envs w) (h : Unqueued (envs i) w) :
    (enqueueing envs).Safe i (fun _ _ => True) (fun _ _ => True)
      (createAndSendReserved (envs i) isoText slot input) w := by
  refine safe_unqueued_bind hseparate (.tryCatch (.bind
    (apart_checks touches_validateCreateAndSendInput) fun _ => apart_createDraft) fun _ =>
      .bind (apart_keys touches_releaseIdempotencyKey) fun _ => trivial) hw h ?_
  intro draft w hw h
  refine safe_tryCatch_apart hseparate hw (fun _ => trivial) ?_
  refine safe_unqueued_bind hseparate (apart_keys touches_updateIdempotencyKeyResource) hw h ?_
  exact fun _ w hw h => safe_bind_apart hseparate hw (fun _ =>
    .bind (apart_keys touches_completeIdempotencyKey) fun _ => trivial)
      (safe_sendCreated hseparate hw h)

theorem safe_replayPending {input : SendInput} {record : IdempotencyRow}
    (hseparate : Separate envs) (hw : OneJob envs w) (h : Unqueued (envs i) w) :
    (enqueueing envs).Safe i (fun _ _ => True) (fun _ _ => True)
      (replayPending (envs i) isoText slot input record) w := by
  unfold replayPending
  split
  · trivial
  · refine safe_unqueued_bind hseparate (apart_checks touches_validateCreateAndSendInput) hw h ?_
    exact fun _ w hw h => safe_bind_apart hseparate hw (fun _ => .bind (.catchAll
      (apart_keys touches_completeIdempotencyKey)) fun _ => trivial)
        (safe_restoreDraftSendReplay hseparate hw h)

theorem safe_replayCompleted {input : SendInput} {record : IdempotencyRow}
    (hseparate : Separate envs) (hw : OneJob envs w) (h : Unqueued (envs i) w) :
    (enqueueing envs).Safe i (fun _ _ => True) (fun _ _ => True)
      (replayCompleted (envs i) isoText input record) w := by
  refine safe_unqueued_bind hseparate (apart_checks touches_validateCreateAndSendInput) hw h ?_
  intro _ w hw h
  split
  · trivial
  · exact safe_bind_apart hseparate hw (fun _ => apart_ret _)
      (safe_restoreDraftSendReplay hseparate hw h)

theorem safe_createAndSendDraft {input : SendInput} (hseparate : Separate envs)
    (hw : OneJob envs w) (h : Unqueued (envs i) w) :
    (enqueueing envs).Safe i (fun _ _ => True) (fun _ _ => True)
      (createAndSendDraft (envs i) isoText input) w := by
  unfold createAndSendDraft
  split
  · refine safe_unqueued_bind hseparate (apart_checks touches_validateCreateAndSendInput) hw h ?_
    intro _ w hw h
    refine safe_unqueued_bind hseparate apart_createDraft hw h fun draft w hw h => ?_
    exact safe_tryCatch_apart hseparate hw (fun _ => trivial) (safe_sendCreated hseparate hw h)
  · split
    · refine safe_unqueued_bind hseparate (apart_keys touches_reserveIdempotencyKey) hw h ?_
      intro reservation w hw h
      cases reservation with
      | conflict _ => trivial
      | pending record => exact safe_replayPending hseparate hw h
      | completed record => exact safe_replayCompleted hseparate hw h
      | reserved => exact safe_createAndSendReserved hseparate hw h
    · trivial

/-! ### Deletions -/

theorem apart_deleteUnqueuedDraft {draftId : String} : OpApart (deleteUnqueuedDraft draftId) :=
  Prog.each_perform.2 fun _ => ⟨rfl, apart_deletedDrafts _⟩

theorem safe_deleteUnqueued {draftId draftR2Key : String} (hseparate : Separate envs)
    (hw : OneJob envs w) : (enqueueing envs).Safe i (fun _ _ => True) (fun _ _ => True)
      (deleteUnqueued draftId draftR2Key) w := by
  refine Protocol.Safe.bind hw (safe_tryCatch_apart hseparate hw (fun _ => apart_ret _)
    (safe_deleteInvalidJobs hseparate hw)) ?_ fun _ _ _ h => h
  intro _ w hw _
  refine safe_bind_apart hseparate hw (fun changes => ?_) ?_
  · split
    · trivial
    · exact .bind (.catchAll (apart_of_touches touches_r2Delete (by simp))) fun _ => trivial
  · refine safe_after_apart hseparate apart_deleteUnqueuedDraft hw fun first w hw => ?_
    split
    · refine safe_after_apart hseparate (apart_reads touches_getOutboundJobByDraftR2Key) hw ?_
      intro job w hw
      cases job with
      | some _ => trivial
      | none =>
        refine safe_bind_apart hseparate hw (fun deleted => ?_)
          (safe_deleteInvalidJobs hseparate hw)
        split
        · trivial
        · exact apart_deleteUnqueuedDraft
    · trivial

theorem safe_deleteDraftIfUnqueued {draftId : String} (hseparate : Separate envs)
    (hw : OneJob envs w) : (enqueueing envs).Safe i (fun _ _ => True) (fun _ _ => True)
      (deleteDraftIfUnqueued draftId) w := by
  refine safe_after_apart hseparate (apart_reads touches_getDraft) hw fun visible w hw => ?_
  cases visible with
  | some _ => exact safe_deleteUnqueued hseparate hw
  | none =>
    refine safe_after_apart hseparate (apart_reads draftRows.touches_first) hw ?_
    intro fallback w hw
    cases fallback with
    | some _ => exact safe_deleteUnqueued hseparate hw
    | none => trivial

/-! ### Runs -/

/-- What a call on a draft that has returned knows. -/
def DraftCall.Returned (env : Env) (call : DraftCall) (answer : CallAnswer)
    (w : World ι Db Label) : Prop :=
  ∀ draftId jobId, call = .enqueue draftId → answer = .enqueued jobId →
    Enqueued env draftId jobId w

theorem safe_draftCall {call : DraftCall} (hseparate : Separate envs) (hw : OneJob envs w)
    (h : Unqueued (envs i) w) :
    (enqueueing envs).Safe i (call.Returned (envs i)) (fun _ _ => True)
      (call.program (envs i) isoText) w := by
  have hother : ∀ {α : Type} {p : Op α} {f : α → CallAnswer},
      (∀ draftId, call ≠ .enqueue draftId) →
      (enqueueing envs).Safe i (fun _ _ => True) (fun _ _ => True) p w →
      (enqueueing envs).Safe i (call.Returned (envs i)) (fun _ _ => True) (f <$> p) w :=
    fun hne hp => Protocol.Safe.map hw (Protocol.Safe.mono hw hp
      (fun _ _ _ _ draftId _ hcall => absurd hcall (hne draftId)) fun _ _ _ h => h)
  cases call with
  | create input => exact hother nofun (safe_apart_true hseparate apart_createDraft hw)
  | enqueue draftId =>
    refine Protocol.Safe.map hw (Protocol.Safe.mono hw (safe_enqueueDraftSend hseparate hw h) ?_
      fun _ _ _ h => h)
    intro jobId w _ hin draftId' jobId' hcall hanswer
    obtain rfl := DraftCall.enqueue.inj hcall
    obtain rfl := CallAnswer.enqueued.inj hanswer
    exact hin
  | send claims draftId key => exact hother nofun (safe_sendDraft hseparate hw h)
  | createAndSend input => exact hother nofun (safe_createAndSendDraft hseparate hw h)
  | cancel claims draftId => exact hother nofun (safe_apart_true hseparate apart_cancelDraft hw)
  | delete draftId => exact hother nofun (safe_deleteDraftIfUnqueued hseparate hw)

/-- The store before any of the calls: drafts have their own keys and at most one visible job
each, and no identifier is there that a call will draw. -/
structure Db.Unsent (envs : ι → Env) (s : Db) : Prop where
  ids : (s.outboundJobs.map OutboundJobRow.id).Nodup
  one : s.OneVisible
  keyed : s.DraftsKeyed
  unused : ∀ o ∈ s.outboundJobs, ∀ i, ¬ (envs i).Mints o.id ∧ ¬ (envs i).Mints o.messageId

/-- The calls, about to start. -/
def draftCalls (envs : ι → Env) (isoText : Nat → String) (calls : ι → DraftCall) (s : Db) :
    Config ι Db Label Exn CallAnswer :=
  ⟨⟨s, []⟩, fun i => (calls i).program (envs i) isoText⟩

theorem Db.Unsent.oneJob {s : Db} (h : s.Unsent envs) :
    OneJob envs (⟨s, []⟩ : World ι Db Label) where
  ids := h.ids
  one := h.one
  keyed := h.keyed
  used o ho := .inl fun i => (h.unused o ho i).1
  paired o ho i := iff_of_false (h.unused o ho i).1 (h.unused o ho i).2

theorem unqueued_start {s : Db} {env : Env} : Unqueued env (⟨s, []⟩ : World ι Db Label) :=
  fun _ _ ⟨_, hmem, _⟩ => absurd hmem List.not_mem_nil

/-- At most one visible job of a draft, as a list. -/
theorem OneJob.jobsOfDraft (h : OneJob envs w) (draftR2Key : String) :
    (w.store.jobsOfDraft draftR2Key).length ≤ 1 := by
  have hnodup : (w.store.jobsOfDraft draftR2Key).Nodup := (h.ids.of_map _).filter _
  have hsame : ∀ o ∈ w.store.jobsOfDraft draftR2Key, ∀ p ∈ w.store.jobsOfDraft draftR2Key,
      o = p := by
    intro o ho p hp
    simp only [Db.jobsOfDraft, List.mem_filter, Bool.and_eq_true, beq_iff_eq] at ho hp
    exact h.one o ho.1 p hp.1 ho.2.2 hp.2.2 (ho.2.1.trans hp.2.1.symm)
  cases hjobs : w.store.jobsOfDraft draftR2Key with
  | nil => exact Nat.zero_le 1
  | cons o rest =>
    cases rest with
    | nil => exact le_rfl
    | cons p rest =>
      rw [hjobs] at hnodup hsame
      have heq : o = p := hsame o (by simp) p (by simp)
      exact absurd (heq ▸ List.mem_cons_self) (List.nodup_cons.1 hnodup).1

variable [DecidableEq ι]

/-- **One visible job for a draft**, at every moment of every run, wherever statements fail; and
what `enqueueDraftSend` has returned is the draft's one job, which no other call on the draft has
returned. -/
theorem enqueued_once (hseparate : Separate envs) (isoText : Nat → String) (calls : ι → DraftCall)
    {s : Db} (hs : s.Unsent envs) (schedule : List (ι × Outcome)) :
    (∀ draftR2Key, (((draftCalls envs isoText calls s).exec schedule).world.store.jobsOfDraft
      draftR2Key).length ≤ 1) ∧
    ∀ i draftId jobId, calls i = .enqueue draftId →
      ((draftCalls envs isoText calls s).exec schedule).threads i = .ret (.enqueued jobId) →
        (∃ o, ((draftCalls envs isoText calls s).exec schedule).world.store.jobsOfDraft
          (draftR2KeyOf draftId) = [o] ∧ o.id = jobId) ∧
        ∀ k jobId', calls k = .enqueue draftId →
          ((draftCalls envs isoText calls s).exec schedule).threads k = .ret (.enqueued jobId') →
            k = i := by
  have hholds : ∀ i, (enqueueing envs).Holds i ((calls i).Returned (envs i)) (fun _ _ => True)
      ((draftCalls envs isoText calls s).threads i) (draftCalls envs isoText calls s).world :=
    fun i w hl => safe_draftCall hseparate hl.inv (unqueued_stable _ _ unqueued_start hl)
  obtain ⟨hinv, hthreads⟩ := Protocol.exec hs.oneJob hholds
    (Config.meets_of_all (fun _ _ _ _ => trivial) schedule _)
  have hreturned : ∀ {i draftId jobId}, calls i = .enqueue draftId →
      ((draftCalls envs isoText calls s).exec schedule).threads i = .ret (.enqueued jobId) →
        Enqueued (envs i) draftId jobId
          ((draftCalls envs isoText calls s).exec schedule).world := by
    intro i draftId jobId hcall hret
    have h := (hthreads i).now hinv
    rw [hret] at h
    exact h draftId jobId hcall rfl
  refine ⟨hinv.jobsOfDraft, fun i draftId jobId hcall hret => ?_⟩
  obtain ⟨hmints, o, ho, hid, hkey, hv⟩ := hreturned hcall hret
  refine ⟨⟨o, ?_, hid⟩, fun k jobId' hcall' hret' => ?_⟩
  · have hmem : o ∈ ((draftCalls envs isoText calls s).exec schedule).world.store.jobsOfDraft
        (draftR2KeyOf draftId) := List.mem_filter.2 ⟨ho, by simp [hkey, hv]⟩
    obtain ⟨p, hp⟩ := List.length_eq_one_iff.1
      (le_antisymm (hinv.jobsOfDraft _) (List.length_pos_of_mem hmem))
    rw [hp] at hmem ⊢
    rw [List.mem_singleton.1 hmem]
  · obtain ⟨hmints', p, hp, hid', hkey', hv'⟩ := hreturned hcall' hret'
    have heq : p = o := hinv.one p hp o ho hv' hv (hkey'.trans hkey.symm)
    refine hseparate k i jobId' hmints' ?_
    rwa [← hid', heq, hid]

end

/-! ### Two calls on one draft -/

/-- The identifiers of one of two calls. -/
def pairEnv (first : Bool) : Env :=
  { Env.bare with
    createId := fun _ n => (if first then "a" else "b") ++ drawId n
    createId_injective := fun _ _ _ _ h => drawId_injective ((String.append_right_inj _).1 h) }

theorem pairEnv_separate : Separate pairEnv := by
  rintro i k _ ⟨_, m, rfl⟩ ⟨_, n, h⟩
  have hfirst := congrArg (fun text => text.toList.head?) h
  cases i <;> cases k <;> simp [pairEnv] at hfirst <;> rfl

/-- A draft that may be sent. -/
def draftedDb : Db where
  mailboxes := [⟨"mbx", "t", "a@b", "active"⟩]
  agents := [⟨"agt", "t", .active, none⟩]
  drafts := [⟨"drf", "t", "agt", "mbx", none, none, none, .draft, "drafts/drf.json", 0, 0⟩]
  objects := [("drafts/drf.json",
    .json (.obj [("from", .str "a@b"), ("to", .arr [.str "a@b"]), ("subject", .str "Hi")]))]

theorem draftedDb_unsent : draftedDb.Unsent pairEnv where
  ids := by decide
  one := nofun
  keyed := by
    intro d hd
    rw [List.mem_singleton.1 hd]
    decide +kernel
  unused := nofun

/-- What a call has returned, if it is the identifier of a job. -/
def returnedJob : Op CallAnswer → Option String
  | .ret (.enqueued jobId) => some jobId
  | _ => none

theorem ret_of_returnedJob {p : Op CallAnswer} {jobId : String}
    (h : returnedJob p = some jobId) : p = .ret (.enqueued jobId) := by
  unfold returnedJob at h
  split at h
  · rw [Option.some.inj h]
  · cases h

/-- The second call runs while the first has claimed the draft. -/
@[irreducible] def enqueuedTwice : Config Bool Db Label Exn CallAnswer :=
  (draftCalls pairEnv (fun _ => "") (fun _ => .enqueue "drf") draftedDb).exec
    (turns true 6 ++ turns false 20 ++ turns true 60)

theorem enqueued_twice_one_job :
    (enqueuedTwice.world.store.jobsOfDraft "drafts/drf.json").length ≤ 1 ∧
      enqueuedTwice.threads true = .ret (.enqueued "a") ∧
      ∃ o, enqueuedTwice.world.store.jobsOfDraft (draftR2KeyOf "drf") = [o] ∧ o.id = "a" := by
  have hret : enqueuedTwice.threads true = .ret (.enqueued "a") :=
    ret_of_returnedJob (by decide +kernel)
  unfold enqueuedTwice at hret ⊢
  obtain ⟨hone, hreturned⟩ := enqueued_once pairEnv_separate (fun _ => "")
    (fun _ => .enqueue "drf") draftedDb_unsent (turns true 6 ++ turns false 20 ++ turns true 60)
  exact ⟨hone _, hret, (hreturned true "drf" "a" rfl hret).1⟩

end MailRuntime
