import MailRuntime.Idempotency.Statements

/-!
# Requests with one key are answered alike

`createAndSendDraft` and `POST /v1/drafts/:draftId/send` keep to the protocol of keys, wherever
their statements fail.

## What is proved

**`answered_alike`**: after any run, requests with one key that have been answered have been told
of the same draft or job, and of the jobs that the requests of one key to create and send a draft
have inserted at most one is visible.
-/

namespace MailRuntime

open Js Interaction

/-! ### What the other functions do to keys and jobs -/

section Aside

variable {α β : Type} {ts : List Table} {env : Env} {may : String → Prop} {s : Db}
  {draft : DraftRow} {ids : SendIds}

theorem OpKeepsKeys.bind {p : Op α} {f : α → Op β} (hp : OpKeepsKeys env may p)
    (hf : ∀ a, OpKeepsKeys env may (f a)) : OpKeepsKeys env may (p >>= f) := Prog.Each.bind hp hf

theorem OpKeepsKeys.tryCatch {p : Op α} {f : Exn → Op α} (hp : OpKeepsKeys env may p)
    (hf : ∀ e, OpKeepsKeys env may (f e)) : OpKeepsKeys env may (tryCatch p f) :=
  Prog.Each.tryCatch hp hf

theorem OpKeepsKeys.catchAll {p : Op α} {value : α} (hp : OpKeepsKeys env may p) :
    OpKeepsKeys env may (catchAll p value) := hp.tryCatch fun _ => trivial

theorem Label.ne_writeKeys {l : Label} (h : l.table ≠ some .idempotencyKeys) :
    l ≠ .write .idempotencyKeys := by
  rintro rfl
  exact h rfl

theorem opKeepsKeys_of_touches {p : Op α} (hp : Touches ts p)
    (h : ∀ t ∈ [Table.idempotencyKeys, .drafts, .outboundJobs], t ∉ ts) :
    OpKeepsKeys env may p := by
  refine Prog.Each.mono hp (fun _ hrun => hrun) fun name run hwithin s => ⟨Label.ne_writeKeys
    fun hl => h _ (by simp) ((hwithin s).2 _ hl), ?_⟩
  have hkeys : s.idempotencyKeys = (run s).idempotencyKeys :=
    (hwithin s).1 .idempotencyKeys (h _ (by simp))
  have hdrafts : s.drafts = (run s).drafts := (hwithin s).1 .drafts (h _ (by simp))
  have hjobs : s.outboundJobs = (run s).outboundJobs := (hwithin s).1 .outboundJobs (h _ (by simp))
  refine ⟨hkeys.symm, fun hkeyed d hd => ?_, fun o ho => .inl (hjobs ▸ ho)⟩
  rw [← hdrafts] at hd
  exact hkeyed d hd

theorem opKeepsKeys_reads {p : Op α} (hp : Touches [] p) : OpKeepsKeys env may p :=
  opKeepsKeys_of_touches hp fun _ _ => List.not_mem_nil

/-- A program that leaves jobs alone. -/
theorem opKeepsKeys_of_apart {p : Op α} (hp : Touches ts p) (hts : .idempotencyKeys ∉ ts)
    (hapart : OpApart p) : OpKeepsKeys env may p := by
  refine Prog.Each.mono (Prog.Each.and hp hapart) (fun _ h => h.1) fun name run h s => ?_
  have hkeys : s.idempotencyKeys = (run s).idempotencyKeys := (h.1 s).1 .idempotencyKeys hts
  refine ⟨Label.ne_writeKeys fun hl => hts ((h.1 s).2 _ hl), hkeys.symm, (h.2 s).2.keyed, ?_⟩
  rw [(h.2 s).2.jobs]
  exact fun o ho => .inl ho

theorem opKeepsKeys_discardJobs {l : Label} {doomed : OutboundJobRow → Bool}
    (hl : l ≠ .write .idempotencyKeys) : OpKeepsKeys env may (jobRows.discardAs l doomed) :=
  .catchAll (.bind (Prog.each_perform.2 fun _ => ⟨hl, rfl, id, fun _ ho =>
    .inl (List.mem_of_mem_filter ho)⟩) fun _ => trivial)

theorem opKeepsKeys_deleteInvalidJobs {draftR2Key : String} :
    OpKeepsKeys env may (deleteInvalidOutboundJobsForDraftR2Key draftR2Key) := by
  refine .bind (opKeepsKeys_reads jobRows.touches_select) fun rows => .bind ?_ fun _ => trivial
  induction rows.map OutboundJobRow.id with
  | nil => trivial
  | cons id rest ih => exact .bind (opKeepsKeys_discardJobs nofun) fun _ => ih

/-- The job of a send is its draft's. -/
theorem opKeepsKeys_insertOutboundJob (hids : ids.MintedBy env) :
    OpKeepsKeys env (· = draft.draftR2Key) (insertOutboundJob env draft ids) := by
  rw [insertOutboundJob_eq]
  refine .bind (Prog.each_perform.2 fun s => ⟨nofun, ?_⟩) fun outcome => by
    cases outcome <;> trivial
  dsimp only
  split
  · refine ⟨rfl, id, fun o ho => ?_⟩
    obtain ho | ho := List.mem_append.1 ho
    · exact .inl ho
    · rw [List.mem_singleton.1 ho]
      exact .inr ⟨hids.job, rfl⟩
  · exact KeepsKeys.refl s

theorem opKeepsKeys_retryInsertJob (hids : ids.MintedBy env) :
    OpKeepsKeys env (· = draft.draftR2Key) (retryInsertJob env draft ids) := by
  refine .bind opKeepsKeys_deleteInvalidJobs fun deleted => .bind ?_ fun changes => ?_
  · unfold insertAfterDeletion
    split
    · trivial
    · exact opKeepsKeys_insertOutboundJob hids
  · split
    · exact .bind (opKeepsKeys_reads touches_listVisibleOutboundJobsByDraftR2Key) fun _ =>
        .bind (opKeepsKeys_reads touches_refuseVisibleJobs) fun _ => trivial
    · trivial

theorem opKeepsKeys_createOutboundJob (hids : ids.MintedBy env) :
    OpKeepsKeys env (· = draft.draftR2Key) (createOutboundJob env draft ids) := by
  refine .bind (opKeepsKeys_insertOutboundJob hids) fun changes => ?_
  split
  · exact .bind (opKeepsKeys_reads touches_listVisibleOutboundJobsByDraftR2Key) fun _ =>
      .bind (opKeepsKeys_reads touches_refuseVisibleJobs) fun _ => opKeepsKeys_retryInsertJob hids
  · trivial

theorem opKeepsKeys_writeOutboundJob {plan : SendPlan} {threadId : Option String}
    (hids : ids.MintedBy env) : OpKeepsKeys env (· = draft.draftR2Key)
      (writeOutboundJob env draft plan ids threadId) :=
  .bind (opKeepsKeys_of_touches messageRows.touches_insert (by simp [messageRows])) fun _ =>
    .bind (opKeepsKeys_createOutboundJob hids) fun _ =>
      .bind (opKeepsKeys_reads touches_getMessage) fun _ =>
        .bind (opKeepsKeys_reads touches_requireRow) fun _ =>
          .bind (opKeepsKeys_reads touches_getOutboundJob) fun _ =>
            .bind (opKeepsKeys_reads touches_requireRow) fun _ =>
              opKeepsKeys_of_touches touches_sendToOutboundQueue (by simp)

theorem opKeepsKeys_undoDraftSend {createdThreadId : Option String} {reserved : Int} {error : Exn} :
    OpKeepsKeys env may (undoDraftSend env draft ids createdThreadId reserved error : Op α) :=
  .bind (opKeepsKeys_discardJobs nofun) fun _ =>
    .bind (opKeepsKeys_of_touches (messageRows.touches_discardAs rfl) (by simp [messageRows]))
      fun _ => .bind (.catchAll (opKeepsKeys_of_apart touches_restoreDraftSendState (by simp)
        apart_restoreDraftSendState)) fun _ =>
          .bind (opKeepsKeys_of_touches touches_undoSendThread (by simp)) fun _ =>
            .bind (opKeepsKeys_of_touches touches_undoReservation (by simp)) fun _ => trivial

theorem opKeepsKeys_sendClaimedDraft (hids : ids.MintedBy env) :
    OpKeepsKeys env (· = draft.draftR2Key) (sendClaimedDraft env draft ids) :=
  .bind (.tryCatch (opKeepsKeys_reads touches_planDraftSend) fun _ => opKeepsKeys_undoDraftSend)
    fun _ => .bind (.tryCatch (opKeepsKeys_of_touches touches_createSendThread (by simp))
      fun _ => opKeepsKeys_undoDraftSend) fun _ => .bind (.tryCatch
        (.bind (opKeepsKeys_of_apart touches_attachSendThread (by simp) apart_attachSendThread)
          fun _ => opKeepsKeys_of_touches touches_reserveSendCredits (by simp))
            fun _ => opKeepsKeys_undoDraftSend) fun _ =>
              .tryCatch (opKeepsKeys_writeOutboundJob hids) fun _ => opKeepsKeys_undoDraftSend

theorem returns_createId {kind : String} : (createId env kind).Returns env.Mints :=
  fun s => ⟨kind, s.draws, rfl⟩

theorem touches_abandonClaim : Touches [.drafts, .objects] (abandonClaim env draft) :=
  .tryCatch (touches_restoreDraftSendState.mono (by simp)) fun _ =>
    .bind (draftRows.touches_discard.mono (by simp [draftRows])) fun _ =>
      .catchAll (touches_r2Delete.mono (by simp))

theorem OpKeepsKeys.mono {may' : String → Prop} {p : Op α} (hp : OpKeepsKeys env may p)
    (h : ∀ draftR2Key, may draftR2Key → may' draftR2Key) : OpKeepsKeys env may' p :=
  Prog.Each.mono hp (fun _ hrun => hrun) fun _ _ hstep s => ⟨(hstep s).1, (hstep s).2.rows,
    (hstep s).2.keyed, fun o ho => ((hstep s).2.jobs o ho).imp_right fun hnew =>
      ⟨hnew.1, h _ hnew.2⟩⟩

theorem opKeepsKeys_claimAndEnqueue :
    OpKeepsKeys env (· = draft.draftR2Key) (claimAndEnqueue env draft) := by
  refine Prog.Each.bind_returns (opKeepsKeys_reads touches_createId) returns_createId
    fun jobId hjob => .bind (opKeepsKeys_reads touches_nowIso) fun timestamp => .bind
      (opKeepsKeys_of_apart touches_claimDraftForSend (by simp) apart_claimDraftForSend)
        fun claimed => ?_
  split
  · refine .bind (opKeepsKeys_reads touches_getDraft) fun claimedDraft => ?_
    cases claimedDraft with
    | none =>
      exact .bind (opKeepsKeys_of_apart touches_abandonClaim (by simp) apart_abandonClaim)
        fun _ => trivial
    | some _ =>
      exact Prog.Each.bind_returns (opKeepsKeys_reads touches_createId) returns_createId
        fun messageId hmessage => .bind (opKeepsKeys_sendClaimedDraft ⟨hjob, hmessage⟩)
          fun _ => trivial
  · exact .bind (opKeepsKeys_reads touches_getDraft) fun _ => trivial

theorem opKeepsKeys_enqueueDraftSend {draftId : String} :
    OpKeepsKeys env (fun _ => True) (enqueueDraftSend env draftId) := by
  refine .bind (opKeepsKeys_reads touches_getDraft) fun found => ?_
  cases found with
  | none => trivial
  | some draft =>
    change OpKeepsKeys env _ (if draft.claimable then _ else _)
    split
    · exact opKeepsKeys_claimAndEnqueue.mono fun _ _ => trivial
    · trivial

theorem opKeepsKeys_createDraft {input : DraftInput} :
    OpKeepsKeys env may (createDraft env input) :=
  opKeepsKeys_of_apart touches_createDraft (by simp) apart_createDraft

theorem opKeepsKeys_deleteUnqueuedDraft {draftId : String} :
    OpKeepsKeys env may (deleteUnqueuedDraft draftId) :=
  Prog.each_perform.2 fun _ => ⟨nofun, rfl, (apart_deletedDrafts _).keyed, fun _ ho => .inl ho⟩

theorem opKeepsKeys_deleteUnqueued {draftId draftR2Key : String} :
    OpKeepsKeys env may (deleteUnqueued draftId draftR2Key) := by
  refine .bind (.catchAll opKeepsKeys_deleteInvalidJobs) fun _ => .bind
    (.bind opKeepsKeys_deleteUnqueuedDraft fun first => ?_) fun changes => ?_
  · split
    · refine .bind (opKeepsKeys_reads touches_getOutboundJobByDraftR2Key) fun job => ?_
      cases job with
      | some _ => trivial
      | none =>
        refine .bind opKeepsKeys_deleteInvalidJobs fun deleted => ?_
        split
        · trivial
        · exact opKeepsKeys_deleteUnqueuedDraft
    · trivial
  · split
    · trivial
    · exact .bind (.catchAll (opKeepsKeys_of_touches touches_r2Delete (by simp))) fun _ => trivial

theorem opKeepsKeys_deleteDraftIfUnqueued {draftId : String} :
    OpKeepsKeys env may (deleteDraftIfUnqueued draftId) := by
  refine .bind (opKeepsKeys_reads touches_getDraft) fun visible => ?_
  cases visible with
  | some _ => exact opKeepsKeys_deleteUnqueued
  | none =>
    refine .bind (opKeepsKeys_reads draftRows.touches_first) fun fallback => ?_
    cases fallback with
    | some _ => exact opKeepsKeys_deleteUnqueued
    | none => trivial

theorem touches_cancelDraft {claims : Auth.AccessTokenClaims} {draftId : String} :
    Touches [.drafts] (cancelDraft env claims draftId) := by
  refine .bind touches_getDraft fun found => ?_
  cases found with
  | none => trivial
  | some draft =>
    dsimp only
    split
    · trivial
    · exact touches_cancelAccessible

end Aside

/-! ### Requests -/

section Requests

variable {ι : Type} [DecidableEq ι] {envs : ι → Env} {calls : ι → DraftCall}
  {w w' : World ι Db Label} {i k : ι} {α β : Type} {slot : IdempotencySlot}
  {A : World ι Db Label → Prop} {draft : DraftRow} {isoText : Nat → String}
  {claims : Auth.AccessTokenClaims} {resourceId draftId : String} {input : SendInput}

theorem safe_checks {p : Op α} (hseparate : Separate envs) (hA : OfKeys envs calls i A)
    (hp : Touches [.sendPolicies, .accounts] p) (hw : KeysAnswered envs calls w) (h : A w) :
    (keyHolding envs calls).Safe i (fun _ => A) (fun _ => A) p w :=
  safe_asideKeys hseparate hA (opKeepsKeys_of_touches hp (by simp)) hw h

/-- A draft that is found, and its key. -/
theorem safe_findDraft (hseparate : Separate envs) (hA : OfKeys envs calls i A)
    (hw : KeysAnswered envs calls w) (h : A w) :
    (keyHolding envs calls).Safe i
      (fun found w' => (∀ d, found = some d → d.id = draftId ∧
        d.draftR2Key = draftR2KeyOf draftId) ∧ A w')
      (fun _ _ => True) (getDraft draftId) w := by
  refine safe_keysQuery hseparate hw nofun fun w' hlater =>
    ⟨fun d hd => ?_, hA.stable _ _ h hlater⟩
  have hfound := List.find?_some hd
  rw [Bool.and_eq_true, beq_iff_eq] at hfound
  exact ⟨hfound.1, hfound.1 ▸ hw.keyed d (List.mem_of_find?_eq_some hd)⟩

/-- What is said of keys is carried along a program that leaves them alone. -/
theorem OfKeys.frame {p : Op α} {may : String → Prop} {Q : α → World ι Db Label → Prop}
    {E : Exn → World ι Db Label → Prop} {env : Env} (hA : OfKeys envs calls i A)
    (hp : OpKeepsKeys env may p) (hsafe : (keyHolding envs calls).Safe i Q E p w) (h : A w) :
    (keyHolding envs calls).Safe i (fun a w => Q a w ∧ A w) (fun e w => E e w ∧ A w) p w := by
  refine Protocol.Safe.frame hA.stable (fun run hrun w h => ?_) (fun name run hrun w o h => ?_) hp
    hsafe h
  · exact hA.congr w _ (hrun w.store .idempotencyKeys).symm (fun _ => rfl) h
  · refine hA.congr w _ ?_ (fun _ => wroteKeyLast_after (hrun w.store).1) h
    rw [World.after_store]
    split
    · exact (hrun w.store).2.rows
    · rfl

/-- The send of a draft is enqueued by a request that may send it. -/
theorem safe_enqueueAs (hseparate : Separate envs) (hA : OfKeys envs calls i A)
    (hmay : ∀ w, A w → MaySend envs calls i (· = draftR2KeyOf draftId) w)
    (hw : KeysAnswered envs calls w) (h : A w) :
    (keyHolding envs calls).Safe i (fun _ => A) (fun _ => A)
      (enqueueDraftSend (envs i) draftId) w := by
  refine Protocol.Safe.mono hw (hA.frame (Q := fun _ _ => True) (E := fun _ _ => True)
    opKeepsKeys_enqueueDraftSend ?_ h) (fun _ _ _ h => h.2) fun _ _ _ h => h.2
  refine Protocol.Safe.bind hw (safe_findDraft hseparate hA hw h) ?_ fun _ _ _ h => h
  rintro found w hw ⟨hfound, h⟩
  cases found with
  | none => trivial
  | some draft =>
    have hkey := (hfound draft rfl).2
    change (keyHolding envs calls).Safe i _ _ (if draft.claimable then _ else _) w
    split
    · have hsends : OpKeepsKeys (envs i) (· = draftR2KeyOf draftId)
          (claimAndEnqueue (envs i) draft) := by
        rw [← hkey]
        exact opKeepsKeys_claimAndEnqueue
      exact Protocol.Safe.mono hw (safe_keepsKeys hseparate hA hsends hmay hw h)
        (fun _ _ _ _ => trivial) fun _ _ _ _ => trivial
    · trivial

omit [DecidableEq ι] in
/-- A request that does not create its draft, or has no key, may send any. -/
theorem maySend_of_not (h : (calls i).creates = false ∨ (calls i).slot = none)
    (may : String → Prop) (w : World ι Db Label) : MaySend envs calls i may w := by
  intro hcreates hsome
  obtain h | h := h
  · rw [h] at hcreates
    cases hcreates
  · rw [h] at hsome
    cases hsome

omit [DecidableEq ι] in
/-- A request may send the draft that it has recorded. -/
theorem RecordedAs.maySend (h : RecordedAs envs calls i draftId w) :
    MaySend envs calls i (· = draftR2KeyOf draftId) w := by
  rintro - - _ rfl
  exact ⟨draftId, h, rfl⟩

/-! ### Answers -/

/-- The response is the answer that is recorded for the request. -/
def ToldOf (envs : ι → Env) (calls : ι → DraftCall) (i : ι) (response : Json)
    (w : World ι Db Label) : Prop :=
  ∃ resourceId, (calls i).named response = some resourceId ∧ RecordedAs envs calls i resourceId w

theorem named_draftSendReplay {call : DraftCall} (h : call.creates = true) (jobId : String)
    (rest : Fields) :
    call.named (.obj (draftSendReplay isoText draft jobId ++ rest)) = some draft.id := by
  simp [DraftCall.named, h, draftSendReplay, draftRecord, Draft.stored, fieldsOf, string]

theorem named_of_not {call : DraftCall} (h : call.creates = false) (response : Json) :
    call.named response = string ((fieldsOf (some response)).lookup "outboundJobId") := by
  simp [DraftCall.named, h]

theorem named_enqueuedDraftSend {call : DraftCall} (h : call.creates = false) (jobId : String) :
    call.named (.obj (enqueuedDraftSend draftId jobId)) = some jobId := by
  rw [named_of_not h]
  rfl

/-- What is added to a response does not change what it names. -/
theorem named_accepted {call : DraftCall} (h : call.creates = false) (fields : Fields) :
    call.named (buildQueuedSendAcceptedResponse fields) = call.named (.obj fields) := by
  rw [named_of_not h, named_of_not h, buildQueuedSendAcceptedResponse, fieldsOf, fieldsOf,
    lookup_spread_of_not_mem]
  simp [queuedSendFields]

/-! ### A draft that was recorded -/

theorem answers_resumeDraftSend (hseparate : Separate envs) (hw : KeysAnswered envs calls w)
    (hid : draft.id = resourceId) (h : RecordedAs envs calls i resourceId w) :
    (keyHolding envs calls).Safe i
      (fun sent w' => sent.1.id = resourceId ∧ RecordedAs envs calls i resourceId w')
      (fun _ _ => True) (resumeDraftSend (envs i) draft) w := by
  subst hid
  refine safe_asideKeys_bind hseparate ofKeys_recordedAs (opKeepsKeys_reads touches_ensure) hw h ?_
  intro _ w hw h
  refine Protocol.Safe.bind hw (safe_enqueueAs hseparate ofKeys_recordedAs
    (fun _ h => h.maySend) hw h) ?_ fun _ _ _ _ => trivial
  intro jobId w hw h
  refine Protocol.Safe.bind hw (safe_findDraft hseparate ofKeys_recordedAs hw h) ?_
    fun _ _ _ h => h
  rintro found w hw ⟨hfound, h⟩
  cases found with
  | none => trivial
  | some resumed =>
    refine safe_asideKeys_bind hseparate ofKeys_recordedAs
      (opKeepsKeys_reads touches_getOutboundJob) hw h ?_
    intro job w hw h
    cases job with
    | none => trivial
    | some _ => exact ⟨(hfound resumed rfl).1, h⟩

/-- The draft that was recorded is sent after all, and is the one that is returned. -/
theorem answers_restoreDraftSendReplay (hseparate : Separate envs) (hw : KeysAnswered envs calls w)
    (h : RecordedAs envs calls i resourceId w) :
    (keyHolding envs calls).Safe i
      (fun sent w' => sent.1.id = resourceId ∧ RecordedAs envs calls i resourceId w')
      (fun _ _ => True) (restoreDraftSendReplay (envs i) (some resourceId)) w := by
  unfold restoreDraftSendReplay
  split
  · trivial
  · next draftId hdraftId =>
    obtain rfl : resourceId = draftId := Option.some.inj (Option.eq_some_of_filter_eq_some hdraftId)
    refine Protocol.Safe.bind hw (safe_findDraft hseparate ofKeys_recordedAs hw h) ?_
      fun _ _ _ h => h
    rintro found w hw ⟨hfound, h⟩
    cases found with
    | none => trivial
    | some stored =>
      refine Protocol.Safe.bind (Q := fun (sent : DraftRow × OutboundJobRow) w' =>
        sent.1.id = resourceId ∧ RecordedAs envs calls i resourceId w') hw ?_ ?_ fun _ _ _ h => h
      · refine safe_asideKeys_bind hseparate ofKeys_recordedAs
          (opKeepsKeys_reads touches_getOutboundJobByDraftR2Key) hw h ?_
        intro job w hw h
        cases job with
        | some _ => exact ⟨(hfound stored rfl).1, h⟩
        | none => exact answers_resumeDraftSend hseparate hw (hfound stored rfl).1 h
      · rintro ⟨sent, job⟩ w hw ⟨hsent, h⟩
        refine safe_asideKeys_bind hseparate ofKeys_recordedAs
          (opKeepsKeys_reads touches_getMessage) hw h ?_
        intro message w hw h
        cases message with
        | none => trivial
        | some _ => exact ⟨hsent, h⟩

/-! ### Drafts that are created and sent -/

theorem answers_replayPending {record : IdempotencyRow} (hseparate : Separate envs)
    (hkinds : KindsApart envs calls) (hcreates : (calls i).creates = true)
    (hslot : (calls i).slot = some slot) (hw : KeysAnswered envs calls w)
    (h : KnownRow envs calls i record w) :
    (keyHolding envs calls).Safe i (ToldOf envs calls i) (fun _ _ => True)
      (replayPending (envs i) isoText slot input record) w := by
  unfold replayPending
  split
  · trivial
  · next resourceId hrecord =>
    have hrecorded := h.recorded resourceId (Option.eq_some_of_filter_eq_some hrecord)
    refine Protocol.Safe.bind hw (safe_checks hseparate ofKeys_recordedAs
      touches_validateCreateAndSendInput hw hrecorded) ?_ fun _ _ _ _ => trivial
    intro _ w hw h
    refine Protocol.Safe.bind hw (answers_restoreDraftSendReplay hseparate hw h) ?_
      fun _ _ _ h => h
    rintro ⟨draft, jobId⟩ w hw ⟨rfl, h⟩
    have hnamed : (calls i).named (.obj (draftSendReplay isoText draft jobId)) = some draft.id := by
      simpa using named_draftSendReplay hcreates jobId []
    refine Protocol.Safe.bind (Q := fun _ => RecordedAs envs calls i draft.id) hw ?_
      (fun _ w _ h => ⟨draft.id, hnamed, h⟩) fun _ _ _ h => h
    have hcomplete := Protocol.Safe.keep (A := RecordedAs envs calls i draft.id)
      (fun _ _ hk h => recordedAs_keeps hk h)
      (safe_completeIdempotencyKey hseparate hkinds hw hslot hnamed h) h
    exact Protocol.Safe.tryCatch hw (Protocol.Safe.mono hw hcomplete (fun _ _ _ h => h.1)
      fun _ _ _ h => h.2) fun _ _ _ h => h

theorem answers_replayCompleted {record : IdempotencyRow} (hseparate : Separate envs)
    (hcreates : (calls i).creates = true) (hw : KeysAnswered envs calls w)
    (h : KnownRow envs calls i record w) :
    (keyHolding envs calls).Safe i (ToldOf envs calls i) (fun _ _ => True)
      (replayCompleted (envs i) isoText input record) w := by
  refine Protocol.Safe.bind hw (safe_checks hseparate ofKeys_knownRow
    touches_validateCreateAndSendInput hw h) ?_ fun _ _ _ _ => trivial
  intro _ w hw h
  split
  · next response hresponse =>
    obtain ⟨id, hid, hnamed⟩ := h.answer response (Option.eq_some_of_filter_eq_some hresponse)
    exact ⟨id, hnamed, h.recorded id hid⟩
  · cases hresource : record.resourceId with
    | none => trivial
    | some resourceId =>
      refine Protocol.Safe.bind hw (answers_restoreDraftSendReplay hseparate hw
        (h.recorded resourceId hresource)) ?_ fun _ _ _ h => h
      rintro ⟨draft, jobId⟩ w hw ⟨rfl, h⟩
      exact ⟨draft.id, by simpa using named_draftSendReplay hcreates jobId [], h⟩

theorem answers_createAndSendReserved (hseparate : Separate envs)
    (hkinds : KindsApart envs calls) (hcreates : (calls i).creates = true)
    (hslot : (calls i).slot = some slot) (hw : KeysAnswered envs calls w)
    (h : HoldsKey envs calls i w) :
    (keyHolding envs calls).Safe i (ToldOf envs calls i) (fun _ _ => True)
      (createAndSendReserved (envs i) isoText slot input) w := by
  have hcreate : (keyHolding envs calls).Safe i (fun _ => HoldsKey envs calls i)
      (fun _ => HoldsKey envs calls i) (do
        validateCreateAndSendInput (envs i) input
        createDraft (envs i) input.draftInput) w :=
    safe_asideKeys hseparate ofKeys_holdsKey (.bind (opKeepsKeys_of_touches
      touches_validateCreateAndSendInput (by simp)) fun _ => opKeepsKeys_createDraft) hw h
  refine Protocol.Safe.bind hw (Protocol.Safe.tryCatch hw hcreate fun error w hw h =>
    Protocol.Safe.bind hw (safe_releaseIdempotencyKey hw hslot h) (fun _ _ _ _ => trivial)
      fun _ _ _ h => h) ?_ fun _ _ _ h => h
  intro draft w hw h
  refine Protocol.Safe.tryCatch (E := fun _ _ => True) hw ?_ fun _ _ _ _ => trivial
  refine Protocol.Safe.bind hw (safe_updateIdempotencyKeyResource hseparate hw hslot h) ?_
    fun _ _ _ h => h
  intro _ w hw h
  refine Protocol.Safe.bind (Q := fun response w' => (calls i).named response = some draft.id ∧
    RecordedAs envs calls i draft.id w') hw ?_ ?_ fun _ _ _ h => h
  · refine Protocol.Safe.bind hw (safe_enqueueAs hseparate ofKeys_recordedAs
      (fun _ h => h.maySend) hw h) ?_ fun _ _ _ _ => trivial
    intro jobId w hw h
    exact ⟨named_draftSendReplay hcreates jobId _, h⟩
  · rintro response w hw ⟨hnamed, h⟩
    refine Protocol.Safe.bind hw (safe_completeIdempotencyKey hseparate hkinds hw hslot hnamed h)
      ?_ fun _ _ _ h => h
    exact fun _ w hw h => ⟨draft.id, hnamed, h⟩

theorem answers_createAndSendWithKey {idempotencyKey : String} (hseparate : Separate envs)
    (hkinds : KindsApart envs calls) (hcall : calls i = .createAndSend input)
    (hslot : (calls i).slot = some (draftSendSlot input.tenantId idempotencyKey))
    (hw : KeysAnswered envs calls w) :
    (keyHolding envs calls).Safe i (ToldOf envs calls i) (fun _ _ => True)
      (createAndSendWithKey (envs i) isoText input idempotencyKey) w := by
  have hcreates : (calls i).creates = true := by rw [hcall]; rfl
  have hfp : (calls i).fingerprint (envs i) = input.requestFingerprint := by rw [hcall]; rfl
  unfold createAndSendWithKey
  rw [← hfp]
  refine Protocol.Safe.bind hw (safe_reserveIdempotencyKey hseparate hw hslot) ?_ fun _ _ _ h => h
  intro reservation w hw h
  cases reservation with
  | conflict _ => trivial
  | pending record => exact answers_replayPending hseparate hkinds hcreates hslot hw h
  | completed record => exact answers_replayCompleted hseparate hcreates hw h
  | reserved => exact answers_createAndSendReserved hseparate hkinds hcreates hslot hw h

/-- The key of a request, as the request has it. -/
theorem key_of_slot {key : Option String} {tenantId : String}
    (h : ((key.map trim).filter truthy).map (draftSendSlot tenantId) = some slot) :
    ∃ idempotencyKey, key.map trim = some idempotencyKey ∧ truthy idempotencyKey = true ∧
      draftSendSlot tenantId idempotencyKey = slot := by
  obtain ⟨idempotencyKey, hkey, hslot⟩ := Option.map_eq_some_iff.1 h
  obtain ⟨hkey, htruthy⟩ := Option.filter_eq_some_iff.1 hkey
  exact ⟨idempotencyKey, hkey, htruthy, hslot⟩

theorem answers_createAndSendDraft (hseparate : Separate envs) (hkinds : KindsApart envs calls)
    (hcall : calls i = .createAndSend input) (hslot : (calls i).slot = some slot)
    (hw : KeysAnswered envs calls w) :
    (keyHolding envs calls).Safe i (ToldOf envs calls i) (fun _ _ => True)
      (createAndSendDraft (envs i) isoText input) w := by
  have hown := hslot
  rw [hcall] at hown
  obtain ⟨idempotencyKey, hkey, htruthy, rfl⟩ := key_of_slot hown
  unfold createAndSendDraft
  rw [hkey]
  dsimp only
  rw [if_pos htruthy]
  exact answers_createAndSendWithKey hseparate hkinds hcall hslot hw

/-- A request without a key, or with a blank one. -/
theorem safe_createAndSendUnkeyed (hseparate : Separate envs)
    (hcall : calls i = .createAndSend input) (hslot : (calls i).slot = none)
    (hw : KeysAnswered envs calls w) :
    (keyHolding envs calls).Safe i (fun _ _ => True) (fun _ _ => True)
      (createAndSendDraft (envs i) isoText input) w := by
  have hkey := hslot
  rw [hcall, DraftCall.slot, Option.map_eq_none_iff] at hkey
  unfold createAndSendDraft
  split
  on_goal 2 =>
    next key hsome =>
    rw [hsome, Option.filter_eq_none_iff] at hkey
    rw [if_neg (hkey key rfl)]
    trivial
  refine safe_asideKeys_bind hseparate ofKeys_true (opKeepsKeys_of_touches
    touches_validateCreateAndSendInput (by simp)) hw trivial fun _ w hw _ => ?_
  refine safe_asideKeys_bind hseparate ofKeys_true opKeepsKeys_createDraft hw trivial ?_
  intro draft w hw _
  refine Protocol.Safe.tryCatch (E := fun _ _ => True) hw ?_ fun _ _ _ _ => trivial
  exact Protocol.Safe.bind hw (safe_enqueueAs hseparate ofKeys_true
    (fun w _ => maySend_of_not (.inr hslot) _ w) hw trivial) (fun _ _ _ _ => trivial)
    fun _ _ _ h => h

/-! ### Drafts that are sent -/

theorem answers_restoreEnqueuedDraftSend (hseparate : Separate envs)
    (hw : KeysAnswered envs calls w) (h : RecordedAs envs calls i resourceId w) :
    (keyHolding envs calls).Safe i
      (fun response w' => response = enqueuedDraftSend draftId resourceId ∧
        RecordedAs envs calls i resourceId w')
      (fun _ _ => True) (restoreEnqueuedDraftSend draftId (some resourceId)) w := by
  unfold restoreEnqueuedDraftSend
  split
  · trivial
  · next jobId hjobId =>
    obtain rfl : resourceId = jobId := Option.some.inj (Option.eq_some_of_filter_eq_some hjobId)
    refine safe_asideKeys_bind hseparate ofKeys_recordedAs
      (opKeepsKeys_reads touches_getDraft) hw h ?_
    intro found w hw h
    cases found with
    | none => trivial
    | some draft =>
      refine Protocol.Safe.bind (Q := fun job w' => (∀ o, job = some o → o.id = resourceId) ∧
        RecordedAs envs calls i resourceId w') hw (safe_keysQuery hseparate hw nofun
          fun w' hlater => ⟨fun o ho => ?_, recordedAs_stable _ _ h hlater⟩) ?_ fun _ _ _ h => h
      · have hfound := List.find?_some ho
        rw [Bool.and_eq_true, beq_iff_eq] at hfound
        exact hfound.1
      · rintro job w hw ⟨hjob, h⟩
        cases job with
        | none => trivial
        | some job =>
          refine safe_asideKeys_bind hseparate ofKeys_recordedAs
            (opKeepsKeys_reads touches_getMessage) hw h ?_
          intro message w hw h
          cases message with
          | none => trivial
          | some _ =>
            refine safe_asideKeys_bind hseparate ofKeys_recordedAs
              (opKeepsKeys_reads touches_ensure) hw h ?_
            intro _ w hw h
            exact ⟨by rw [hjob job rfl], h⟩

/-- A route tells of what is recorded, if it accepts. -/
def RouteTold (envs : ι → Env) (calls : ι → DraftCall) (i : ι) (answer : RouteAnswer)
    (w : World ι Db Label) : Prop :=
  ∀ response, answer = .accepted response → ToldOf envs calls i response w

omit [DecidableEq ι] in
theorem routeTold_accepted {fields : Fields} (hcreates : (calls i).creates = false)
    (hnamed : (calls i).named (.obj fields) = some resourceId)
    (h : RecordedAs envs calls i resourceId w) :
    RouteTold envs calls i (.accepted (buildQueuedSendAcceptedResponse fields)) w := by
  intro response hresponse
  obtain rfl := RouteAnswer.accepted.inj hresponse
  exact ⟨resourceId, (named_accepted hcreates fields).trans hnamed, h⟩

theorem answers_replayPendingSend {record : IdempotencyRow} (hseparate : Separate envs)
    (hkinds : KindsApart envs calls) (hcreates : (calls i).creates = false)
    (hslot : (calls i).slot = some slot) (hw : KeysAnswered envs calls w)
    (h : KnownRow envs calls i record w) :
    (keyHolding envs calls).Safe i (RouteTold envs calls i) (fun _ _ => True)
      (replayPendingSend (envs i) claims slot draft record) w := by
  unfold replayPendingSend
  split
  · exact Protocol.safe_ret.2 nofun
  · next resourceId hrecord =>
    have hrecorded := h.recorded resourceId (Option.eq_some_of_filter_eq_some hrecord)
    refine Protocol.Safe.bind hw (safe_checks hseparate ofKeys_recordedAs
      touches_validateReplayableDraftSend hw hrecorded) ?_ fun _ _ _ _ => trivial
    intro _ w hw h
    refine Protocol.Safe.bind hw (answers_restoreEnqueuedDraftSend hseparate hw h) ?_
      fun _ _ _ h => h
    rintro _ w hw ⟨rfl, h⟩
    have hnamed := @named_enqueuedDraftSend draft.id (calls i) hcreates resourceId
    refine Protocol.Safe.bind (Q := fun _ => RecordedAs envs calls i resourceId) hw ?_
      (fun _ w _ h => routeTold_accepted hcreates hnamed h) fun _ _ _ h => h
    have hcomplete := Protocol.Safe.keep (A := RecordedAs envs calls i resourceId)
      (fun _ _ hk h => recordedAs_keeps hk h)
      (safe_completeIdempotencyKey hseparate hkinds hw hslot hnamed h) h
    exact Protocol.Safe.tryCatch hw (Protocol.Safe.mono hw hcomplete (fun _ _ _ h => h.1)
      fun _ _ _ h => h.2) fun _ _ _ h => h

theorem answers_sendReserved (hseparate : Separate envs) (hkinds : KindsApart envs calls)
    (hcreates : (calls i).creates = false) (hslot : (calls i).slot = some slot)
    (hw : KeysAnswered envs calls w) (h : HoldsKey envs calls i w) :
    (keyHolding envs calls).Safe i (RouteTold envs calls i) (fun _ _ => True)
      (sendReserved (envs i) claims slot draft) w := by
  have hsend : (keyHolding envs calls).Safe i (fun _ => HoldsKey envs calls i)
      (fun _ => HoldsKey envs calls i) (do
        validateReplayableDraftSend (envs i) claims draft
        enqueueDraftSend (envs i) draft.id) w :=
    Protocol.Safe.bind hw (safe_checks hseparate ofKeys_holdsKey
      touches_validateReplayableDraftSend hw h) (fun _ w hw h => safe_enqueueAs hseparate
        ofKeys_holdsKey (fun w _ => maySend_of_not (.inl hcreates) _ w) hw h) fun _ _ _ h => h
  refine Protocol.Safe.bind hw (Protocol.Safe.tryCatch hw hsend fun error w hw h =>
    Protocol.Safe.bind hw (safe_releaseIdempotencyKey hw hslot h) (fun _ _ _ _ => trivial)
      fun _ _ _ h => h) ?_ fun _ _ _ h => h
  intro jobId w hw h
  have hnamed := @named_enqueuedDraftSend draft.id (calls i) hcreates jobId
  refine Protocol.Safe.tryCatch (E := fun _ _ => True) hw ?_ fun _ _ _ _ => trivial
  refine Protocol.Safe.bind hw (safe_updateIdempotencyKeyResource hseparate hw hslot h) ?_
    fun _ _ _ h => h
  intro _ w hw h
  refine Protocol.Safe.bind hw (safe_completeIdempotencyKey hseparate hkinds hw hslot hnamed h) ?_
    fun _ _ _ h => h
  exact fun _ w hw h => routeTold_accepted hcreates hnamed h

theorem answers_storedResponse {record : IdempotencyRow} (hseparate : Separate envs)
    (hcreates : (calls i).creates = false) (hw : KeysAnswered envs calls w)
    (h : KnownRow envs calls i record w) :
    (keyHolding envs calls).Safe i (fun response w' => ∃ resourceId,
        (calls i).named (.obj response) = some resourceId ∧ RecordedAs envs calls i resourceId w')
      (fun _ _ => True)
      (storedResponse record (restoreEnqueuedDraftSend draftId record.resourceId)) w := by
  have hrestore : (keyHolding envs calls).Safe i (fun response w' => ∃ resourceId,
      (calls i).named (.obj response) = some resourceId ∧ RecordedAs envs calls i resourceId w')
      (fun _ _ => True) (restoreEnqueuedDraftSend draftId record.resourceId) w := by
    cases hresource : record.resourceId with
    | none => trivial
    | some resourceId =>
      refine Protocol.Safe.mono hw (answers_restoreEnqueuedDraftSend hseparate hw
        (h.recorded resourceId hresource)) ?_ fun _ _ _ h => h
      rintro _ w _ ⟨rfl, h⟩
      exact ⟨resourceId, named_enqueuedDraftSend hcreates resourceId, h⟩
  unfold storedResponse
  split
  · exact hrestore
  · exact hrestore
  · next response _ hresponse =>
    obtain ⟨id, hid, hnamed⟩ := h.answer response hresponse
    rw [named_of_not hcreates] at hnamed
    refine ⟨id, ?_, h.recorded id hid⟩
    rw [named_of_not hcreates]
    exact hnamed

theorem answers_sendWithKey {idempotencyKey : String} (hseparate : Separate envs)
    (hkinds : KindsApart envs calls) {key : Option String}
    (hcall : calls i = .send claims draft.id key)
    (hslot : (calls i).slot = some (draftSendSlot draft.tenantId idempotencyKey))
    (hw : KeysAnswered envs calls w) :
    (keyHolding envs calls).Safe i (RouteTold envs calls i) (fun _ _ => True)
      (sendWithKey (envs i) claims idempotencyKey draft) w := by
  have hcreates : (calls i).creates = false := by rw [hcall]; rfl
  have hfp : (calls i).fingerprint (envs i) =
      (envs i).stringify (.obj [("draftId", .str draft.id)]) := by rw [hcall]; rfl
  unfold sendWithKey
  rw [← hfp]
  refine Protocol.Safe.bind hw (safe_reserveIdempotencyKey hseparate hw hslot) ?_ fun _ _ _ h => h
  intro reservation w hw h
  cases reservation with
  | conflict _ => exact Protocol.safe_ret.2 nofun
  | pending record => exact answers_replayPendingSend hseparate hkinds hcreates hslot hw h
  | completed record =>
    refine Protocol.Safe.bind hw (safe_checks hseparate ofKeys_knownRow
      touches_validateReplayableDraftSend hw h) ?_ fun _ _ _ _ => trivial
    intro _ w hw h
    refine Protocol.Safe.bind hw (answers_storedResponse hseparate hcreates hw h) ?_
      fun _ _ _ h => h
    rintro response w _ ⟨resourceId, hnamed, h⟩
    exact routeTold_accepted hcreates hnamed h
  | reserved =>
    dsimp only
    split
    · exact answers_sendReserved hseparate hkinds hcreates hslot hw h
    · exact Protocol.Safe.bind hw (safe_releaseIdempotencyKey hw hslot h)
        (fun _ _ _ _ => Protocol.safe_ret.2 nofun) fun _ _ _ h => h

theorem answers_sendDraft {key : Option String} (hseparate : Separate envs)
    (hkinds : KindsApart envs calls) (hcall : calls i = .send claims draftId key)
    (hslot : (calls i).slot = some slot) (hw : KeysAnswered envs calls w) :
    (keyHolding envs calls).Safe i (RouteTold envs calls i) (fun _ _ => True)
      (sendDraft (envs i) claims draftId key) w := by
  have hown := hslot
  rw [hcall] at hown
  obtain ⟨idempotencyKey, hkey, htruthy, rfl⟩ := key_of_slot hown
  refine Protocol.Safe.bind hw (safe_findDraft hseparate ofKeys_true hw trivial) ?_ fun _ _ _ h => h
  rintro found w hw ⟨hfound, -⟩
  cases found with
  | none => exact Protocol.safe_ret.2 nofun
  | some draft =>
    obtain rfl := (hfound draft rfl).1
    dsimp only
    split
    · next denied hdenied =>
      obtain ⟨message, status, rfl⟩ := error_of_access hdenied
      exact Protocol.safe_ret.2 nofun
    · next haccess =>
      refine safe_asideKeys_bind hseparate ofKeys_true
        (opKeepsKeys_reads touches_validateDraftAgentBinding) hw trivial fun _ w hw _ => ?_
      rw [hkey]
      dsimp only
      rw [if_pos htruthy]
      rw [tenant_of_access haccess] at hslot
      exact answers_sendWithKey hseparate hkinds hcall hslot hw

/-- A send without a key, or with a blank one. -/
theorem safe_sendUnkeyed {key : Option String} (hseparate : Separate envs)
    (hcall : calls i = .send claims draftId key) (hslot : (calls i).slot = none)
    (hw : KeysAnswered envs calls w) :
    (keyHolding envs calls).Safe i (fun _ _ => True) (fun _ _ => True)
      (sendDraft (envs i) claims draftId key) w := by
  have hcreates : (calls i).creates = false := by rw [hcall]; rfl
  have hkey := hslot
  rw [hcall, DraftCall.slot, Option.map_eq_none_iff] at hkey
  refine safe_asideKeys_bind hseparate ofKeys_true (opKeepsKeys_reads touches_getDraft) hw trivial
    fun found w hw _ => ?_
  cases found with
  | none => trivial
  | some draft =>
    dsimp only
    split
    · trivial
    · refine safe_asideKeys_bind hseparate ofKeys_true
        (opKeepsKeys_reads touches_validateDraftAgentBinding) hw trivial fun _ w hw _ => ?_
      split
      · unfold sendWithoutKey
        split
        · refine safe_asideKeys_bind hseparate ofKeys_true (opKeepsKeys_of_touches
            touches_validateUnkeyedDraftSend (by simp)) hw trivial fun _ w hw _ => ?_
          exact Protocol.Safe.bind hw (safe_enqueueAs hseparate ofKeys_true
            (fun w _ => maySend_of_not (.inl hcreates) _ w) hw trivial)
            (fun _ _ _ _ => trivial) fun _ _ _ h => h
        · trivial
      · next key hsome =>
        rw [hsome, Option.filter_eq_none_iff] at hkey
        rw [if_neg (hkey key rfl)]
        trivial

/-! ### Runs -/

/-- The response of a request that has been accepted. -/
def CallAnswer.response : CallAnswer → Option Json
  | sent response | routed (.accepted response) => some response
  | _ => none

/-- What a request with a key that has been accepted has been told. -/
def KeyedTold (envs : ι → Env) (calls : ι → DraftCall) (i : ι) (answer : CallAnswer)
    (w : World ι Db Label) : Prop :=
  (calls i).slot.isSome = true → ∀ response, answer.response = some response →
    ToldOf envs calls i response w

theorem answers_draftCall (hseparate : Separate envs) (hkinds : KindsApart envs calls)
    (hw : KeysAnswered envs calls w) :
    (keyHolding envs calls).Safe i (KeyedTold envs calls i) (fun _ _ => True)
      ((calls i).program (envs i) isoText) w := by
  have hother : ∀ {α : Type} {p : Op α} {f : α → CallAnswer}, (calls i).slot = none →
      (keyHolding envs calls).Safe i (fun _ _ => True) (fun _ _ => True) p w →
      (keyHolding envs calls).Safe i (KeyedTold envs calls i) (fun _ _ => True) (f <$> p) w :=
    fun hslot hp => Protocol.Safe.map hw (Protocol.Safe.mono hw hp
      (fun _ _ _ _ hsome => by rw [hslot] at hsome; cases hsome) fun _ _ _ h => h)
  have haside {α : Type} {p : Op α} (hp : OpKeepsKeys (envs i) (fun _ => False) p) :
      (keyHolding envs calls).Safe i (fun _ _ => True) (fun _ _ => True) p w :=
    safe_asideKeys hseparate ofKeys_true hp hw trivial
  cases hcall : calls i with
  | create input => exact hother (by rw [hcall]; rfl) (haside opKeepsKeys_createDraft)
  | enqueue draftId =>
    have hcreates : (calls i).creates = false := by rw [hcall]; rfl
    exact hother (by rw [hcall]; rfl) (safe_enqueueAs hseparate ofKeys_true
      (fun w _ => maySend_of_not (.inl hcreates) _ w) hw trivial)
  | cancel claims draftId =>
    exact hother (by rw [hcall]; rfl)
      (haside (opKeepsKeys_of_apart touches_cancelDraft (by simp) apart_cancelDraft))
  | delete draftId => exact hother (by rw [hcall]; rfl) (haside opKeepsKeys_deleteDraftIfUnqueued)
  | send claims draftId key =>
    cases hslot : (calls i).slot with
    | none => exact hother hslot (safe_sendUnkeyed hseparate hcall hslot hw)
    | some slot =>
      refine Protocol.Safe.map hw (Protocol.Safe.mono hw
        (answers_sendDraft hseparate hkinds hcall hslot hw) ?_ fun _ _ _ h => h)
      intro answer w _ htold _ response hresponse
      cases answer with
      | accepted body => exact htold response (congrArg _ (Option.some.inj hresponse))
      | ok body => cases hresponse
      | error message status => cases hresponse
  | createAndSend input =>
    cases hslot : (calls i).slot with
    | none => exact hother hslot (safe_createAndSendUnkeyed hseparate hcall hslot hw)
    | some slot =>
      refine Protocol.Safe.map hw (Protocol.Safe.mono hw
        (answers_createAndSendDraft hseparate hkinds hcall hslot hw) ?_ fun _ _ _ h => h)
      intro answer w _ htold _ response hresponse
      exact Option.some.inj hresponse ▸ htold

/-- The store before any of the requests: drafts have their own keys and at most one visible job
each, the rows of keys are well answered, and no identifier is there that a call will draw. -/
structure Db.Unanswered (envs : ι → Env) (calls : ι → DraftCall) (s : Db) : Prop where
  unsent : s.Unsent envs
  unique : (s.idempotencyKeys.map IdempotencyRow.slot).Nodup
  answers : ∀ r ∈ s.idempotencyKeys, AnswersFor envs calls r

omit [DecidableEq ι] in
theorem Db.Unanswered.keysAnswered {s : Db} (h : s.Unanswered envs calls) :
    KeysAnswered envs calls (⟨s, []⟩ : World ι Db Label) where
  unique := h.unique
  keyed := h.unsent.keyed
  answers := h.answers
  jobs i _ _ o ho hmints := absurd hmints (h.unsent.unused o ho i).1

/-- **One answer for a key**: after any run, wherever statements failed, requests with one key that
have been accepted had one fingerprint and have been told of one draft or job; and of all the jobs
inserted by the requests of one key that create and send a draft, at most one is visible. -/
theorem answered_alike (hseparate : Separate envs) (hkinds : KindsApart envs calls)
    (isoText : Nat → String) {s : Db} (hs : s.Unanswered envs calls)
    (schedule : List (ι × Outcome)) (i k : ι) (hsome : (calls i).slot.isSome = true)
    (hslot : (calls i).slot = (calls k).slot) :
    (∀ answer answer' response response',
      ((draftCalls envs isoText calls s).exec schedule).threads i = .ret answer →
      ((draftCalls envs isoText calls s).exec schedule).threads k = .ret answer' →
      answer.response = some response → answer'.response = some response' →
        (calls i).fingerprint (envs i) = (calls k).fingerprint (envs k) ∧
          ∃ resourceId, (calls i).named response = some resourceId ∧
            (calls k).named response' = some resourceId) ∧
    ((calls i).creates = true → (calls k).creates = true →
      ∀ o ∈ ((draftCalls envs isoText calls s).exec schedule).world.store.outboundJobs,
      ∀ p ∈ ((draftCalls envs isoText calls s).exec schedule).world.store.outboundJobs,
        (envs i).Mints o.id → (envs k).Mints p.id →
        ((draftCalls envs isoText calls s).exec schedule).world.store.jobVisible o = true →
        ((draftCalls envs isoText calls s).exec schedule).world.store.jobVisible p = true →
          o = p) := by
  have hholds : ∀ i, (keyHolding envs calls).Holds i (KeyedTold envs calls i) (fun _ _ => True)
      ((draftCalls envs isoText calls s).threads i) (draftCalls envs isoText calls s).world :=
    fun i w hl => answers_draftCall hseparate hkinds hl.inv
  obtain ⟨hinv, hthreads⟩ := Protocol.exec hs.keysAnswered hholds
    (Config.meets_of_all (fun _ _ _ _ => trivial) schedule _)
  have htold : ∀ {i answer response}, (calls i).slot.isSome = true →
      ((draftCalls envs isoText calls s).exec schedule).threads i = .ret answer →
      answer.response = some response →
      ToldOf envs calls i response ((draftCalls envs isoText calls s).exec schedule).world := by
    intro i answer response hsome hret hresponse
    have h := (hthreads i).now hinv
    rw [hret] at h
    exact h hsome response hresponse
  refine ⟨fun answer answer' response response' hret hret' hresponse hresponse' => ?_,
    fun hcreates hcreates' o ho p hp hmints hmints' hov hpv => ?_⟩
  · obtain ⟨id, hnamed, hid⟩ := htold hsome hret hresponse
    obtain ⟨id', hnamed', hid'⟩ := htold (hslot ▸ hsome) hret' hresponse'
    obtain ⟨hfp, rfl⟩ := hid.unique hinv hslot hid'
    exact ⟨hfp, id, hnamed, hnamed'⟩
  · obtain ⟨id, hid, hkey⟩ := hinv.jobs i hcreates hsome o ho hmints
    obtain ⟨id', hid', hkey'⟩ := hinv.jobs k hcreates' (hslot ▸ hsome) p hp hmints'
    obtain ⟨-, rfl⟩ := hid.unique hinv hslot hid'
    have hone : ∀ i, (enqueueing envs).Holds i ((calls i).Returned (envs i)) (fun _ _ => True)
        ((draftCalls envs isoText calls s).threads i) (draftCalls envs isoText calls s).world :=
      fun i w hl => safe_draftCall hseparate hl.inv (unqueued_stable _ _ unqueued_start hl)
    have honejob := (Protocol.exec hs.unsent.oneJob hone
      (Config.meets_of_all (fun _ _ _ _ => trivial) schedule _)).1
    exact honejob.one o ho p hp hov hpv (hkey.trans hkey'.symm)

end Requests

/-! ### Two requests with one key -/

/-- A request with a key. -/
def keyedInput : SendInput where
  tenantId := "t"
  agentId := "agt"
  mailboxId := "mbx"
  threadId := none
  sourceMessageId := none
  payload := ⟨"a@b", ⟨["a@b"], [], []⟩, "Hi", "Hello", "", none, [], []⟩
  createdVia := "api:v1/messages/send"
  idempotencyKey := some "key"
  requestFingerprint := "fingerprint"

/-- A mailbox that an agent may send from. -/
def keyedDb : Db where
  mailboxes := [⟨"mbx", "t", "a@b", "active"⟩]
  agents := [⟨"agt", "t", .active, none⟩]
  agentMailboxes := [⟨"t", "agt", "mbx", .primary, true⟩]

/-- The request is made twice. -/
def keyedCalls : Bool → DraftCall := fun _ => .createAndSend keyedInput

/-- What a request has been told of. -/
def toldOf (p : Op CallAnswer) : Option String :=
  match p with
  | .ret answer => answer.response.bind (DraftCall.createAndSend keyedInput).named
  | _ => none

theorem ret_of_toldOf {p : Op CallAnswer} {resourceId : String} (h : toldOf p = some resourceId) :
    ∃ answer response, p = .ret answer ∧ answer.response = some response := by
  unfold toldOf at h
  split at h
  · next answer =>
    obtain ⟨response, hresponse, -⟩ := Option.bind_eq_some_iff.1 h
    exact ⟨answer, response, rfl, hresponse⟩
  · cases h

theorem keyedDb_unanswered : keyedDb.Unanswered pairEnv keyedCalls where
  unsent := ⟨by decide, nofun, nofun, nofun⟩
  unique := by decide
  answers := nofun

/-- The second request comes when the first has been answered, or is about to be. -/
@[irreducible] def answeredTwice : Config Bool Db Label Exn CallAnswer :=
  (draftCalls pairEnv (fun _ => "") keyedCalls keyedDb).exec (turns true 45 ++ turns false 90)

theorem answered_twice_alike : ∃ answer answer' response response' resourceId,
    answeredTwice.threads true = .ret answer ∧ answeredTwice.threads false = .ret answer' ∧
      answer.response = some response ∧ answer'.response = some response' ∧
        (keyedCalls true).named response = some resourceId ∧
          (keyedCalls false).named response' = some resourceId := by
  obtain ⟨answer, response, hret, hresponse⟩ : ∃ answer response,
      answeredTwice.threads true = .ret answer ∧ answer.response = some response :=
    @ret_of_toldOf _ "ai" (by decide +kernel)
  obtain ⟨answer', response', hret', hresponse'⟩ : ∃ answer response,
      answeredTwice.threads false = .ret answer ∧ answer.response = some response :=
    @ret_of_toldOf _ "ai" (by decide +kernel)
  unfold answeredTwice at hret hret' ⊢
  obtain ⟨-, id, hnamed, hnamed'⟩ := (answered_alike pairEnv_separate (fun _ _ _ _ => rfl)
    (fun _ => "") keyedDb_unanswered (turns true 45 ++ turns false 90) true false rfl rfl).1
    answer answer' response response' hret hret' hresponse hresponse'
  exact ⟨answer, answer', response, response', id, hret, hret', hresponse, hresponse', hnamed,
    hnamed'⟩

end MailRuntime
