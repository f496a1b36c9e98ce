import MailRuntime.Enqueueing.Jobs

/-!
# Calls that enqueue drafts

`enqueueDraftSend` and the other functions on drafts keep to the protocol, wherever their
statements fail.
-/

namespace MailRuntime

open Js Interaction

/-! ### Statements that leave jobs alone -/

/-- No statement of the program has to do with jobs, messages or mailboxes. -/
def OpApart {α : Type} (p : Op α) : Prop :=
  p.Each Draws fun name run => ∀ s, (name s).insertsNoJob = true ∧ Apart s (run s)

section Apart

variable {α β : Type} {ts : List Table} {env : Env} {s s' : Db}

theorem OpApart.bind {p : Op α} {f : α → Op β} (hp : OpApart p) (hf : ∀ a, OpApart (f a)) :
    OpApart (p >>= f) := Prog.Each.bind hp hf

theorem OpApart.tryCatch {p : Op α} {f : Exn → Op α} (hp : OpApart p) (hf : ∀ e, OpApart (f e)) :
    OpApart (tryCatch p f) := Prog.Each.tryCatch hp hf

theorem OpApart.catchAll {p : Op α} {value : α} (hp : OpApart p) : OpApart (catchAll p value) :=
  Prog.Each.tryCatch hp fun _ => trivial

theorem Label.insertsNoJob_of_table {l : Label} (h : l.table ≠ some .outboundJobs) :
    l.insertsNoJob = true := by
  unfold Label.insertsNoJob
  split
  · exact absurd rfl h
  · rfl

theorem apart_of_same
    (h : ∀ t ∈ [Table.outboundJobs, .messages, .mailboxes, .drafts], t.Same s s') :
    Apart s s' := by
  have hjobs : s.outboundJobs = s'.outboundJobs := h .outboundJobs (by simp)
  have hmessages : s.messages = s'.messages := h .messages (by simp)
  have hmailboxes : s.mailboxes = s'.mailboxes := h .mailboxes (by simp)
  have hdrafts : s.drafts = s'.drafts := h .drafts (by simp)
  refine ⟨hjobs.symm, hmessages.symm, hmailboxes.symm, fun hkeyed d hd => ?_⟩
  rw [← hdrafts] at hd
  exact hkeyed d hd

theorem apart_of_touches {p : Op α} (hp : Touches ts p)
    (h : ∀ t ∈ [Table.outboundJobs, .messages, .mailboxes, .drafts], t ∉ ts) : OpApart p :=
  Prog.Each.mono hp (fun _ hrun => hrun) fun _ _ hwithin s =>
    ⟨Label.insertsNoJob_of_table fun hl => h _ (by simp) ((hwithin s).2 _ hl),
      apart_of_same fun t ht => (hwithin s).1 t (h t ht)⟩

theorem apart_reads {p : Op α} (hp : Touches [] p) : OpApart p :=
  apart_of_touches hp fun _ _ => List.not_mem_nil

/-- An update of drafts that leaves their identifiers and keys alone. -/
theorem apart_updateDrafts {l : Nat → Label} {target : Db → DraftRow → Bool}
    {set : DraftRow → DraftRow} (hl : ∀ n, (l n).insertsNoJob = true)
    (hset : ∀ d, (set d).id = d.id ∧ (set d).draftR2Key = d.draftR2Key) :
    OpApart (draftRows.updateAs l target set) := by
  refine Prog.each_perform.2 fun s => ⟨hl _, rfl, rfl, rfl, fun hkeyed d hd => ?_⟩
  obtain ⟨d₀, hd₀, rfl⟩ := List.mem_map.1 hd
  split
  · rw [(hset d₀).1, (hset d₀).2]
    exact hkeyed d₀ hd₀
  · exact hkeyed d₀ hd₀

theorem apart_deletedDrafts (doomed : DraftRow → Bool) : Apart s (draftRows.deleted s doomed).2 :=
  ⟨rfl, rfl, rfl, fun hkeyed d hd => hkeyed d (List.mem_of_mem_filter hd)⟩

theorem apart_claimDraftForSend {draftId : String} {updatedAt : Nat} :
    OpApart (claimDraftForSend draftId updatedAt) :=
  .bind (apart_updateDrafts (fun _ => rfl) fun _ => ⟨rfl, rfl⟩) fun _ => trivial

theorem apart_restoreDraftSendState {draftId : String} {status : DraftStatus}
    {threadId : Option String} : OpApart (restoreDraftSendState env draftId status threadId) :=
  .bind (apart_reads touches_nowIso) fun _ =>
    .bind (apart_updateDrafts (fun _ => rfl) fun _ => ⟨rfl, rfl⟩) fun _ =>
      apart_reads touches_requireStateUpdateApplied

theorem apart_assignDraftThreadId {draftId threadId : String} :
    OpApart (assignDraftThreadId env draftId threadId) :=
  .bind (apart_reads touches_nowIso) fun _ =>
    .bind (apart_updateDrafts (fun _ => rfl) fun _ => ⟨rfl, rfl⟩) fun _ =>
      apart_reads touches_requireStateUpdateApplied

theorem apart_markDraftStatus {draftId : String} {status : DraftStatus} :
    OpApart (markDraftStatus env draftId status) :=
  .bind (apart_reads touches_nowIso) fun _ =>
    .bind (apart_updateDrafts (fun _ => rfl) fun _ => ⟨rfl, rfl⟩) fun _ =>
      apart_reads touches_requireStateUpdateApplied

theorem apart_discardDrafts {doomed : DraftRow → Bool} : OpApart (draftRows.discard doomed) :=
  .catchAll (.bind (Prog.each_perform.2 fun _ => ⟨rfl, apart_deletedDrafts doomed⟩)
    fun _ => trivial)

theorem apart_abandonClaim {draft : DraftRow} : OpApart (abandonClaim env draft) :=
  .tryCatch apart_restoreDraftSendState fun _ => .bind apart_discardDrafts fun _ =>
    .catchAll (apart_of_touches touches_r2Delete (by simp))

theorem apart_attachSendThread {draft : DraftRow} {plan : SendPlan}
    {createdThreadId : Option String} :
    OpApart (attachSendThread env draft plan createdThreadId) := by
  cases createdThreadId with
  | none => exact apart_reads (touches_checkDraftAttachments _)
  | some threadId =>
    exact .bind apart_assignDraftThreadId fun _ => apart_reads (touches_checkDraftAttachments _)

theorem apart_createDraft {input : DraftInput} : OpApart (createDraft env input) := by
  have habandon : ∀ row : DraftRow, OpApart (abandonDraft row) := fun row =>
    .bind apart_discardDrafts fun _ => .catchAll (apart_of_touches touches_r2Delete (by simp))
  refine .bind (apart_reads touches_createId) fun id => .bind (apart_reads touches_nowIso)
    fun timestamp => .bind (apart_of_touches touches_r2Put (by simp)) fun _ => .bind (.tryCatch
      (.bind (Prog.each_perform.2 fun s => ⟨rfl, ?_⟩) fun changes => ?_) fun _ => .bind (.catchAll
        (apart_of_touches touches_r2Delete (by simp))) fun _ => trivial) fun _ =>
          .bind ?_ fun exist => ?_
  · dsimp only
    split
    · refine ⟨rfl, rfl, rfl, fun hkeyed d hd => ?_⟩
      obtain hd | hd := List.mem_append.1 hd
      · exact hkeyed d hd
      · rw [List.mem_singleton.1 hd]
        rfl
    · exact Apart.refl s
  · split <;> trivial
  · exact apart_reads touches_draftReferencesExist
  · split
    · refine .bind (apart_reads touches_getDraft) fun created => ?_
      cases created with
      | some _ => trivial
      | none => exact .bind (habandon _) fun _ => trivial
    · exact .bind (habandon _) fun _ => trivial

end Apart

/-! ### The steps of a call -/

section Calls

variable {ι : Type} {envs : ι → Env} {w w' : World ι Db Label} {i : ι} {α β : Type}
  {Q : α → World ι Db Label → Prop} {A : World ι Db Label → Prop} {ids : SendIds}
  {draft : DraftRow} {jobId : String}

/-- The assertion is about jobs and what has been inserted, and other calls cannot break it. -/
structure OfJobs (envs : ι → Env) (i : ι) (A : World ι Db Label → Prop) : Prop where
  stable : (enqueueing envs).Stable i A
  congr : ∀ w w' : World ι Db Label, Apart w.store w'.store →
    (∀ id, insertedJob id w'.trace ↔ insertedJob id w.trace) → A w → A w'

theorem ofJobs_true : OfJobs envs i fun _ => True :=
  ⟨fun _ _ _ _ => trivial, fun _ _ _ _ _ => trivial⟩

theorem ofJobs_unqueued : OfJobs envs i (Unqueued (envs i)) :=
  ⟨unqueued_stable, fun _ _ _ htrace h id hm hin => h id hm ((htrace id).1 hin)⟩

theorem ofJobs_queuedFor (draftR2Key : String) (hjob : (envs i).Mints jobId) :
    OfJobs envs i (QueuedFor jobId draftR2Key) :=
  ⟨queuedFor_stable hjob, fun _ _ hapart _ h o ho => h o (hapart.jobs ▸ ho)⟩

/-- The job is there, visible, and the draft's. -/
def Queued (jobId draftR2Key : String) (w : World ι Db Label) : Prop :=
  ∃ o ∈ w.store.outboundJobs, o.id = jobId ∧ o.draftR2Key = draftR2Key ∧
    w.store.jobVisible o = true

theorem ofJobs_queued {draftR2Key : String} (hjob : (envs i).Mints jobId) :
    OfJobs envs i (Queued jobId draftR2Key) := by
  refine ⟨?_, ?_⟩
  · rintro w w' ⟨o, ho, hid, hkey, hv⟩ hl
    obtain ⟨ho', hv'⟩ := hl.rely.kept o ho (hid ▸ hjob) hv
    exact ⟨o, ho', hid, hkey, hv'⟩
  · rintro w w' hapart - ⟨o, ho, hid, hkey, hv⟩
    exact ⟨o, hapart.jobs ▸ ho, hid, hkey,
      (Db.jobVisible_congr hapart.mailboxes hapart.messages o).trans hv⟩

/-- A program that leaves jobs alone keeps what is said of them. -/
theorem safe_apart {p : Op α} (hseparate : Separate envs) (hA : OfJobs envs i A) (hp : OpApart p)
    (hw : OneJob envs w) (h : A w) :
    (enqueueing envs).Safe i (fun _ => A) (fun _ => A) p w := by
  refine Protocol.Safe.quiet hA.stable ?_ ?_ hp hw h
  · intro run hrun w hw h
    have hapart : Apart w.store (run w.store) := apart_of_same fun t _ => hrun w.store t
    exact ⟨good_of_fewer hseparate hw (fun _ => Iff.rfl) hapart.fewer,
      hA.congr w _ hapart (fun _ => Iff.rfl) h⟩
  · intro name run hrun w o hw h _
    obtain ⟨hl, hapart⟩ := hrun w.store
    refine ⟨good_callStep hseparate hw hl hapart.fewer,
      hA.congr w _ ?_ (fun _ => insertedJob_after hl) h⟩
    rw [World.after_store]
    split
    · exact hapart
    · exact Apart.refl _

/-- A program that leaves jobs alone, where nothing is known of them or matters. -/
theorem safe_apart_true {p : Op α} (hseparate : Separate envs) (hp : OpApart p)
    (hw : OneJob envs w) :
    (enqueueing envs).Safe i (fun _ _ => True) (fun _ _ => True) p w :=
  safe_apart hseparate ofJobs_true hp hw trivial

/-- What follows such a program starts anew. -/
theorem safe_after_apart {p : Op α} {f : α → Op β} {R : β → World ι Db Label → Prop}
    (hseparate : Separate envs) (hp : OpApart p) (hw : OneJob envs w)
    (hf : ∀ a w', OneJob envs w' → (enqueueing envs).Safe i R (fun _ _ => True) (f a) w') :
    (enqueueing envs).Safe i R (fun _ _ => True) (p >>= f) w :=
  Protocol.Safe.bind hw (safe_apart_true hseparate hp hw) (fun a w' hw' _ => hf a w' hw')
    fun _ _ _ h => h

/-- A query, whose answer is about the store it finds. -/
theorem safe_callQuery {l : Label} {f : Db → α} (hseparate : Separate envs) (hw : OneJob envs w)
    (hl : l.insertsNoJob = true)
    (h : ∀ w', (enqueueing envs).Later i w w' → Q (f w.store) w') :
    (enqueueing envs).Safe i Q (fun _ _ => True) (query l f) w := by
  refine Protocol.Safe.perform fun o _ => ?_
  have hgood : (enqueueing envs).Good i w (w.after i (fun _ => l) (fun s => s) o) :=
    good_callStep hseparate hw hl (Apart.refl _).fewer
  have hstore : (w.after i (fun _ => l) (fun s => s) o).store = w.store := World.after_id_store ..
  refine ⟨hgood, fun w' hlater => ?_⟩
  split
  · refine h w' ((Protocol.Later.trans ?_ hlater))
    refine ⟨hgood.inv, hgood.keeps, ⟨fun id _ hin => (insertedJob_after hl).1 hin, ?_, ?_⟩⟩
    · rw [hstore]
      exact fun _ ho _ => ho
    · rw [hstore]
      exact fun o ho _ hv => ⟨ho, hv⟩
  · trivial

/-- A statement of which nothing needs to be known but that it keeps to the protocol. -/
theorem safe_callStep {l : Nat → Label} {f : Db → Nat × Db} (hseparate : Separate envs)
    (hw : OneJob envs w) (hl : ∀ n, (l n).insertsNoJob = true)
    (h : Fewer (envs i) w.store (f w.store).2) :
    (enqueueing envs).Safe i (fun _ _ => True) (fun _ _ => True) (execute l f) w :=
  Protocol.Safe.perform fun _ _ => ⟨good_callStep hseparate hw (hl _) h, fun _ _ => by
    split <;> trivial⟩

/-! ### Jobs that are not visible -/

/-- The jobs with these identifiers are gone for good. -/
def AllGone (envs : ι → Env) (jobIds : List String) (w : World ι Db Label) : Prop :=
  ∀ id ∈ jobIds, Used envs id w.trace ∧ w.store.Gone id

theorem AllGone.keeps {jobIds : List String} (h : AllGone envs jobIds w)
    (hk : KeepsGone envs w w') : AllGone envs jobIds w' := fun id hid =>
  ⟨hk.used id (h id hid).1, hk.gone id (h id hid).1 (h id hid).2⟩

theorem safe_discardGone (hseparate : Separate envs) (jobIds : List String) (hw : OneJob envs w)
    (h : AllGone envs jobIds w) : (enqueueing envs).Safe i (fun _ _ => True) (fun _ _ => True)
      (jobRows.discardEach OutboundJobRow.id jobIds) w := by
  induction jobIds generalizing w with
  | nil => trivial
  | cons id rest ih =>
    have hone : (enqueueing envs).Safe i (fun _ _ => True) (fun _ _ => True)
        (jobRows.discard fun o => o.id == id) w := by
      refine Protocol.Safe.tryCatch (E := fun _ _ => True) hw (Protocol.Safe.bind hw
        (safe_callStep hseparate hw (fun _ => rfl) (fewer_deleteJobs fun o _ hd => ?_))
          (fun _ _ _ h => h) fun _ _ _ h => h) fun _ _ _ _ => trivial
      rw [beq_iff_eq.1 hd]
      exact .inr (h id List.mem_cons_self).2
    have hkept := Protocol.Safe.keep (fun w₁ w₂ hk (hg : AllGone envs rest w₁) => hg.keeps hk) hone
      fun id hid => h id (List.mem_cons_of_mem _ hid)
    exact Protocol.Safe.bind hw hkept (fun _ w' hw' h' => ih hw' h'.2) fun _ _ _ h => h.1

/-- The jobs of a draft that are not visible are deleted. -/
theorem safe_deleteInvalidJobs {draftR2Key : String} (hseparate : Separate envs)
    (hw : OneJob envs w) : (enqueueing envs).Safe i (fun _ _ => True) (fun _ _ => True)
      (deleteInvalidOutboundJobsForDraftR2Key draftR2Key) w := by
  refine Protocol.Safe.bind (Q := fun rows w' => AllGone envs (rows.map OutboundJobRow.id) w') hw
    (safe_callQuery hseparate hw rfl fun w' hlater => ?_) (fun rows w' hw' h => ?_) fun _ _ _ h => h
  · refine AllGone.keeps (w := w) ?_ hlater.keeps
    intro id hid
    obtain ⟨o, ho, rfl⟩ := List.mem_map.1 hid
    obtain ⟨ho, hinvisible⟩ := List.mem_filter.1 ho
    rw [Bool.and_eq_true, Bool.not_eq_true'] at hinvisible
    refine ⟨hw.used o ho, fun p hp hid => ?_⟩
    rw [List.inj_on_of_nodup_map hw.ids hp ho hid]
    exact hinvisible.2
  · exact Protocol.Safe.bind hw' (safe_discardGone hseparate _ hw' h) (fun _ _ _ _ => trivial)
      fun _ _ _ h => h

/-- No statement of the program inserts a job. -/
def InsertsNoJob (p : Op α) : Prop :=
  p.Each (fun _ => True) fun name _ => ∀ s, (name s).insertsNoJob = true

theorem insertsNoJob_deleteInvalidJobs {draftR2Key : String} :
    InsertsNoJob (deleteInvalidOutboundJobsForDraftR2Key draftR2Key) := by
  refine Prog.Each.bind (Prog.each_perform.2 fun _ => rfl) fun rows => Prog.Each.bind ?_
    fun _ => trivial
  induction rows.map OutboundJobRow.id with
  | nil => trivial
  | cons id rest ih =>
    exact Prog.Each.bind (Prog.Each.tryCatch (Prog.Each.bind (Prog.each_perform.2 fun _ => rfl)
      fun _ => trivial) fun _ => trivial) fun _ => ih

/-- A call that has inserted nothing still has not after a program that inserts nothing. -/
theorem safe_insertsNoJob {p : Op α} (hp : InsertsNoJob p) (hw : OneJob envs w)
    (h : (enqueueing envs).Safe i (fun _ _ => True) (fun _ _ => True) p w)
    (hun : Unqueued (envs i) w) :
    (enqueueing envs).Safe i (fun _ => Unqueued (envs i)) (fun _ _ => True) p w :=
  Protocol.Safe.mono hw (Protocol.Safe.frame unqueued_stable (fun _ _ _ h => h)
    (fun _ _ hl w _ h id hm hin => h id hm ((insertedJob_after (hl w.store)).1 hin)) hp h hun)
    (fun _ _ _ h => h.2) fun _ _ _ _ => trivial

/-! ### The insertion of a job -/

/-- The identifiers of a send are the call's. -/
structure SendIds.MintedBy (ids : SendIds) (env : Env) : Prop where
  job : env.Mints ids.outboundJobId
  message : env.Mints ids.outboundMessageId

/-- What is known after an attempt to insert the job that changed so many rows. -/
def AfterInsert (env : Env) (draft : DraftRow) (ids : SendIds) (changes : Nat)
    (w : World ι Db Label) : Prop :=
  if changes = 0 then Unqueued env w else QueuedFor ids.outboundJobId draft.draftR2Key w

theorem afterInsert_stable {changes : Nat} (hids : ids.MintedBy (envs i)) :
    (enqueueing envs).Stable i (AfterInsert (envs i) draft ids changes) := by
  intro w w' h hl
  rw [AfterInsert] at h ⊢
  split
  · next hc =>
    rw [if_pos hc] at h
    exact unqueued_stable _ _ h hl
  · next hc =>
    rw [if_neg hc] at h
    exact queuedFor_stable hids.job _ _ h hl

/-- The draft may get the job: it has no visible one, and the identifier is free. -/
def Db.mayInsertJob (s : Db) (draft : DraftRow) (ids : SendIds) : Bool :=
  (s.jobsOfDraft draft.draftR2Key).isEmpty &&
    !s.outboundJobs.any fun o => o.id == ids.outboundJobId

theorem Db.mayInsertJob_iff {s : Db} : s.mayInsertJob draft ids = true ↔
    (∀ o ∈ s.outboundJobs, o.draftR2Key = draft.draftR2Key → s.jobVisible o = false) ∧
      ∀ o ∈ s.outboundJobs, o.id ≠ ids.outboundJobId := by
  simp [Db.mayInsertJob, Db.jobsOfDraft]

/-- The label of the insertion, and what it does, are decided by whether it is allowed. -/
theorem good_insertOutboundJob (name : Db → Label) (run : Db → Db) {o : Outcome}
    (hseparate : Separate envs) (hids : ids.MintedBy (envs i)) (hw : OneJob envs w)
    (h : Unqueued (envs i) w)
    (hname : name w.store = .writeJob ids.outboundJobId .queued (some 0)
      (if w.store.mayInsertJob draft ids then 1 else 0))
    (hrun : run w.store = if w.store.mayInsertJob draft ids then
      jobRows.inserted w.store (outboundJobRow (envs i) draft ids) else w.store) :
    (enqueueing envs).Good i w (w.after i name run o) ∧
      (o = .done → AfterInsert (envs i) draft ids
        (if w.store.mayInsertJob draft ids then 1 else 0) (w.after i name run o)) := by
  have htrace : ∀ id, insertedJob id (w.after i name run o).trace ↔
      (o.effective = true ∧ id = ids.outboundJobId ∧ w.store.mayInsertJob draft ids = true) ∨
        insertedJob id w.trace := by
    intro id
    rw [World.after_trace, insertedJob_cons, hname, Label.writeJob.injEq]
    refine or_congr_left (and_congr_right fun _ => ?_)
    split
    · next hmay => simp [hmay, eq_comm]
    · next hmay => simp [hmay]
  by_cases hmay : o.effective = true ∧ w.store.mayInsertJob draft ids = true
  · obtain ⟨heff, hmay⟩ := hmay
    obtain ⟨hnone, hfree⟩ := Db.mayInsertJob_iff.1 hmay
    have hstore : (w.after i name run o).store =
        jobRows.inserted w.store (outboundJobRow (envs i) draft ids) := by
      rw [World.after_store, if_pos heff, hrun, if_pos hmay]
    refine ⟨good_insertedJob hseparate hw h hids.job hids.message hnone hfree hstore fun id => ?_,
      fun _ => ?_⟩
    · rw [htrace]
      simp [heff, hmay, outboundJobRow]
    · rw [AfterInsert, if_pos hmay, if_neg one_ne_zero]
      intro p hp hid
      rw [hstore] at hp
      obtain hp | hp := List.mem_append.1 hp
      · exact absurd (hid ▸ hids.job) (h.not_mints hw hp).1
      · rw [List.mem_singleton.1 hp]
        rfl
  · have hstore : (w.after i name run o).store = w.store := by
      rw [World.after_store, hrun]
      split
      · next heff => rw [if_neg fun hm => hmay ⟨heff, hm⟩]
      · rfl
    have hsame : ∀ id, insertedJob id (w.after i name run o).trace ↔ insertedJob id w.trace := by
      intro id
      rw [htrace]
      exact or_iff_right fun hin => hmay ⟨hin.1, hin.2.2⟩
    refine ⟨good_of_fewer hseparate hw hsame (by rw [hstore]; exact (Apart.refl _).fewer), ?_⟩
    rintro rfl
    rw [AfterInsert, if_pos (if_neg fun hm => hmay ⟨rfl, hm⟩)]
    exact fun id hm hin => h id hm ((hsame id).1 hin)

/-- The insertion, with its two conditions taken together. -/
theorem insertOutboundJob_eq {env : Env} : insertOutboundJob env draft ids =
    (Prog.perform
      (fun s => .writeJob ids.outboundJobId .queued (some 0)
        (if s.mayInsertJob draft ids then 1 else 0))
      (fun s => (if s.mayInsertJob draft ids then some 1
          else if (s.jobsOfDraft draft.draftR2Key).isEmpty then none else some 0,
        if s.mayInsertJob draft ids then jobRows.inserted s (outboundJobRow env draft ids) else s))
      Exn.d1 >>= fun outcome => match outcome with
        | some changes => pure changes
        | none => throw Exn.unique : Op Nat) := by
  rw [insertOutboundJob, Rows.insertWhereAs]
  congr 1
  congr 1
  funext s
  rw [Db.mayInsertJob]
  cases (s.jobsOfDraft draft.draftR2Key).isEmpty
  · rfl
  · cases !s.outboundJobs.any fun o => o.id == ids.outboundJobId <;> rfl

theorem safe_insertOutboundJob (hseparate : Separate envs) (hids : ids.MintedBy (envs i))
    (hw : OneJob envs w) (h : Unqueued (envs i) w) :
    (enqueueing envs).Safe i (AfterInsert (envs i) draft ids) (fun _ _ => True)
      (insertOutboundJob (envs i) draft ids) w := by
  rw [insertOutboundJob_eq]
  refine Protocol.Safe.bind (Q := fun outcome w' => ∀ changes, outcome = some changes →
    AfterInsert (envs i) draft ids changes w') hw (Protocol.Safe.perform fun o _ => ?_) ?_
    fun _ _ _ h => h
  · obtain ⟨hgood, hafter⟩ : _ ∧ (o = .done → AfterInsert (envs i) draft ids _ _) :=
      good_insertOutboundJob (fun s => .writeJob ids.outboundJobId .queued (some 0)
        (if s.mayInsertJob draft ids then 1 else 0)) (fun s => if s.mayInsertJob draft ids then
          jobRows.inserted s (outboundJobRow (envs i) draft ids) else s) hseparate hids hw h rfl rfl
    refine ⟨hgood, fun w' hl => ?_⟩
    split
    · next hdone =>
      intro changes hchanges
      have hafter := afterInsert_stable hids _ _ (hafter hdone) hl
      dsimp only at hchanges
      split at hchanges
      · next hmay =>
        rw [if_pos hmay] at hafter
        exact Option.some.inj hchanges ▸ hafter
      · next hmay =>
        rw [if_neg hmay] at hafter
        split at hchanges
        · cases hchanges
        · exact Option.some.inj hchanges ▸ hafter
    · trivial
  · intro outcome w' _ h
    cases outcome with
    | none => trivial
    | some changes => exact h changes rfl

theorem safe_insertAfterDeletion {deleted : Nat} (hseparate : Separate envs)
    (hids : ids.MintedBy (envs i)) (hw : OneJob envs w) (h : Unqueued (envs i) w) :
    (enqueueing envs).Safe i (AfterInsert (envs i) draft ids) (fun _ _ => True)
      (insertAfterDeletion (envs i) draft ids deleted) w := by
  rw [insertAfterDeletion]
  split
  · exact Protocol.safe_ret.2 (by rwa [AfterInsert, if_pos rfl])
  · exact safe_insertOutboundJob hseparate hids hw h

theorem safe_retryInsertJob (hseparate : Separate envs) (hids : ids.MintedBy (envs i))
    (hw : OneJob envs w) (h : Unqueued (envs i) w) :
    (enqueueing envs).Safe i (fun _ => QueuedFor ids.outboundJobId draft.draftR2Key)
      (fun _ _ => True) (retryInsertJob (envs i) draft ids) w := by
  refine Protocol.Safe.bind hw (safe_insertsNoJob insertsNoJob_deleteInvalidJobs hw
    (safe_deleteInvalidJobs hseparate hw) h) ?_ fun _ _ _ h => h
  intro deleted w hw h
  refine Protocol.Safe.bind hw (safe_insertAfterDeletion hseparate hids hw h) ?_ fun _ _ _ h => h
  intro changes w hw h
  rw [AfterInsert] at h
  split
  · exact Protocol.Safe.bind hw (safe_apart_true hseparate
      (apart_reads touches_listVisibleOutboundJobsByDraftR2Key) hw)
      (fun existing w hw _ => Protocol.Safe.bind hw (safe_apart_true hseparate
        (apart_reads touches_refuseVisibleJobs) hw) (fun _ _ _ _ => trivial) fun _ _ _ h => h)
      fun _ _ _ h => h
  · next hchanged =>
    rw [if_neg hchanged] at h
    exact h

theorem safe_createOutboundJob (hseparate : Separate envs) (hids : ids.MintedBy (envs i))
    (hw : OneJob envs w) (h : Unqueued (envs i) w) :
    (enqueueing envs).Safe i (fun _ => QueuedFor ids.outboundJobId draft.draftR2Key)
      (fun _ _ => True) (createOutboundJob (envs i) draft ids) w := by
  refine Protocol.Safe.bind hw (safe_insertOutboundJob hseparate hids hw h) ?_ fun _ _ _ h => h
  intro changes w hw h
  rw [AfterInsert] at h
  split
  · next hzero =>
    rw [if_pos hzero] at h
    refine Protocol.Safe.bind hw (safe_apart hseparate ofJobs_unqueued
      (apart_reads touches_listVisibleOutboundJobsByDraftR2Key) hw h) ?_ fun _ _ _ _ => trivial
    intro existing w hw h
    refine Protocol.Safe.bind hw (safe_apart hseparate ofJobs_unqueued
      (apart_reads touches_refuseVisibleJobs) hw h) ?_ fun _ _ _ _ => trivial
    intro _ w hw h
    exact safe_retryInsertJob hseparate hids hw h
  · next hchanged =>
    rw [if_neg hchanged] at h
    exact h

/-- What the call inserted, if it is found, is visible. -/
theorem safe_getInsertedJob (hseparate : Separate envs) (hids : ids.MintedBy (envs i))
    (hw : OneJob envs w) (h : QueuedFor ids.outboundJobId draft.draftR2Key w) :
    (enqueueing envs).Safe i
      (fun job w' => job.isSome → Queued ids.outboundJobId draft.draftR2Key w')
      (fun _ _ => True) (getOutboundJob ids.outboundJobId) w := by
  refine safe_callQuery hseparate hw rfl fun w' hlater hsome => ?_
  obtain ⟨o, ho⟩ := Option.isSome_iff_exists.1 hsome
  have hmem := List.mem_of_find?_eq_some ho
  have hfound := List.find?_some ho
  rw [Bool.and_eq_true, beq_iff_eq] at hfound
  exact (ofJobs_queued hids.job).stable w w' ⟨o, hmem, hfound.1, h o hmem hfound.1, hfound.2⟩ hlater

/-- The message of a send is of no job yet. -/
theorem safe_insertMessage {row : MessageRow} {free : Db → Bool} (hseparate : Separate envs)
    (hid : (envs i).Mints row.id) (hw : OneJob envs w) (h : Unqueued (envs i) w) :
    (enqueueing envs).Safe i (fun _ => Unqueued (envs i)) (fun _ _ => True)
      (messageRows.insert free row) w := by
  refine safe_insertsNoJob ?_ hw ?_ h
  · exact Prog.Each.bind (Prog.each_perform.2 fun _ => rfl) fun n => by split <;> trivial
  · refine Protocol.Safe.bind hw (safe_callStep hseparate hw (fun _ => rfl) ?_) ?_ fun _ _ _ h => h
    · split
      · exact fewer_insertMessage fun o ho heq => (h.not_mints hw ho).2 (heq ▸ hid)
      · exact (Apart.refl _).fewer
    · intro n w _ _
      split <;> trivial

theorem safe_writeOutboundJob {plan : SendPlan} {threadId : Option String}
    (hseparate : Separate envs) (hids : ids.MintedBy (envs i)) (hw : OneJob envs w)
    (h : Unqueued (envs i) w) :
    (enqueueing envs).Safe i (fun _ => Queued ids.outboundJobId draft.draftR2Key)
      (fun _ _ => True) (writeOutboundJob (envs i) draft plan ids threadId) w := by
  refine Protocol.Safe.bind hw (safe_insertMessage hseparate (by exact hids.message) hw h) ?_
    fun _ _ _ h => h
  intro _ w hw h
  refine Protocol.Safe.bind hw (safe_createOutboundJob hseparate hids hw h) ?_ fun _ _ _ h => h
  intro _ w hw h
  have hfor := ofJobs_queuedFor draft.draftR2Key hids.job
  refine Protocol.Safe.bind hw (safe_apart hseparate hfor (apart_reads touches_getMessage) hw h) ?_
    fun _ _ _ _ => trivial
  intro _ w hw h
  refine Protocol.Safe.bind hw (safe_apart hseparate hfor (apart_reads touches_requireRow) hw h) ?_
    fun _ _ _ _ => trivial
  intro _ w hw h
  refine Protocol.Safe.bind hw (safe_getInsertedJob hseparate hids hw h) ?_ fun _ _ _ h => h
  intro job w hw h
  cases job with
  | none => trivial
  | some job =>
    exact Protocol.Safe.mono hw (safe_apart hseparate (ofJobs_queued hids.job)
      (apart_of_touches touches_sendToOutboundQueue (by simp)) hw (h rfl)) (fun _ _ _ h => h)
      fun _ _ _ _ => trivial

/-! ### What an exception takes back -/

/-- A row of the call itself is deleted. -/
theorem safe_undo {l : Label} {f : Db → Nat × Db} (hseparate : Separate envs)
    (hw : OneJob envs w) (hl : l.insertsNoJob = true)
    (h : Fewer (envs i) w.store (f w.store).2) :
    (enqueueing envs).Safe i (fun _ _ => True) (fun _ _ => True)
      (catchAll (execute (fun _ => l) f >>= fun _ => pure ()) ()) w :=
  Protocol.Safe.tryCatch (E := fun _ _ => True) hw (Protocol.Safe.bind hw
    (safe_callStep hseparate hw (fun _ => hl) h) (fun _ _ _ _ => trivial) fun _ _ _ h => h)
    fun _ _ _ _ => trivial

theorem apart_undoSendThread {createdThreadId : Option String} :
    OpApart (undoSendThread draft createdThreadId) :=
  apart_of_touches touches_undoSendThread (by simp)

theorem apart_undoReservation {env : Env} {tenantId : String} {reserved : Int} :
    OpApart (undoReservation env tenantId reserved) :=
  apart_of_touches touches_undoReservation (by simp)

theorem safe_undoDraftSend {createdThreadId : Option String} {reserved : Int} {error : Exn}
    (hseparate : Separate envs) (hids : ids.MintedBy (envs i)) (hw : OneJob envs w) :
    (enqueueing envs).Safe i Q (fun _ _ => True)
      (undoDraftSend (envs i) draft ids createdThreadId reserved error) w := by
  refine Protocol.Safe.bind hw (safe_undo hseparate hw rfl (fewer_deleteJobs fun o _ hd => ?_)) ?_
    fun _ _ _ h => h
  · exact .inl (beq_iff_eq.1 hd ▸ hids.job)
  intro _ w hw _
  refine Protocol.Safe.bind hw (safe_undo hseparate hw rfl (fewer_deleteMessages ?_ ?_)) ?_
    fun _ _ _ h => h
  · exact fun o ho => (hw.paired o ho i).2
  · exact fun m hd => beq_iff_eq.1 hd ▸ hids.message
  intro _ w hw _
  refine safe_after_apart hseparate (.catchAll apart_restoreDraftSendState) hw fun _ w hw => ?_
  refine safe_after_apart hseparate apart_undoSendThread hw fun _ w hw => ?_
  exact safe_after_apart hseparate apart_undoReservation hw fun _ w hw => trivial

theorem safe_sendClaimedDraft (hseparate : Separate envs) (hids : ids.MintedBy (envs i))
    (hw : OneJob envs w) (h : Unqueued (envs i) w) :
    (enqueueing envs).Safe i (fun _ => Queued ids.outboundJobId draft.draftR2Key)
      (fun _ _ => True) (sendClaimedDraft (envs i) draft ids) w := by
  have hundo {γ : Type} {R : γ → World ι Db Label → Prop} (createdThreadId : Option String)
      (reserved : Int) (error : Exn) (w : World ι Db Label) (hw : OneJob envs w) :
      (enqueueing envs).Safe i R (fun _ _ => True)
        (undoDraftSend (envs i) draft ids createdThreadId reserved error) w :=
    safe_undoDraftSend hseparate hids hw
  have hpart {γ : Type} {p : Op γ} {createdThreadId : Option String} {reserved : Int}
      (hp : OpApart p) (w : World ι Db Label) (hw : OneJob envs w) (h : Unqueued (envs i) w) :
      (enqueueing envs).Safe i (fun _ => Unqueued (envs i)) (fun _ _ => True)
        (tryCatch p (undoDraftSend (envs i) draft ids createdThreadId reserved)) w :=
    Protocol.Safe.tryCatch hw (safe_apart hseparate ofJobs_unqueued hp hw h)
      fun error w hw _ => hundo createdThreadId reserved error w hw
  refine Protocol.Safe.bind hw (hpart (apart_reads touches_planDraftSend) w hw h) ?_
    fun _ _ _ h => h
  intro plan w hw h
  refine Protocol.Safe.bind hw (hpart (apart_of_touches touches_createSendThread (by simp)) w hw h)
    ?_ fun _ _ _ h => h
  intro thread w hw h
  refine Protocol.Safe.bind hw (hpart (.bind apart_attachSendThread fun _ =>
    apart_of_touches touches_reserveSendCredits (by simp)) w hw h) ?_ fun _ _ _ h => h
  intro reserved w hw h
  exact Protocol.Safe.tryCatch hw (safe_writeOutboundJob hseparate hids hw h)
    fun error w hw _ => hundo _ reserved error w hw

/-! ### The whole call -/

theorem safe_createId {kind : String} (hseparate : Separate envs) (hA : OfJobs envs i A)
    (hw : OneJob envs w) (h : A w) :
    (enqueueing envs).Safe i (fun id w => (envs i).Mints id ∧ A w) (fun _ _ => True)
      (createId (envs i) kind) w := by
  have hapart : Apart w.store { w.store with draws := w.store.draws + 1 } := ⟨rfl, rfl, rfl, id⟩
  refine Protocol.Safe.draw (good_of_fewer hseparate hw (fun _ => Iff.rfl) hapart.fewer)
    fun w' hlater => ⟨⟨kind, _, rfl⟩, ?_⟩
  refine hA.stable _ w' ?_ hlater
  exact hA.congr w _ hapart (fun _ => Iff.rfl) h

/-- What a call that has sent a draft knows: the job it has returned is there, visible and the
draft's. -/
def Enqueued (env : Env) (draftId jobId : String) (w : World ι Db Label) : Prop :=
  env.Mints jobId ∧ Queued jobId (draftR2KeyOf draftId) w

theorem safe_claimAndEnqueue (hseparate : Separate envs) (hw : OneJob envs w)
    (h : Unqueued (envs i) w) (hkey : draft.draftR2Key = draftR2KeyOf draft.id) :
    (enqueueing envs).Safe i (Enqueued (envs i) draft.id) (fun _ _ => True)
      (claimAndEnqueue (envs i) draft) w := by
  refine Protocol.Safe.bind hw (safe_createId hseparate ofJobs_unqueued hw h) ?_ fun _ _ _ h => h
  rintro outboundJobId w hw ⟨hjob, h⟩
  refine Protocol.Safe.bind hw (safe_apart hseparate ofJobs_unqueued (apart_reads touches_nowIso)
    hw h) ?_ fun _ _ _ _ => trivial
  intro timestamp w hw h
  refine Protocol.Safe.bind hw (safe_apart hseparate ofJobs_unqueued apart_claimDraftForSend hw h)
    ?_ fun _ _ _ _ => trivial
  intro claimed w hw h
  split
  · refine Protocol.Safe.bind hw (safe_apart hseparate ofJobs_unqueued
      (apart_reads touches_getDraft) hw h) ?_ fun _ _ _ _ => trivial
    intro claimedDraft w hw h
    cases claimedDraft with
    | none => exact safe_after_apart hseparate apart_abandonClaim hw fun _ _ _ => trivial
    | some _ =>
      refine Protocol.Safe.bind hw (safe_createId hseparate ofJobs_unqueued hw h) ?_
        fun _ _ _ h => h
      rintro outboundMessageId w hw ⟨hmessage, h⟩
      refine Protocol.Safe.bind hw (safe_sendClaimedDraft hseparate ⟨hjob, hmessage⟩ hw h) ?_
        fun _ _ _ h => h
      intro _ w _ h
      exact ⟨hjob, hkey ▸ h⟩
  · exact safe_after_apart hseparate (apart_reads touches_getDraft) hw fun _ _ _ => trivial

theorem safe_enqueueDraftSend {draftId : String} (hseparate : Separate envs) (hw : OneJob envs w)
    (h : Unqueued (envs i) w) :
    (enqueueing envs).Safe i (Enqueued (envs i) draftId) (fun _ _ => True)
      (enqueueDraftSend (envs i) draftId) w := by
  refine Protocol.Safe.bind (Q := fun row w => (∀ draft, row = some draft →
    draft.id = draftId ∧ draft.draftR2Key = draftR2KeyOf draft.id) ∧ Unqueued (envs i) w) hw
    (safe_callQuery hseparate hw rfl fun w' hlater => ⟨fun draft hdraft => ?_,
      unqueued_stable _ _ h hlater⟩) ?_ fun _ _ _ h => h
  · have hmem := List.mem_of_find?_eq_some hdraft
    have hfound := List.find?_some hdraft
    rw [Bool.and_eq_true, beq_iff_eq] at hfound
    exact ⟨hfound.1, hw.keyed draft hmem⟩
  · rintro row w hw ⟨hrow, h⟩
    cases row with
    | none => trivial
    | some draft =>
      obtain ⟨rfl, hkey⟩ := hrow draft rfl
      change (enqueueing envs).Safe i _ _ (if draft.claimable then _ else _) w
      split
      · exact safe_claimAndEnqueue hseparate hw h hkey
      · trivial

end Calls

end MailRuntime
