import MailRuntime.Interaction.RelyGuarantee
import MailRuntime.Outbound.Enqueue

/-!
# One visible job for a draft

Any number of calls create drafts, enqueue their sends, delete and cancel them at once. A job is
inserted only where its draft has no visible one, which would not be enough if a job could become
visible that was not: a job is visible while its message is, and messages are inserted all the
time. What keeps a job from becoming visible is that nobody inserts a message twice.

## What is proved

The invariant (`OneJob`), and what each kind of statement keeps of it and guarantees to the other
calls (`Aside.good`, `good_insertMessage`, `good_insertJob`, `good_deleteJobs`,
`good_deleteMessages`).
-/

namespace MailRuntime

open Js Interaction

/-! ### Identifiers -/

/-- The environment draws the identifier. -/
def Env.Mints (env : Env) (id : String) : Prop := ∃ kind n, env.createId kind n = id

/-- No two calls draw the same identifier. -/
def Separate {ι : Type} (envs : ι → Env) : Prop :=
  ∀ i k id, (envs i).Mints id → (envs k).Mints id → i = k

section

variable {ι : Type} {envs : ι → Env} {w w' w'' : World ι Db Label} {i k : ι} {id : String}
  {s s' : Db} {env : Env} {o : Outcome} {name : Db → Label} {run : Db → Db} {e : Event ι Label}

/-- A job has been inserted under the identifier. -/
def insertedJob (id : String) (trace : List (Event ι Label)) : Prop :=
  ∃ e ∈ trace, e.outcome.effective = true ∧ e.label = .writeJob id .queued (some 0) 1

theorem insertedJob_cons {trace : List (Event ι Label)} : insertedJob id (e :: trace) ↔
    (e.outcome.effective = true ∧ e.label = .writeJob id .queued (some 0) 1) ∨
      insertedJob id trace := List.exists_mem_cons_iff ..

/-- The identifier is none of those that are still to come. -/
def Used (envs : ι → Env) (id : String) (trace : List (Event ι Label)) : Prop :=
  (∀ i, ¬ (envs i).Mints id) ∨ insertedJob id trace

/-- No job with the identifier is visible. -/
def Db.Gone (s : Db) (id : String) : Prop :=
  ∀ o ∈ s.outboundJobs, o.id = id → s.jobVisible o = false

/-- No two visible jobs are of one draft. -/
def Db.OneVisible (s : Db) : Prop :=
  ∀ o ∈ s.outboundJobs, ∀ p ∈ s.outboundJobs, s.jobVisible o = true → s.jobVisible p = true →
    o.draftR2Key = p.draftR2Key → o = p

/-- The R2 key of every draft is that of its identifier. -/
def Db.DraftsKeyed (s : Db) : Prop := ∀ d ∈ s.drafts, d.draftR2Key = draftR2KeyOf d.id

/-! ### The protocol -/

/-- What holds throughout a run. -/
structure OneJob (envs : ι → Env) (w : World ι Db Label) : Prop where
  ids : (w.store.outboundJobs.map OutboundJobRow.id).Nodup
  one : w.store.OneVisible
  keyed : w.store.DraftsKeyed
  used : ∀ o ∈ w.store.outboundJobs, Used envs o.id w.trace
  paired : ∀ o ∈ w.store.outboundJobs, ∀ i, (envs i).Mints o.id ↔ (envs i).Mints o.messageId

/-- What every step keeps to: a job that is gone stays gone. -/
structure KeepsGone (envs : ι → Env) (w w' : World ι Db Label) : Prop where
  mailboxes : w'.store.mailboxes = w.store.mailboxes
  used : ∀ id, Used envs id w.trace → Used envs id w'.trace
  gone : ∀ id, Used envs id w.trace → w.store.Gone id → w'.store.Gone id

/-- What a call relies on: the others leave alone what it has inserted, and insert nothing under
its identifiers. -/
structure LeavesJobs (env : Env) (w w' : World ι Db Label) : Prop where
  inserted : ∀ id, env.Mints id → insertedJob id w'.trace → insertedJob id w.trace
  jobs : ∀ o ∈ w'.store.outboundJobs, env.Mints o.id → o ∈ w.store.outboundJobs
  kept : ∀ o ∈ w.store.outboundJobs, env.Mints o.id → w.store.jobVisible o = true →
    o ∈ w'.store.outboundJobs ∧ w'.store.jobVisible o = true

/-- The protocol of the calls. -/
def enqueueing (envs : ι → Env) : Protocol ι Db Label where
  inv := OneJob envs
  keeps := KeepsGone envs
  rely i := LeavesJobs (envs i)
  allow _ _ _ _ := True
  keeps_refl _ := ⟨rfl, fun _ h => h, fun _ _ h => h⟩
  keeps_trans _ _ _ h h' := ⟨h'.mailboxes.trans h.mailboxes, fun id hu => h'.used id (h.used id hu),
    fun id hu hg => h'.gone id (h.used id hu) (h.gone id hu hg)⟩
  rely_refl _ _ := ⟨fun _ _ h => h, fun _ h _ => h, fun _ h _ hv => ⟨h, hv⟩⟩
  rely_trans _ _ _ _ h h' := ⟨fun id hm hi => h.inserted id hm (h'.inserted id hm hi),
    fun o ho hm => h.jobs o (h'.jobs o ho hm) hm,
    fun o ho hm hv => h'.kept o (h.kept o ho hm hv).1 hm (h.kept o ho hm hv).2⟩

/-! ### Visibility -/

theorem Db.jobVisible_congr (hmailboxes : s'.mailboxes = s.mailboxes)
    (hmessages : s'.messages = s.messages) (o : OutboundJobRow) :
    s'.jobVisible o = s.jobVisible o := by
  simp only [Db.jobVisible, Db.hasMessage, Db.messageVisible, Db.ownsMailbox, hmailboxes, hmessages]

/-- Jobs may go, and those that were not visible are not. -/
theorem Db.OneVisible.of_fewer (h : s.OneVisible)
    (hjobs : ∀ o ∈ s'.outboundJobs, o ∈ s.outboundJobs)
    (hvisible : ∀ o ∈ s'.outboundJobs, s'.jobVisible o = true → s.jobVisible o = true) :
    s'.OneVisible := fun o ho p hp hov hpv hkey =>
  h o (hjobs o ho) p (hjobs p hp) (hvisible o ho hov) (hvisible p hp hpv) hkey

theorem Db.Gone.of_fewer (h : s.Gone id) (hjobs : ∀ o ∈ s'.outboundJobs, o ∈ s.outboundJobs)
    (hvisible : ∀ o ∈ s'.outboundJobs, s'.jobVisible o = true → s.jobVisible o = true) :
    s'.Gone id := by
  intro o ho hid
  by_contra hv
  have hvisible := hvisible o ho (Bool.eq_true_of_not_eq_false hv)
  rw [h o (hjobs o ho) hid] at hvisible
  cases hvisible

/-! ### What a step does to the store -/

/-- Jobs may go that are this call's or not visible, none comes and none becomes visible. -/
structure Fewer (env : Env) (s s' : Db) : Prop where
  mailboxes : s'.mailboxes = s.mailboxes
  keyed : s.DraftsKeyed → s'.DraftsKeyed
  ids : (s'.outboundJobs.map OutboundJobRow.id).Sublist (s.outboundJobs.map OutboundJobRow.id)
  jobs : ∀ o ∈ s'.outboundJobs, o ∈ s.outboundJobs
  visible : ∀ o ∈ s'.outboundJobs, s'.jobVisible o = true → s.jobVisible o = true
  kept : ∀ o ∈ s.outboundJobs, ¬ env.Mints o.id → s.jobVisible o = true →
    o ∈ s'.outboundJobs ∧ s'.jobVisible o = true

/-- The statement leaves jobs, messages and mailboxes alone, and the keys of drafts right. -/
structure Apart (s s' : Db) : Prop where
  jobs : s'.outboundJobs = s.outboundJobs
  messages : s'.messages = s.messages
  mailboxes : s'.mailboxes = s.mailboxes
  keyed : s.DraftsKeyed → s'.DraftsKeyed

theorem Apart.refl (s : Db) : Apart s s := ⟨rfl, rfl, rfl, id⟩

theorem Apart.fewer (h : Apart s s') : Fewer env s s' := by
  have hvisible := Db.jobVisible_congr h.mailboxes h.messages
  refine ⟨h.mailboxes, h.keyed, by rw [h.jobs], by rw [h.jobs]; exact fun _ ho => ho, ?_, ?_⟩
  · intro o _ hv
    rwa [hvisible] at hv
  · intro o ho _ hv
    rw [h.jobs, hvisible]
    exact ⟨ho, hv⟩

/-- Jobs are deleted that are this call's or gone. -/
theorem fewer_deleteJobs {doomed : OutboundJobRow → Bool}
    (hdoomed : ∀ o ∈ s.outboundJobs, doomed o = true → env.Mints o.id ∨ s.Gone o.id) :
    Fewer env s (jobRows.deleted s doomed).2 := by
  refine ⟨rfl, id, List.filter_sublist.map _, fun o ho => List.mem_of_mem_filter ho,
    fun _ _ hv => hv, fun o ho hm hv => ⟨List.mem_filter.2 ⟨ho, ?_⟩, hv⟩⟩
  rw [Bool.not_eq_true']
  refine Bool.eq_false_iff.2 fun hd => ?_
  obtain hmine | hgone := hdoomed o ho hd
  · exact hm hmine
  · rw [hgone o ho rfl] at hv
    cases hv

theorem Db.jobVisible_iff {p : OutboundJobRow} : s.jobVisible p = true ↔
    ∃ m ∈ s.messages, m.id = p.messageId ∧ s.messageVisible m = true := by
  simp only [Db.jobVisible, Db.hasMessage, List.any_eq_true, Bool.and_eq_true, beq_iff_eq]

/-- Messages are deleted that are this call's. -/
theorem fewer_deleteMessages {doomed : MessageRow → Bool}
    (hpaired : ∀ o ∈ s.outboundJobs, env.Mints o.messageId → env.Mints o.id)
    (hdoomed : ∀ m, doomed m = true → env.Mints m.id) :
    Fewer env s (messageRows.deleted s doomed).2 := by
  refine ⟨rfl, id, List.Sublist.refl _, fun _ ho => ho, fun o _ hv => ?_, fun o ho hm hv => ?_⟩
  · obtain ⟨m, hmem, hm⟩ := Db.jobVisible_iff.1 hv
    exact Db.jobVisible_iff.2 ⟨m, List.mem_of_mem_filter hmem, hm⟩
  · obtain ⟨m, hmem, hid, hmv⟩ := Db.jobVisible_iff.1 hv
    refine ⟨ho, Db.jobVisible_iff.2 ⟨m, List.mem_filter.2 ⟨hmem, ?_⟩, hid, hmv⟩⟩
    rw [Bool.not_eq_true']
    exact Bool.eq_false_iff.2 fun hd => hm (hpaired o ho (hid ▸ hdoomed m hd))

/-- A message is inserted that is of no job. -/
theorem fewer_insertMessage {row : MessageRow}
    (hrow : ∀ o ∈ s.outboundJobs, o.messageId ≠ row.id) :
    Fewer env s (messageRows.inserted s row) := by
  refine ⟨rfl, id, List.Sublist.refl _, fun _ ho => ho, fun o ho hv => ?_, fun o ho _ hv => ?_⟩
  · obtain ⟨m, hmem, hid, hmv⟩ := Db.jobVisible_iff.1 hv
    obtain hmem | hmem := List.mem_append.1 hmem
    · exact Db.jobVisible_iff.2 ⟨m, hmem, hid, hmv⟩
    · rw [List.mem_singleton.1 hmem] at hid
      exact absurd hid.symm (hrow o ho)
  · obtain ⟨m, hmem, hm⟩ := Db.jobVisible_iff.1 hv
    exact ⟨ho, Db.jobVisible_iff.2 ⟨m, List.mem_append_left _ hmem, hm⟩⟩

/-! ### What a step does to the world -/

theorem good_of_fewer (hseparate : Separate envs) (hw : OneJob envs w)
    (htrace : ∀ id, insertedJob id w'.trace ↔ insertedJob id w.trace)
    (h : Fewer (envs i) w.store w'.store) : (enqueueing envs).Good i w w' := by
  have hused : ∀ id, Used envs id w'.trace ↔ Used envs id w.trace := fun id =>
    or_congr_right (htrace id)
  refine ⟨⟨hw.ids.sublist h.ids, hw.one.of_fewer h.jobs h.visible, h.keyed hw.keyed,
    fun o ho => (hused _).2 (hw.used o (h.jobs o ho)), fun o ho => hw.paired o (h.jobs o ho)⟩,
    ⟨h.mailboxes, fun id => (hused id).2, fun id _ hg => hg.of_fewer h.jobs h.visible⟩,
    fun k hk => ⟨fun id _ => (htrace id).1, fun o ho _ => h.jobs o ho, fun o ho hm hv => ?_⟩⟩
  exact h.kept o ho (fun hi => hk (hseparate k i _ hm hi)) hv

/-- The label is not that of an insertion of a job. -/
def Label.insertsNoJob : Label → Bool
  | .writeJob _ .queued (some 0) _ => false
  | _ => true

theorem insertedJob_after (hl : (name w.store).insertsNoJob = true) :
    insertedJob id (w.after i name run o).trace ↔ insertedJob id w.trace := by
  rw [World.after_trace, insertedJob_cons]
  refine or_iff_right fun h => ?_
  have hlabel : name w.store = .writeJob id .queued (some 0) 1 := h.2
  rw [hlabel] at hl
  cases hl

/-- A statement that inserts no job, whatever becomes of it. -/
theorem good_callStep (hseparate : Separate envs) (hw : OneJob envs w)
    (hl : (name w.store).insertsNoJob = true) (h : Fewer (envs i) w.store (run w.store)) :
    (enqueueing envs).Good i w (w.after i name run o) := by
  refine good_of_fewer hseparate hw (fun _ => insertedJob_after hl) ?_
  rw [World.after_store]
  split
  · exact h
  · exact (Apart.refl _).fewer

/-- The call has inserted no job yet. -/
def Unqueued (env : Env) (w : World ι Db Label) : Prop :=
  ∀ id, env.Mints id → ¬ insertedJob id w.trace

theorem unqueued_stable : (enqueueing envs).Stable i (Unqueued (envs i)) :=
  fun _ _ h hl id hm hi => h id hm (hl.rely.inserted id hm hi)

/-- Then it has no job, and no job has a message of it. -/
theorem Unqueued.not_mints (h : Unqueued (envs i) w) (hw : OneJob envs w) {p : OutboundJobRow}
    (hp : p ∈ w.store.outboundJobs) : ¬ (envs i).Mints p.id ∧ ¬ (envs i).Mints p.messageId := by
  have hid : ¬ (envs i).Mints p.id := by
    intro hm
    obtain hold | hin := hw.used p hp
    · exact hold i hm
    · exact h _ hm hin
  exact ⟨hid, fun hm => hid ((hw.paired p hp i).2 hm)⟩

/-- Every job with the identifier is the draft's. -/
def QueuedFor (jobId draftR2Key : String) (w : World ι Db Label) : Prop :=
  ∀ o ∈ w.store.outboundJobs, o.id = jobId → o.draftR2Key = draftR2Key

theorem queuedFor_stable {jobId draftR2Key : String} (hjob : (envs i).Mints jobId) :
    (enqueueing envs).Stable i (QueuedFor jobId draftR2Key) :=
  fun _ _ h hl o ho hid => h o (hl.rely.jobs o ho (hid ▸ hjob)) hid

/-- A job of this call is inserted whose draft has no visible one. -/
theorem good_insertedJob {row : OutboundJobRow} (hseparate : Separate envs) (hw : OneJob envs w)
    (h : Unqueued (envs i) w) (hid : (envs i).Mints row.id)
    (hmessage : (envs i).Mints row.messageId)
    (hnone : ∀ o ∈ w.store.outboundJobs, o.draftR2Key = row.draftR2Key →
      w.store.jobVisible o = false)
    (hfree : ∀ o ∈ w.store.outboundJobs, o.id ≠ row.id)
    (hstore : w'.store = jobRows.inserted w.store row)
    (htrace : ∀ id, insertedJob id w'.trace ↔ id = row.id ∨ insertedJob id w.trace) :
    (enqueueing envs).Good i w w' := by
  have hjobs : ∀ o, o ∈ w'.store.outboundJobs ↔ o ∈ w.store.outboundJobs ∨ o = row := by
    intro o
    rw [hstore]
    exact List.mem_append.trans (or_congr_right List.mem_singleton)
  have hvisible : ∀ o, w'.store.jobVisible o = w.store.jobVisible o := by
    rw [hstore]
    exact fun _ => rfl
  have hmailboxes : w'.store.mailboxes = w.store.mailboxes := by rw [hstore]; rfl
  have hdrafts : w'.store.drafts = w.store.drafts := by rw [hstore]; rfl
  have hused : ∀ id, Used envs id w.trace → Used envs id w'.trace := fun id hu =>
    hu.imp_right fun hin => (htrace id).2 (.inr hin)
  have hnew : ∀ k, k ≠ i → ¬ (envs k).Mints row.id := fun k hk hm => hk (hseparate k i _ hm hid)
  refine ⟨⟨?_, ?_, ?_, ?_, ?_⟩, ⟨hmailboxes, hused, ?_⟩, fun k hk => ⟨?_, ?_, ?_⟩⟩
  · rw [hstore]
    simp only [jobRows, Rows.inserted, List.map_append, List.map_cons, List.map_nil]
    refine List.nodup_append.2 ⟨hw.ids, List.nodup_singleton _, fun a ha b hb => ?_⟩
    obtain ⟨o, ho, rfl⟩ := List.mem_map.1 ha
    rw [List.mem_singleton.1 hb]
    exact hfree o ho
  · intro o ho p hp hov hpv hkey
    rw [hvisible] at hov hpv
    obtain ho | rfl := (hjobs o).1 ho
    · obtain hp | rfl := (hjobs p).1 hp
      · exact hw.one o ho p hp hov hpv hkey
      · rw [hnone o ho hkey] at hov
        cases hov
    · obtain hp | rfl := (hjobs p).1 hp
      · rw [hnone p hp hkey.symm] at hpv
        cases hpv
      · rfl
  · intro d hd
    rw [hdrafts] at hd
    exact hw.keyed d hd
  · intro o ho
    obtain ho | rfl := (hjobs o).1 ho
    · exact hused _ (hw.used o ho)
    · exact .inr ((htrace _).2 (.inl rfl))
  · intro o ho k
    obtain ho | rfl := (hjobs o).1 ho
    · exact hw.paired o ho k
    · refine ⟨fun hm => ?_, fun hm => ?_⟩
      · rwa [hseparate k i _ hm hid]
      · rwa [hseparate k i _ hm hmessage]
  · intro id hu hgone o ho hoid
    rw [hvisible]
    obtain ho | rfl := (hjobs o).1 ho
    · exact hgone o ho hoid
    · subst hoid
      obtain hold | hin := hu
      · exact absurd hid (hold i)
      · exact absurd hin (h _ hid)
  · intro id hm hin
    obtain rfl | hin := (htrace id).1 hin
    · exact absurd hm (hnew k hk)
    · exact hin
  · intro o ho hm
    obtain ho | rfl := (hjobs o).1 ho
    · exact ho
    · exact absurd hm (hnew k hk)
  · intro o ho _ hv
    rw [hvisible]
    exact ⟨(hjobs o).2 (.inl ho), hv⟩

end

end MailRuntime
