import MailRuntime.Routes.SesWebhook

/-!
# A message, its job and its draft

The three rows that the outcome of a send is written to. They are found by identifiers and
keys that no write of a status changes, so a write to one of them is seen in that one and
leaves the other two as they were.

## What is proved

`Keeps.tracked`: whatever keeps the identifying columns keeps the three rows together. From
it, what each status write does to them, and that a program which touches none of the
tables involved does nothing.
-/

namespace MailRuntime

open Js Interaction

/-- The visible row of a message, its one visible job and the one draft of that job. -/
structure Tracked (s : Db) (messageId : String) (m : MessageRow) (j : OutboundJobRow)
    (d : DraftRow) : Prop where
  message : s.message messageId = some m
  job : s.jobsOfMessage messageId = [j]
  draft : s.lifecycleDrafts j.draftR2Key = [d]

/-- The rows of the three tables change, but not in the columns that they are found by. -/
structure Keeps (s s' : Db) (f : MessageRow → MessageRow) (g : OutboundJobRow → OutboundJobRow)
    (k : DraftRow → DraftRow) : Prop where
  mailboxes : s'.mailboxes = s.mailboxes
  agents : s'.agents = s.agents
  messages : s'.messages = s.messages.map f
  jobs : s'.outboundJobs = s.outboundJobs.map g
  drafts : s'.drafts = s.drafts.map k
  message_keys : ∀ m, (f m).id = m.id ∧ (f m).tenantId = m.tenantId ∧
    (f m).mailboxId = m.mailboxId
  job_keys : ∀ j, (g j).id = j.id ∧ (g j).messageId = j.messageId ∧
    (g j).draftR2Key = j.draftR2Key
  draft_keys : ∀ d, (k d).tenantId = d.tenantId ∧ (k d).agentId = d.agentId ∧
    (k d).mailboxId = d.mailboxId ∧ (k d).draftR2Key = d.draftR2Key

namespace Keeps

variable {s s' : Db} {f : MessageRow → MessageRow} {g : OutboundJobRow → OutboundJobRow}
  {k : DraftRow → DraftRow}

theorem ownsMailbox (h : Keeps s s' f g k) (tenantId mailboxId : String) :
    s'.ownsMailbox tenantId mailboxId = s.ownsMailbox tenantId mailboxId := by
  unfold Db.ownsMailbox
  rw [h.mailboxes]

theorem messageVisible (h : Keeps s s' f g k) (m : MessageRow) :
    s'.messageVisible (f m) = s.messageVisible m := by
  unfold Db.messageVisible
  rw [h.ownsMailbox, (h.message_keys m).2.1, (h.message_keys m).2.2]

theorem message (h : Keeps s s' f g k) (messageId : String) :
    s'.message messageId = (s.message messageId).map f := by
  unfold Db.message
  rw [h.messages, List.find?_map]
  congr 2
  funext m
  simp [(h.message_keys m).1, h.messageVisible m]

theorem hasMessage (h : Keeps s s' f g k) (messageId : String) :
    s'.hasMessage messageId = s.hasMessage messageId := by
  unfold Db.hasMessage
  rw [h.messages, List.any_map]
  congr 1
  funext m
  simp [(h.message_keys m).1, h.messageVisible m]

theorem jobsOfMessage (h : Keeps s s' f g k) (messageId : String) :
    s'.jobsOfMessage messageId = (s.jobsOfMessage messageId).map g := by
  unfold Db.jobsOfMessage
  rw [h.jobs, List.filter_map]
  congr 2
  funext j
  simp [Db.jobVisible, (h.job_keys j).2.1, h.hasMessage]

theorem lifecycleDrafts (h : Keeps s s' f g k) (draftR2Key : String) :
    s'.lifecycleDrafts draftR2Key = (s.lifecycleDrafts draftR2Key).map k := by
  unfold Db.lifecycleDrafts
  rw [h.drafts, List.filter_map]
  congr 2
  funext d
  obtain ⟨htenant, hagent, hmailbox, hkey⟩ := h.draft_keys d
  have howns : s'.ownsAgent d.tenantId d.agentId = s.ownsAgent d.tenantId d.agentId := by
    unfold Db.ownsAgent
    rw [h.agents]
  simp [Db.draftOwned, htenant, hagent, hmailbox, hkey, howns, h.ownsMailbox]

/-- The three rows stay together. -/
theorem tracked (h : Keeps s s' f g k) {messageId : String} {m : MessageRow}
    {j : OutboundJobRow} {d : DraftRow} (ht : Tracked s messageId m j d) :
    Tracked s' messageId (f m) (g j) (k d) where
  message := by rw [h.message, ht.message, Option.map_some]
  job := by rw [h.jobsOfMessage, ht.job, List.map_singleton]
  draft := by rw [h.lifecycleDrafts, (h.job_keys j).2.2, ht.draft, List.map_singleton]

end Keeps

/-- The tables that the three rows are found in. -/
def trackedTables : List Table := [.mailboxes, .agents, .messages, .outboundJobs, .drafts]

section

variable {s s' : Db} {messageId : String} {m : MessageRow} {j : OutboundJobRow} {d : DraftRow}
  {α : Type}

theorem keeps_of_same (h : ∀ t ∈ trackedTables, t.Same s s') : Keeps s s' id id id where
  mailboxes := (h .mailboxes (by decide)).symm
  agents := (h .agents (by decide)).symm
  messages := by
    rw [List.map_id]
    exact (h .messages (by decide)).symm
  jobs := by
    rw [List.map_id]
    exact (h .outboundJobs (by decide)).symm
  drafts := by
    rw [List.map_id]
    exact (h .drafts (by decide)).symm
  message_keys _ := ⟨rfl, rfl, rfl⟩
  job_keys _ := ⟨rfl, rfl, rfl⟩
  draft_keys _ := ⟨rfl, rfl, rfl, rfl⟩

/-- A program that touches none of the tables leaves the three rows as they are. -/
theorem Tracked.of_touches {ts : List Table} {p : Op α} (hp : Touches ts p)
    (hts : ∀ t ∈ trackedTables, t ∉ ts) (h : Tracked s messageId m j d) :
    Tracked (p.run s).2 messageId m j d :=
  (keeps_of_same fun t ht => hp.run_same (hts t ht) s).tracked h

theorem Tracked.of_run {ts : List Table} {p : Op α} {r : Except Exn α}
    (h : Tracked s messageId m j d) (hp : Touches ts p) (hts : ∀ t ∈ trackedTables, t ∉ ts)
    (hrun : p.run s = (r, s')) : Tracked s' messageId m j d := by
  have ht := h.of_touches hp hts
  rw [hrun] at ht
  exact ht

/-! ### Writes -/

theorem Tracked.message_id (h : Tracked s messageId m j d) :
    m.id = messageId ∧ s.messageVisible m = true := by
  have hm := List.find?_some h.message
  simpa using hm

theorem Tracked.job_visible (h : Tracked s messageId m j d) :
    j.messageId = messageId ∧ s.jobVisible j = true := by
  have hj : j ∈ s.jobsOfMessage messageId := by simp [h.job]
  simpa using (List.mem_filter.1 hj).2

theorem Tracked.draft_owned (h : Tracked s messageId m j d) : s.draftOwned d = true := by
  have hd : d ∈ s.lifecycleDrafts j.draftR2Key := by simp [h.draft]
  have hd' := (List.mem_filter.1 hd).2
  rw [Bool.and_eq_true] at hd'
  exact hd'.2

theorem keeps_updateMessage (s : Db) (target : MessageRow → Bool) (set : MessageRow → MessageRow)
    (hset : ∀ r, (set r).id = r.id ∧ (set r).tenantId = r.tenantId ∧
      (set r).mailboxId = r.mailboxId) :
    Keeps s (messageRows.updated s target set).2
      (fun r => if target r then set r else r) id id where
  mailboxes := rfl
  agents := rfl
  messages := rfl
  jobs := by rw [List.map_id]; rfl
  drafts := by rw [List.map_id]; rfl
  message_keys r := by
    split
    · exact hset r
    · exact ⟨rfl, rfl, rfl⟩
  job_keys _ := ⟨rfl, rfl, rfl⟩
  draft_keys _ := ⟨rfl, rfl, rfl, rfl⟩

/-- An `UPDATE` of the message. -/
theorem Tracked.updateMessage (h : Tracked s messageId m j d) (target : MessageRow → Bool)
    (set : MessageRow → MessageRow)
    (hset : ∀ r, (set r).id = r.id ∧ (set r).tenantId = r.tenantId ∧
      (set r).mailboxId = r.mailboxId) :
    Tracked (messageRows.updated s target set).2 messageId (if target m then set m else m) j d :=
  (keeps_updateMessage s target set hset).tracked h

/-- An `UPDATE` of the job. -/
theorem Tracked.updateJob (h : Tracked s messageId m j d) (target : OutboundJobRow → Bool)
    (set : OutboundJobRow → OutboundJobRow)
    (hset : ∀ r, (set r).id = r.id ∧ (set r).messageId = r.messageId ∧
      (set r).draftR2Key = r.draftR2Key) :
    Tracked (jobRows.updated s target set).2 messageId m (if target j then set j else j) d := by
  have hkeeps : Keeps s (jobRows.updated s target set).2 id
      (fun r => if target r then set r else r) id :=
    { mailboxes := rfl
      agents := rfl
      messages := by rw [List.map_id]; rfl
      jobs := rfl
      drafts := by rw [List.map_id]; rfl
      message_keys := fun _ => ⟨rfl, rfl, rfl⟩
      job_keys := fun r => by
        split
        · exact hset r
        · exact ⟨rfl, rfl, rfl⟩
      draft_keys := fun _ => ⟨rfl, rfl, rfl, rfl⟩ }
  exact hkeeps.tracked h

/-- An `UPDATE` of the draft. -/
theorem Tracked.updateDraft (h : Tracked s messageId m j d) (target : DraftRow → Bool)
    (set : DraftRow → DraftRow)
    (hset : ∀ r, (set r).tenantId = r.tenantId ∧ (set r).agentId = r.agentId ∧
      (set r).mailboxId = r.mailboxId ∧ (set r).draftR2Key = r.draftR2Key) :
    Tracked (draftRows.updated s target set).2 messageId m j (if target d then set d else d) := by
  have hkeeps : Keeps s (draftRows.updated s target set).2 id id
      (fun r => if target r then set r else r) :=
    { mailboxes := rfl
      agents := rfl
      messages := by rw [List.map_id]; rfl
      jobs := by rw [List.map_id]; rfl
      drafts := rfl
      message_keys := fun _ => ⟨rfl, rfl, rfl⟩
      job_keys := fun _ => ⟨rfl, rfl, rfl⟩
      draft_keys := fun r => by
        split
        · exact hset r
        · exact ⟨rfl, rfl, rfl, rfl⟩ }
  exact hkeeps.tracked h

/-! ### The status writes -/

theorem run_requireStateUpdateApplied (changes : Nat) (target : String) (s : Db) :
    ((requireStateUpdateApplied changes target).run s).2 = s := by
  unfold requireStateUpdateApplied
  split <;> rfl

theorem run_updateMessageStatus (messageId : String) (status : MessageStatus) (s : Db) :
    ((updateMessageStatus messageId status).run s).2 =
      (messageRows.updated s (fun r => r.id == messageId && s.messageVisible r) fun r =>
        { r with status := status }).2 := by
  simp only [updateMessageStatus, MailRuntime.updateMessage, Rows.update, Rows.updateAs, execute,
    Prog.run_bind, Prog.run_perform, Prog.andThen_ok, run_requireStateUpdateApplied]

theorem Tracked.updateMessageStatus (h : Tracked s messageId m j d) (status : MessageStatus) :
    Tracked ((updateMessageStatus messageId status).run s).2 messageId
      { m with status := status } j d := by
  have htarget : (m.id == messageId && s.messageVisible m) = true := by
    simpa using h.message_id
  have hnew := h.updateMessage (fun r => r.id == messageId && s.messageVisible r)
    (fun r => { r with status := status }) fun _ => ⟨rfl, rfl, rfl⟩
  rw [if_pos htarget] at hnew
  rw [run_updateMessageStatus]
  exact hnew

theorem Tracked.drawn (h : Tracked s messageId m j d) (n : Nat) :
    Tracked { s with draws := n } messageId m j d :=
  ⟨h.message, h.job, h.draft⟩

theorem Tracked.updateOutboundJobStatus (h : Tracked s messageId m j d) (env : Env)
    (status : JobStatus) (lastError : Option String) :
    ∃ j', j'.status = status ∧
      Tracked ((updateOutboundJobStatus env j.id status lastError).run s).2 messageId m j' d := by
  have hstate : ((MailRuntime.updateOutboundJobStatus env j.id status lastError).run s).2 =
      (jobRows.updated { s with draws := s.draws + 1 }
        (fun r => r.id == j.id && s.jobVisible r) fun r =>
          { r with
            status := status, retryCount := r.retryCount, nextRetryAt := none
            lastError := lastError, updatedAt := env.clock s.draws }).2 := by
    simp only [MailRuntime.updateOutboundJobStatus, nowIso, Rows.updateAs, execute, Prog.run_bind,
      Prog.run_draw, Prog.run_perform, Prog.andThen_ok, run_requireStateUpdateApplied]
    rfl
  have htarget : (j.id == j.id && s.jobVisible j) = true := by
    simpa using h.job_visible.2
  have hnew := (h.drawn (s.draws + 1)).updateJob
    (fun r => r.id == j.id && s.jobVisible r)
    (fun r => { r with
      status := status, retryCount := r.retryCount, nextRetryAt := none, lastError := lastError
      updatedAt := env.clock s.draws }) fun _ => ⟨rfl, rfl, rfl⟩
  rw [if_pos htarget] at hnew
  rw [hstate]
  exact ⟨_, rfl, hnew⟩

theorem Tracked.markDraftStatus (h : Tracked s messageId m j d) (env : Env) (status : DraftStatus) :
    ∃ d', d'.status = status ∧
      Tracked ((markDraftStatus env d.id status).run s).2 messageId m j d' := by
  have hstate : ((MailRuntime.markDraftStatus env d.id status).run s).2 =
      (draftRows.updated { s with draws := s.draws + 1 }
        (fun r => r.id == d.id && s.draftOwned r) fun r =>
          { r with status := status, updatedAt := env.clock s.draws }).2 := by
    simp only [MailRuntime.markDraftStatus, nowIso, Rows.updateAs, execute, Prog.run_bind,
      Prog.run_draw, Prog.run_perform, Prog.andThen_ok, run_requireStateUpdateApplied]
    rfl
  have htarget : (d.id == d.id && s.draftOwned d) = true := by
    simpa using h.draft_owned
  have hnew := (h.drawn (s.draws + 1)).updateDraft
    (fun r => r.id == d.id && s.draftOwned r)
    (fun r => { r with status := status, updatedAt := env.clock s.draws })
    fun _ => ⟨rfl, rfl, rfl, rfl⟩
  rw [if_pos htarget] at hnew
  rw [hstate]
  exact ⟨_, rfl, hnew⟩

end

end MailRuntime
