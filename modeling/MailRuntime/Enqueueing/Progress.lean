import MailRuntime.Outbound.Enqueue
import MailRuntime.Retrying.Snapshots

/-!
# How far a send has come

What `enqueueDraftSend` has done, as a value: the draft's claim and thread, the thread that was
created, the credits, the message, the job and the place in the queue, each there or not. The
database is read off it (`Db.At`), so that what a statement of the send does, and what a statement
that takes it back does, is a change of that value.

## What is proved

Each statement takes the database from one such value to the next: the claim, the assignment and
the restoration of the draft (`Db.At.claim`, `Db.At.assign`, `Db.At.restore`), the insertion and
the deletion of a thread, a message and a job, the queue and the credits (`Db.At.moveCredits`).
-/

namespace MailRuntime

open Js Interaction

/-! ### How far a send has come -/

/-- What a send has done so far, and not taken back. -/
structure SendProgress where
  claimed : Bool := false
  /-- The thread that the draft was given. -/
  filed : Option String := none
  thread : Option ThreadRow := none
  reserved : Int := 0
  message : Option MessageRow := none
  job : Option OutboundJobRow := none
  /-- What was sent to the queue. -/
  announced : Option String := none
deriving DecidableEq, Repr

/-- The row of a draft whose send has come so far. -/
def SendProgress.draft (x : SendProgress) (draftId : String) (updatedAt : Nat) (d : DraftRow) :
    DraftRow :=
  if d.id = draftId then
    { d with
      status := if x.claimed then .queued else d.status
      threadId := x.filed <|> d.threadId
      updatedAt := updatedAt }
  else d

/-- The row of the tenant's account. -/
def SendProgress.account (x : SendProgress) (tenantId : String) (updatedAt : Nat)
    (a : BillingAccountRow) : BillingAccountRow :=
  if a.tenantId = tenantId then
    { a with
      availableCredits := a.availableCredits - x.reserved
      reservedCredits := a.reservedCredits + x.reserved
      updatedAt := updatedAt }
  else a

/-- The tables that a send writes. -/
def sendTables : List Table :=
  [.drafts, .accounts, .threads, .messages, .outboundJobs, .outboundQueue]

/-- The send of the draft, begun in `s`, has come to `s'`. -/
structure Db.At (s : Db) (draft : DraftRow) (x : SendProgress) (s' : Db) : Prop where
  same : ∀ t, t ∉ sendTables → t.Same s s'
  drafts : ∃ t, s'.drafts = s.drafts.map (x.draft draft.id t)
  accounts : ∃ t, s'.accounts = s.accounts.map (x.account draft.tenantId t)
  threads : s'.threads = s.threads ++ x.thread.toList
  messages : s'.messages = s.messages ++ x.message.toList
  jobs : s'.outboundJobs = s.outboundJobs ++ x.job.toList
  queue : s'.outboundQueue = s.outboundQueue ++ x.announced.toList
  draws : s.draws ≤ s'.draws

/-- Nothing has the identifier or refers to it. -/
structure Db.Unused (s : Db) (id : String) : Prop where
  nonempty : truthy id = true
  thread : ∀ t ∈ s.threads, t.id ≠ id ∧ t.threadKey ≠ "outbound:" ++ id
  message : ∀ m ∈ s.messages, m.id ≠ id ∧ m.threadId ≠ some id
  draft : ∀ d ∈ s.drafts, d.threadId ≠ some id
  job : ∀ o ∈ s.outboundJobs, o.id ≠ id ∧ o.messageId ≠ id

/-- The primary keys hold, no balance is negative, and the identifiers to come are unused. -/
structure Db.Sendable (env : Env) (s : Db) : Prop where
  drafts : (s.drafts.map DraftRow.id).Nodup
  accounts : s.AccountsKeyed
  reserved : ∀ a ∈ s.accounts, 0 ≤ a.reservedCredits
  unused : ∀ kind n, s.draws ≤ n → s.Unused (env.createId kind n)

variable {env : Env} {s s' : Db} {draft : DraftRow} {x : SendProgress} {id : String}

/-- The row of a visible draft is the only one with its identifier. -/
theorem Db.Sendable.draft_unique (hs : s.Sendable env) (hdraft : s.draft draft.id = some draft)
    {d : DraftRow} (hd : d ∈ s.drafts) (hid : d.id = draft.id) : d = draft :=
  List.inj_on_of_nodup_map hs.drafts hd (List.mem_of_find?_eq_some hdraft) hid

theorem Db.Sendable.account_unique (hs : s.Sendable env) {a b : BillingAccountRow}
    (ha : a ∈ s.accounts) (hb : b ∈ s.accounts) (h : a.tenantId = b.tenantId) : a = b := by
  by_contra hne
  have hsymm : Std.Symm fun a b : BillingAccountRow => a.tenantId ≠ b.tenantId :=
    ⟨fun _ _ h => Ne.symm h⟩
  exact hs.accounts.forall ha hb hne h

namespace Db.At

theorem ownsMailbox (h : s.At draft x s') : s'.ownsMailbox = s.ownsMailbox := by
  have hsame : s.mailboxes = s'.mailboxes := h.same .mailboxes (by decide)
  funext tenantId mailboxId
  simp only [Db.ownsMailbox, hsame]

theorem ownsAgent (h : s.At draft x s') : s'.ownsAgent = s.ownsAgent := by
  have hsame : s.agents = s'.agents := h.same .agents (by decide)
  funext tenantId mailboxId
  simp only [Db.ownsAgent, hsame]

/-- A value is drawn. -/
theorem tick (h : s.At draft x s') : s.At draft x { s' with draws := s'.draws + 1 } where
  same t ht := (h.same t ht).trans (by cases t <;> rfl)
  drafts := h.drafts
  accounts := h.accounts
  threads := h.threads
  messages := h.messages
  jobs := h.jobs
  queue := h.queue
  draws := h.draws.trans (Nat.le_succ _)

/-! ### Drafts -/

/-- The row of the draft is written. -/
theorem updateDraft {claimed : Bool} {filed : Option String} (h : s.At draft x s')
    {target : DraftRow → Bool} {set : DraftRow → DraftRow} (updatedAt : Nat)
    (hset : ∀ t, ∀ d ∈ s.drafts, d.id = draft.id →
      target (x.draft draft.id t d) = true ∧ set (x.draft draft.id t d) =
        { x with claimed := claimed, filed := filed }.draft draft.id updatedAt d)
    (hother : ∀ d, target d = true → d.id = draft.id) :
    s.At draft { x with claimed := claimed, filed := filed }
      (draftRows.updated s' target set).2 := by
  obtain ⟨t, ht⟩ := h.drafts
  refine ⟨fun t hnot => (h.same t hnot).trans (draftRows.frame_updated fun heq => hnot ?_),
    ⟨updatedAt, ?_⟩, h.accounts, h.threads, h.messages, h.jobs, h.queue, h.draws⟩
  · rw [heq]
    decide
  · have hrows : (draftRows.updated s' target set).2.drafts =
        s'.drafts.map fun r => if target r then set r else r := rfl
    rw [hrows, ht, List.map_map]
    refine List.map_congr_left fun d hd => ?_
    by_cases hid : d.id = draft.id
    · obtain ⟨htarget, hset⟩ := hset t d hd hid
      rw [Function.comp_apply, if_pos htarget, hset]
    · have hkeep : x.draft draft.id t d = d := if_neg hid
      have hnot : ¬ target d = true := fun htarget => hid (hother d htarget)
      rw [Function.comp_apply, hkeep, if_neg hnot, SendProgress.draft, if_neg hid]

/-- The draft's row is there. -/
theorem draft_mem (hdraft : s.draft draft.id = some draft) (h : s.At draft x s') :
    ∃ t, x.draft draft.id t draft ∈ s'.drafts := by
  obtain ⟨t, ht⟩ := h.drafts
  refine ⟨t, ?_⟩
  rw [ht]
  exact List.mem_map_of_mem (List.mem_of_find?_eq_some hdraft)

/-- Its agent and mailbox are its tenant's still. -/
theorem draftOwned (hdraft : s.draft draft.id = some draft) (h : s.At draft x s') (t : Nat) :
    s'.draftOwned (x.draft draft.id t draft) = true := by
  have hvisible := List.find?_some hdraft
  simp only [Bool.and_eq_true, Db.draftVisible, Db.draftOwned] at hvisible
  simp [Db.draftOwned, SendProgress.draft, h.ownsAgent, h.ownsMailbox, hvisible.2.1]

/-- A thread that is there is there still, and so is the one that was created. -/
theorem hasThread {tenantId mailboxId threadId : String} (h : s.At draft x s')
    (hthread : s.hasThread tenantId mailboxId threadId = true) :
    s'.hasThread tenantId mailboxId threadId = true := by
  simp only [Db.hasThread, Db.threadVisible, h.ownsMailbox, h.threads, List.any_append] at hthread ⊢
  rw [hthread, Bool.true_or]

/-- Some row meets the condition of a statement that the draft's row meets. -/
theorem updateDraft_found {target : DraftRow → Bool} {set : DraftRow → DraftRow}
    (hdraft : s.draft draft.id = some draft) (h : s.At draft x s')
    (htarget : ∀ t, target (x.draft draft.id t draft) = true) :
    (draftRows.updated s' target set).1 ≠ 0 := by
  obtain ⟨t, ht⟩ := h.draft_mem hdraft
  exact (List.countP_pos_iff.2 ⟨_, ht, htarget t⟩).ne'

/-- The draft is claimed. -/
theorem claim (hs : s.Sendable env) (hdraft : s.draft draft.id = some draft)
    (hclaimable : draft.claimable = true) (h : s.At draft {} s') (timestamp : Nat) :
    let stmt := draftRows.updated s'
      (fun d => d.id == draft.id && d.claimable && s'.draftOwned d)
      fun d => { d with status := .queued, updatedAt := timestamp }
    stmt.1 ≠ 0 ∧ s.At draft { claimed := true } stmt.2 := by
  have htarget : ∀ t, ((SendProgress.draft {} draft.id t draft).id == draft.id &&
      (SendProgress.draft {} draft.id t draft).claimable &&
      s'.draftOwned (SendProgress.draft {} draft.id t draft)) = true := by
    intro t
    rw [h.draftOwned hdraft t]
    simpa [SendProgress.draft, DraftRow.claimable] using hclaimable
  refine ⟨h.updateDraft_found hdraft htarget, h.updateDraft timestamp (fun t d hd hid => ?_) ?_⟩
  · obtain rfl := hs.draft_unique hdraft hd hid
    refine ⟨htarget t, ?_⟩
    simp [SendProgress.draft]
  · intro d hd
    simp only [Bool.and_eq_true, beq_iff_eq] at hd
    exact hd.1.1

/-- The draft is given the thread that was created. -/
theorem assign {thread : ThreadRow} (hs : s.Sendable env)
    (hdraft : s.draft draft.id = some draft) (h : s.At draft x s')
    (hthread : x.thread = some thread) (htenant : thread.tenantId = draft.tenantId)
    (hmailbox : thread.mailboxId = draft.mailboxId) (updatedAt : Nat) :
    let stmt := draftRows.updated s'
      (fun d => d.id == draft.id && s'.hasThread d.tenantId d.mailboxId thread.id)
      fun d => { d with threadId := some thread.id, updatedAt := updatedAt }
    stmt.1 ≠ 0 ∧ s.At draft { x with filed := some thread.id } stmt.2 := by
  have hvisible := List.find?_some hdraft
  simp only [Bool.and_eq_true, Db.draftVisible, Db.draftOwned] at hvisible
  have hhas : s'.hasThread draft.tenantId draft.mailboxId thread.id = true := by
    simp [Db.hasThread, Db.threadVisible, h.threads, hthread, htenant, hmailbox, h.ownsMailbox,
      hvisible.2.1]
  have htarget : ∀ t, ((x.draft draft.id t draft).id == draft.id &&
      s'.hasThread (x.draft draft.id t draft).tenantId (x.draft draft.id t draft).mailboxId
        thread.id) = true := by
    intro t
    simpa [SendProgress.draft] using hhas
  refine ⟨h.updateDraft_found hdraft htarget, h.updateDraft updatedAt (fun t d hd hid => ?_) ?_⟩
  · obtain rfl := hs.draft_unique hdraft hd hid
    refine ⟨htarget t, ?_⟩
    simp [SendProgress.draft]
  · intro d hd
    simp only [Bool.and_eq_true, beq_iff_eq] at hd
    exact hd.1

/-- The claim and the thread of the draft are taken back. -/
theorem restore (hs : s.Sendable env) (hdraft : s.draft draft.id = some draft)
    (h : s.At draft x s') (updatedAt : Nat) :
    let stmt := draftRows.updated s'
      (fun d => d.id == draft.id && s'.draftOwned d &&
        draft.threadId.all fun t => s'.hasThread d.tenantId d.mailboxId t)
      fun d => { d with status := draft.status, threadId := draft.threadId, updatedAt := updatedAt }
    stmt.1 ≠ 0 ∧ s.At draft { x with claimed := false, filed := none } stmt.2 := by
  have hvisible := List.find?_some hdraft
  simp only [Bool.and_eq_true, Db.draftVisible, Db.draftReferencesValid] at hvisible
  have hhas : (draft.threadId.all fun t =>
      s'.hasThread draft.tenantId draft.mailboxId t) = true := by
    rw [Option.all_eq_true]
    intro t ht
    exact h.hasThread (Option.all_eq_true _ _ |>.1 hvisible.2.2.1 t ht)
  have htarget : ∀ t, ((x.draft draft.id t draft).id == draft.id &&
      s'.draftOwned (x.draft draft.id t draft) && draft.threadId.all fun t' =>
        s'.hasThread (x.draft draft.id t draft).tenantId (x.draft draft.id t draft).mailboxId
          t') = true := by
    intro t
    rw [h.draftOwned hdraft t]
    simpa [SendProgress.draft] using hhas
  refine ⟨h.updateDraft_found hdraft htarget, h.updateDraft updatedAt (fun t d hd hid => ?_) ?_⟩
  · obtain rfl := hs.draft_unique hdraft hd hid
    refine ⟨htarget t, ?_⟩
    simp [SendProgress.draft]
  · intro d hd
    simp only [Bool.and_eq_true, beq_iff_eq] at hd
    exact hd.1.1

/-! ### Threads, messages and jobs -/

/-- A table other than those is not the one that is written. -/
theorem same_put {ρ : Type} {R : Rows ρ} (h : s.At draft x s') (hR : R.table ∈ sendTables)
    (rows : List ρ) : ∀ t, t ∉ sendTables → t.Same s (R.put s' rows) := fun t ht =>
  (h.same t ht).trans (R.frame s' rows t fun heq => ht (heq ▸ hR))

theorem insertThread (h : s.At draft x s') (hnone : x.thread = none) (row : ThreadRow) :
    s.At draft { x with thread := some row } (threadRows.inserted s' row) where
  same := h.same_put (R := threadRows) (by decide) _
  drafts := h.drafts
  accounts := h.accounts
  threads := by
    have hrows : (threadRows.inserted s' row).threads = s'.threads ++ [row] := rfl
    rw [hrows, h.threads, hnone, Option.toList_none, List.append_nil, Option.toList_some]
  messages := h.messages
  jobs := h.jobs
  queue := h.queue
  draws := h.draws

theorem insertMessage (h : s.At draft x s') (hnone : x.message = none) (row : MessageRow) :
    s.At draft { x with message := some row } (messageRows.inserted s' row) where
  same := h.same_put (R := messageRows) (by decide) _
  drafts := h.drafts
  accounts := h.accounts
  threads := h.threads
  messages := by
    have hrows : (messageRows.inserted s' row).messages = s'.messages ++ [row] := rfl
    rw [hrows, h.messages, hnone, Option.toList_none, List.append_nil, Option.toList_some]
  jobs := h.jobs
  queue := h.queue
  draws := h.draws

theorem insertJob (h : s.At draft x s') (hnone : x.job = none) (row : OutboundJobRow) :
    s.At draft { x with job := some row } (jobRows.inserted s' row) where
  same := h.same_put (R := jobRows) (by decide) _
  drafts := h.drafts
  accounts := h.accounts
  threads := h.threads
  messages := h.messages
  jobs := by
    have hrows : (jobRows.inserted s' row).outboundJobs = s'.outboundJobs ++ [row] := rfl
    rw [hrows, h.jobs, hnone, Option.toList_none, List.append_nil, Option.toList_some]
  queue := h.queue
  draws := h.draws

/-- Of rows of which none is doomed, and one that may be there and is, the first stay. -/
theorem filter_append_toList {ρ : Type} {doomed : ρ → Bool} {rows : List ρ} {row : Option ρ}
    (hrows : ∀ r ∈ rows, doomed r = false) (hrow : ∀ r ∈ row, doomed r = true) :
    (rows ++ row.toList).filter (fun r => !doomed r) = rows := by
  have hkeep : rows.filter (fun r => !doomed r) = rows :=
    List.filter_eq_self.2 fun r hr => by simp [hrows r hr]
  cases row with
  | none => simpa using hkeep
  | some row => simp [hkeep, hrow row rfl]

/-- The job is deleted. -/
theorem deleteJob {jobId : String} (h : s.At draft x s') (hunused : s.Unused jobId)
    (hjob : ∀ o ∈ x.job, o.id = jobId) :
    s.At draft { x with job := none } (jobRows.deleted s' fun o => o.id == jobId).2 where
  same := h.same_put (R := jobRows) (by decide) _
  drafts := h.drafts
  accounts := h.accounts
  threads := h.threads
  messages := h.messages
  jobs := by
    have hrows : (jobRows.deleted s' fun o => o.id == jobId).2.outboundJobs =
        s'.outboundJobs.filter fun o => !(o.id == jobId) := rfl
    rw [hrows, h.jobs, filter_append_toList (fun o ho => ?_) fun o ho => ?_]
    · simp
    · simpa using (hunused.job o ho).1
    · simpa using hjob o ho
  queue := h.queue
  draws := h.draws

/-- The message is deleted. -/
theorem deleteMessage {messageId : String} (h : s.At draft x s') (hunused : s.Unused messageId)
    (hmessage : ∀ m ∈ x.message, m.id = messageId) :
    s.At draft { x with message := none }
      (messageRows.deleted s' fun m => m.id == messageId).2 where
  same := h.same_put (R := messageRows) (by decide) _
  drafts := h.drafts
  accounts := h.accounts
  threads := h.threads
  messages := by
    have hrows : (messageRows.deleted s' fun m => m.id == messageId).2.messages =
        s'.messages.filter fun m => !(m.id == messageId) := rfl
    rw [hrows, h.messages, filter_append_toList (fun m hm => ?_) fun m hm => ?_]
    · simp
    · simpa using (hunused.message m hm).1
    · simpa using hmessage m hm
  jobs := h.jobs
  queue := h.queue
  draws := h.draws

/-- The thread that was created is deleted, where nothing refers to it. -/
theorem deleteThread {threadId : String} (h : s.At draft x s') (hunused : s.Unused threadId)
    (hthread : ∀ t ∈ x.thread, t.id = threadId) (hfiled : x.filed = none)
    (hmessage : x.message = none) :
    s.At draft { x with thread := none } (threadRows.deleted s' fun t => t.id == threadId &&
      !(s'.messages.any fun m => m.threadId == some threadId && s'.messageVisible m) &&
      !(s'.drafts.any fun d => d.threadId == some threadId && s'.draftOwned d)).2 where
  same := h.same_put (R := threadRows) (by decide) _
  drafts := h.drafts
  accounts := h.accounts
  threads := by
    have hnomessage : (s'.messages.any fun m =>
        m.threadId == some threadId && s'.messageVisible m) = false := by
      rw [List.any_eq_false]
      intro m hm
      rw [h.messages, hmessage, Option.toList_none, List.append_nil] at hm
      simp [(hunused.message m hm).2]
    have hnodraft : (s'.drafts.any fun d =>
        d.threadId == some threadId && s'.draftOwned d) = false := by
      rw [List.any_eq_false]
      intro d' hd'
      obtain ⟨t, ht⟩ := h.drafts
      rw [ht, List.mem_map] at hd'
      obtain ⟨d, hd, rfl⟩ := hd'
      have hthreadId : (x.draft draft.id t d).threadId = d.threadId := by
        rw [SendProgress.draft]
        split
        · simp [hfiled]
        · rfl
      simp [hthreadId, hunused.draft d hd]
    rw [hnomessage, hnodraft]
    have hrows : (threadRows.deleted s' fun t => t.id == threadId && !false && !false).2.threads =
        s'.threads.filter fun t => !(t.id == threadId && !false && !false) := rfl
    rw [hrows, h.threads, filter_append_toList (fun t ht => ?_) fun t ht => ?_]
    · simp
    · simpa using (hunused.thread t ht).1
    · simpa using hthread t ht
  messages := h.messages
  jobs := h.jobs
  queue := h.queue
  draws := h.draws

/-- The thread that was created stays where something refers to it. -/
theorem keepThread {threadId : String} (hdraft : s.draft draft.id = some draft)
    (h : s.At draft x s') (hused : x.filed = some threadId ∨
      ∃ m ∈ x.message, m.threadId = some threadId ∧ m.tenantId = draft.tenantId ∧
        m.mailboxId = draft.mailboxId) :
    s.At draft x (threadRows.deleted s' fun t => t.id == threadId &&
      !(s'.messages.any fun m => m.threadId == some threadId && s'.messageVisible m) &&
      !(s'.drafts.any fun d => d.threadId == some threadId && s'.draftOwned d)).2 where
  same := h.same_put (R := threadRows) (by decide) _
  drafts := h.drafts
  accounts := h.accounts
  threads := by
    have hrows : (threadRows.deleted s' fun t => t.id == threadId &&
        !(s'.messages.any fun m => m.threadId == some threadId && s'.messageVisible m) &&
        !(s'.drafts.any fun d => d.threadId == some threadId && s'.draftOwned d)).2.threads =
      s'.threads.filter fun t => !(t.id == threadId &&
        !(s'.messages.any fun m => m.threadId == some threadId && s'.messageVisible m) &&
        !(s'.drafts.any fun d => d.threadId == some threadId && s'.draftOwned d)) := rfl
    have hvisible := List.find?_some hdraft
    simp only [Bool.and_eq_true, Db.draftVisible, Db.draftOwned] at hvisible
    rw [hrows, ← h.threads, List.filter_eq_self]
    intro t _
    rcases hused with hfiled | ⟨m, hm, hthread, htenant, hmailbox⟩
    · have hany : (s'.drafts.any fun d =>
          d.threadId == some threadId && s'.draftOwned d) = true := by
        obtain ⟨t, ht⟩ := h.draft_mem hdraft
        rw [List.any_eq_true]
        refine ⟨_, ht, ?_⟩
        rw [h.draftOwned hdraft t]
        simp [SendProgress.draft, hfiled]
      simp [hany]
    · have hany : (s'.messages.any fun m =>
          m.threadId == some threadId && s'.messageVisible m) = true := by
        rw [List.any_eq_true]
        refine ⟨m, ?_, ?_⟩
        · rw [h.messages, List.mem_append]
          exact .inr (Option.mem_toList.2 hm)
        · simp [hthread, Db.messageVisible, h.ownsMailbox, htenant, hmailbox, hvisible.2.1]
      simp [hany]
  messages := h.messages
  jobs := h.jobs
  queue := h.queue
  draws := h.draws

/-! ### The queue -/

theorem announce (h : s.At draft x s') (hnone : x.announced = none) (jobId : String) :
    s.At draft { x with announced := some jobId }
      { s' with outboundQueue := s'.outboundQueue ++ [jobId] } where
  same t ht := (h.same t ht).trans (by cases t <;> first | rfl | exact absurd (by decide) ht)
  drafts := h.drafts
  accounts := h.accounts
  threads := h.threads
  messages := h.messages
  jobs := h.jobs
  queue := by
    rw [h.queue, hnone, Option.toList_none, List.append_nil, Option.toList_some]
  draws := h.draws

/-! ### Credits -/

/-- The tenant's account is there, and its row meets the condition of a statement: credits are
moved. -/
theorem moveCredits (guard : BillingAccountRow → Bool) {account : BillingAccountRow}
    {available : Int} (reserved : Int) (hs : s.Sendable env) (h : s.At draft x s')
    (hmem : account ∈ s.accounts) (htenant : account.tenantId = draft.tenantId)
    (hguard : ∀ t, guard (x.account draft.tenantId t account) = true)
    (hbalance : available = -reserved) (updatedAt : Nat) :
    let stmt := s'.updateAccount draft.tenantId guard fun r => { r with
      availableCredits := r.availableCredits + available
      reservedCredits := r.reservedCredits + reserved
      updatedAt := updatedAt }
    stmt.1 ≠ 0 ∧ s.At draft { x with reserved := x.reserved + reserved } stmt.2 := by
  obtain ⟨t, ht⟩ := h.accounts
  constructor
  · refine (List.countP_pos_iff.2 ⟨x.account draft.tenantId t account, ?_, ?_⟩).ne'
    · rw [ht]
      exact List.mem_map_of_mem hmem
    · rw [hguard t]
      simp [SendProgress.account, htenant]
  · refine ⟨fun t hnot => (h.same t hnot).trans ?_, h.drafts, ⟨updatedAt, ?_⟩, h.threads,
      h.messages, h.jobs, h.queue, h.draws⟩
    · cases t <;> first | rfl | exact absurd (by decide) hnot
    · dsimp only [Db.updateAccount]
      rw [ht, List.map_map]
      refine List.map_congr_left fun a ha => ?_
      rw [Function.comp_apply]
      by_cases hid : a.tenantId = draft.tenantId
      · obtain rfl := hs.account_unique ha hmem (hid.trans htenant.symm)
        rw [hguard t]
        simp [SendProgress.account, htenant]
        omega
      · simp [SendProgress.account, hid]

end Db.At

end MailRuntime
