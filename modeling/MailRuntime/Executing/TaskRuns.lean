import MailRuntime.Executing.ReplyTasks
import MailRuntime.Inbound.Redelivery

/-!
# Ingests and consumers at once

What has been shown of the parts is put together: an ingest that comes through with a task has the
visible one of its message, and a consumer keeps the protocol, for any batch. So it is in every run
in which ingest puts back only tasks that wait. A run in which it puts back one that is
being executed, and which is therefore executed twice, shows that the condition is needed.
-/

namespace MailRuntime

open Js Interaction

section Safe

variable {ι : Type} [DecidableEq ι] {start : Db} {messageId : String} {env : Env} {i : ι}
  {w : World ι Db Label}

/-! ### Ingest -/

theorem quiet_ingestBeforeTask {job : EmailIngestJob} :
    Quiet start messageId (ingestBeforeTask env job) :=
  .bind (quiet_reads touches_getMessage) fun _ => .bind (quiet_reads touches_loadParsedEmail)
    fun _ => .bind quiet_threadOfParsed fun _ => .bind quiet_storeNormalized fun _ =>
    .bind (quiet_of_touches touches_updateThreadTimestamp (by decide)) fun _ =>
    .bind (quiet_of_touches touches_storeAttachments (by decide)) fun _ => trivial

theorem quiet_settleIngest {job : EmailIngestJob} {existing : Option MessageRow}
    {target : Option ExecutionTarget} {task : Option TaskRow} :
    Quiet start messageId (settleIngest env job existing target task) := by
  unfold settleIngest
  cases statusAfterIngest existing task with
  | some status =>
    refine .bind quiet_updateMessageStatus fun _ => ?_
    split
    · exact quiet_sendTask
    · trivial
  | none =>
    dsimp only
    split
    · exact quiet_sendTask
    · trivial

/-- The task of the message that is used is visible. -/
theorem safe_taskOfMessage (hstart : start.OneReply messageId) {job : EmailIngestJob}
    (hjob : job.messageId = messageId) {target : Option ExecutionTarget}
    (htarget : ∀ target', target = some target' → ∃ mailbox,
      start.mailbox job.mailboxId = some mailbox ∧
        start.ownsAgent mailbox.tenantId target'.agentId = true)
    (hw : TasksInv start messageId w) :
    (oneTask ι start messageId).Safe i
      (fun task w' => ∀ t, task = some t → t.isFor messageId "reply" = true ∧
        start.Stays t w'.store)
      (fun _ _ => True) (taskOfMessage env job target) w := by
  cases target with
  | none =>
    unfold taskOfMessage
    rw [hjob]
    exact Protocol.Safe.mono hw (safe_getTaskBySourceMessageId hw) (fun _ _ _ h => h.1)
      fun _ _ _ h => h
  | some target =>
    obtain ⟨mailbox, hmailbox, howns⟩ := htarget target rfl
    refine Protocol.Safe.bind hw (safe_getOrCreateTaskForSourceMessage hstart
      ⟨hjob, rfl, rfl, target.agentId, mailbox, rfl, hmailbox, howns⟩ hw) ?_ fun _ _ _ h => h
    intro t w' _ ht t' ht'
    obtain rfl := Option.some.inj ht'
    exact ht

/-- **An ingest that comes through with a task has the visible one of the message.** -/
theorem safe_ingestTask (hstart : start.OneReply messageId) {job : EmailIngestJob}
    (hjob : job.messageId = messageId) (hw : TasksInv start messageId w) :
    (oneTask ι start messageId).Safe i
      (fun task w' => ∀ t, task = some t → t.isFor messageId "reply" = true ∧
        start.Stays t w'.store)
      (fun _ _ => True) (ingestTask env job) w := by
  refine Protocol.Safe.bind hw (safe_quiet quiet_ingestBeforeTask hw) ?_ fun _ _ _ h => h
  intro existing w hw _
  refine Protocol.Safe.bind hw (Protocol.Safe.returnsIn (I := start.SameParents)
    (fun _ hinv => TasksInv.parents hinv) returnsIn_resolveAgentExecutionTarget hw
    (safe_quiet (quiet_reads touches_resolveAgentExecutionTarget) hw)) ?_ fun _ _ _ h => h
  rintro target w hw ⟨-, htarget⟩
  refine Protocol.Safe.bind hw (safe_taskOfMessage hstart hjob htarget hw) ?_ fun _ _ _ h => h
  intro task w hw htask
  cases task with
  | none =>
    refine Protocol.Safe.bind hw (safe_quiet quiet_settleIngest hw) ?_ fun _ _ _ h => h
    exact fun _ _ _ _ => nofun
  | some t =>
    obtain ⟨hfor, hstays⟩ := htask t rfl
    refine Protocol.Safe.bind hw (safe_quiet_stays quiet_settleIngest hw hstays) ?_
      fun _ _ _ h => h
    intro _ w' _ hstays' t' ht'
    obtain rfl := Option.some.inj ht'
    exact ⟨hfor, hstays'⟩

/-! ### The consumers -/

/-- A task that has just been claimed is there, so that it is not deleted. -/
theorem safe_claimTaskForExecution {taskId : String} (hw : TasksInv start messageId w) :
    (oneTask ι start messageId).Safe i (fun _ _ => True) (fun _ _ => True)
      (claimTaskForExecution env taskId) w := by
  refine Protocol.Safe.bind hw (safe_quiet (quiet_reads touches_nowIso) hw) ?_ fun _ _ _ h => h
  intro updatedAt w hw _
  refine Protocol.Safe.bind (Q := fun changes w' => changes ≠ 0 →
    ∃ t : TaskRow, t.id = taskId ∧ start.Stays t w'.store) hw
    (Protocol.Safe.perform fun o hallow => ?_) ?_ fun _ _ _ h => h
  · have hstep : QuietStep start messageId _ _ :=
      Prog.each_perform.1 (@quiet_claim start messageId taskId updatedAt)
    have hgood := hstep.good (i := i) (o := o) hw hallow
    refine ⟨hgood, fun w' hlater => ?_⟩
    split
    · intro hchanges
      obtain ⟨t, ht, htarget⟩ := List.countP_pos_iff.1 (Nat.pos_of_ne_zero hchanges)
      simp only [Bool.and_eq_true, beq_iff_eq, hw.parents.taskVisible] at htarget
      have hstays : start.Stays t w.store := ⟨t, ht, .refl t, htarget.2⟩
      exact ⟨t, htarget.1.1, (hstays.keeps hgood.keeps).keeps hlater.keeps⟩
    · trivial
  · intro changes w hw hclaimed
    split
    · trivial
    · next hchanges =>
      obtain ⟨t, hid, hstays⟩ := hclaimed hchanges
      refine Protocol.Safe.bind hw (safe_getTask hw) ?_ fun _ _ _ h => h
      rintro row w' - ⟨-, -, hthere⟩
      obtain ⟨u, rfl, -⟩ := hthere t hstays hid
      trivial

/-- A task is assigned to an agent of its mailbox's tenant. -/
theorem safe_reassignTask (hstart : start.OneReply messageId) {t : TaskRow}
    {target : Option ExecutionTarget} (hw : TasksInv start messageId w)
    (ht : start.Stays t w.store)
    (htarget : ∀ target', target = some target' → ∃ mailbox,
      start.mailbox t.mailboxId = some mailbox ∧
        start.ownsAgent mailbox.tenantId target'.agentId = true) :
    (oneTask ι start messageId).Safe i (fun _ _ => True) (fun _ _ => True)
      (reassignTask env t target) w := by
  unfold reassignTask
  split
  · next agentId hagent =>
    split
    · trivial
    · refine Protocol.Safe.bind (Q := fun _ w' => start.Stays t w'.store) hw
        (Protocol.Safe.mono hw (safe_quiet_stays (quiet_reads touches_nowIso) hw ht)
          (fun _ _ _ h => h) fun _ _ _ h => h) ?_ fun _ _ _ h => h
      intro updatedAt w hw ht
      obtain ⟨target', rfl, hid⟩ := Option.map_eq_some_iff.1 (Option.filter_eq_some_iff.1 hagent).1
      obtain ⟨mailbox, hmailbox, howns⟩ := htarget target' rfl
      refine Protocol.Safe.mono hw (safe_updateTask hw ht (fun _ => ⟨rfl, rfl, rfl, rfl, rfl⟩)
        (fun u hu hvisible => ?_) fun n _ => .kept rfl fun _ => rfl) (fun _ _ _ _ => trivial)
        fun _ _ _ h => h
      refine hstart.taskVisible hvisible ⟨rfl, rfl, rfl, rfl, rfl⟩ rfl ?_ (hid ▸ howns)
      rw [hu.mailboxId]
      exact hmailbox
  · trivial

theorem safe_reviewTask (hstart : start.OneReply messageId) {job : AgentExecuteJob} {t : TaskRow}
    (hw : TasksInv start messageId w) (ht : start.Stays t w.store) :
    (oneTask ι start messageId).Safe i (fun _ _ => True) (fun _ _ => True)
      (reviewTask env job t) w := by
  refine Protocol.Safe.bind hw (safe_quiet_stays (quiet_reads touches_getMessage) hw ht) ?_
    fun _ _ _ h => h
  intro sourceMessage w hw ht
  refine Protocol.Safe.bind hw (Protocol.Safe.returnsIn (I := start.SameParents)
    (fun _ hinv => TasksInv.parents hinv) returnsIn_resolveAgentExecutionTarget hw
    (safe_quiet_stays (quiet_reads touches_resolveAgentExecutionTarget) hw ht)) ?_ fun _ _ _ h => h
  rintro target w hw ⟨ht, htarget⟩
  refine Protocol.Safe.bind hw (safe_reassignTask hstart hw ht htarget) ?_ fun _ _ _ h => h
  intro _ w hw _
  exact safe_quiet (.bind quiet_recordTaskNeedsReview fun _ => trivial) hw

/-- **A consumer keeps to the protocol.** -/
theorem safe_executeTask (hstart : start.OneReply messageId) {job : AgentExecuteJob}
    (hw : TasksInv start messageId w) :
    (oneTask ι start messageId).Safe i (fun _ _ => True) (fun _ _ => True)
      (executeTask env job) w := by
  refine Protocol.Safe.bind hw (safe_claimTaskForExecution hw) ?_ fun _ _ _ h => h
  intro claimed w hw _
  split
  · refine Protocol.Safe.bind hw (safe_getTask hw) ?_ fun _ _ _ h => h
    rintro row w' hw' ⟨-, hfound, -⟩
    cases row with
    | none => trivial
    | some t => exact safe_reviewTask hstart hw' (hfound t rfl).2
  · trivial

theorem safe_handleAgentExecute (hstart : start.OneReply messageId) (batch : List AgentExecuteJob)
    (hw : TasksInv start messageId w) :
    (oneTask ι start messageId).Safe i (fun _ _ => True) (fun _ _ => True)
      (handleAgentExecute env batch) w := by
  induction batch generalizing w with
  | nil => trivial
  | cons job rest ih =>
    refine Protocol.Safe.bind (Q := fun _ _ => True) hw ?_ ?_
      fun _ _ _ h => h
    · refine Protocol.Safe.tryCatch (E := fun _ _ => True) hw ?_ fun e w' hw' _ => ?_
      · exact Protocol.Safe.bind hw (safe_executeTask hstart hw) (fun _ _ _ _ => trivial)
          fun _ _ _ h => h
      · exact safe_quiet (.bind (.catchAll quiet_reviewTask) fun _ =>
          .bind (quiet_of_touches touches_enqueueDeadLetter (by decide)) fun _ => trivial) hw'
    · intro verdict w' hw' _
      exact Protocol.Safe.bind hw' (ih hw') (fun _ _ _ _ => trivial) fun _ _ _ h => h

end Safe

/-! ### The result -/

/-- What holds of a run that has come to `c`, and goes on to `later`: at most one visible task
replies to the message, and it is the one that every ingest has used that came through with a task;
once it is `running` or `needs_review` it stays so; and no task was claimed twice. -/
structure UsesOneTask {ι : Type} (messageId : String)
    (c later : Config ι Db Label Exn (Option TaskRow)) : Prop where
  one : c.world.store.tasks.countP (c.world.store.repliesTo messageId) ≤ 1
  used : ∀ i t, c.threads i = .ret (some t) →
    (∃ u ∈ c.world.store.tasks, c.world.store.repliesTo messageId u = true ∧ u.id = t.id) ∧
      ∀ u ∈ c.world.store.tasks, c.world.store.repliesTo messageId u = true → u.id = t.id
  busy : ∀ t ∈ c.world.store.tasks, c.world.store.repliesTo messageId t = true → t.busy = true →
    ∃ u ∈ later.world.store.tasks, u.id = t.id ∧ u.busy = true
  claimed : ∀ taskId, taskClaims taskId c.world.trace ≤ 1

theorem Db.SameParents.repliesTo {start s : Db} {messageId : String} (h : start.SameParents s) :
    s.repliesTo messageId = start.repliesTo messageId := by
  funext t
  rw [Db.repliesTo, h.taskVisible]
  rfl

theorem tasksInv_start {ι : Type} [DecidableEq ι] {start : Db} {messageId : String}
    (h : start.OneReply messageId) : TasksInv start messageId (⟨start, []⟩ : World ι Db Label) :=
  ⟨.refl start, h.tasks, h.one, fun _ h => absurd h (Nat.lt_irrefl 0), fun _ _ _ => rfl,
    fun _ => Nat.zero_le 1, fun _ _ h => absurd h Bool.false_ne_true,
    fun _ _ _ h => absurd h Bool.false_ne_true⟩

/-- **One task replies to a message, and is claimed once**, in every run of ingests of the message
and of consumers in which a task is put back only while it waits. -/
theorem usesOneTask_of_putsBackWaiting {ι : Type} [DecidableEq ι] (env : Env) (messageId : String)
    (start : Db) (hstart : start.OneReply messageId) (works : ι → TaskWork)
    (hworks : ∀ i job, works i = .ingest job → job.messageId = messageId)
    (schedule later : List (ι × Outcome))
    (h : (startTasks env works start).Meets PutsBackWaiting (schedule ++ later)) :
    UsesOneTask messageId ((startTasks env works start).exec schedule)
      ((startTasks env works start).exec (schedule ++ later)) := by
  have hinv := tasksInv_start (ι := ι) hstart
  have hholds : ∀ k, (oneTask ι start messageId).Holds k
      (fun task w => ∀ t, task = some t → t.isFor messageId "reply" = true ∧ start.Stays t w.store)
      (fun _ _ => True) ((startTasks env works start).threads k)
      (startTasks env works start).world := by
    intro k w hlater
    show (oneTask ι start messageId).Safe k _ _ ((works k).prog env) w
    cases hwork : works k with
    | ingest job => exact safe_ingestTask hstart (hworks k job hwork) hlater.inv
    | execute batch =>
      exact Protocol.Safe.bind hlater.inv (safe_handleAgentExecute hstart batch hlater.inv)
        (fun _ _ _ _ _ => nofun) fun _ _ _ h => h
  obtain ⟨hend, hsafe⟩ := Protocol.exec hinv hholds (Config.meets_append .. |>.1 h).1
  have hkeeps := Protocol.exec_keeps hinv hholds h
  have hreplies := @Db.SameParents.repliesTo _ _ messageId hend.parents
  refine ⟨?_, fun i t ht => ?_, fun t ht hvisible hbusy => ?_, hend.once⟩
  · rw [hreplies]
    exact hend.one
  · have hnow := (hsafe i).now hend
    rw [ht] at hnow
    obtain ⟨hfor, u, hu, hsame, hvisible⟩ := hnow t rfl
    have hureplies : start.repliesTo messageId u = true :=
      Db.repliesTo_iff.2 ⟨(hsame.isFor _ _).trans hfor, hvisible⟩
    rw [hreplies]
    refine ⟨⟨u, hu, hureplies, hsame.id⟩, fun v hv hvreplies => ?_⟩
    rw [hend.reply_unique hv hu hvreplies hureplies]
    exact hsame.id
  · rw [hreplies] at hvisible
    obtain ⟨u, hu, hsame, -, hubusy⟩ := hkeeps t ht (Db.repliesTo_iff.1 hvisible).2
    exact ⟨u, hu, hsame.id, hubusy hbusy⟩

/-- An inbound message whose task has failed, in a mailbox with an agent. -/
def failedTaskDb : Db where
  mailboxes := [⟨"mbx", "t", "a@b", "active"⟩]
  agents := [⟨"agent", "t", .active, none⟩]
  agentMailboxes := [⟨"t", "agent", "mbx", .primary, true⟩]
  messages := [{
    id := "msg", tenantId := "t", mailboxId := "mbx", threadId := none, direction := .inbound
    provider := .cloudflare, internetMessageId := some "<m@d>", providerMessageId := none
    fromAddr := "c@d", toAddr := "a@b", subject := none, snippet := none, status := .received
    rawR2Key := some "raw", normalizedR2Key := none, receivedAt := none, sentAt := none
    createdAt := 0 }]
  objects := [("raw", .bytes (utf8 "Message-ID: <m@d>\r\nFrom: c@d\r\nSubject: s\r\n\r\nhi") none)]
  tasks := [{
    id := "task", tenantId := "t", mailboxId := "mbx", sourceMessageId := "msg"
    taskType := "reply", priority := 50, status := .failed, assignedAgent := some "agent"
    resultR2Key := none, createdAt := 0, updatedAt := 0 }]

/-- Two ingests of the message, and two deliveries of its task. -/
def ingestsAndDeliveries : Fin 4 → TaskWork
  | 0 | 1 => .ingest ⟨"msg", "t", "mbx", "raw"⟩
  | 2 | 3 => .execute [⟨"task", "agent", none, none⟩]

theorem failedTaskDb_oneReply : failedTaskDb.OneReply "msg" :=
  ⟨by decide, by decide, by decide, by decide +kernel⟩

theorem ingests_of_msg : ∀ i job, ingestsAndDeliveries i = .ingest job → job.messageId = "msg" := by
  intro i job h
  unfold ingestsAndDeliveries at h
  split at h <;> cases h <;> rfl

/-- An ingest puts the task back, and a consumer executes it after that. -/
def putBackThenExecuted : List (Fin 4 × Outcome) := turns 0 60 ++ turns 2 60

theorem put_back_task_claimed_once :
    taskClaims "task" ((startTasks mailEnv ingestsAndDeliveries failedTaskDb).exec
        putBackThenExecuted).world.trace = 1 ∧
      UsesOneTask "msg"
        ((startTasks mailEnv ingestsAndDeliveries failedTaskDb).exec putBackThenExecuted)
        ((startTasks mailEnv ingestsAndDeliveries failedTaskDb).exec
          (putBackThenExecuted ++ turns 1 60)) :=
  ⟨by decide +kernel, usesOneTask_of_putsBackWaiting mailEnv "msg" failedTaskDb
    failedTaskDb_oneReply ingestsAndDeliveries ingests_of_msg putBackThenExecuted (turns 1 60)
    (by decide +kernel)⟩

/-- Both ingests find that the task has failed; one puts it back, a consumer claims it, the other
puts it back, and another consumer claims it. -/
def putBackWhileRunning : List (Fin 4 × Outcome) :=
  turns 0 25 ++ turns 1 20 ++ turns 0 5 ++ turns 2 2 ++ turns 1 1 ++ turns 3 2

/-- So the task is executed twice. -/
theorem put_back_while_running_claimed_twice : failedTaskDb.OneReply "msg" ∧
    ¬ UsesOneTask "msg"
      ((startTasks mailEnv ingestsAndDeliveries failedTaskDb).exec putBackWhileRunning)
      ((startTasks mailEnv ingestsAndDeliveries failedTaskDb).exec putBackWhileRunning) := by
  refine ⟨failedTaskDb_oneReply, fun h => ?_⟩
  have htwice : taskClaims "task" ((startTasks mailEnv ingestsAndDeliveries failedTaskDb).exec
      putBackWhileRunning).world.trace = 2 := by
    decide +kernel
  have honce := h.claimed "task"
  omega

end MailRuntime
