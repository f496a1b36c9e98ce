import MailRuntime.Executing.QuietPrograms

/-!
# One task for one message

Any number of ingests of one message and of deliveries of tasks to their consumers. A message has
one visible task for its reply, which every ingest that comes through with a task uses; and as long
as ingest puts a task back only while it waits, the task is claimed at most once and is never
put back after that. The run at the end shows that the condition is needed: ingest looks at the
status of the task in one statement and writes it in another, without looking again.
-/

namespace MailRuntime

open Js Interaction

/-! ### The programs -/

/-- What ingest does when it knows the task of the message. -/
def settleIngest (env : Env) (job : EmailIngestJob) (existing : Option MessageRow)
    (target : Option ExecutionTarget) (task : Option TaskRow) : Op Unit := do
  match statusAfterIngest existing task with
  | some status => updateMessageStatus job.messageId status
  | none => pure ()
  match target, task.filter fun t => t.status == .queued with
  | some target, some task => sendTask env existing target task
  | _, _ => pure ()

/-- `processEmailIngestJob`, up to the task of the message. -/
def ingestBeforeTask (env : Env) (job : EmailIngestJob) : Op (Option MessageRow) := do
  let existing ← getMessage job.messageId
  let parsed ← loadParsedEmail env job.rawR2Key
  let thread ← threadOfParsed env job parsed
  storeNormalized job parsed thread.id
  updateThreadTimestamp env thread.id
  storeAttachments env job.messageId parsed.attachments
  pure existing

/-- `processEmailIngestJob`, and the task it has used. -/
def ingestTask (env : Env) (job : EmailIngestJob) : Op (Option TaskRow) := do
  let existing ← ingestBeforeTask env job
  let target ← resolveAgentExecutionTarget job.mailboxId none receiveCapableMailboxRoles
  let task ← taskOfMessage env job target
  settleIngest env job existing target task
  pure task

theorem finishIngest_eq (env : Env) (job : EmailIngestJob) (existing : Option MessageRow) :
    finishIngest env job existing = (do
      let target ← resolveAgentExecutionTarget job.mailboxId none receiveCapableMailboxRoles
      let task ← taskOfMessage env job target
      settleIngest env job existing target task) := rfl

/-- Ingest is that, without its answer. -/
theorem processEmailIngestJob_eq (env : Env) (job : EmailIngestJob) :
    processEmailIngestJob env job = (do
      let _ ← ingestTask env job
      pure ()) := by
  simp only [processEmailIngestJob, finishIngest_eq, ingestTask, ingestBeforeTask, bind_assoc,
    pure_bind, bind_pure_unit]

/-- An ingest of a message, or a batch of tasks that is delivered to a consumer. -/
inductive TaskWork where
  | ingest (job : EmailIngestJob)
  | execute (batch : List AgentExecuteJob)
deriving DecidableEq, Repr

/-- The program, and the task that an ingest has used. -/
def TaskWork.prog (env : Env) : TaskWork → Op (Option TaskRow)
  | ingest job => ingestTask env job
  | execute batch => do
    let _ ← handleAgentExecute env batch
    pure none

/-- All of them before their first step. -/
def startTasks {ι : Type} (env : Env) (works : ι → TaskWork) (start : Db) :
    Config ι Db Label Exn (Option TaskRow) := ⟨⟨start, []⟩, fun i => (works i).prog env⟩

/-- The identifiers of mailboxes, messages and tasks are unique, and at most one visible task
replies to the message. -/
structure Db.OneReply (start : Db) (messageId : String) : Prop where
  mailboxes : (start.mailboxes.map MailboxRow.id).Nodup
  messages : (start.messages.map MessageRow.id).Nodup
  tasks : (start.tasks.map TaskRow.id).Nodup
  one : start.tasks.countP (start.repliesTo messageId) ≤ 1

/-! ### What stays -/

/-- The task is there, and visible. -/
def Db.Stays (start : Db) (t : TaskRow) (s : Db) : Prop :=
  ∃ u ∈ s.tasks, t.Same u ∧ start.taskVisible u = true

section Safe

variable {ι : Type} [DecidableEq ι] {start : Db} {messageId : String} {env : Env} {i : ι}
  {w w' : World ι Db Label} {α : Type}

theorem Db.Stays.keeps {t : TaskRow} {s s' : Db} (h : start.Stays t s)
    (hkeeps : start.KeepsTasks s s') : start.Stays t s' := by
  obtain ⟨u, hu, hsame, hvisible⟩ := h
  obtain ⟨u', hu', hsame', hvisible', -⟩ := hkeeps u hu hvisible
  exact ⟨u', hu', hsame.trans hsame', hvisible'⟩

theorem QuietStep.good {name : Db → Label} {run : Db → Db} {o : Outcome}
    (h : QuietStep start messageId name run) (hw : TasksInv start messageId w)
    (hallow : PutsBackWaiting i w (name w.store) o) :
    (oneTask ι start messageId).Good i w (w.after i name run o) := by
  obtain ⟨heffect, hparents⟩ := h w.store hw.parents
  exact good_taskEffect hw heffect hparents hallow

/-- A quiet program is safe. -/
theorem safe_quiet {p : Op α} (hp : Quiet start messageId p) (hw : TasksInv start messageId w) :
    (oneTask ι start messageId).Safe i (fun _ _ => True) (fun _ _ => True) p w := by
  refine Protocol.Safe.quiet Protocol.stable_pure ?_ ?_ hp hw trivial
  · intro run hrun w hw _
    exact ⟨good_draws hw hrun, trivial⟩
  · exact fun _ _ hstmt _ _ hw _ hallow => ⟨hstmt.good hw hallow, trivial⟩

/-- A quiet program leaves the task where it is. -/
theorem safe_quiet_stays {p : Op α} {t : TaskRow} (hp : Quiet start messageId p)
    (hw : TasksInv start messageId w) (ht : start.Stays t w.store) :
    (oneTask ι start messageId).Safe i (fun _ w' => start.Stays t w'.store) (fun _ _ => True)
      p w :=
  Protocol.Safe.mono hw (Protocol.Safe.keep (A := fun w => start.Stays t w.store)
    (fun _ _ hkeeps h => h.keeps hkeeps) (safe_quiet hp hw) ht) (fun _ _ _ h => h.2)
    fun _ _ _ _ => trivial

/-- A query, after which others may have taken steps. -/
theorem safe_taskQuery {l : Label} {f : Db → α} {Q : α → World ι Db Label → Prop}
    (hl : l.ofTask = false) (hw : TasksInv start messageId w)
    (h : ∀ w', (oneTask ι start messageId).Later i w w' → Q (f w.store) w') :
    (oneTask ι start messageId).Safe i Q (fun _ _ => True) (query l f) w := by
  refine Protocol.Safe.perform fun o hallow => ?_
  have hgood : (oneTask ι start messageId).Good i w (w.after i (fun _ => l) (fun s => s) o) :=
    good_taskEffect hw (.same hl rfl) hw.parents hallow
  refine ⟨hgood, fun w' hlater => ?_⟩
  split
  · refine h w' (Protocol.Later.trans ⟨hgood.inv, hgood.keeps, fun taskId => ⟨?_, ?_⟩⟩ hlater)
    · exact ownsTask_cons_of_none (ownNews_of_ofTask hl)
    · intro _ hhides
      have hstore : (w.after i (fun _ => l) (fun s => s) o).store = w.store :=
        World.after_id_store ..
      rwa [hstore]
  · trivial

theorem safe_taskDraw {f : Db → α × Db} {Q : α → World ι Db Label → Prop}
    (hf : Draws fun s => (f s).2) (hw : TasksInv start messageId w)
    (h : ∀ a w', (oneTask ι start messageId).Later i w w' → Q a w') :
    (oneTask ι start messageId).Safe i Q (fun _ _ => True) (Prog.draw f : Op α) w := by
  have hgood := good_draws (i := i) hw hf
  refine Protocol.Safe.draw hgood fun w' hlater => h _ w' (Protocol.Later.trans
    ⟨hgood.inv, hgood.keeps, fun taskId => ⟨rfl, fun _ hhides => ?_⟩⟩ hlater)
  have htasks : (w.silent fun s => (f s).2).store.tasks = w.store.tasks := (hf w.store .tasks).symm
  rwa [Db.Hides, htasks]

/-! ### The lookups -/

/-- `getTask` finds the task if it stays, and nothing else. -/
theorem safe_getTask {taskId : String} (hw : TasksInv start messageId w) :
    (oneTask ι start messageId).Safe i
      (fun row w' => (oneTask ι start messageId).Later i w w' ∧
        (∀ t, row = some t → t.id = taskId ∧ start.Stays t w'.store) ∧
        ∀ t, start.Stays t w.store → t.id = taskId → ∃ u, row = some u ∧ t.Same u)
      (fun _ _ => True) (getTask taskId) w := by
  refine safe_taskQuery rfl hw fun w' hlater => ⟨hlater, fun t ht => ?_, fun t ht hid => ?_⟩
  · have hfound := List.find?_some ht
    simp only [Bool.and_eq_true, beq_iff_eq, hw.parents.taskVisible] at hfound
    have hstays : start.Stays t w.store := ⟨t, List.mem_of_find?_eq_some ht, .refl t, hfound.2⟩
    exact ⟨hfound.1, hstays.keeps hlater.keeps⟩
  · obtain ⟨u, hu, hsame, hvisible⟩ := ht
    have huid : u.id = taskId := hsame.id.trans hid
    have hsome : (w.store.tasks.find? fun t => t.id == taskId && w.store.taskVisible t).isSome :=
      List.find?_isSome.2 ⟨u, hu, by simp [huid, hw.parents.taskVisible, hvisible]⟩
    obtain ⟨v, hv⟩ := Option.isSome_iff_exists.1 hsome
    have hfound := List.find?_some hv
    simp only [Bool.and_eq_true, beq_iff_eq] at hfound
    obtain rfl := hw.unique (List.mem_of_find?_eq_some hv) hu (hfound.1.trans huid.symm)
    exact ⟨v, hv, hsame⟩

/-- `getTaskBySourceMessageId` finds the task of the message if one stays. -/
theorem safe_getTaskBySourceMessageId (hw : TasksInv start messageId w) :
    (oneTask ι start messageId).Safe i
      (fun row w' => (∀ t, row = some t → t.isFor messageId "reply" = true ∧
          start.Stays t w'.store) ∧
        ∀ t, start.Stays t w.store → t.isFor messageId "reply" = true →
          ∃ u, row = some u ∧ t.Same u)
      (fun _ _ => True) (getTaskBySourceMessageId messageId "reply") w := by
  have hrows : (w.store.tasks.filter fun t =>
      t.isFor messageId "reply" && w.store.taskVisible t) =
        w.store.tasks.filter (start.repliesTo messageId) := by
    refine List.filter_congr fun t _ => ?_
    rw [hw.parents.taskVisible]
    rfl
  have hlength : (w.store.tasks.filter (start.repliesTo messageId)).length ≤ 1 := by
    rw [← List.countP_eq_length_filter]
    exact hw.one
  refine Protocol.Safe.bind hw (safe_taskQuery (Q := fun rows w' =>
    (oneTask ι start messageId).Later i w w' ∧
      rows = w.store.tasks.filter (start.repliesTo messageId)) rfl hw
    fun w' hlater => ⟨hlater, hrows⟩) ?_ fun _ _ _ h => h
  rintro rows w' _ ⟨hlater, rfl⟩
  have hmem : ∀ t, t ∈ w.store.tasks.filter (start.repliesTo messageId) →
      t.isFor messageId "reply" = true ∧ start.Stays t w.store := by
    intro t ht
    obtain ⟨htask, hreplies⟩ := List.mem_filter.1 ht
    obtain ⟨hfor, hvisible⟩ := Bool.and_eq_true_iff.1 hreplies
    exact ⟨hfor, t, htask, .refl t, hvisible⟩
  refine ⟨fun t ht => ?_, fun t ht hfor => ?_⟩
  · cases hlist : w.store.tasks.filter (start.repliesTo messageId) with
    | nil =>
      rw [hlist] at ht
      cases ht
    | cons u rest =>
      rw [hlist] at ht hlength
      obtain rfl : rest = [] := List.length_eq_zero_iff.1 (by simpa using hlength)
      obtain rfl : u = t := Option.some.inj ht
      obtain ⟨hfor, hstays⟩ := hmem u (by rw [hlist]; exact List.mem_singleton_self u)
      exact ⟨hfor, hstays.keeps hlater.keeps⟩
  · obtain ⟨u, hu, hsame, hvisible⟩ := ht
    have hin : u ∈ w.store.tasks.filter (start.repliesTo messageId) := by
      refine List.mem_filter.2 ⟨hu, ?_⟩
      rw [Db.repliesTo, hsame.isFor, hfor, hvisible]
      rfl
    cases hlist : w.store.tasks.filter (start.repliesTo messageId) with
    | nil =>
      rw [hlist] at hin
      cases hin
    | cons v rest =>
      rw [hlist] at hin hlength
      obtain rfl : rest = [] := List.length_eq_zero_iff.1 (by simpa using hlength)
      rw [List.mem_singleton.1 hin] at hsame
      exact ⟨v, rfl, hsame⟩

/-! ### The insertion -/

/-- The row has been inserted by `i`; it is there if it is visible, and if it is not no visible
task has its identifier. -/
structure Inserted (start : Db) (i : ι) (row : TaskRow) (w : World ι Db Label) : Prop where
  owned : ownsTask i row.id w.trace = true
  stays : start.taskVisible row = true → start.Stays row w.store
  hides : start.taskVisible row = false → start.Hides row.id w.store

theorem Inserted.later {row : TaskRow} (h : Inserted start i row w)
    (hl : (oneTask ι start messageId).Later i w w') : Inserted start i row w' := by
  obtain ⟨howns, hhides⟩ := hl.rely row.id
  refine ⟨howns.trans h.owned, fun hv => (h.stays hv).keeps hl.keeps, fun hv => ?_⟩
  exact hhides h.owned (h.hides hv)

/-- A visible task of the source message is there, of the tenant and the mailbox. -/
def Present (start : Db) (input : TaskInput) (s : Db) : Prop :=
  ∃ t : TaskRow, t.isFor input.sourceMessageId input.taskType = true ∧
    t.tenantId = input.tenantId ∧ t.mailboxId = input.mailboxId ∧ start.Stays t s

theorem Present.keeps {input : TaskInput} {s s' : Db} (h : Present start input s)
    (hkeeps : start.KeepsTasks s s') : Present start input s' := by
  obtain ⟨t, hfor, htenant, hmailbox, hstays⟩ := h
  exact ⟨t, hfor, htenant, hmailbox, hstays.keeps hkeeps⟩

/-- A message is one tenant's and in one mailbox. -/
theorem Db.OneReply.owner (h : start.OneReply messageId) {t m t' m' : String}
    (howns : start.ownsMessage t m messageId = true)
    (howns' : start.ownsMessage t' m' messageId = true) : t = t' ∧ m = m' := by
  obtain ⟨row, hrow, hkey⟩ := List.any_eq_true.1 howns
  obtain ⟨row', hrow', hkey'⟩ := List.any_eq_true.1 howns'
  simp only [Bool.and_eq_true, beq_iff_eq] at hkey hkey'
  obtain ⟨⟨hid, rfl⟩, rfl⟩ := hkey
  obtain ⟨⟨hid', rfl⟩, rfl⟩ := hkey'
  obtain rfl := List.inj_on_of_nodup_map h.messages hrow hrow' (hid.trans hid'.symm)
  exact ⟨rfl, rfl⟩

theorem Db.repliesTo_iff {t : TaskRow} : start.repliesTo messageId t = true ↔
    t.isFor messageId "reply" = true ∧ start.taskVisible t = true := Bool.and_eq_true_iff

/-- The task that an ingest is to have: the reply to the message, queued for an agent of the
mailbox's tenant. -/
structure TaskInput.ForReply (start : Db) (messageId : String) (input : TaskInput) : Prop where
  source : input.sourceMessageId = messageId
  type : input.taskType = "reply"
  status : input.status = .queued
  agent : ∃ agentId mailbox, input.assignedAgent = some agentId ∧
    start.mailbox input.mailboxId = some mailbox ∧
    start.ownsAgent mailbox.tenantId agentId = true

variable {input : TaskInput} {id : String} {timestamp : Nat}

/-- The row is inserted where no visible task of the message is there. -/
theorem Db.OneReply.insertEffect (hstart : start.OneReply messageId)
    (hinput : input.ForReply start messageId) (hw : TasksInv start messageId w)
    (hwanted : w.store.hasTaskOf input = false) (hfree : w.store.taskIdFree id = true) :
    TaskEffect start messageId w.store (taskRows.inserted w.store (input.row id timestamp))
      (.insertTask id 1) := by
  have hids : ∀ t ∈ w.store.tasks, t.id ≠ id := by
    simpa [Db.taskIdFree] using hfree
  refine .insert (input.row id timestamp) hids (fun hreplies => ?_) rfl
  rw [List.countP_eq_zero]
  intro t ht hother
  obtain ⟨hfor, hvisible⟩ := Db.repliesTo_iff.1 hother
  obtain ⟨-, hrow⟩ := Db.repliesTo_iff.1 hreplies
  have hsource : t.sourceMessageId = messageId := by
    simp only [TaskRow.isFor, Bool.and_eq_true, beq_iff_eq] at hfor
    exact hfor.1
  have howns : start.ownsMessage t.tenantId t.mailboxId messageId = true := by
    simp only [Db.taskVisible, Bool.and_eq_true, hsource] at hvisible
    exact hvisible.1.2
  have howns' : start.ownsMessage input.tenantId input.mailboxId messageId = true := by
    simp only [Db.taskVisible, TaskInput.row, Bool.and_eq_true, hinput.source] at hrow
    exact hrow.1.2
  obtain ⟨htenant, hmailbox⟩ := hstart.owner howns howns'
  refine List.any_eq_false.1 hwanted t ht ?_
  rw [hinput.source, hinput.type, hfor, htenant, hmailbox, hw.parents.taskVisible, hvisible]
  simp

/-- `INSERT … WHERE NOT EXISTS`, and what it answers. -/
def TaskInput.insertion (input : TaskInput) (id : String) (timestamp : Nat) (s : Db) :
    Option Nat × Db :=
  if !s.hasTaskOf input then
    if s.taskIdFree id then (some 1, taskRows.inserted s (input.row id timestamp)) else (none, s)
  else (some 0, s)

/-- What is said of the insertion. -/
def TaskInput.insertionLabel (input : TaskInput) (id : String) (s : Db) : Label :=
  .insertTask id (if !s.hasTaskOf input && s.taskIdFree id then 1 else 0)

theorem insertTask_eq (input : TaskInput) (id : String) (timestamp : Nat) :
    insertTask input id timestamp = (do
      let outcome ← Prog.perform (input.insertionLabel id) (input.insertion id timestamp) Exn.d1
      match outcome with
      | some changes => pure changes
      | none => throw Exn.unique) := rfl

/-- The insertion is one where there is none, or does nothing. -/
theorem Db.OneReply.insertionEffect (hstart : start.OneReply messageId)
    (hinput : input.ForReply start messageId) (hw : TasksInv start messageId w) :
    TaskEffect start messageId w.store (input.insertion id timestamp w.store).2
        (input.insertionLabel id w.store) ∧
      start.SameParents (input.insertion id timestamp w.store).2 := by
  unfold TaskInput.insertion TaskInput.insertionLabel
  cases hwanted : w.store.hasTaskOf input with
  | true => exact ⟨.skip id rfl, hw.parents⟩
  | false =>
    cases hfree : w.store.taskIdFree id with
    | true =>
      exact ⟨hstart.insertEffect hinput hw hwanted hfree, hw.parents.mailboxes,
        hw.parents.agents, hw.parents.messages⟩
    | false => exact ⟨.skip id rfl, hw.parents⟩

theorem Db.hasTaskOf_iff {s : Db} (hs : start.SameParents s) :
    s.hasTaskOf input = true → Present start input s := by
  intro h
  obtain ⟨t, ht, hkey⟩ := List.any_eq_true.1 h
  simp only [Bool.and_eq_true, beq_iff_eq, hs.taskVisible] at hkey
  obtain ⟨⟨⟨hfor, htenant⟩, hmailbox⟩, hvisible⟩ := hkey
  exact ⟨t, hfor, htenant, hmailbox, t, ht, .refl t, hvisible⟩

/-- A row that was just inserted, and answered. -/
theorem inserted_after (hwanted : w.store.hasTaskOf input = false)
    (hfree : w.store.taskIdFree id = true) :
    Inserted start i (input.row id timestamp) (w.after i (input.insertionLabel id)
      (fun s => (input.insertion id timestamp s).2) .done) := by
  have hids : ∀ t ∈ w.store.tasks, t.id ≠ id := by
    simpa [Db.taskIdFree] using hfree
  have hrows : (input.insertion id timestamp w.store).2.tasks =
      w.store.tasks ++ [input.row id timestamp] := by
    rw [TaskInput.insertion, hwanted, hfree]
    rfl
  have hlabel : input.insertionLabel id w.store = .insertTask id 1 := by
    rw [TaskInput.insertionLabel, hwanted, hfree]
    rfl
  refine ⟨?_, fun hvisible => ⟨input.row id timestamp, ?_, .refl _, hvisible⟩, ?_⟩
  · rw [World.after_trace, hlabel, ownsTask]
    refine latest_cons_some ?_ _
    rw [ownNews, if_pos rfl]
    exact if_pos ⟨rfl, Nat.one_pos, rfl⟩
  · rw [World.after_done_store, hrows]
    exact List.mem_append_right _ (List.mem_singleton_self _)
  · intro hvisible t ht hid
    rw [World.after_done_store, hrows, List.mem_append, List.mem_singleton] at ht
    rcases ht with ht | rfl
    · exact absurd hid (hids t ht)
    · exact hvisible

/-- `insertTask` inserts the row, or finds one of the message. -/
theorem safe_insertTask (hstart : start.OneReply messageId)
    (hinput : input.ForReply start messageId) (hw : TasksInv start messageId w) :
    (oneTask ι start messageId).Safe i
      (fun changes w' => if changes = 0 then Present start input w'.store
        else Inserted start i (input.row id timestamp) w')
      (fun _ _ => True) (insertTask input id timestamp) w := by
  rw [insertTask_eq]
  refine Protocol.Safe.bind (Q := fun outcome w' =>
    (outcome = some 0 → Present start input w'.store) ∧
    ∀ n, outcome = some (n + 1) → Inserted start i (input.row id timestamp) w') hw
    (Protocol.Safe.perform fun o hallow => ?_) ?_ fun _ _ _ h => h
  · obtain ⟨heffect, hparents⟩ := hstart.insertionEffect hinput hw
    have hgood : (oneTask ι start messageId).Good i w (w.after i (input.insertionLabel id)
        (fun s => (input.insertion id timestamp s).2) o) :=
      good_taskEffect hw heffect hparents hallow
    refine ⟨hgood, fun w' hlater => ?_⟩
    split
    · next hdone =>
      subst hdone
      cases hwanted : w.store.hasTaskOf input with
      | true =>
        have hpresent := (Db.hasTaskOf_iff hw.parents hwanted).keeps hgood.keeps
        rw [TaskInput.insertion, hwanted]
        exact ⟨fun _ => hpresent.keeps hlater.keeps, nofun⟩
      | false =>
        cases hfree : w.store.taskIdFree id with
        | true =>
          have hinserted := (inserted_after hwanted hfree).later hlater
          rw [TaskInput.insertion, hwanted, hfree]
          exact ⟨nofun, fun _ _ => hinserted⟩
        | false =>
          rw [TaskInput.insertion, hwanted, hfree]
          exact ⟨nofun, nofun⟩
    · trivial
  · rintro outcome w' hw' ⟨hzero, hsucc⟩
    cases outcome with
    | none => trivial
    | some changes =>
      cases changes with
      | zero => exact hzero rfl
      | succ n => exact hsucc n rfl

/-! ### The row that was inserted -/

/-- `assignedAgentExists` says no only if the agent is not the tenant's. -/
theorem safe_assignedAgentExists {tenantId : String} {agent : Option String}
    (hw : TasksInv start messageId w) :
    (oneTask ι start messageId).Safe i
      (fun found w' => (oneTask ι start messageId).Later i w w' ∧
        (found = false → (agent.all fun agentId => start.ownsAgent tenantId agentId) = false))
      (fun _ _ => True) (assignedAgentExists tenantId agent) w := by
  unfold assignedAgentExists
  split
  · exact ⟨Protocol.Later.refl hw, nofun⟩
  · next agentId hagent =>
    refine safe_taskQuery rfl hw fun w' hlater => ⟨hlater, fun hfound => ?_⟩
    obtain ⟨rfl, -⟩ := Option.filter_eq_some_iff.1 hagent
    rwa [hw.parents.ownsAgent] at hfound

/-- Who has inserted a row that is not visible may delete it. -/
theorem safe_deleteTask {row : TaskRow} (hw : TasksInv start messageId w)
    (hrow : Inserted start i row w) (hvisible : start.taskVisible row = false) :
    (oneTask ι start messageId).Safe i (fun _ _ => True) (fun _ _ => True) (deleteTask row.id)
      w := by
  refine Protocol.Safe.tryCatch (E := fun _ _ => True) hw ?_ fun _ _ _ _ => trivial
  refine Protocol.Safe.bind (Q := fun _ _ => True) hw (Protocol.Safe.perform fun o _ => ?_)
    (fun _ _ _ _ => trivial) fun _ _ _ h => h
  refine ⟨good_deleteTask hw hrow.owned (hrow.hides hvisible) rfl rfl, fun w' _ => ?_⟩
  split <;> trivial

/-- What is inserted stays, unless it is taken back. -/
theorem safe_cleanupTaskIfParentsMissing (hw : TasksInv start messageId w)
    (hrow : Inserted start i (input.row id timestamp) w) :
    (oneTask ι start messageId).Safe i (fun _ w' => Inserted start i (input.row id timestamp) w')
      (fun _ _ => True) (cleanupTaskIfParentsMissing input id) w := by
  refine Protocol.Safe.bind (Q := fun found w' => Inserted start i (input.row id timestamp) w' ∧
      found = start.ownsMailbox input.tenantId input.mailboxId) hw
    (safe_taskQuery rfl hw fun w' hlater =>
      ⟨hrow.later hlater, hw.parents.ownsMailbox _ _⟩) ?_ fun _ _ _ h => h
  rintro mailboxExists w hw ⟨hrow, hmailbox⟩
  refine Protocol.Safe.bind (Q := fun found w' => Inserted start i (input.row id timestamp) w' ∧
      found = start.ownsMessage input.tenantId input.mailboxId input.sourceMessageId) hw
    (safe_taskQuery rfl hw fun w' hlater =>
      ⟨hrow.later hlater, hw.parents.messages _ _ _⟩) ?_ fun _ _ _ h => h
  rintro messageExists w hw ⟨hrow, hmessage⟩
  refine Protocol.Safe.bind hw (safe_assignedAgentExists hw) ?_ fun _ _ _ h => h
  rintro agentExists w' hw' ⟨hlater, hagent⟩
  have hrow' := hrow.later hlater
  split
  · exact hrow'
  · next hmissing =>
    refine Protocol.Safe.bind hw' (safe_deleteTask hw' hrow' ?_) (fun _ _ _ _ => trivial)
      fun _ _ _ h => h
    rw [Db.taskVisible, Bool.eq_false_iff]
    intro hvisible
    simp only [TaskInput.row, Bool.and_eq_true, ← hmailbox, ← hmessage] at hvisible
    obtain ⟨⟨htrue, htrue'⟩, hagentTrue⟩ := hvisible
    cases agentExists with
    | true => exact hmissing (by rw [htrue, htrue']; rfl)
    | false =>
      rw [hagent rfl] at hagentTrue
      cases hagentTrue

/-- What is read back is the row that was inserted. -/
theorem safe_getTask_inserted (hw : TasksInv start messageId w)
    (hinput : input.ForReply start messageId)
    (hrow : Inserted start i (input.row id timestamp) w) :
    (oneTask ι start messageId).Safe i
      (fun row w' => ∀ t, row = some t → t.isFor messageId "reply" = true ∧
        start.Stays t w'.store)
      (fun _ _ => True) (getTask id) w := by
  refine Protocol.Safe.mono hw (safe_getTask hw) ?_ fun _ _ _ h => h
  rintro row w' hw' ⟨hlater, hfound, hthere⟩ t rfl
  obtain ⟨hid, hstays⟩ := hfound t rfl
  refine ⟨?_, hstays⟩
  cases hvisible : start.taskVisible (input.row id timestamp) with
  | true =>
    obtain ⟨u, hu, hsame⟩ := hthere _ (hrow.stays hvisible) rfl
    obtain rfl := Option.some.inj hu
    rw [hsame.isFor]
    simp [TaskRow.isFor, TaskInput.row, hinput.source, hinput.type]
  | false =>
    obtain ⟨u, hu, hsame, hshown⟩ := hstays
    have hhidden := (hrow.later hlater).hides hvisible u hu (hsame.id.trans hid)
    rw [hshown] at hhidden
    cases hhidden

/-! ### A task that is written again -/

/-- A mailbox is one tenant's. -/
theorem Db.OneReply.tenant (h : start.OneReply messageId) {mailboxId tenantId : String}
    {mailbox : MailboxRow} (hmailbox : start.mailbox mailboxId = some mailbox)
    (howns : start.ownsMailbox tenantId mailboxId = true) : mailbox.tenantId = tenantId := by
  obtain ⟨row, hrow, hkey⟩ := List.any_eq_true.1 howns
  simp only [Bool.and_eq_true, beq_iff_eq] at hkey
  have hid := List.find?_some hmailbox
  simp only [beq_iff_eq] at hid
  obtain rfl := List.inj_on_of_nodup_map h.mailboxes (List.mem_of_find?_eq_some hmailbox) hrow
    (hid.trans hkey.1.symm)
  exact hkey.2

/-- Visible tasks that reply to the message are one task. -/
theorem TasksInv.reply_unique (hw : TasksInv start messageId w) {t u : TaskRow}
    (ht : t ∈ w.store.tasks) (hu : u ∈ w.store.tasks) (ht' : start.repliesTo messageId t = true)
    (hu' : start.repliesTo messageId u = true) : t = u := by
  have hlength := hw.one
  rw [List.countP_eq_length_filter] at hlength
  have hmem := List.mem_filter.2 ⟨ht, ht'⟩
  have hmem' := List.mem_filter.2 ⟨hu, hu'⟩
  cases hlist : w.store.tasks.filter (start.repliesTo messageId) with
  | nil =>
    rw [hlist] at hmem
    cases hmem
  | cons v rest =>
    rw [hlist] at hlength hmem hmem'
    obtain rfl : rest = [] := List.length_eq_zero_iff.1 (by simpa using hlength)
    exact (List.mem_singleton.1 hmem).trans (List.mem_singleton.1 hmem').symm

/-- An agent of the tenant of the task's mailbox may have it. -/
theorem Db.OneReply.taskVisible (h : start.OneReply messageId) {t t' : TaskRow} {agentId : String}
    {mailbox : MailboxRow} (hvisible : start.taskVisible t = true) (hsame : t.Same t')
    (hagent : t'.assignedAgent = some agentId) (hmailbox : start.mailbox t.mailboxId = some mailbox)
    (howns : start.ownsAgent mailbox.tenantId agentId = true) : start.taskVisible t' = true := by
  simp only [Db.taskVisible, Bool.and_eq_true] at hvisible ⊢
  obtain ⟨⟨hbox, hmessage⟩, -⟩ := hvisible
  rw [h.tenant hmailbox hbox] at howns
  rw [hsame.tenantId, hsame.mailboxId, hsame.sourceMessageId, hagent]
  exact ⟨⟨hbox, hmessage⟩, howns⟩

/-- A task that stays is written again, and stays. -/
theorem safe_updateTask {l : Nat → Label} {set : TaskRow → TaskRow} {t : TaskRow}
    (hw : TasksInv start messageId w) (ht : start.Stays t w.store)
    (hsame : ∀ u : TaskRow, u.Same (set u))
    (hvisible : ∀ u, t.Same u → start.taskVisible u = true → start.taskVisible (set u) = true)
    (hstatus : ∀ n target, StatusWritten t.id n target set (l n)) :
    (oneTask ι start messageId).Safe i (fun _ w' => start.Stays t w'.store) (fun _ _ => True)
      (updateTask l t.id set) w := by
  have heffect : TaskEffect start messageId w.store
      (taskRows.updated w.store (fun u => u.id == t.id && w.store.taskVisible u) set).2
      (l (taskRows.updated w.store (fun u => u.id == t.id && w.store.taskVisible u) set).1) := by
    obtain ⟨v, hv, hv', -⟩ := ht
    refine .update t.id _ set ⟨fun u _ hu => ?_, fun u _ _ => hsame u, fun u hmem hu => ?_⟩
      (hstatus _ _) rfl
    · simpa [hw.parents.taskVisible] using hu
    · simp only [Bool.and_eq_true, beq_iff_eq, hw.parents.taskVisible] at hu
      obtain rfl := hw.unique hv hmem (hv'.id.trans hu.1.symm)
      exact hvisible v hv' hu.2
  refine Protocol.Safe.bind (Q := fun _ w' => start.Stays t w'.store) hw
    (Protocol.Safe.perform fun o hallow => ?_) (fun changes w' hw' ht' => ?_) fun _ _ _ h => h
  · have hgood : (oneTask ι start messageId).Good i w (w.after i
        (fun s => l (taskRows.updated s (fun u => u.id == t.id && s.taskVisible u) set).1)
        (fun s => (taskRows.updated s (fun u => u.id == t.id && s.taskVisible u) set).2) o) :=
      good_taskEffect hw heffect (hw.parents.tasksUpdated _ _) hallow
    refine ⟨hgood, fun w' hlater => ?_⟩
    split
    · exact (ht.keeps hgood.keeps).keeps hlater.keeps
    · trivial
  · exact Protocol.Safe.mono hw' (safe_quiet_stays (quiet_reads touches_requireStateUpdateApplied)
      hw' ht') (fun _ _ _ h => h) fun _ _ _ _ => trivial

theorem safe_requireRow {row : Option α} {message : String} {Q : α → World ι Db Label → Prop}
    (h : ∀ a, row = some a → Q a w) :
    (oneTask ι start messageId).Safe i Q (fun _ _ => True) (requireRow row message) w := by
  cases row with
  | some a => exact h a rfl
  | none => trivial

/-- A task that is there already is used, and is put back if it has failed. -/
theorem safe_resetTask (hstart : start.OneReply messageId)
    (hinput : input.ForReply start messageId) (hw : TasksInv start messageId w) {t : TaskRow}
    (hfor : t.isFor messageId "reply" = true) (ht : start.Stays t w.store)
    (hpresent : Present start input w.store) :
    (oneTask ι start messageId).Safe i
      (fun t w' => t.isFor messageId "reply" = true ∧ start.Stays t w'.store)
      (fun _ _ => True) (resetTask input timestamp (some t)) w := by
  have hmailbox : t.mailboxId = input.mailboxId := by
    obtain ⟨u, hufor, -, humailbox, v, hv, huv, hvvisible⟩ := hpresent
    obtain ⟨v', hv', htv, hvvisible'⟩ := ht
    rw [hinput.source, hinput.type] at hufor
    obtain rfl := hw.reply_unique hv hv'
      (Db.repliesTo_iff.2 ⟨(huv.isFor _ _).trans hufor, hvvisible⟩)
      (Db.repliesTo_iff.2 ⟨(htv.isFor _ _).trans hfor, hvvisible'⟩)
    rw [← humailbox, ← huv.mailboxId, htv.mailboxId]
  obtain ⟨agentId, mailbox, hagent, hbox, howns⟩ := hinput.agent
  unfold resetTask requireRow
  refine Protocol.Safe.bind (Q := fun u w' => u = t ∧ w' = w) hw ⟨rfl, rfl⟩ ?_
    fun _ _ _ (h : False) => h.elim
  rintro t w - ⟨rfl, rfl⟩
  split
  · refine Protocol.Safe.bind hw (safe_updateTask hw ht (fun u => ⟨rfl, rfl, rfl, rfl, rfl⟩)
      (fun u hu huvisible => ?_) fun n target => ?_) ?_ fun _ _ _ h => h
    · refine hstart.taskVisible huvisible ⟨rfl, rfl, rfl, rfl, rfl⟩ hagent ?_ howns
      rw [hu.mailboxId, hmailbox]
      exact hbox
    · rw [hinput.status]
      exact .written .queued (.inl rfl) fun u => rfl
    · intro _ w' hw' ht'
      refine Protocol.Safe.bind hw' (safe_getTask hw') ?_ fun _ _ _ h => h
      rintro row w'' hw'' ⟨-, hfound, hthere⟩
      refine safe_requireRow fun u hu => ?_
      obtain ⟨v, hv, hsame⟩ := hthere t ht' rfl
      obtain rfl := Option.some.inj (hu.symm.trans hv)
      exact ⟨(hsame.isFor _ _).trans hfor, (hfound u hu).2⟩
  · exact ⟨hfor, ht⟩

/-- **`getOrCreateTaskForSourceMessage` answers a visible task of the message.** -/
theorem safe_getOrCreateTaskForSourceMessage (hstart : start.OneReply messageId)
    (hinput : input.ForReply start messageId) (hw : TasksInv start messageId w) :
    (oneTask ι start messageId).Safe i
      (fun t w' => t.isFor messageId "reply" = true ∧ start.Stays t w'.store)
      (fun _ _ => True) (getOrCreateTaskForSourceMessage env input) w := by
  refine Protocol.Safe.bind (Q := fun _ _ => True) hw
    (safe_taskDraw (fun _ t => by cases t <;> rfl) hw fun _ _ _ => trivial) ?_ fun _ _ _ h => h
  intro id w hw _
  refine Protocol.Safe.bind (Q := fun _ _ => True) hw
    (safe_taskDraw (fun _ t => by cases t <;> rfl) hw fun _ _ _ => trivial) ?_ fun _ _ _ h => h
  intro timestamp w hw _
  refine Protocol.Safe.bind hw (safe_insertTask hstart hinput hw) ?_ fun _ _ _ h => h
  intro changes w hw hinsert
  split at hinsert
  · next hzero =>
    -- the message has a task, so that none is ever taken for gone
    rw [if_pos hzero, hinput.source, hinput.type]
    refine Protocol.Safe.bind hw (Protocol.Safe.keep (A := fun w => Present start input w.store)
      (fun _ _ hkeeps h => h.keeps hkeeps) (safe_getTaskBySourceMessageId hw) hinsert) ?_
      fun _ _ _ _ => trivial
    rintro row w' hw' ⟨⟨hfound, hthere⟩, hpresent⟩
    obtain ⟨t, hfor, -, -, hstays⟩ := hinsert
    rw [hinput.source, hinput.type] at hfor
    obtain ⟨u, rfl, -⟩ := hthere t hstays hfor
    obtain ⟨hufor, hustays⟩ := hfound u rfl
    exact safe_resetTask hstart hinput hw' hufor hustays hpresent
  · next hpos =>
    rw [if_neg hpos]
    refine Protocol.Safe.bind hw (safe_cleanupTaskIfParentsMissing hw hinsert) ?_ fun _ _ _ h => h
    intro _ w hw hrow
    refine Protocol.Safe.bind hw (safe_getTask_inserted hw hinput hrow) ?_ fun _ _ _ h => h
    intro row w' hw' hfound
    exact safe_requireRow hfound

end Safe

end MailRuntime
