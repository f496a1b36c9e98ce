import MailRuntime.Handlers.AgentExecute
import MailRuntime.Interaction.Frozen

/-!
# What a statement does to the tasks

Ingest inserts a task, takes back its own if its parents are gone, and puts a failed one back to
`queued`; a consumer claims a task, assigns it and gives it to review. None of them changes what
makes a task visible, which is therefore said of the database the run starts in.

## What is proved

Every such statement keeps `TasksInv`: a message has at most one visible task for its reply,
and no task is claimed twice, if a task is put back only while it waits (`PutsBackWaiting`).
-/

namespace MailRuntime

open Js Interaction

/-! ### What makes a task visible -/

/-- The mailboxes, the agents and the owners of the messages are those of the start. -/
structure Db.SameParents (start s : Db) : Prop where
  mailboxes : s.mailboxes = start.mailboxes
  agents : s.agents = start.agents
  messages : ∀ tenantId mailboxId messageId,
    s.ownsMessage tenantId mailboxId messageId = start.ownsMessage tenantId mailboxId messageId

theorem Db.SameParents.refl (start : Db) : start.SameParents start :=
  ⟨rfl, rfl, fun _ _ _ => rfl⟩

variable {start s s' : Db} {messageId : String}

theorem Db.SameParents.ownsMailbox (h : start.SameParents s) (tenantId mailboxId : String) :
    s.ownsMailbox tenantId mailboxId = start.ownsMailbox tenantId mailboxId := by
  simp only [Db.ownsMailbox, h.mailboxes]

theorem Db.SameParents.ownsAgent (h : start.SameParents s) (tenantId agentId : String) :
    s.ownsAgent tenantId agentId = start.ownsAgent tenantId agentId := by
  simp only [Db.ownsAgent, h.agents]

theorem Db.SameParents.taskVisible (h : start.SameParents s) (t : TaskRow) :
    s.taskVisible t = start.taskVisible t := by
  simp only [Db.taskVisible, h.ownsMailbox, h.messages, h.ownsAgent]

/-- A visible task that is to reply to the message. -/
def Db.repliesTo (s : Db) (messageId : String) (t : TaskRow) : Bool :=
  t.isFor messageId "reply" && s.taskVisible t

/-- What a task is known by stays. -/
structure TaskRow.Same (t t' : TaskRow) : Prop where
  id : t'.id = t.id
  tenantId : t'.tenantId = t.tenantId
  mailboxId : t'.mailboxId = t.mailboxId
  sourceMessageId : t'.sourceMessageId = t.sourceMessageId
  taskType : t'.taskType = t.taskType

theorem TaskRow.Same.refl (t : TaskRow) : t.Same t := ⟨rfl, rfl, rfl, rfl, rfl⟩

theorem TaskRow.Same.trans {t t' t'' : TaskRow} (h : t.Same t') (h' : t'.Same t'') : t.Same t'' :=
  ⟨h'.id.trans h.id, h'.tenantId.trans h.tenantId, h'.mailboxId.trans h.mailboxId,
    h'.sourceMessageId.trans h.sourceMessageId, h'.taskType.trans h.taskType⟩

theorem TaskRow.Same.isFor {t t' : TaskRow} (h : t.Same t') (messageId taskType : String) :
    t'.isFor messageId taskType = t.isFor messageId taskType := by
  simp only [TaskRow.isFor, h.sourceMessageId, h.taskType]

/-- The task may still be claimed, at once or after it has been put back. -/
def TaskRow.waits (t : TaskRow) : Bool := t.status == .queued || t.status == .failed

/-- The task has been claimed, or given to review. -/
def TaskRow.busy (t : TaskRow) : Bool := t.status == .running || t.status == .needsReview

/-! ### The trace -/

/-- The label claims the task. -/
def Label.claims (taskId : String) : Label → Bool
  | .claimTask task changes => task = taskId && 0 < changes
  | _ => false

/-- How often the task has been claimed. -/
def taskClaims {ι : Type} (taskId : String) (trace : List (Event ι Label)) : Nat :=
  trace.countP fun e => e.label.claims taskId && e.outcome.effective

/-- The label says something of a task. -/
def Label.ofTask : Label → Bool
  | .insertTask _ _ | .deleteTask _ | .claimTask _ _ | .writeTask _ _ _ => true
  | _ => false

section Trace

variable {ι : Type} [DecidableEq ι]

/-- What the event says of a task that `i` has inserted: that it has, or that it has deleted it. -/
def ownNews (i : ι) (taskId : String) (e : Event ι Label) : Option Bool :=
  if e.thread = i then
    match e.label with
    | .insertTask task changes =>
      if task = taskId ∧ 0 < changes ∧ e.outcome = .done then some true else none
    | .deleteTask task => if task = taskId then some false else none
    | _ => none
  else none

/-- The task is one that `i` has inserted, and not deleted since. -/
def ownsTask (i : ι) (taskId : String) (trace : List (Event ι Label)) : Bool :=
  latest (ownNews i taskId) trace

variable {i k : ι} {taskId : String} {l : Label} {o : Outcome} {trace : List (Event ι Label)}

omit [DecidableEq ι] in
theorem taskClaims_cons_of_not {e : Event ι Label}
    (h : (e.label.claims taskId && e.outcome.effective) = false) :
    taskClaims taskId (e :: trace) = taskClaims taskId trace := by
  rw [taskClaims, List.countP_cons_of_neg (by simp [h])]
  rfl

omit [DecidableEq ι] in
theorem taskClaims_cons_of_claims {e : Event ι Label}
    (h : (e.label.claims taskId && e.outcome.effective) = true) :
    taskClaims taskId (e :: trace) = taskClaims taskId trace + 1 := by
  rw [taskClaims, List.countP_cons_of_pos (by simpa using h)]
  rfl

theorem ownsTask_cons_of_none {e : Event ι Label} (h : ownNews i taskId e = none) :
    ownsTask i taskId (e :: trace) = ownsTask i taskId trace := latest_cons_none h trace

theorem ownNews_of_ne (h : k ≠ i) : ownNews k taskId ⟨i, l, o⟩ = none := if_neg (Ne.symm h)

theorem ownNews_of_ofTask (h : l.ofTask = false) : ownNews k taskId ⟨i, l, o⟩ = none := by
  rw [ownNews]
  split
  · cases l <;> first | rfl | cases h
  · rfl

theorem ownsTask_of_refused (h : ownsTask k taskId (⟨i, l, .refused⟩ :: trace) = true) :
    ownsTask k taskId trace = true := by
  rw [ownsTask, latest_cons] at h
  unfold ownNews at h
  split at h
  · split at h
    · rw [if_neg (by simp)] at h
      exact h
    · split at h
      · cases h
      · exact h
    · exact h
  · exact h

end Trace

/-! ### The effects -/

/-- An `UPDATE` of the task, which stays what it was and visible. -/
structure TaskUpdate (start s : Db) (taskId : String) (target : TaskRow → Bool)
    (set : TaskRow → TaskRow) : Prop where
  aims : ∀ t ∈ s.tasks, target t = true → t.id = taskId ∧ start.taskVisible t = true
  same : ∀ t ∈ s.tasks, target t = true → t.Same (set t)
  visible : ∀ t ∈ s.tasks, target t = true → start.taskVisible (set t) = true

/-- What the label says of the status that is written. -/
inductive StatusWritten (taskId : String) (changes : Nat) (target : TaskRow → Bool)
    (set : TaskRow → TaskRow) : Label → Prop where
  | kept {l : Label} (hl : l.ofTask = false) (h : ∀ t, (set t).status = t.status) :
    StatusWritten taskId changes target set l
  | claimed (htarget : ∀ t, target t = true → t.status = .queued)
      (h : ∀ t, (set t).status = .running) :
    StatusWritten taskId changes target set (.claimTask taskId changes)
  | written (status : TaskStatus) (hstatus : status = .queued ∨ status = .needsReview)
      (h : ∀ t, (set t).status = status) :
    StatusWritten taskId changes target set (.writeTask taskId status changes)

/-- What a statement other than a deletion does to the tasks. -/
inductive TaskEffect (start : Db) (messageId : String) (s s' : Db) : Label → Prop where
  /-- Nothing. -/
  | same {l : Label} (hl : l.ofTask = false) (h : s'.tasks = s.tasks) :
    TaskEffect start messageId s s' l
  /-- One is updated. -/
  | update {l : Label} (taskId : String) (target : TaskRow → Bool) (set : TaskRow → TaskRow)
      (hupdate : TaskUpdate start s taskId target set)
      (hstatus : StatusWritten taskId (s.tasks.countP target) target set l)
      (h : s'.tasks = s.tasks.map fun t => if target t then set t else t) :
    TaskEffect start messageId s s' l
  /-- One is inserted, where no visible task replies to the message. -/
  | insert (row : TaskRow) (hfree : ∀ t ∈ s.tasks, t.id ≠ row.id)
      (hone : start.repliesTo messageId row = true →
        s.tasks.countP (start.repliesTo messageId) = 0)
      (h : s'.tasks = s.tasks ++ [row]) : TaskEffect start messageId s s' (.insertTask row.id 1)
  /-- One is there already. -/
  | skip (taskId : String) (h : s'.tasks = s.tasks) :
    TaskEffect start messageId s s' (.insertTask taskId 0)

/-- A task is put back to `queued` only while it waits: while it has failed, or another has put it
back and it has not been claimed since. -/
def PutsBackWaiting {ι : Type} (_ : ι) (w : World ι Db Label) (l : Label) (o : Outcome) : Prop :=
  match l with
  | .writeTask taskId .queued changes =>
    o = .refused ∨ changes = 0 ∨ ∀ t ∈ w.store.tasks, t.id = taskId → t.waits = true
  | _ => True

instance {ι : Type} (i : ι) (w : World ι Db Label) (l : Label) (o : Outcome) :
    Decidable (PutsBackWaiting i w l o) := by
  apply Label.casesOn (motive := fun l => Decidable (PutsBackWaiting i w l o)) l
  case writeTask =>
    intro taskId status changes
    apply TaskStatus.casesOn (motive := fun status =>
      Decidable (PutsBackWaiting i w (.writeTask taskId status changes) o)) status
    all_goals
      unfold PutsBackWaiting
      infer_instance
  all_goals
    intros
    unfold PutsBackWaiting
    infer_instance

/-! ### The invariant -/

section Invariant

variable {ι : Type} [DecidableEq ι] {w w' : World ι Db Label} {i k : ι} {taskId : String}

/-- What holds throughout. The tasks that somebody owns are there; those that have been claimed are
there and visible. -/
structure TasksInv (start : Db) (messageId : String) (w : World ι Db Label) : Prop where
  parents : start.SameParents w.store
  ids : (w.store.tasks.map TaskRow.id).Nodup
  one : w.store.tasks.countP (start.repliesTo messageId) ≤ 1
  claimed : ∀ taskId, 0 < taskClaims taskId w.trace →
    ∃ t ∈ w.store.tasks, t.id = taskId ∧ start.taskVisible t = true
  waiting : ∀ t ∈ w.store.tasks, t.waits = true → taskClaims t.id w.trace = 0
  once : ∀ taskId, taskClaims taskId w.trace ≤ 1
  owned : ∀ i taskId, ownsTask i taskId w.trace = true → ∃ t ∈ w.store.tasks, t.id = taskId
  single : ∀ i k taskId, ownsTask i taskId w.trace = true → ownsTask k taskId w.trace = true → i = k

/-- A visible task is there still, and is busy if it was. -/
def Db.KeepsTasks (start s s' : Db) : Prop :=
  ∀ t ∈ s.tasks, start.taskVisible t = true →
    ∃ t' ∈ s'.tasks, t.Same t' ∧ start.taskVisible t' = true ∧ (t.busy = true → t'.busy = true)

theorem Db.KeepsTasks.of_subset (h : s.tasks ⊆ s'.tasks) : start.KeepsTasks s s' :=
  fun t ht hvisible => ⟨t, h ht, .refl t, hvisible, fun hbusy => hbusy⟩

theorem Db.KeepsTasks.trans {s'' : Db} (h : start.KeepsTasks s s') (h' : start.KeepsTasks s' s'') :
    start.KeepsTasks s s'' := by
  intro t ht hvisible
  obtain ⟨t', ht', hsame, hvisible', hbusy⟩ := h t ht hvisible
  obtain ⟨t'', ht'', hsame', hvisible'', hbusy'⟩ := h' t' ht' hvisible'
  exact ⟨t'', ht'', hsame.trans hsame', hvisible'', fun hb => hbusy' (hbusy hb)⟩

/-- No task with the identifier is visible. -/
def Db.Hides (start : Db) (taskId : String) (s : Db) : Prop :=
  ∀ t ∈ s.tasks, t.id = taskId → start.taskVisible t = false

/-- Tasks with one identifier are one task. -/
theorem TasksInv.unique (hw : TasksInv start messageId w) {t u : TaskRow}
    (ht : t ∈ w.store.tasks) (hu : u ∈ w.store.tasks) (hid : t.id = u.id) : t = u :=
  List.inj_on_of_nodup_map hw.ids ht hu hid

/-- A statement that leaves the tasks alone. -/
theorem TasksInv.idle (hw : TasksInv start messageId w) {e : Event ι Label}
    (hparents : start.SameParents w'.store) (htasks : w'.store.tasks = w.store.tasks)
    (htrace : w'.trace = e :: w.trace)
    (hclaims : ∀ taskId, (e.label.claims taskId && e.outcome.effective) = false)
    (howns : ∀ k taskId, ownsTask k taskId w'.trace = true → ownsTask k taskId w.trace = true) :
    TasksInv start messageId w' := by
  have hsame : ∀ taskId, taskClaims taskId w'.trace = taskClaims taskId w.trace := by
    intro taskId
    rw [htrace]
    exact taskClaims_cons_of_not (hclaims taskId)
  obtain ⟨-, hids, hone, hclaimed, hwaiting, honce, howned, hsingle⟩ := hw
  refine ⟨hparents, ?_, ?_, ?_, ?_, ?_, ?_, ?_⟩
  · rwa [htasks]
  · rwa [htasks]
  · intro taskId h
    rw [hsame] at h
    rw [htasks]
    exact hclaimed taskId h
  · intro t ht hwaits
    rw [htasks] at ht
    rw [hsame]
    exact hwaiting t ht hwaits
  · intro taskId
    rw [hsame]
    exact honce taskId
  · intro k taskId h
    rw [htasks]
    exact howned k taskId (howns k taskId h)
  · intro i k taskId hi hk
    exact hsingle i k taskId (howns i taskId hi) (howns k taskId hk)

section Update

variable {target : TaskRow → Bool} {set : TaskRow → TaskRow} {n : Nat} {t : TaskRow} {l : Label}
  {o : Outcome}

/-- The rows that an update makes, and what they were. -/
theorem TaskUpdate.row (h : TaskUpdate start s taskId target set) (ht : t ∈ s.tasks) :
    t.Same (if target t then set t else t) ∧
      start.taskVisible (if target t then set t else t) = start.taskVisible t := by
  by_cases htarget : target t = true
  · rw [if_pos htarget, h.visible t ht htarget, (h.aims t ht htarget).2]
    exact ⟨h.same t ht htarget, rfl⟩
  · rw [if_neg htarget]
    exact ⟨.refl t, rfl⟩

/-- Only a claim counts as one, and it finds the task queued. -/
theorem StatusWritten.claims_eq (h : StatusWritten taskId n target set l) (task : String) :
    l.claims task = true → task = taskId ∧ 0 < n ∧
      (∀ t, target t = true → t.status = .queued) ∧ ∀ t, (set t).status = .running := by
  intro hclaims
  cases h with
  | kept hl _ =>
    cases l with
    | claimTask _ _ => cases hl
    | _ => cases hclaims
  | claimed htarget hset =>
    simp only [Label.claims, Bool.and_eq_true, decide_eq_true_eq] at hclaims
    exact ⟨hclaims.1.symm, hclaims.2, htarget, hset⟩
  | written _ _ _ => cases hclaims

/-- A row that waits after the update waited before, and one that was busy is. -/
theorem StatusWritten.row (h : StatusWritten taskId n target set l)
    (hback : ∀ changes, l = .writeTask taskId .queued changes → t.waits = true)
    (htarget : target t = true) :
    ((set t).waits = true → t.waits = true) ∧ (t.busy = true → (set t).busy = true) := by
  cases h with
  | kept _ hset => simp [TaskRow.waits, TaskRow.busy, hset]
  | claimed hqueued hset => simp [TaskRow.waits, TaskRow.busy, hset, hqueued t htarget]
  | written status hstatus hset =>
    rcases hstatus with rfl | rfl
    · have hwaits := hback n rfl
      refine ⟨fun _ => hwaits, fun hbusy => ?_⟩
      cases hs : t.status <;> simp [TaskRow.waits, TaskRow.busy, hs] at hwaits hbusy
    · simp [TaskRow.waits, TaskRow.busy, hset]

/-- **A task is updated.** -/
theorem TasksInv.update (hw : TasksInv start messageId w) (hparents : start.SameParents w'.store)
    (hupdate : TaskUpdate start w.store taskId target set)
    (hstatus : StatusWritten taskId (w.store.tasks.countP target) target set l)
    (hback : ∀ changes, l = .writeTask taskId .queued changes →
      ∀ t ∈ w.store.tasks, target t = true → t.waits = true)
    (hrows : w'.store.tasks = w.store.tasks.map fun t => if target t then set t else t)
    (htrace : w'.trace = ⟨i, l, o⟩ :: w.trace) (hnews : ∀ k task, ownNews k task ⟨i, l, o⟩ = none) :
    TasksInv start messageId w' ∧ start.KeepsTasks w.store w'.store ∧
      ∀ task, start.Hides task w.store → start.Hides task w'.store := by
  have hmem : ∀ t' ∈ w'.store.tasks, ∃ t ∈ w.store.tasks,
      (if target t then set t else t) = t' := by
    intro t' ht'
    rw [hrows] at ht'
    exact List.mem_map.1 ht'
  have hnew : ∀ t ∈ w.store.tasks, (if target t then set t else t) ∈ w'.store.tasks := by
    intro t ht
    rw [hrows]
    exact List.mem_map_of_mem ht
  have howns : ∀ k task, ownsTask k task w'.trace = ownsTask k task w.trace := by
    intro k task
    rw [htrace]
    exact ownsTask_cons_of_none (hnews k task)
  -- a claim that counts has found the task queued, and is its first
  have hclaims : ∀ task, taskClaims task w'.trace = taskClaims task w.trace ∨
      (taskClaims task w'.trace = taskClaims task w.trace + 1 ∧ ∃ t ∈ w.store.tasks,
        target t = true ∧ t.id = task ∧ t.status = .queued ∧ (set t).status = .running) := by
    intro task
    by_cases h : (l.claims task && o.effective) = true
    · right
      obtain ⟨hclaim, -⟩ := Bool.and_eq_true_iff.1 h
      obtain ⟨rfl, hn, hqueued, hrunning⟩ := hstatus.claims_eq task hclaim
      obtain ⟨t, ht, htarget⟩ := List.countP_pos_iff.1 hn
      refine ⟨?_, t, ht, htarget, (hupdate.aims t ht htarget).1, hqueued t htarget, hrunning t⟩
      rw [htrace]
      exact taskClaims_cons_of_claims h
    · left
      rw [htrace]
      exact taskClaims_cons_of_not (Bool.eq_false_iff.2 h)
  refine ⟨⟨hparents, ?_, ?_, ?_, ?_, ?_, ?_, ?_⟩, ?_, ?_⟩
  · have hids : w'.store.tasks.map TaskRow.id = w.store.tasks.map TaskRow.id := by
      rw [hrows, List.map_map]
      exact List.map_congr_left fun t ht => (hupdate.row ht).1.id
    rw [hids]
    exact hw.ids
  · have hcount : w'.store.tasks.countP (start.repliesTo messageId) =
        w.store.tasks.countP (start.repliesTo messageId) := by
      rw [hrows, List.countP_map]
      refine List.countP_congr fun t ht => ?_
      obtain ⟨hsame, hvisible⟩ := hupdate.row ht
      simp only [Function.comp, Db.repliesTo, hsame.isFor, hvisible]
    rw [hcount]
    exact hw.one
  · intro task h
    rcases hclaims task with hsame | ⟨-, t, ht, htarget, hid, -⟩
    · rw [hsame] at h
      obtain ⟨t, ht, hid, hvisible⟩ := hw.claimed task h
      obtain ⟨hrow, hvis⟩ := hupdate.row ht
      exact ⟨_, hnew t ht, hrow.id.trans hid, hvis.trans hvisible⟩
    · obtain ⟨hrow, hvis⟩ := hupdate.row ht
      exact ⟨_, hnew t ht, hrow.id.trans hid, hvis.trans (hupdate.aims t ht htarget).2⟩
  · intro t' ht' hwaits
    obtain ⟨t, ht, rfl⟩ := hmem t' ht'
    have hid := (hupdate.row ht).1.id
    rw [hid]
    have hbefore : t.waits = true := by
      by_cases htarget : target t = true
      · rw [if_pos htarget] at hwaits
        exact (hstatus.row (fun changes hl => hback changes hl t ht htarget) htarget).1 hwaits
      · rwa [if_neg htarget] at hwaits
    have hzero := hw.waiting t ht hbefore
    rcases hclaims t.id with hsame | ⟨-, u, hu, htarget, huid, -, hrunning⟩
    · omega
    · obtain rfl := hw.unique hu ht huid
      rw [if_pos htarget, TaskRow.waits, hrunning] at hwaits
      cases hwaits
  · intro task
    rcases hclaims task with hsame | ⟨hone, t, ht, -, rfl, hqueued, -⟩
    · rw [hsame]
      exact hw.once task
    · have hzero := hw.waiting t ht (by simp [TaskRow.waits, hqueued])
      omega
  · intro k task h
    rw [howns] at h
    obtain ⟨t, ht, hid⟩ := hw.owned k task h
    exact ⟨_, hnew t ht, (hupdate.row ht).1.id.trans hid⟩
  · intro j k task hj hk
    rw [howns] at hj hk
    exact hw.single j k task hj hk
  · intro t ht hvisible
    obtain ⟨hrow, hvis⟩ := hupdate.row ht
    refine ⟨_, hnew t ht, hrow, hvis.trans hvisible, fun hbusy => ?_⟩
    by_cases htarget : target t = true
    · rw [if_pos htarget]
      exact (hstatus.row (fun changes hl => hback changes hl t ht htarget) htarget).2 hbusy
    · rwa [if_neg htarget]
  · intro task hhides t' ht' hid
    obtain ⟨t, ht, rfl⟩ := hmem t' ht'
    obtain ⟨hrow, hvis⟩ := hupdate.row ht
    rw [hvis]
    exact hhides t ht (hrow.id.symm.trans hid)

end Update

/-- A task is inserted, by somebody who comes to own it if he learns of it. -/
theorem TasksInv.insert (hw : TasksInv start messageId w) (hparents : start.SameParents w'.store)
    {row : TaskRow} {o : Outcome} (hfree : ∀ t ∈ w.store.tasks, t.id ≠ row.id)
    (hone : start.repliesTo messageId row = true →
      w.store.tasks.countP (start.repliesTo messageId) = 0)
    (hrows : w'.store.tasks = w.store.tasks ++ [row])
    (htrace : w'.trace = ⟨i, .insertTask row.id 1, o⟩ :: w.trace) : TasksInv start messageId w' := by
  have hclaims : ∀ task, taskClaims task w'.trace = taskClaims task w.trace := by
    intro task
    rw [htrace]
    exact taskClaims_cons_of_not rfl
  -- nobody owns the identifier yet
  have hfresh : ∀ k, ownsTask k row.id w.trace = false := by
    intro k
    by_contra h
    obtain ⟨t, ht, hid⟩ := hw.owned k row.id (Bool.not_eq_false _ ▸ h)
    exact hfree t ht hid
  have howns : ∀ k task, ownsTask k task w'.trace = true →
      ownsTask k task w.trace = true ∨ (k = i ∧ task = row.id) := by
    intro k task h
    rw [htrace, ownsTask, latest_cons] at h
    unfold ownNews at h
    split at h
    · next hthread =>
      dsimp only at h
      split at h
      · next htask => exact .inr ⟨hthread.symm, htask.1.symm⟩
      · exact .inl h
    · exact .inl h
  have hmem : ∀ t, t ∈ w'.store.tasks ↔ t ∈ w.store.tasks ∨ t = row := by
    intro t
    rw [hrows, List.mem_append, List.mem_singleton]
  refine ⟨hparents, ?_, ?_, ?_, ?_, ?_, ?_, ?_⟩
  · rw [hrows, List.map_append, List.map_singleton, List.nodup_append]
    refine ⟨hw.ids, List.nodup_singleton _, ?_⟩
    intro id hid id' hid' heq
    obtain ⟨t, ht, rfl⟩ := List.mem_map.1 hid
    rw [List.mem_singleton.1 hid'] at heq
    exact hfree t ht heq
  · rw [hrows, List.countP_append, List.countP_singleton]
    split
    · next hrow => rw [hone hrow]
    · exact hw.one
  · intro task h
    rw [hclaims] at h
    obtain ⟨t, ht, hboth⟩ := hw.claimed task h
    exact ⟨t, (hmem t).2 (.inl ht), hboth⟩
  · intro t ht hwaits
    rw [hclaims]
    rcases (hmem t).1 ht with ht | rfl
    · exact hw.waiting t ht hwaits
    · by_contra hpos
      obtain ⟨u, hu, hid, -⟩ := hw.claimed t.id (Nat.pos_of_ne_zero hpos)
      exact hfree u hu hid
  · intro task
    rw [hclaims]
    exact hw.once task
  · intro k task h
    rcases howns k task h with h | ⟨-, rfl⟩
    · obtain ⟨t, ht, hid⟩ := hw.owned k task h
      exact ⟨t, (hmem t).2 (.inl ht), hid⟩
    · exact ⟨row, (hmem row).2 (.inr rfl), rfl⟩
  · intro j k task hj hk
    rcases howns j task hj with hj | ⟨rfl, rfl⟩
    · rcases howns k task hk with hk | ⟨rfl, rfl⟩
      · exact hw.single j k task hj hk
      · rw [hfresh] at hj
        cases hj
    · rcases howns k _ hk with hk | ⟨rfl, -⟩
      · rw [hfresh] at hk
        cases hk
      · rfl

/-- A task that is not visible is deleted, by who owns it. -/
theorem TasksInv.delete (hw : TasksInv start messageId w) (hparents : start.SameParents w'.store)
    {o : Outcome} (howner : ownsTask i taskId w.trace = true)
    (hhides : start.Hides taskId w.store)
    (hrows : w'.store.tasks = w.store.tasks.filter fun t => !(t.id == taskId))
    (htrace : w'.trace = ⟨i, .deleteTask taskId, o⟩ :: w.trace) : TasksInv start messageId w' := by
  have hclaims : ∀ task, taskClaims task w'.trace = taskClaims task w.trace := by
    intro task
    rw [htrace]
    exact taskClaims_cons_of_not rfl
  have howns : ∀ k task, ownsTask k task w'.trace = true →
      ownsTask k task w.trace = true ∧ task ≠ taskId := by
    intro k task h
    have hnews : ownNews k task ⟨i, .deleteTask taskId, o⟩ =
        if i = k then if taskId = task then some false else none else none := rfl
    by_cases htask : taskId = task
    · subst htask
      by_cases hk : i = k
      · rw [htrace, ownsTask, latest_cons, hnews, if_pos hk, if_pos rfl] at h
        cases h
      · rw [htrace, ownsTask, latest_cons, hnews, if_neg hk] at h
        exact absurd (hw.single i k taskId howner h) hk
    · refine ⟨?_, Ne.symm htask⟩
      rw [htrace, ownsTask, latest_cons, hnews, if_neg htask, ite_self] at h
      exact h
  have hmem : ∀ t, t ∈ w'.store.tasks ↔ t ∈ w.store.tasks ∧ t.id ≠ taskId := by
    intro t
    rw [hrows, List.mem_filter]
    simp
  refine ⟨hparents, ?_, ?_, ?_, ?_, ?_, ?_, ?_⟩
  · rw [hrows]
    exact (List.filter_sublist.map TaskRow.id).nodup hw.ids
  · rw [hrows]
    exact le_trans (List.filter_sublist.countP_le) hw.one
  · intro task h
    rw [hclaims] at h
    obtain ⟨t, ht, hid, hvisible⟩ := hw.claimed task h
    refine ⟨t, (hmem t).2 ⟨ht, fun heq => ?_⟩, hid, hvisible⟩
    rw [hhides t ht heq] at hvisible
    cases hvisible
  · intro t ht hwaits
    rw [hclaims]
    exact hw.waiting t ((hmem t).1 ht).1 hwaits
  · intro task
    rw [hclaims]
    exact hw.once task
  · intro k task h
    obtain ⟨hold, hne⟩ := howns k task h
    obtain ⟨t, ht, hid⟩ := hw.owned k task hold
    exact ⟨t, (hmem t).2 ⟨ht, hid.trans_ne hne⟩, hid⟩
  · intro j k task hj hk
    exact hw.single j k task (howns j task hj).1 (howns k task hk).1

end Invariant

/-! ### The protocol -/

section Protocol

variable {ι : Type} [DecidableEq ι]

/-- Ingests and consumers, each of which relies on the others to leave the tasks it owns as
hidden as they are. -/
def oneTask (ι : Type) [DecidableEq ι] (start : Db) (messageId : String) :
    Protocol ι Db Label where
  inv := TasksInv start messageId
  keeps w w' := start.KeepsTasks w.store w'.store
  rely i w w' := ∀ taskId, ownsTask i taskId w'.trace = ownsTask i taskId w.trace ∧
    (ownsTask i taskId w.trace = true → start.Hides taskId w.store →
      start.Hides taskId w'.store)
  allow := PutsBackWaiting
  keeps_refl _ := .of_subset (List.Subset.refl _)
  keeps_trans _ _ _ h h' := h.trans h'
  rely_refl _ _ _ := ⟨rfl, fun _ h => h⟩
  rely_trans _ _ _ _ h h' taskId := by
    obtain ⟨howns, hhides⟩ := h taskId
    obtain ⟨howns', hhides'⟩ := h' taskId
    refine ⟨howns'.trans howns, fun ho hh => hhides' ?_ (hhides ho hh)⟩
    rw [howns]
    exact ho

variable {i k : ι} {w : World ι Db Label} {name : Db → Label} {run : Db → Db} {o : Outcome}

theorem ownsTask_after (h : k ≠ i) (taskId : String) :
    ownsTask k taskId (w.after i name run o).trace = ownsTask k taskId w.trace :=
  ownsTask_cons_of_none (ownNews_of_ne h)

/-- **Step lemma**: a statement that has one of the effects keeps to the protocol. -/
theorem good_taskEffect (hw : TasksInv start messageId w)
    (heffect : TaskEffect start messageId w.store (run w.store) (name w.store))
    (hparents : start.SameParents (run w.store)) (hallow : PutsBackWaiting i w (name w.store) o) :
    (oneTask ι start messageId).Good i w (w.after i name run o) := by
  have hrely : (∀ taskId, (∃ t ∈ w.store.tasks, t.id = taskId) → start.Hides taskId w.store →
      start.Hides taskId (w.after i name run o).store) →
      ∀ k, k ≠ i → (oneTask ι start messageId).rely k w (w.after i name run o) := by
    intro hhides k hk taskId
    exact ⟨ownsTask_after hk taskId, fun howns hh => hhides taskId (hw.owned k taskId howns) hh⟩
  have hidle : (w.after i name run o).store.tasks = w.store.tasks →
      start.SameParents (w.after i name run o).store →
      (∀ taskId, ((name w.store).claims taskId && o.effective) = false) →
      (∀ k taskId, ownsTask k taskId (w.after i name run o).trace = true →
        ownsTask k taskId w.trace = true) →
      (oneTask ι start messageId).Good i w (w.after i name run o) := by
    intro htasks hparents hclaims howns
    refine ⟨hw.idle hparents htasks rfl hclaims howns, .of_subset ?_, hrely ?_⟩
    · rw [htasks]
      exact List.Subset.refl _
    · intro taskId _ hhides
      rwa [Db.Hides, htasks]
  by_cases heff : o.effective = true
  · have hstore : (w.after i name run o).store = run w.store := by
      rw [World.after_store, if_pos heff]
    have htrace : (w.after i name run o).trace = ⟨i, name w.store, o⟩ :: w.trace := rfl
    rw [← hstore] at heffect hparents
    generalize name w.store = l at heffect hallow htrace hidle
    cases heffect with
    | same hl h =>
      refine hidle h hparents (fun taskId => ?_) fun k taskId howns => ?_
      · cases l <;> first | rfl | cases hl
      · rwa [htrace, ownsTask_cons_of_none (ownNews_of_ofTask hl)] at howns
    | update taskId target set hupdate hstatus h =>
      have hnews : ∀ k task, ownNews k task (⟨i, l, o⟩ : Event ι Label) = none := by
        intro k task
        cases hstatus with
        | kept hl _ => exact ownNews_of_ofTask hl
        | claimed _ _ => exact ite_self _
        | written _ _ _ => exact ite_self _
      have hback : ∀ changes, l = .writeTask taskId .queued changes →
          ∀ t ∈ w.store.tasks, target t = true → t.waits = true := by
        intro changes hl t ht htarget
        cases hstatus with
        | kept hof _ =>
          rw [hl] at hof
          cases hof
        | claimed _ _ => cases hl
        | written status _ _ =>
          obtain ⟨rfl, -⟩ : status = .queued ∧ _ := by simpa using hl
          rcases hallow with hrefused | hzero | hwaits
          · rw [hrefused] at heff
            cases heff
          · exact absurd hzero (List.countP_pos_iff.2 ⟨t, ht, htarget⟩).ne'
          · exact hwaits t ht (hupdate.aims t ht htarget).1
      obtain ⟨hinv, hkeeps, hhides⟩ := hw.update hparents hupdate hstatus hback h htrace hnews
      exact ⟨hinv, hkeeps, hrely fun task _ hh => hhides task hh⟩
    | insert row hfree hone h =>
      refine ⟨hw.insert hparents hfree hone h htrace, .of_subset ?_, hrely ?_⟩
      · rw [h]
        exact List.subset_append_left _ _
      · rintro taskId ⟨u, hu, rfl⟩ hhides t ht hid
        rw [h, List.mem_append, List.mem_singleton] at ht
        rcases ht with ht | rfl
        · exact hhides t ht hid
        · exact absurd hid.symm (hfree u hu)
    | skip taskId h =>
      refine hidle h hparents (fun _ => rfl) fun k task howns => ?_
      rwa [htrace, ownsTask_cons_of_none] at howns
      rw [ownNews]
      split
      · exact if_neg fun hboth => Nat.lt_irrefl 0 hboth.2.1
      · rfl
  · have hrefused : o = .refused := by cases o <;> first | rfl | exact absurd rfl heff
    subst hrefused
    refine hidle rfl hw.parents (fun taskId => ?_) fun k taskId howns => ownsTask_of_refused howns
    rw [Outcome.effective, Bool.and_false]

/-- **Step lemma** for the deletion of a task by who owns it. -/
theorem good_deleteTask (hw : TasksInv start messageId w) {taskId : String}
    (howner : ownsTask i taskId w.trace = true) (hhides : start.Hides taskId w.store)
    (hname : name w.store = .deleteTask taskId)
    (hrun : run w.store = (taskRows.deleted w.store fun t => t.id == taskId).2) :
    (oneTask ι start messageId).Good i w (w.after i name run o) := by
  have htrace : (w.after i name run o).trace = ⟨i, .deleteTask taskId, o⟩ :: w.trace := by
    rw [World.after_trace, hname]
  have hrely : (w.after i name run o).store.tasks ⊆ w.store.tasks →
      ∀ k, k ≠ i → (oneTask ι start messageId).rely k w (w.after i name run o) := by
    intro hsubset k hk task
    exact ⟨ownsTask_after hk task, fun _ hh t ht hid => hh t (hsubset ht) hid⟩
  by_cases heff : o.effective = true
  · have hstore : (w.after i name run o).store =
        (taskRows.deleted w.store fun t => t.id == taskId).2 := by
      rw [World.after_store, if_pos heff, hrun]
    have hrows : (w.after i name run o).store.tasks =
        w.store.tasks.filter fun t => !(t.id == taskId) := by
      rw [hstore]
      rfl
    have hparents : start.SameParents (w.after i name run o).store := by
      rw [hstore]
      exact ⟨hw.parents.mailboxes, hw.parents.agents, hw.parents.messages⟩
    refine ⟨hw.delete hparents howner hhides hrows htrace, ?_, hrely ?_⟩
    · intro t ht hvisible
      refine ⟨t, ?_, .refl t, hvisible, fun hbusy => hbusy⟩
      rw [hrows, List.mem_filter]
      refine ⟨ht, ?_⟩
      by_contra hid
      simp only [Bool.not_eq_true', beq_eq_false_iff_ne, ne_eq, not_not] at hid
      rw [hhides t ht hid] at hvisible
      cases hvisible
    · rw [hrows]
      exact List.filter_subset_self _
  · have hrefused : o = .refused := by cases o <;> first | rfl | exact absurd rfl heff
    subst hrefused
    refine ⟨hw.idle hw.parents rfl rfl (fun _ => ?_) fun k task howns => ownsTask_of_refused howns,
      .of_subset (List.Subset.refl _), hrely (List.Subset.refl _)⟩
    rw [Outcome.effective, Bool.and_false]

/-- A silent step that touches no table keeps to the protocol. -/
theorem good_draws (hw : TasksInv start messageId w) (hrun : Draws run) :
    (oneTask ι start messageId).Good i w (w.silent run) := by
  have htasks : (w.silent run).store.tasks = w.store.tasks := (hrun w.store .tasks).symm
  have hmailboxes : (run w.store).mailboxes = w.store.mailboxes := (hrun w.store .mailboxes).symm
  have hagents : (run w.store).agents = w.store.agents := (hrun w.store .agents).symm
  have hmessages : (run w.store).messages = w.store.messages := (hrun w.store .messages).symm
  obtain ⟨hparents, hids, hone, hclaimed, hwaiting, honce, howned, hsingle⟩ := hw
  refine ⟨⟨⟨?_, ?_, ?_⟩, ?_, ?_, ?_, ?_, honce, ?_, hsingle⟩, .of_subset ?_, ?_⟩
  · exact hmailboxes.trans hparents.mailboxes
  · exact hagents.trans hparents.agents
  · intro tenantId mailboxId id
    rw [← hparents.messages]
    simp only [Db.ownsMessage, World.silent_store, hmessages]
  · rwa [htasks]
  · rwa [htasks]
  · rwa [htasks]
  · rwa [htasks]
  · rwa [htasks]
  · rw [htasks]
    exact List.Subset.refl _
  · intro k _ taskId
    refine ⟨rfl, fun _ hhides => ?_⟩
    rwa [Db.Hides, htasks]

end Protocol

end MailRuntime
