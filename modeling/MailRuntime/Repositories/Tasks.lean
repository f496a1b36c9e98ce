import MailRuntime.Repositories.Deployments
import MailRuntime.Repositories.Inbound

/-!
# Tasks and the agents that execute them

The part of `repositories/mail.ts` about the task of an inbound message, and
`resolveAgentExecutionTarget` of `repositories/agents.ts`, which says who is to execute it.
A task is visible while its mailbox, its source message and, if it has one, its agent
exist and are its tenant's. All callers of `resolveAgentExecutionTarget` name some roles.
-/

namespace MailRuntime

open Js Interaction

/-! ### Tasks -/

/-- The message exists and is of the tenant and the mailbox. -/
def Db.ownsMessage (s : Db) (tenantId mailboxId messageId : String) : Bool :=
  s.messages.any fun m => m.id == messageId && m.tenantId == tenantId && m.mailboxId == mailboxId

/-- The conditions of the queries on tasks. -/
def Db.taskVisible (s : Db) (t : TaskRow) : Bool :=
  s.ownsMailbox t.tenantId t.mailboxId &&
  s.ownsMessage t.tenantId t.mailboxId t.sourceMessageId &&
  t.assignedAgent.all fun agentId => s.ownsAgent t.tenantId agentId

/-- A task of a source message. -/
def TaskRow.isFor (t : TaskRow) (sourceMessageId taskType : String) : Bool :=
  t.sourceMessageId == sourceMessageId && t.taskType == taskType

/-- `getTask`. -/
def getTask (taskId : String) : Op (Option TaskRow) :=
  taskRows.first fun s t => t.id == taskId && s.taskVisible t

/-- `getTaskBySourceMessageId`. -/
def getTaskBySourceMessageId (sourceMessageId taskType : String) : Op (Option TaskRow) := do
  let rows ← taskRows.select fun s t => t.isFor sourceMessageId taskType && s.taskVisible t
  pure (only rows)

/-- `deleteTask`, `.catch(() => undefined)`. -/
def deleteTask (taskId : String) : Op Unit :=
  taskRows.discardAs (.deleteTask taskId) fun t => t.id == taskId

/-- `UPDATE tasks SET … WHERE id = ?`, of a visible task, under a label. -/
def updateTask (l : Nat → Label) (taskId : String) (set : TaskRow → TaskRow) : Op Unit := do
  let changes ← taskRows.updateAs l (fun s t => t.id == taskId && s.taskVisible t) set
  requireStateUpdateApplied changes ("Task " ++ taskId)

/-- `updateTaskStatus`, of a task that gets a result or none. -/
def updateTaskStatus (env : Env) (taskId : String) (status : TaskStatus)
    (resultR2Key : Option String) : Op Unit := do
  let updatedAt ← nowIso env
  updateTask (.writeTask taskId status) taskId fun t =>
    { t with status := status, resultR2Key := resultR2Key, updatedAt := updatedAt }

/-- `updateTaskAssignment`. -/
def updateTaskAssignment (env : Env) (taskId : String) (assignedAgent : Option String) :
    Op Unit := do
  let updatedAt ← nowIso env
  updateTask (fun _ => .write .tasks) taskId fun t =>
    { t with assignedAgent := assignedAgent, updatedAt := updatedAt }

/-- `claimTaskForExecution`. -/
def claimTaskForExecution (env : Env) (taskId : String) : Op Bool := do
  let updatedAt ← nowIso env
  let changes ← taskRows.updateAs (.claimTask taskId)
    (fun s t => t.id == taskId && t.status == .queued && s.taskVisible t)
    fun t => { t with status := .running, updatedAt := updatedAt }
  if changes = 0 then pure false
  else do
    match ← getTask taskId with
    | some _ => pure true
    | none => do
      deleteTask taskId
      pure false

/-- What `getOrCreateTaskForSourceMessage` is told. -/
structure TaskInput where
  tenantId : String
  mailboxId : String
  sourceMessageId : String
  taskType : String
  priority : Nat
  status : TaskStatus
  assignedAgent : Option String
deriving DecidableEq, Repr

/-- The row of a new task. -/
def TaskInput.row (input : TaskInput) (id : String) (timestamp : Nat) : TaskRow where
  id := id
  tenantId := input.tenantId
  mailboxId := input.mailboxId
  sourceMessageId := input.sourceMessageId
  taskType := input.taskType
  priority := input.priority
  status := input.status
  assignedAgent := input.assignedAgent
  resultR2Key := none
  createdAt := timestamp
  updatedAt := timestamp

/-- The agent is empty, or it exists and is the tenant's. -/
def assignedAgentExists (tenantId : String) (assignedAgent : Option String) : Op Bool :=
  match assignedAgent.filter truthy with
  | none => pure true
  | some agentId => query (.read .agents) fun s => s.ownsAgent tenantId agentId

/-- `cleanupTaskIfParentsMissing`. -/
def cleanupTaskIfParentsMissing (input : TaskInput) (taskId : String) : Op Unit := do
  let mailboxExists ← query (.read .mailboxes) fun s => s.ownsMailbox input.tenantId input.mailboxId
  let sourceMessageExists ← query (.read .messages) fun s =>
    s.ownsMessage input.tenantId input.mailboxId input.sourceMessageId
  let agentExists ← assignedAgentExists input.tenantId input.assignedAgent
  if mailboxExists && sourceMessageExists && agentExists then pure ()
  else do
    deleteTask taskId
    throw (Exn.error ("Task " ++ taskId ++ " could not be finalized because the mailbox, " ++
      "source message, or assigned agent no longer exists"))

/-- `deleteInvalidTasksForSourceMessage`: how many there were. -/
def deleteInvalidTasksForSourceMessage (input : TaskInput) : Op Nat := do
  let rows ← taskRows.select fun s t =>
    t.isFor input.sourceMessageId input.taskType &&
    !(t.tenantId == input.tenantId && t.mailboxId == input.mailboxId && s.taskVisible t)
  taskRows.discardEach TaskRow.id (rows.map TaskRow.id)
  pure rows.length

/-- A visible task of the source message is there, of the tenant and the mailbox. -/
def Db.hasTaskOf (s : Db) (input : TaskInput) : Bool :=
  s.tasks.any fun t =>
    t.isFor input.sourceMessageId input.taskType && t.tenantId == input.tenantId &&
    t.mailboxId == input.mailboxId && s.taskVisible t

/-- No task has the identifier. -/
def Db.taskIdFree (s : Db) (id : String) : Bool := !s.tasks.any fun t => t.id == id

/-- `insertTask`: nothing happens if there is a visible task of the source message. -/
def insertTask (input : TaskInput) (id : String) (timestamp : Nat) : Op Nat :=
  taskRows.insertWhereAs (.insertTask id) (fun s => !s.hasTaskOf input)
    (fun s => s.taskIdFree id) (input.row id timestamp)

/-- A task that is there already: one that failed is put back. -/
def resetTask (input : TaskInput) (timestamp : Nat) (existing : Option TaskRow) :
    Op TaskRow := do
  let existingTask ← requireRow existing "Task lookup failed after duplicate source-message insert"
  if existingTask.status = .failed then do
    updateTask (.writeTask existingTask.id input.status) existingTask.id fun t =>
      { t with
        priority := input.priority, status := input.status, assignedAgent := input.assignedAgent
        resultR2Key := none, updatedAt := timestamp }
    let row ← getTask existingTask.id
    requireRow row ("Failed to load task " ++ existingTask.id)
  else pure existingTask

/-- The insertion of a task where none is visible, after the invalid ones are gone. -/
def retryTask (input : TaskInput) (id : String) (timestamp : Nat) : Op TaskRow := do
  let deleted ← deleteInvalidTasksForSourceMessage input
  if deleted = 0 then resetTask input timestamp none
  else do
    let changes ← insertTask input id timestamp
    if changes = 0 then do
      let existing ← getTaskBySourceMessageId input.sourceMessageId input.taskType
      resetTask input timestamp existing
    else do
      cleanupTaskIfParentsMissing input id
      match ← getTask id with
      | some created => pure created
      | none => do
        deleteTask id
        throw (Exn.error ("Failed to load task " ++ id))

/-- `getOrCreateTaskForSourceMessage`. -/
def getOrCreateTaskForSourceMessage (env : Env) (input : TaskInput) : Op TaskRow := do
  let id ← createId env "tsk"
  let timestamp ← nowIso env
  let changes ← insertTask input id timestamp
  if changes = 0 then do
    match ← getTaskBySourceMessageId input.sourceMessageId input.taskType with
    | some existing => resetTask input timestamp (some existing)
    | none => retryTask input id timestamp
  else do
    cleanupTaskIfParentsMissing input id
    let row ← getTask id
    requireRow row ("Failed to load task " ++ id)

/-! ### Who executes it -/

/-- `AgentExecutionTarget`. -/
structure ExecutionTarget where
  agentId : String
  agentVersionId : Option String
  deploymentId : Option String
deriving DecidableEq, Repr

/-- `tenantMatchCache`. -/
abbrev TenantMatches := List (String × Bool)

/-- `agentMatchesMailboxTenant`. -/
def agentMatchesMailboxTenant (tenantId agentId : String) (cache : TenantMatches) :
    Op (Bool × TenantMatches) :=
  match cache.lookup agentId with
  | some cached => pure (cached, cache)
  | none => do
    let agent ← getAgent agentId
    let found := agent.any fun a => a.tenantId == tenantId
    pure (found, (agentId, found) :: cache)

/-- The active deployments to a mailbox, newest first. -/
def Db.mailboxDeployments (s : Db) (tenantId mailboxId : String) (agentId : Option String) :
    List DeploymentRow :=
  (s.agentDeployments.filter fun d =>
    d.targetType == .mailbox && d.targetId == mailboxId && d.status == .active &&
    d.tenantId == tenantId && (agentId.all fun a => d.agentId == a) &&
    (s.agentVersions.any fun v => v.id == d.agentVersionId && v.agentId == d.agentId) &&
    s.ownsAgent d.tenantId d.agentId).reverse

/-- The agents with an active binding to a mailbox in one of the roles. -/
def Db.mailboxBindings (s : Db) (mailboxId : String) (roles : List MailboxRole) : List String :=
  (s.agentMailboxes.filter fun b =>
    b.mailboxId == mailboxId && b.active && roles.contains b.role &&
    s.ownsMailbox b.tenantId b.mailboxId && s.ownsAgent b.tenantId b.agentId).map
      AgentMailboxRow.agentId

/-- What the loop over the deployments finds: one whose agent is bound in a role, or else the
first whose agent is not bound at all. -/
structure DeploymentChoice where
  chosen : Option DeploymentRow
  fallback : Option DeploymentRow
  cache : TenantMatches

/-- The loop over the deployments. -/
def chooseDeployment (tenantId mailboxId : String) (roles : List MailboxRole)
    (fallback : Option DeploymentRow) (cache : TenantMatches) :
    List DeploymentRow → Op DeploymentChoice
  | [] => pure ⟨none, fallback, cache⟩
  | d :: rest => do
    let (found, cache) ← agentMatchesMailboxTenant tenantId d.agentId cache
    if found then do
      let hasMatchingBinding ← hasActiveMailboxBinding d.agentId mailboxId roles
      if hasMatchingBinding then pure ⟨some d, fallback, cache⟩
      else do
        let hasAnyBinding ← hasActiveMailboxBinding d.agentId mailboxId []
        chooseDeployment tenantId mailboxId roles
          (if !hasAnyBinding && fallback.isNone then some d else fallback) cache rest
    else chooseDeployment tenantId mailboxId roles fallback cache rest

/-- The loop over the bindings: the first agent that is the mailbox's tenant's. -/
def chooseBinding (tenantId : String) (cache : TenantMatches) :
    List String → Op (Option String × TenantMatches)
  | [] => pure (none, cache)
  | agentId :: rest => do
    let (found, cache) ← agentMatchesMailboxTenant tenantId agentId cache
    if found then pure (some agentId, cache) else chooseBinding tenantId cache rest

/-- The target of a deployment. -/
def DeploymentRow.target (d : DeploymentRow) : ExecutionTarget :=
  ⟨d.agentId, some d.agentVersionId, some d.id⟩

/-- The target for a mailbox whose tenant is known, without a requested agent. -/
def resolveMailboxTarget (tenantId mailboxId : String) (roles : List MailboxRole) :
    Op (Option ExecutionTarget) := do
  let rows ← query (.read .agentDeployments) fun s => s.mailboxDeployments tenantId mailboxId none
  let choice ← chooseDeployment tenantId mailboxId roles none [] rows
  match choice.chosen with
  | some d => pure (some d.target)
  | none => do
    let bindings ← query (.read .agentMailboxes) fun s => s.mailboxBindings mailboxId roles
    let (bound, cache) ← chooseBinding tenantId choice.cache bindings
    match bound, choice.fallback with
    | some agentId, _ => pure (some ⟨agentId, none, none⟩)
    | none, some d => pure (some d.target)
    | none, none => do
      let bindings ← query (.read .agentMailboxes) fun s => s.mailboxBindings mailboxId roles
      let (bound, _) ← chooseBinding tenantId cache bindings
      pure (bound.map fun agentId => ⟨agentId, none, none⟩)

/-- `agents.default_version_id`, if it is a version of the agent. -/
def Db.defaultVersionId (s : Db) (agent : AgentRow) : Option String :=
  agent.defaultVersionId.filter fun versionId =>
    s.agentVersions.any fun v => v.id == versionId && v.agentId == agent.id

/-- The target for a mailbox whose tenant is known, and a requested agent of that tenant. -/
def resolveRequestedTarget (tenantId mailboxId : String) (roles : List MailboxRole)
    (agentId : String) (cache : TenantMatches) : Op (Option ExecutionTarget) := do
  let hasRoleBinding ← hasActiveMailboxBinding agentId mailboxId roles
  let hasOtherBinding ←
    if hasRoleBinding then pure false else hasActiveMailboxBinding agentId mailboxId []
  if hasOtherBinding then pure none
  else do
    let rows ← query (.read .agentDeployments) fun s =>
      s.mailboxDeployments tenantId mailboxId (some agentId)
    let choice ← chooseDeployment tenantId mailboxId roles none cache rows
    match choice.chosen <|> choice.fallback with
    | some d => pure (some d.target)
    | none =>
      if hasRoleBinding then
        query (.read .agents) fun s =>
          (s.agent agentId).map fun agent => ⟨agentId, s.defaultVersionId agent, none⟩
      else pure none

/-- `resolveAgentExecutionTarget`; an empty requested agent counts as none. -/
def resolveAgentExecutionTarget (mailboxId : String) (requestedAgentId : Option String)
    (roles : List MailboxRole) : Op (Option ExecutionTarget) := do
  match ← getMailboxById mailboxId with
  | none => pure none
  | some mailbox =>
    match requestedAgentId.filter truthy with
    | none => resolveMailboxTarget mailbox.tenantId mailboxId roles
    | some agentId => do
      let (found, cache) ← agentMatchesMailboxTenant mailbox.tenantId agentId []
      if found then resolveRequestedTarget mailbox.tenantId mailboxId roles agentId cache
      else pure none

/-! ### Footprints -/

variable {ts : List Table} {env : Env}

@[simp] theorem touches_getTask {taskId : String} : Touches ts (getTask taskId) :=
  taskRows.touches_first

@[simp] theorem touches_getTaskBySourceMessageId {sourceMessageId taskType : String} :
    Touches ts (getTaskBySourceMessageId sourceMessageId taskType) :=
  .bind taskRows.touches_select fun _ => trivial

theorem touches_updateTask {l : Nat → Label} {taskId : String} {set : TaskRow → TaskRow}
    (hl : ∀ n, (l n).table = some .tasks) : Touches [.tasks] (updateTask l taskId set) :=
  .bind (taskRows.touches_updateAs hl) fun _ => touches_requireStateUpdateApplied

theorem touches_updateTaskStatus {taskId : String} {status : TaskStatus}
    {resultR2Key : Option String} :
    Touches [.tasks] (updateTaskStatus env taskId status resultR2Key) :=
  .bind touches_nowIso fun _ => touches_updateTask fun _ => rfl

theorem touches_deleteTask {taskId : String} : Touches [.tasks] (deleteTask taskId) :=
  taskRows.touches_discardAs rfl

theorem touches_cleanupTaskIfParentsMissing {input : TaskInput} {taskId : String} :
    Touches [.tasks] (cleanupTaskIfParentsMissing input taskId) := by
  refine .bind (touches_query rfl) fun _ => .bind (touches_query rfl) fun _ =>
    .bind ?_ fun _ => ?_
  · rw [assignedAgentExists]
    split
    · trivial
    · exact touches_query rfl
  · split
    · trivial
    · exact .bind touches_deleteTask fun _ => trivial

theorem touches_insertTask {input : TaskInput} {id : String} {timestamp : Nat} :
    Touches [.tasks] (insertTask input id timestamp) := taskRows.touches_insertWhereAs fun _ => rfl

theorem touches_resetTask {input : TaskInput} {timestamp : Nat} {existing : Option TaskRow} :
    Touches [.tasks] (resetTask input timestamp existing) := by
  refine .bind touches_requireRow fun existingTask => ?_
  split
  · exact .bind (touches_updateTask fun _ => rfl) fun _ =>
      .bind touches_getTask fun _ => touches_requireRow
  · trivial

theorem touches_retryTask {input : TaskInput} {id : String} {timestamp : Nat} :
    Touches [.tasks] (retryTask input id timestamp) := by
  refine .bind (.bind taskRows.touches_select fun rows =>
    .bind (taskRows.touches_discardEach _) fun _ => trivial) fun deleted => ?_
  split
  · exact touches_resetTask
  · refine .bind touches_insertTask fun changes => ?_
    split
    · exact .bind touches_getTaskBySourceMessageId fun _ => touches_resetTask
    · refine .bind touches_cleanupTaskIfParentsMissing fun _ => .bind touches_getTask fun row => ?_
      cases row with
      | some _ => trivial
      | none => exact .bind touches_deleteTask fun _ => trivial

theorem touches_getOrCreateTaskForSourceMessage {input : TaskInput} :
    Touches [.tasks] (getOrCreateTaskForSourceMessage env input) := by
  refine .bind touches_createId fun id => .bind touches_nowIso fun timestamp =>
    .bind touches_insertTask fun changes => ?_
  split
  · refine .bind touches_getTaskBySourceMessageId fun existing => ?_
    cases existing with
    | some _ => exact touches_resetTask
    | none => exact touches_retryTask
  · exact .bind touches_cleanupTaskIfParentsMissing fun _ => .bind touches_getTask fun _ =>
      touches_requireRow

theorem touches_agentMatchesMailboxTenant {tenantId agentId : String} {cache : TenantMatches} :
    Touches ts (agentMatchesMailboxTenant tenantId agentId cache) := by
  rw [agentMatchesMailboxTenant]
  split
  · trivial
  · exact .bind touches_getAgent fun _ => trivial

theorem touches_chooseDeployment {tenantId mailboxId : String} {roles : List MailboxRole}
    (rows : List DeploymentRow) (fallback : Option DeploymentRow) (cache : TenantMatches) :
    Touches ts (chooseDeployment tenantId mailboxId roles fallback cache rows) := by
  induction rows generalizing fallback cache with
  | nil => trivial
  | cons d rest ih =>
    refine .bind touches_agentMatchesMailboxTenant fun found => ?_
    dsimp only
    split
    · refine .bind touches_hasActiveMailboxBinding fun bound => ?_
      split
      · trivial
      · exact .bind touches_hasActiveMailboxBinding fun _ => ih _ _
    · exact ih _ _

theorem touches_chooseBinding {tenantId : String} (agentIds : List String)
    (cache : TenantMatches) : Touches ts (chooseBinding tenantId cache agentIds) := by
  induction agentIds generalizing cache with
  | nil => trivial
  | cons agentId rest ih =>
    refine .bind touches_agentMatchesMailboxTenant fun found => ?_
    dsimp only
    split
    · trivial
    · exact ih _

theorem touches_resolveMailboxTarget {tenantId mailboxId : String} {roles : List MailboxRole} :
    Touches ts (resolveMailboxTarget tenantId mailboxId roles) := by
  refine .bind (touches_query rfl) fun rows => .bind (touches_chooseDeployment _ _ _)
    fun choice => ?_
  split
  · trivial
  · refine .bind (touches_query rfl) fun bindings => .bind (touches_chooseBinding _ _)
      fun bound => ?_
    dsimp only
    split
    · trivial
    · trivial
    · exact .bind (touches_query rfl) fun _ => .bind (touches_chooseBinding _ _) fun _ => trivial

theorem touches_resolveRequestedTarget {tenantId mailboxId agentId : String}
    {roles : List MailboxRole} {cache : TenantMatches} :
    Touches ts (resolveRequestedTarget tenantId mailboxId roles agentId cache) := by
  refine .bind touches_hasActiveMailboxBinding fun bound => ?_
  have hrest : ∀ other : Bool, Touches ts (do
      if other then pure none
      else do
        let rows ← query (.read .agentDeployments) fun s =>
          s.mailboxDeployments tenantId mailboxId (some agentId)
        let choice ← chooseDeployment tenantId mailboxId roles none cache rows
        match choice.chosen <|> choice.fallback with
        | some d => pure (some d.target)
        | none =>
          if bound then
            query (.read .agents) fun s => (s.agent agentId).map fun agent =>
              (⟨agentId, s.defaultVersionId agent, none⟩ : ExecutionTarget)
          else pure none) := by
    intro other
    split
    · trivial
    · refine .bind (touches_query rfl) fun rows => .bind (touches_chooseDeployment _ _ _)
        fun choice => ?_
      split
      · trivial
      · split
        · exact touches_query rfl
        · trivial
  cases bound with
  | true => exact hrest false
  | false => exact .bind touches_hasActiveMailboxBinding fun other => hrest other

@[simp] theorem touches_resolveAgentExecutionTarget {mailboxId : String}
    {requestedAgentId : Option String} {roles : List MailboxRole} :
    Touches ts (resolveAgentExecutionTarget mailboxId requestedAgentId roles) := by
  refine .bind touches_getMailboxById fun mailbox => ?_
  cases mailbox with
  | none => trivial
  | some mailbox =>
    dsimp only
    split
    · exact touches_resolveMailboxTarget
    · refine .bind touches_agentMatchesMailboxTenant fun found => ?_
      split
      · exact touches_resolveRequestedTarget
      · trivial

end MailRuntime
