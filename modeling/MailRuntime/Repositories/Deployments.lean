import MailRuntime.Repositories.Agents
import MailRuntime.Storage.Rows

/-!
# Deployments of agents

The part of `repositories/agents.ts` that creates deployments and moves them between
`active`, `paused` and `rolled_back`. A partial unique index lets a target have one
active deployment at a time, so a new one is activated after the old ones are paused. A
deployment is visible while its agent, its version and, if its target is a mailbox, that
mailbox exist and belong together; the index counts those that are not visible too.
-/

namespace MailRuntime

open Js Interaction

/-- The deployment's agent, version and mailbox exist and belong together: the `EXISTS`
conditions of every query here. -/
def Db.deploymentVisible (s : Db) (d : DeploymentRow) : Bool :=
  s.ownsAgent d.tenantId d.agentId &&
  (s.agentVersions.any fun v => v.id == d.agentVersionId && v.agentId == d.agentId) &&
  (d.targetType != .mailbox || s.ownsMailbox d.tenantId d.targetId)

/-- The targets of the active deployments, with repetitions. -/
def Db.activeTargets (s : Db) : List (DeploymentTarget × String) :=
  (s.agentDeployments.filter fun d => d.status == .active).map fun d => (d.targetType, d.targetId)

/-- `UPDATE agent_deployments SET status = ?, updated_at = ? WHERE …`: `none` if it breaks
`idx_agent_deployments_active_target`. -/
def Db.writeDeploymentStatus (s : Db) (target : DeploymentRow → Bool) (status : DeploymentStatus)
    (updatedAt : Nat) : Option Nat × Db :=
  let written := deploymentRows.updated s target fun d =>
    { d with status := status, updatedAt := updatedAt }
  if written.2.activeTargets.Nodup then (some written.1, written.2) else (none, s)

/-- The statement of `writeDeploymentStatus`. -/
def updateDeployments (l : Label) (target : Db → DeploymentRow → Bool)
    (status : DeploymentStatus) (updatedAt : Nat) : Op Nat := do
  let changes ← Prog.perform (fun _ => l)
    (fun s => s.writeDeploymentStatus (target s) status updatedAt) Exn.d1
  match changes with
  | some n => pure n
  | none => throw Exn.unique

/-- `getAgentDeployment`. -/
def getAgentDeployment (agentId deploymentId : String) : Op (Option DeploymentRow) :=
  deploymentRows.first fun s d =>
    d.id == deploymentId && d.agentId == agentId && s.deploymentVisible d

/-- `listActiveDeploymentsForTarget`. -/
def listActiveDeploymentsForTarget (tenantId : String) (targetType : DeploymentTarget)
    (targetId : String) (excludeDeploymentId : Option String) : Op (List DeploymentRow) := do
  let rows ← deploymentRows.select fun s d =>
    d.tenantId == tenantId && d.targetType == targetType && d.targetId == targetId &&
    d.status == .active && s.deploymentVisible d
  pure (rows.filter fun d => some d.id != excludeDeploymentId)

/-- `setDeploymentStatus`. -/
def setDeploymentStatus (l : Label) (agentId deploymentId : String) (status : DeploymentStatus)
    (updatedAt : Nat) : Op Unit := do
  let changes ← updateDeployments l (fun s d =>
    d.id == deploymentId && d.agentId == agentId && s.deploymentVisible d) status updatedAt
  requireStateUpdateApplied changes ("Agent deployment " ++ deploymentId)

/-- `setDeploymentsStatus`. -/
def setDeploymentsStatus (status : DeploymentStatus) (updatedAt : Nat) : List String → Op Unit
  | [] => pure ()
  | deploymentId :: rest => do
    let changes ← updateDeployments (.write .agentDeployments)
      (fun s d => d.id == deploymentId && s.deploymentVisible d) status updatedAt
    requireStateUpdateApplied changes ("Agent deployment " ++ deploymentId)
    setDeploymentsStatus status updatedAt rest

/-- `restoreDeploymentStatuses`, of the rows as they were. -/
def restoreDeploymentStatuses (updatedAt : Nat) : List DeploymentRow → Op Unit
  | [] => pure ()
  | snapshot :: rest => do
    setDeploymentStatus (.undo .agentDeployments) snapshot.agentId snapshot.id snapshot.status
      updatedAt
    restoreDeploymentStatuses updatedAt rest

/-- The text of a target type in the errors. -/
def DeploymentTarget.text : DeploymentTarget → String
  | .mailbox => "mailbox"
  | .workflow => "workflow"
  | .tenantDefault => "tenant_default"

/-- The text of a deployment status in the errors. -/
def DeploymentStatus.text : DeploymentStatus → String
  | .active => "active"
  | .paused => "paused"
  | .rolledBack => "rolled_back"

/-- The error of `deploymentConflict`: `DeploymentConflictError`. -/
def deploymentConflict (status : DeploymentStatus) (article : String)
    (targetType : DeploymentTarget) (targetId : String) : Exn :=
  ⟨.deploymentConflict, article ++ " " ++ status.text ++ " deployment already exists for " ++
    targetType.text ++ " " ++ targetId, 500, false⟩

/-- What a failed activation throws: a conflict where the index refused it. -/
def activationError (targetType : DeploymentTarget) (targetId : String) (error : Exn) : Exn :=
  if error.isUniqueConstraintError then deploymentConflict .active "An" targetType targetId
  else error

/-! ### Creating a deployment -/

/-- The loop of `deleteInvalidActiveDeploymentsForTarget`. -/
def deleteDeployments : List DeploymentRow → Op Unit
  | [] => pure ()
  | row :: rest => do
    let _ ← catchAll (deploymentRows.delete fun _ d => d.id == row.id) 0
    deleteDeployments rest

/-- `deleteInvalidActiveDeploymentsForTarget`. -/
def deleteInvalidActiveDeploymentsForTarget (targetType : DeploymentTarget) (targetId : String) :
    Op Nat := do
  let rows ← deploymentRows.select fun s d =>
    d.targetType == targetType && d.targetId == targetId && d.status == .active &&
    !s.deploymentVisible d
  deleteDeployments rows
  pure rows.length

/-- The row can be inserted: its identifier is new and, if it is active, its target has no
active deployment. -/
def Db.deploymentFree (s : Db) (row : DeploymentRow) : Bool :=
  !s.agentDeployments.any (fun d => d.id == row.id) &&
  !(row.status == .active && s.activeTargets.contains (row.targetType, row.targetId))

/-- `insertDeployment`. -/
def insertDeployment (row : DeploymentRow) : Op Unit :=
  deploymentRows.insert (fun s => s.deploymentFree row) row

/-- The insertion of a deployment, which makes room where the active deployment in the way
is not visible. -/
def insertDeploymentOrConflict (row : DeploymentRow) : Op Unit :=
  tryCatch (insertDeployment row) fun error =>
    if !error.isUniqueConstraintError then throw error
    else if row.status = .active then do
      let existing ← listActiveDeploymentsForTarget row.tenantId row.targetType row.targetId none
      if existing.isEmpty then do
        let deleted ← deleteInvalidActiveDeploymentsForTarget row.targetType row.targetId
        if 0 < deleted then insertDeployment row
        else throw (deploymentConflict row.status "A" row.targetType row.targetId)
      else throw (deploymentConflict row.status "A" row.targetType row.targetId)
    else throw error

/-- The version of an agent that exists. -/
def Db.agentVersion (s : Db) (agentId versionId : String) : Option AgentVersionRow :=
  s.agentVersions.find? fun v =>
    v.id == versionId && v.agentId == agentId && s.agents.any fun a => a.id == v.agentId

/-- `getAgentVersion`, with the reads of the version's capabilities and tools, which its
callers here do not look at. -/
def getAgentVersion (agentId versionId : String) : Op (Option AgentVersionRow) := do
  match ← query (.read .agentVersions) fun s => s.agentVersion agentId versionId with
  | none => pure none
  | some version => do
    let _ ← query (.read .agentVersions) fun _ => ()
    let _ ← query (.read .agentVersions) fun _ => ()
    pure (some version)

/-- The mailbox of a deployment's target is the tenant's; any other target passes. -/
def hasConsistentMailbox (tenantId : String) (targetType : DeploymentTarget) (targetId : String) :
    Op Bool :=
  if targetType = .mailbox then do
    let mailbox ← getMailboxById targetId
    pure (mailbox.any fun m => m.tenantId == tenantId)
  else pure true

/-- `DELETE FROM agent_deployments WHERE id = ?`, errors ignored. -/
def deleteDeployment (id : String) : Op Unit := do
  let _ ← catchAll (execute (fun _ => .undo .agentDeployments) fun s =>
    deploymentRows.deleted s fun d => d.id == id) 0

/-- `createAgentDeployment`. -/
def createAgentDeployment (env : Env) (tenantId agentId agentVersionId : String)
    (targetType : DeploymentTarget) (targetId : String) (status : DeploymentStatus) :
    Op DeploymentRow := do
  let id ← createId env "agd"
  let timestamp ← nowIso env
  let row : DeploymentRow := {
    id := id, tenantId := tenantId, agentId := agentId, agentVersionId := agentVersionId
    targetType := targetType, targetId := targetId, status := status, updatedAt := timestamp }
  insertDeploymentOrConflict row
  let agent ← getAgent agentId
  let version ← getAgentVersion agentId agentVersionId
  let consistent ← hasConsistentMailbox tenantId targetType targetId
  if (agent.any fun a => a.tenantId == tenantId) && version.isSome && consistent then do
    match ← getAgentDeployment agentId id with
    | some created => pure created
    | none => do
      deleteDeployment id
      throw (Exn.error ("Agent deployment " ++ id ++ " could not be finalized because the " ++
        "stored deployment no longer passed read-back validation"))
  else do
    deleteDeployment id
    throw (Exn.error ("Agent deployment " ++ id ++ " could not be finalized because the agent, " ++
      "version, or target no longer exists or no longer matches the tenant"))

/-! ### Changing the active deployment -/

/-- The catch block of an activation: the statuses are put back, errors ignored. -/
def restoreAndThrow {α : Type} (updatedAt : Nat) (snapshots : List DeploymentRow) (error : Exn) :
    Op α := do
  catchAll (restoreDeploymentStatuses updatedAt snapshots) ()
  throw error

/-- The read-back at the end of an activation. -/
def readBackDeployment (updatedAt : Nat) (snapshots : List DeploymentRow)
    (agentId deploymentId after : String) : Op DeploymentRow := do
  match ← getAgentDeployment agentId deploymentId with
  | some updated => pure updated
  | none =>
    restoreAndThrow updatedAt snapshots (Exn.error ("Agent deployment " ++ deploymentId ++
      " no longer passed read-back validation after " ++ after))

/-- `updateAgentDeploymentStatus`. -/
def updateAgentDeploymentStatus (env : Env) (agentId deploymentId : String)
    (status : DeploymentStatus) : Op (Option DeploymentRow) := do
  let timestamp ← nowIso env
  match ← getAgentDeployment agentId deploymentId with
  | none => pure none
  | some current =>
    if status = .active ∧ current.status ≠ .active then do
      let previouslyActive ← listActiveDeploymentsForTarget current.tenantId current.targetType
        current.targetId (some current.id)
      tryCatch (do
        setDeploymentStatus (.write .agentDeployments) current.agentId current.id .paused timestamp
        setDeploymentsStatus .paused timestamp (previouslyActive.map DeploymentRow.id)
        setDeploymentStatus (.write .agentDeployments) current.agentId current.id .active timestamp)
        fun error => restoreAndThrow timestamp (current :: previouslyActive)
          (activationError current.targetType current.targetId error)
      let updated ← readBackDeployment timestamp (current :: previouslyActive) agentId
        deploymentId "status update"
      pure (some updated)
    else do
      tryCatch (setDeploymentStatus (.write .agentDeployments) agentId deploymentId status timestamp)
        fun error => throw (activationError current.targetType current.targetId error)
      let updated ← readBackDeployment timestamp [current] agentId deploymentId "status update"
      pure (some updated)

/-- The body of the `try` that `rolloutAgentDeployment` and `rollbackAgentDeployment` share. -/
def activateInPlaceOf (updatedAt : Nat) (agentId deploymentId : String)
    (previouslyActive : List DeploymentRow) : Op Unit := do
  setDeploymentsStatus .paused updatedAt (previouslyActive.map DeploymentRow.id)
  setDeploymentStatus (.write .agentDeployments) agentId deploymentId .active updatedAt
  setDeploymentsStatus .rolledBack updatedAt (previouslyActive.map DeploymentRow.id)

/-- The read-back of a rollout, which deletes the new row as well. -/
def readBackRollout (updatedAt : Nat) (snapshots : List DeploymentRow)
    (agentId createdId : String) : Op DeploymentRow := do
  match ← getAgentDeployment agentId createdId with
  | some rolledOut => pure rolledOut
  | none => do
    catchAll (restoreDeploymentStatuses updatedAt snapshots) ()
    deleteDeployment createdId
    throw (Exn.error ("Agent deployment " ++ createdId ++
      " no longer passed read-back validation after rollout"))

/-- `rolloutAgentDeployment`. -/
def rolloutAgentDeployment (env : Env) (tenantId agentId agentVersionId : String)
    (targetType : DeploymentTarget) (targetId : String) : Op DeploymentRow := do
  let timestamp ← nowIso env
  let previouslyActive ← listActiveDeploymentsForTarget tenantId targetType targetId none
  let created ← createAgentDeployment env tenantId agentId agentVersionId targetType targetId
    .paused
  tryCatch (activateInPlaceOf timestamp created.agentId created.id previouslyActive)
    fun error => restoreAndThrow timestamp ({ created with status := .paused } :: previouslyActive)
      (activationError targetType targetId error)
  readBackRollout timestamp ({ created with status := .paused } :: previouslyActive) agentId
    created.id

/-- `rollbackAgentDeployment`. -/
def rollbackAgentDeployment (env : Env) (agentId deploymentId : String) :
    Op (Option DeploymentRow) := do
  match ← getAgentDeployment agentId deploymentId with
  | none => pure none
  | some deployment => do
    let timestamp ← nowIso env
    let previouslyActive ← listActiveDeploymentsForTarget deployment.tenantId
      deployment.targetType deployment.targetId (some deployment.id)
    tryCatch (activateInPlaceOf timestamp deployment.agentId deployment.id previouslyActive)
      fun error => restoreAndThrow timestamp (deployment :: previouslyActive)
        (activationError deployment.targetType deployment.targetId error)
    let rolledBack ← readBackDeployment timestamp (deployment :: previouslyActive) agentId
      deploymentId "rollback"
    pure (some rolledBack)

end MailRuntime
