import MailRuntime.Inbound.Ingest

/-!
# The execution of a task

`handleAgentExecute` of `handlers/queues.ts`: a consumer claims the task it is sent, sees to it
that the task is assigned to the agent that is to execute it now, and gives it to review. If
anything goes wrong it gives the task to review without a trace. Either way it acknowledges the
message.
-/

namespace MailRuntime

open Js Interaction

/-- `reviewReason`. -/
def reviewReasonOf (job : AgentExecuteJob) (sourceMessage : Option MessageRow)
    (target : Option ExecutionTarget) : String :=
  match sourceMessage, target with
  | none, _ => "source_message_missing"
  | some _, none => "agent_assignment_unavailable"
  | some _, some target =>
    if target.agentId ≠ job.agentId ∨ target.agentVersionId ≠ job.agentVersionId ∨
        target.deploymentId ≠ job.deploymentId then "stale_queue_assignment"
    else "agent_execution_not_implemented"

/-- What the consumer says of a task that it gives to review. -/
def reviewOf (job : AgentExecuteJob) (task : TaskRow) (sourceMessage : Option MessageRow)
    (target : Option ExecutionTarget) : ReviewInput where
  taskId := task.id
  sourceMessageId := task.sourceMessageId
  mailboxId := task.mailboxId
  agentId := target.map ExecutionTarget.agentId <|> task.assignedAgent <|> some job.agentId
  agentVersionId := target.bind ExecutionTarget.agentVersionId
  deploymentId := target.bind ExecutionTarget.deploymentId
  queuedAgentId := some job.agentId
  queuedAgentVersionId := job.agentVersionId
  queuedDeploymentId := job.deploymentId
  reviewReason := reviewReasonOf job sourceMessage target
  sourceMessageStatus := sourceMessage.map fun m => m.status.text

/-- The agent that is to execute the task now becomes its assigned agent. -/
def reassignTask (env : Env) (task : TaskRow) (target : Option ExecutionTarget) : Op Unit :=
  match (target.map ExecutionTarget.agentId).filter truthy with
  | some agentId =>
    if some agentId = task.assignedAgent then pure ()
    else updateTaskAssignment env task.id (some agentId)
  | none => pure ()

/-- A claimed task is given to review. -/
def reviewTask (env : Env) (job : AgentExecuteJob) (task : TaskRow) : Op Unit := do
  let sourceMessage ← getMessage task.sourceMessageId
  let target ← resolveAgentExecutionTarget task.mailboxId task.assignedAgent
    receiveCapableMailboxRoles
  reassignTask env task target
  let _ ← recordTaskNeedsReview env (reviewOf job task sourceMessage target)

/-- A message of the queue, in the `try` block. -/
def executeTask (env : Env) (job : AgentExecuteJob) : Op Unit := do
  let claimed ← claimTaskForExecution env job.taskId
  if claimed then do
    match ← getTask job.taskId with
    | none => pure ()
    | some task => reviewTask env job task
  else pure ()

/-- A message of the queue. -/
def executeTaskOrReview (env : Env) (job : AgentExecuteJob) : Op Verdict :=
  tryCatch (do
    executeTask env job
    pure .ack) fun error => do
      catchAll (updateTaskStatus env job.taskId .needsReview none) ()
      enqueueDeadLetter "agent-execute" job.taskId error.message
      pure .ack

/-- `handleAgentExecute`. -/
def handleAgentExecute (env : Env) : List AgentExecuteJob → Op (List Verdict)
  | [] => pure []
  | job :: rest => do
    let verdict ← executeTaskOrReview env job
    let others ← handleAgentExecute env rest
    pure (verdict :: others)

end MailRuntime
