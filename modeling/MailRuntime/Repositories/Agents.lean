import MailRuntime.Storage.Statements
import Mathlib.Data.List.Sort

/-!
# Mailboxes, agents and policies

What the sending path reads of `repositories/agents.ts` and
`repositories/tenant-policies.ts`, and what an upgrade payment writes there. A row that
points to a mailbox or an agent counts only while that row exists and is of the same
tenant.
-/

namespace MailRuntime

open Js Interaction

/-! ### Mailboxes -/

/-- The mailbox exists and is the tenant's: the `EXISTS` on `mailboxes` that guards most
queries. -/
def Db.ownsMailbox (s : Db) (tenantId mailboxId : String) : Bool :=
  s.mailboxes.any fun m => m.id == mailboxId && m.tenantId == tenantId

/-- The agent exists and is the tenant's. -/
def Db.ownsAgent (s : Db) (tenantId agentId : String) : Bool :=
  s.agents.any fun a => a.id == agentId && a.tenantId == tenantId

/-- The mailbox with an address. -/
def Db.mailboxByAddress (s : Db) (env : Env) (address : String) : Option MailboxRow :=
  s.mailboxes.find? fun m => m.address == env.toLowerCase address

/-- The mailbox with an identifier. -/
def Db.mailbox (s : Db) (mailboxId : String) : Option MailboxRow :=
  s.mailboxes.find? fun m => m.id == mailboxId

/-- `getMailboxByAddress`. -/
def getMailboxByAddress (env : Env) (address : String) : Op (Option MailboxRow) :=
  query (.read .mailboxes) fun s => s.mailboxByAddress env address

/-- `getMailboxById`. -/
def getMailboxById (mailboxId : String) : Op (Option MailboxRow) :=
  query (.read .mailboxes) fun s => s.mailbox mailboxId

/-! ### Agents -/

/-- The agent with an identifier. -/
def Db.agent (s : Db) (agentId : String) : Option AgentRow :=
  s.agents.find? fun a => a.id == agentId

/-- `getAgent`. -/
def getAgent (agentId : String) : Op (Option AgentRow) :=
  query (.read .agents) fun s => s.agent agentId

/-- `listAgents` of a tenant. -/
def listAgents (tenantId : String) : Op (List AgentRow) :=
  query (.read .agents) fun s => s.agents.filter fun a => a.tenantId == tenantId

/-- The agent has an active binding to the mailbox, with one of the roles if any are given. -/
def Db.activeMailboxBinding (s : Db) (agentId mailboxId : String) (roles : List MailboxRole) :
    Bool :=
  s.agentMailboxes.any fun b =>
    b.mailboxId == mailboxId && b.agentId == agentId && b.active &&
    (roles.isEmpty || roles.contains b.role) &&
    s.ownsMailbox b.tenantId b.mailboxId && s.ownsAgent b.tenantId b.agentId

/-- The agent is deployed to the mailbox. -/
def Db.activeMailboxDeployment (s : Db) (agentId mailboxId : String) : Bool :=
  s.agentDeployments.any fun d =>
    d.targetType == .mailbox && d.targetId == mailboxId && d.status == .active &&
    d.agentId == agentId && s.ownsAgent d.tenantId d.agentId &&
    (s.agentVersions.any fun v => v.id == d.agentVersionId && v.agentId == d.agentId) &&
    s.ownsMailbox d.tenantId d.targetId

/-- `hasActiveMailboxBinding`. -/
def hasActiveMailboxBinding (agentId mailboxId : String) (roles : List MailboxRole) : Op Bool :=
  query (.read .agentMailboxes) fun s => s.activeMailboxBinding agentId mailboxId roles

/-- `hasActiveMailboxDeployment`. -/
def hasActiveMailboxDeployment (agentId mailboxId : String) : Op Bool :=
  query (.read .agentDeployments) fun s => s.activeMailboxDeployment agentId mailboxId

/-! ### Agent policies -/

/-- The policy of an agent that exists. -/
def Db.agentPolicy (s : Db) (agentId : String) : Option AgentPolicyRow :=
  s.agentPolicies.find? fun p => p.agentId == agentId && s.agents.any fun a => a.id == p.agentId

/-- `getAgentPolicy`. -/
def getAgentPolicy (agentId : String) : Op (Option AgentPolicyRow) :=
  query (.read .agentPolicies) fun s => s.agentPolicy agentId

/-- `INSERT … ON CONFLICT DO UPDATE`: the row replaces those `same` as it, or is added. -/
def upsert {α : Type} (rows : List α) (same : α → Bool) (row : α) : List α :=
  if rows.any same then rows.map fun r => if same r then row else r else rows ++ [row]

/-- `upsertAgentPolicy`. -/
def upsertAgentPolicy (env : Env) (policy : AgentPolicyRow) : Op AgentPolicyRow := do
  let _ ← nowIso env
  let _ ← execute (fun _ => .write .agentPolicies) fun s =>
    (1, { s with
      agentPolicies := upsert s.agentPolicies (fun p => p.agentId == policy.agentId) policy })
  match ← getAgent policy.agentId with
  | none => do
    catchAll (do
      let _ ← execute (fun _ => .write .agentPolicies) fun s =>
        let doomed (p : AgentPolicyRow) := p.agentId == policy.agentId
        (s.agentPolicies.countP doomed,
          { s with agentPolicies := s.agentPolicies.filter fun p => !doomed p })) ()
    throw (Exn.error ("Agent " ++ policy.agentId ++ " no longer exists"))
  | some _ =>
    requireRow (← getAgentPolicy policy.agentId) "Failed to load agent policy"

/-! ### Tenant policies -/

/-- The items of a domain list, trimmed, in lower case, without blanks. -/
def cleanDomains (env : Env) (items : List String) : List String :=
  (items.map fun item => env.toLowerCase (trim item)).filter truthy

/-- `getEffectiveSendLimits`: the daily and the hourly limit. -/
def getEffectiveSendLimits : PricingTier → Option Nat × Option Nat
  | .free => (some 10, some 1)
  | .paidReview | .paidActive | .enterprise => (none, none)

/-- The send policy of a tenant: `mapTenantSendPolicyRow`. -/
def Db.sendPolicy (s : Db) (env : Env) (tenantId : String) : Option SendPolicyRow :=
  (s.sendPolicies.find? fun p => p.tenantId == tenantId).map fun p =>
    { p with internalDomainAllowlist := cleanDomains env p.internalDomainAllowlist }

/-- `getTenantSendPolicy`. -/
def getTenantSendPolicy (env : Env) (tenantId : String) : Op (Option SendPolicyRow) :=
  query (.read .sendPolicies) fun s => s.sendPolicy env tenantId

/-- `ensureTenantSendPolicy`. -/
def ensureTenantSendPolicy (env : Env) (tenantId : String) : Op SendPolicyRow := do
  match ← getTenantSendPolicy env tenantId with
  | some existing => pure existing
  | none => do
    let updatedAt ← nowIso env
    let _ ← execute (fun _ => .write .sendPolicies) fun s =>
      if s.sendPolicies.any fun p => p.tenantId == tenantId then (0, s)
      else (1, { s with sendPolicies := s.sendPolicies ++ [{
        tenantId := tenantId, pricingTier := .free, outboundStatus := .internalOnly
        internalDomainAllowlist := ["mailagents.net"]
        externalSendEnabled := false, reviewRequired := true, updatedAt := updatedAt }] })
    requireRow (← getTenantSendPolicy env tenantId) "Failed to create tenant send policy"

/-- `upsertTenantSendPolicy`. -/
def upsertTenantSendPolicy (env : Env) (tenantId : String) (pricingTier : PricingTier)
    (outboundStatus : OutboundStatus) (internalDomainAllowlist : List String)
    (externalSendEnabled reviewRequired : Bool) : Op SendPolicyRow := do
  let updatedAt ← nowIso env
  let _ ← execute (fun _ => .write .sendPolicies) fun s =>
    (1, { s with sendPolicies := upsert s.sendPolicies (fun p => p.tenantId == tenantId) {
      tenantId := tenantId, pricingTier := pricingTier, outboundStatus := outboundStatus
      internalDomainAllowlist := cleanDomains env internalDomainAllowlist
      externalSendEnabled := externalSendEnabled, reviewRequired := reviewRequired
      updatedAt := updatedAt } })
  requireRow (← getTenantSendPolicy env tenantId) "Failed to load tenant send policy"

/-! ### The policy agents are created with -/

/-- `Array.from(new Set(items)).sort()`. -/
def sortedSet (items : List String) : List String := items.eraseDups.insertionSort (· ≤ ·)

/-- `normalizeDomainList`. -/
def normalizeDomainList (env : Env) (items : List String) : List String :=
  sortedSet (cleanDomains env items)

/-- `normalizeStringList`. -/
def normalizeStringList (items : List String) : List String :=
  sortedSet ((items.map trim).filter truthy)

/-- `DEFAULT_SELF_SERVE_AGENT_ALLOWED_TOOLS`. -/
def defaultSelfServeAgentAllowedTools : List String := ["reply_email", "mark_task_done"]

/-- `isDefaultSelfServeInternalOnlyAgentPolicy`. -/
def isDefaultSelfServeInternalOnlyAgentPolicy (env : Env) (policy : AgentPolicyRow)
    (internalDomainAllowlist : List String) : Bool :=
  !policy.autoReplyEnabled && policy.humanReviewRequired && policy.confidenceThreshold == 85 &&
  policy.maxAutoRepliesPerThread == 1 &&
  normalizeDomainList env policy.allowedRecipientDomains ==
    normalizeDomainList env internalDomainAllowlist &&
  normalizeStringList policy.blockedSenderDomains == [] &&
  normalizeStringList policy.allowedTools ==
    normalizeStringList defaultSelfServeAgentAllowedTools

/-- The loop's body in `relaxTenantDefaultAgentRecipientPoliciesForExternalSend`: the agents
updated, none or this one. -/
def relaxAgentPolicy (env : Env) (internalDomainAllowlist : List String) (agent : AgentRow) :
    Op (List String) := do
  match ← getAgentPolicy agent.id with
  | none => pure []
  | some policy =>
    if isDefaultSelfServeInternalOnlyAgentPolicy env policy internalDomainAllowlist then do
      let _ ← upsertAgentPolicy env { policy with allowedRecipientDomains := [] }
      pure [agent.id]
    else pure []

/-- The loop of `relaxTenantDefaultAgentRecipientPoliciesForExternalSend`. -/
def relaxAgentPolicies (env : Env) (internalDomainAllowlist : List String) :
    List AgentRow → Op (List String)
  | [] => pure []
  | agent :: rest => do
    let updated ← relaxAgentPolicy env internalDomainAllowlist agent
    let others ← relaxAgentPolicies env internalDomainAllowlist rest
    pure (updated ++ others)

/-- `relaxTenantDefaultAgentRecipientPoliciesForExternalSend`. -/
def relaxTenantDefaultAgentRecipientPoliciesForExternalSend (env : Env) (tenantId : String)
    (internalDomainAllowlist : List String) : Op (List String) := do
  let agents ← listAgents tenantId
  relaxAgentPolicies env internalDomainAllowlist agents

/-! ### Footprints -/

variable {ts : List Table} {env : Env}

@[simp] theorem touches_getMailboxByAddress {address : String} :
    Touches ts (getMailboxByAddress env address) := touches_query rfl

@[simp] theorem touches_getMailboxById {mailboxId : String} :
    Touches ts (getMailboxById mailboxId) := touches_query rfl

@[simp] theorem touches_getAgent {agentId : String} : Touches ts (getAgent agentId) :=
  touches_query rfl

@[simp] theorem touches_hasActiveMailboxBinding {agentId mailboxId : String}
    {roles : List MailboxRole} : Touches ts (hasActiveMailboxBinding agentId mailboxId roles) :=
  touches_query rfl

@[simp] theorem touches_hasActiveMailboxDeployment {agentId mailboxId : String} :
    Touches ts (hasActiveMailboxDeployment agentId mailboxId) := touches_query rfl

@[simp] theorem touches_getAgentPolicy {agentId : String} :
    Touches ts (getAgentPolicy agentId) := touches_query rfl

theorem touches_upsertAgentPolicy {policy : AgentPolicyRow} :
    Touches [.agentPolicies] (upsertAgentPolicy env policy) := by
  refine .bind touches_nowIso fun _ => .bind (touches_execute ?_ fun _ => rfl) fun _ =>
    .bind touches_getAgent fun agent => ?_
  · intro s t ht
    cases t <;> first | rfl | exact absurd rfl ht
  · cases agent with
    | none =>
      refine .bind (.catchAll (.bind (touches_execute ?_ fun _ => rfl) fun _ => trivial))
        fun _ => trivial
      intro s t ht
      cases t <;> first | rfl | exact absurd rfl ht
    | some _ => exact .bind touches_getAgentPolicy fun _ => touches_requireRow

theorem touches_ensureTenantSendPolicy {tenantId : String} :
    Touches [.sendPolicies] (ensureTenantSendPolicy env tenantId) := by
  refine .bind (touches_query rfl) fun existing => ?_
  cases existing with
  | some _ => trivial
  | none =>
    refine .bind touches_nowIso fun _ => .bind (touches_execute ?_ fun _ => rfl) fun _ =>
      .bind (touches_query rfl) fun _ => touches_requireRow
    intro s t ht
    split
    · exact Table.Same.rfl
    · cases t <;> first | rfl | exact absurd rfl ht

theorem touches_upsertTenantSendPolicy {tenantId : String} {pricingTier : PricingTier}
    {outboundStatus : OutboundStatus} {domains : List String} {enabled review : Bool} :
    Touches [.sendPolicies]
      (upsertTenantSendPolicy env tenantId pricingTier outboundStatus domains enabled review) := by
  refine .bind touches_nowIso fun _ => .bind (touches_execute ?_ fun _ => rfl) fun _ =>
    .bind (touches_query rfl) fun _ => touches_requireRow
  intro s t ht
  cases t <;> first | rfl | exact absurd rfl ht

theorem touches_relaxAgentPolicy {domains : List String} {agent : AgentRow} :
    Touches [.agentPolicies] (relaxAgentPolicy env domains agent) := by
  refine .bind touches_getAgentPolicy fun policy => ?_
  cases policy with
  | none => trivial
  | some policy =>
    by_cases h : isDefaultSelfServeInternalOnlyAgentPolicy env policy domains
    · simp only [h, if_true]
      exact .bind touches_upsertAgentPolicy fun _ => trivial
    · simp only [h]
      trivial

theorem touches_relaxAgentPolicies {domains : List String} (agents : List AgentRow) :
    Touches [.agentPolicies] (relaxAgentPolicies env domains agents) := by
  induction agents with
  | nil => trivial
  | cons agent rest ih =>
    exact .bind touches_relaxAgentPolicy fun _ => .bind ih fun _ => trivial

theorem touches_relaxTenantDefaultAgentRecipientPoliciesForExternalSend {tenantId : String}
    {domains : List String} : Touches [.agentPolicies]
      (relaxTenantDefaultAgentRecipientPoliciesForExternalSend env tenantId domains) :=
  .bind (touches_query rfl) fun agents => touches_relaxAgentPolicies agents

end MailRuntime
