import MailRuntime.Outbound.Guards
import MailRuntime.Repositories.Tasks

/-!
# Who may send from a mailbox

Six places of the source decide whether an agent may send from a mailbox: the choice of who
executes, `routes/api.ts` in three functions, the consumer's check before a send, and
`routes/admin-mcp.ts` before it mints a token. They ask the same question of the rows
(`Db.MaySend`): the agent is bound to the mailbox in a role that sends, or it is not bound to
it at all and is deployed to it.
-/

namespace MailRuntime

open Js Interaction

/-! ### The decisions -/

/-- `canAgentSendForMailbox`. -/
def canAgentSendForMailbox (agentId mailboxId : String) : Op Bool := do
  let hasBinding ← hasActiveMailboxBinding agentId mailboxId sendCapableMailboxRoles
  if hasBinding then pure true
  else do
    let hasAnyBinding ← hasActiveMailboxBinding agentId mailboxId []
    if hasAnyBinding then pure false else hasActiveMailboxDeployment agentId mailboxId

/-- `AGENT_REQUIRED_MAILBOX_SCOPES`. -/
def agentRequiredMailboxScopes : List String :=
  ["task:read", "draft:create", "draft:read", "draft:send", "mail:replay"]

/-- The check of one mailbox that a token for an agent is to cover, with its two refusals. -/
def validateAgentForMailbox (requiresSendCapability : Bool) (inactive incapable : Exn)
    (agentId mailboxId : String) : Op Unit := do
  let hasBinding ← hasActiveMailboxBinding agentId mailboxId
    (if requiresSendCapability then sendCapableMailboxRoles else [])
  if hasBinding then pure ()
  else do
    let hasAnyBinding ←
      if requiresSendCapability then hasActiveMailboxBinding agentId mailboxId [] else pure false
    let hasDeployment ← hasActiveMailboxDeployment agentId mailboxId
    ensure (requiresSendCapability || hasDeployment) inactive
    ensure (!requiresSendCapability || (hasDeployment && !hasAnyBinding)) incapable

/-- The loop over the mailboxes in `validateTokenAgentMailboxScopes`. -/
def validateAgentForMailboxes (requiresSendCapability : Bool) (agentId : String) :
    List String → Op Unit
  | [] => pure ()
  | mailboxId :: rest => do
    validateAgentForMailbox requiresSendCapability
      (routeRequestError "agentId must be active for every mailboxId" 409)
      (routeRequestError "agentId must have send-capable access for every mailboxId" 409)
      agentId mailboxId
    validateAgentForMailboxes requiresSendCapability agentId rest

/-- `validateTokenAgentMailboxScopes`; an empty agent counts as none. -/
def validateTokenAgentMailboxScopes (agentId : Option String) (mailboxIds scopes : List String) :
    Op Unit :=
  if mailboxIds.isEmpty then pure ()
  else do
    let requiresAgentForMailboxScopes :=
      scopes.any fun scope => agentRequiredMailboxScopes.contains scope
    match agentId.filter truthy with
    | none =>
      ensure (!requiresAgentForMailboxScopes) (routeRequestError
        "agentId is required when mailboxIds are combined with task, draft, or replay scopes" 409)
    | some agentId => validateAgentForMailboxes (scopes.contains "draft:send") agentId mailboxIds

/-- `new AdminMcpToolError("invalid_arguments", message)`. -/
def adminInvalidArguments (message : String) : Exn := ⟨.mcpTool, message, 500, false⟩

/-- `assertAgentActiveForMailbox`. -/
def assertAgentActiveForMailbox (agentId mailboxId : String) (requireSendCapability : Bool) :
    Op Unit :=
  validateAgentForMailbox requireSendCapability
    (adminInvalidArguments "agentId must be active for every mailboxId")
    (adminInvalidArguments "agentId must have send-capable access for every mailboxId")
    agentId mailboxId

/-! ### The question -/

/-- The agent is bound to the mailbox in a role that sends, or it is not bound to it at all and
is deployed to it. -/
def Db.MaySend (s : Db) (agentId mailboxId : String) : Prop :=
  s.activeMailboxBinding agentId mailboxId sendCapableMailboxRoles = true ∨
    (s.activeMailboxBinding agentId mailboxId [] = false ∧
      s.activeMailboxDeployment agentId mailboxId = true)

/-- The agent is one of the tenant's, as `getAgent` finds it. -/
def Db.agentOfTenant (s : Db) (tenantId agentId : String) : Bool :=
  (s.agent agentId).any fun a => a.tenantId == tenantId

section Decisions

variable {s : Db} {agentId mailboxId tenantId : String}

/-- A binding in a role is a binding. -/
theorem Db.activeMailboxBinding_any {roles : List MailboxRole}
    (h : s.activeMailboxBinding agentId mailboxId roles = true) :
    s.activeMailboxBinding agentId mailboxId [] = true := by
  simp only [Db.activeMailboxBinding, List.any_eq_true, Bool.and_eq_true] at h ⊢
  obtain ⟨b, hb, ⟨⟨⟨⟨hm, ha⟩, hactive⟩, -⟩, hmailbox⟩, hagent⟩ := h
  exact ⟨b, hb, ⟨⟨⟨⟨hm, ha⟩, hactive⟩, by simp⟩, hmailbox⟩, hagent⟩

theorem Db.activeMailboxBinding_none {roles : List MailboxRole}
    (h : s.activeMailboxBinding agentId mailboxId [] = false) :
    s.activeMailboxBinding agentId mailboxId roles = false := by
  cases hroles : s.activeMailboxBinding agentId mailboxId roles with
  | false => rfl
  | true =>
    rw [Db.activeMailboxBinding_any hroles] at h
    cases h

theorem run_canAgentSendForMailbox :
    (canAgentSendForMailbox agentId mailboxId).run s = (.ok true, s) ↔
      s.MaySend agentId mailboxId := by
  unfold canAgentSendForMailbox Db.MaySend hasActiveMailboxBinding hasActiveMailboxDeployment
  simp only [Prog.run_bind, run_query, Prog.andThen_ok]
  cases hrole : s.activeMailboxBinding agentId mailboxId sendCapableMailboxRoles with
  | true => simp
  | false =>
    cases hany : s.activeMailboxBinding agentId mailboxId [] <;> simp [hany, run_query]

@[simp] theorem run_ensure {condition : Bool} {e : Exn} :
    (ensure condition e).run s = (.ok (), s) ↔ condition = true := by
  cases condition <;> simp [ensure]

theorem run_validateAgent {refuse : Refusal} (h : s.agentOfTenant tenantId agentId = true) :
    (validateAgent refuse tenantId agentId).run s = (.ok (), s) := by
  unfold validateAgent getAgent
  simp only [Prog.run_bind, run_query, Prog.andThen_ok]
  unfold Db.agentOfTenant at h
  cases hagent : s.agent agentId with
  | none =>
    rw [hagent] at h
    cases h
  | some agent =>
    rw [hagent] at h
    exact run_ensure.2 h

/-- The check before a draft is made, and before it is sent. -/
theorem run_validateSendAgentBinding {refuse : Refusal}
    (hagent : s.agentOfTenant tenantId agentId = true) :
    (validateSendAgentBinding refuse tenantId agentId mailboxId).run s = (.ok (), s) ↔
      s.MaySend agentId mailboxId := by
  unfold validateSendAgentBinding hasActiveMailboxBinding hasActiveMailboxDeployment
  simp only [Prog.run_bind, run_validateAgent hagent, run_query, Prog.andThen_ok, run_ensure]
  unfold Db.MaySend
  cases s.activeMailboxBinding agentId mailboxId sendCapableMailboxRoles <;>
    cases s.activeMailboxBinding agentId mailboxId [] <;> simp

/-- The check before a token that may send is minted. -/
theorem run_validateAgentForMailbox {inactive incapable : Exn} :
    (validateAgentForMailbox true inactive incapable agentId mailboxId).run s = (.ok (), s) ↔
      s.MaySend agentId mailboxId := by
  unfold validateAgentForMailbox hasActiveMailboxBinding hasActiveMailboxDeployment Db.MaySend
  simp only [Prog.run_bind, run_query, Prog.andThen_ok, if_true]
  cases hrole : s.activeMailboxBinding agentId mailboxId sendCapableMailboxRoles with
  | true => simp
  | false =>
    cases hany : s.activeMailboxBinding agentId mailboxId [] <;>
      cases hdeployed : s.activeMailboxDeployment agentId mailboxId <;>
        simp [hany, hdeployed, run_query, ensure]

theorem reads_ensure (condition : Bool) (e : Exn) : (ensure condition e).Reads := by
  cases condition <;> exact trivial

theorem reads_validateAgentForMailbox (sends : Bool) (inactive incapable : Exn) :
    (validateAgentForMailbox sends inactive incapable agentId mailboxId).Reads := by
  unfold validateAgentForMailbox
  refine .bind (reads_query _ _) fun hasBinding => ?_
  have hdeployed : ∀ hasAnyBinding : Bool, (do
      let hasDeployment ← hasActiveMailboxDeployment agentId mailboxId
      ensure (sends || hasDeployment) inactive
      ensure (!sends || (hasDeployment && !hasAnyBinding)) incapable : Op Unit).Reads := by
    intro hasAnyBinding
    exact .bind (reads_query _ _) fun hasDeployment =>
      .bind (reads_ensure _ _) fun _ => reads_ensure _ _
  cases hasBinding with
  | true => exact trivial
  | false =>
    cases sends with
    | true => exact .bind (reads_query _ _) fun hasAnyBinding => hdeployed hasAnyBinding
    | false => exact hdeployed false

/-- A token that may send is minted for mailboxes that the agent may all send from. -/
theorem run_validateAgentForMailboxes {mailboxIds : List String} :
    (validateAgentForMailboxes true agentId mailboxIds).run s = (.ok (), s) ↔
      ∀ mailboxId ∈ mailboxIds, s.MaySend agentId mailboxId := by
  induction mailboxIds with
  | nil => simp [validateAgentForMailboxes]
  | cons mailboxId rest ih =>
    unfold validateAgentForMailboxes
    rw [List.forall_mem_cons, ← ih, ← run_validateAgentForMailbox]
    constructor
    · intro h
      obtain ⟨_, hfirst, hrest⟩ := (reads_validateAgentForMailbox _ _ _).run_bind_ok h
      exact ⟨hfirst, hrest⟩
    · rintro ⟨hfirst, hrest⟩
      rw [Prog.run_bind, hfirst, Prog.andThen_ok, hrest]

end Decisions

/-! ### Who executes -/

section Targets

variable {s : Db} {tenantId mailboxId : String} {roles : List MailboxRole}

/-- The cache holds what `getAgent` would say. -/
def Db.Remembers (s : Db) (tenantId : String) (cache : TenantMatches) : Prop :=
  ∀ agentId found, cache.lookup agentId = some found → found = s.agentOfTenant tenantId agentId

theorem remembers_nil : s.Remembers tenantId [] := by
  intro agentId found h
  cases h

theorem run_agentMatchesMailboxTenant {cache : TenantMatches} (hcache : s.Remembers tenantId cache)
    (agentId : String) : ∃ cache', s.Remembers tenantId cache' ∧
      (agentMatchesMailboxTenant tenantId agentId cache).run s =
        (.ok (s.agentOfTenant tenantId agentId, cache'), s) := by
  unfold agentMatchesMailboxTenant
  split
  · next cached hcached =>
    refine ⟨cache, hcache, ?_⟩
    rw [hcache agentId cached hcached]
    rfl
  · refine ⟨(agentId, s.agentOfTenant tenantId agentId) :: cache, ?_, rfl⟩
    intro other found hfound
    rw [List.lookup_cons] at hfound
    split at hfound
    · next heq =>
      rw [beq_iff_eq.1 heq]
      exact (Option.some.inj hfound).symm
    · exact hcache other found hfound

/-- The agent of the deployment is the tenant's and bound in a role. -/
def Db.boundDeployment (s : Db) (tenantId mailboxId : String) (roles : List MailboxRole)
    (d : DeploymentRow) : Bool :=
  s.agentOfTenant tenantId d.agentId && s.activeMailboxBinding d.agentId mailboxId roles

/-- The agent of the deployment is the tenant's and not bound. -/
def Db.freeDeployment (s : Db) (tenantId mailboxId : String) (d : DeploymentRow) : Bool :=
  s.agentOfTenant tenantId d.agentId && !s.activeMailboxBinding d.agentId mailboxId []

/-- **The loop over the deployments** finds the first whose agent is bound in a role, and if there
is none the first whose agent is not bound. -/
theorem run_chooseDeployment (mailboxId : String) (roles : List MailboxRole)
    {cache : TenantMatches} (hcache : s.Remembers tenantId cache)
    (fallback : Option DeploymentRow) (rows : List DeploymentRow) :
    ∃ choice : DeploymentChoice,
      (chooseDeployment tenantId mailboxId roles fallback cache rows).run s = (.ok choice, s) ∧
      s.Remembers tenantId choice.cache ∧
      choice.chosen = rows.find? (s.boundDeployment tenantId mailboxId roles) ∧
      (choice.chosen = none →
        choice.fallback = (fallback <|> rows.find? (s.freeDeployment tenantId mailboxId))) := by
  induction rows generalizing fallback cache with
  | nil => exact ⟨⟨none, fallback, cache⟩, rfl, hcache, rfl, fun _ => by cases fallback <;> rfl⟩
  | cons d rest ih =>
    obtain ⟨cache', hcache', hmatch⟩ := run_agentMatchesMailboxTenant hcache d.agentId
    have hstep : (chooseDeployment tenantId mailboxId roles fallback cache (d :: rest)).run s =
        (if s.agentOfTenant tenantId d.agentId then (do
          let hasMatchingBinding ← hasActiveMailboxBinding d.agentId mailboxId roles
          if hasMatchingBinding then pure ⟨some d, fallback, cache'⟩
          else do
            let hasAnyBinding ← hasActiveMailboxBinding d.agentId mailboxId []
            chooseDeployment tenantId mailboxId roles
              (if !hasAnyBinding && fallback.isNone then some d else fallback) cache' rest)
        else chooseDeployment tenantId mailboxId roles fallback cache' rest :
          Op DeploymentChoice).run s := by
      rw [chooseDeployment, Prog.run_bind, hmatch, Prog.andThen_ok]
    rw [hstep]
    by_cases hagent : s.agentOfTenant tenantId d.agentId = true
    · rw [if_pos hagent]
      unfold hasActiveMailboxBinding
      simp only [Prog.run_bind, run_query, Prog.andThen_ok]
      by_cases hbound : s.activeMailboxBinding d.agentId mailboxId roles = true
      · refine ⟨⟨some d, fallback, cache'⟩, by rw [if_pos hbound]; rfl, hcache', ?_, ?_⟩
        · rw [List.find?_cons_of_pos]
          simp [Db.boundDeployment, hagent, hbound]
        · intro h
          cases h
      · rw [if_neg hbound]
        simp only [Prog.run_bind, run_query, Prog.andThen_ok]
        obtain ⟨choice, hrun, hright, hchosen, hfallback⟩ := ih hcache'
          (if !s.activeMailboxBinding d.agentId mailboxId [] && fallback.isNone then some d
            else fallback)
        refine ⟨choice, hrun, hright, ?_, ?_⟩
        · rw [hchosen, List.find?_cons_of_neg]
          simp [Db.boundDeployment, hagent, hbound]
        · intro hnone
          rw [hfallback hnone]
          cases hany : s.activeMailboxBinding d.agentId mailboxId [] with
          | true =>
            rw [List.find?_cons_of_neg (by simp [Db.freeDeployment, hany])]
            rfl
          | false =>
            rw [List.find?_cons_of_pos (by simp [Db.freeDeployment, hany, hagent])]
            cases fallback <;> rfl
    · rw [if_neg hagent]
      obtain ⟨choice, hrun, hright, hchosen, hfallback⟩ := ih hcache' fallback
      refine ⟨choice, hrun, hright, ?_, ?_⟩
      · rw [hchosen, List.find?_cons_of_neg]
        simp [Db.boundDeployment, hagent]
      · intro hnone
        rw [hfallback hnone, List.find?_cons_of_neg]
        simp [Db.freeDeployment, hagent]

/-- The loop over the bindings finds the first whose agent is the tenant's. -/
theorem run_chooseBinding {cache : TenantMatches} (hcache : s.Remembers tenantId cache)
    (agentIds : List String) :
    ∃ cache', s.Remembers tenantId cache' ∧ (chooseBinding tenantId cache agentIds).run s =
      (.ok (agentIds.find? (s.agentOfTenant tenantId), cache'), s) := by
  induction agentIds generalizing cache with
  | nil => exact ⟨cache, hcache, rfl⟩
  | cons agentId rest ih =>
    obtain ⟨cache', hcache', hmatch⟩ := run_agentMatchesMailboxTenant hcache agentId
    have hstep : (chooseBinding tenantId cache (agentId :: rest)).run s =
        (if s.agentOfTenant tenantId agentId then pure (some agentId, cache')
          else chooseBinding tenantId cache' rest : Op (Option String × TenantMatches)).run s := by
      rw [chooseBinding, Prog.run_bind, hmatch, Prog.andThen_ok]
    rw [hstep]
    by_cases hagent : s.agentOfTenant tenantId agentId = true
    · refine ⟨cache', hcache', ?_⟩
      rw [if_pos hagent, List.find?_cons_of_pos hagent]
      rfl
    · obtain ⟨cache'', hright, hrun⟩ := ih hcache'
      refine ⟨cache'', hright, ?_⟩
      rw [if_neg hagent, hrun, List.find?_cons_of_neg hagent]

/-! ### The target -/

variable (hmailboxes : (s.mailboxes.map MailboxRow.id).Nodup)
  (hagents : (s.agents.map AgentRow.id).Nodup) {mailbox : MailboxRow} (hm : mailbox ∈ s.mailboxes)

include hmailboxes hm in
theorem Db.ownsMailbox_iff : s.ownsMailbox tenantId mailbox.id = true ↔
    mailbox.tenantId = tenantId := by
  unfold Db.ownsMailbox
  simp only [List.any_eq_true, Bool.and_eq_true, beq_iff_eq]
  constructor
  · rintro ⟨m, hmem, hid, rfl⟩
    rw [List.inj_on_of_nodup_map hmailboxes hmem hm hid]
  · rintro rfl
    exact ⟨mailbox, hm, rfl, rfl⟩

include hmailboxes hm in
theorem Db.mailbox_of_mem : s.mailbox mailbox.id = some mailbox := by
  have hsome : (s.mailboxes.find? fun m => m.id == mailbox.id).isSome :=
    List.find?_isSome.2 ⟨mailbox, hm, by simp⟩
  obtain ⟨m, hfound⟩ := Option.isSome_iff_exists.1 hsome
  have hid : m.id = mailbox.id := by simpa using List.find?_some hfound
  rw [Db.mailbox, hfound,
    List.inj_on_of_nodup_map hmailboxes (List.mem_of_find?_eq_some hfound) hm hid]

theorem Db.ownsAgent_of_agentOfTenant {agentId : String}
    (h : s.agentOfTenant tenantId agentId = true) : s.ownsAgent tenantId agentId = true := by
  unfold Db.agentOfTenant Db.agent at h
  cases ha : s.agents.find? (fun a => a.id == agentId) with
  | none =>
    rw [ha] at h
    cases h
  | some a =>
    rw [ha] at h
    have hid := List.find?_some ha
    have htenant : (a.tenantId == tenantId) = true := h
    exact List.any_eq_true.2
      ⟨a, List.mem_of_find?_eq_some ha, by simp only [hid, htenant, Bool.and_self]⟩

include hagents in
theorem Db.agentOfTenant_iff {agentId : String} :
    s.agentOfTenant tenantId agentId = true ↔ s.ownsAgent tenantId agentId = true := by
  constructor
  · exact Db.ownsAgent_of_agentOfTenant
  · intro h
    unfold Db.agentOfTenant Db.agent
    obtain ⟨a, ha, hboth⟩ := List.any_eq_true.1 h
    simp only [Bool.and_eq_true] at hboth
    have hsome : (s.agents.find? fun a => a.id == agentId).isSome :=
      List.find?_isSome.2 ⟨a, ha, hboth.1⟩
    obtain ⟨a', ha'⟩ := Option.isSome_iff_exists.1 hsome
    have hfound := List.find?_some ha'
    simp only [beq_iff_eq] at hfound
    have hid : a'.id = a.id := by rw [hfound, beq_iff_eq.1 hboth.1]
    rw [ha', List.inj_on_of_nodup_map hagents (List.mem_of_find?_eq_some ha') ha hid]
    exact hboth.2

include hmailboxes hm in
/-- The deployments of an agent to a mailbox, as the two queries find them. -/
theorem Db.mailboxDeployments_ne_nil (agentId : String) :
    s.mailboxDeployments mailbox.tenantId mailbox.id (some agentId) ≠ [] ↔
      s.activeMailboxDeployment agentId mailbox.id = true := by
  unfold Db.mailboxDeployments Db.activeMailboxDeployment
  have hne : ∀ (l : List DeploymentRow) (p : DeploymentRow → Bool),
      (l.filter p).reverse ≠ [] ↔ ∃ d, d ∈ l ∧ p d = true := by
    intro l p
    rw [ne_eq, List.reverse_eq_nil_iff, List.filter_eq_nil_iff]
    simp only [not_forall, not_not, exists_prop]
  rw [hne, List.any_eq_true]
  apply exists_congr
  intro d
  rw [and_congr_right_iff]
  intro hd
  simp only [Bool.and_eq_true, beq_iff_eq, Option.all_some]
  constructor
  · rintro ⟨⟨⟨⟨⟨⟨htype, hid⟩, hstatus⟩, htenant⟩, hagent⟩, hversion⟩, howns⟩
    refine ⟨⟨⟨⟨⟨⟨htype, hid⟩, hstatus⟩, hagent⟩, howns⟩, hversion⟩, ?_⟩
    rw [hid]
    exact (Db.ownsMailbox_iff hmailboxes hm).2 htenant.symm
  · rintro ⟨⟨⟨⟨⟨⟨htype, hid⟩, hstatus⟩, hagent⟩, howns⟩, hversion⟩, hmailbox⟩
    rw [hid] at hmailbox
    exact ⟨⟨⟨⟨⟨⟨htype, hid⟩, hstatus⟩, ((Db.ownsMailbox_iff hmailboxes hm).1 hmailbox).symm⟩,
      hagent⟩, hversion⟩, howns⟩

/-- An agent that is bound in one of the roles executes. -/
theorem run_resolveRequestedTarget_bound {agentId : String} {cache : TenantMatches}
    (hcache : s.Remembers tenantId cache) (hagent : s.agentOfTenant tenantId agentId = true)
    (hrole : s.activeMailboxBinding agentId mailboxId roles = true) :
    ∃ target, (resolveRequestedTarget tenantId mailboxId roles agentId cache).run s =
      (.ok (some target), s) := by
  obtain ⟨a, ha⟩ : ∃ a, s.agent agentId = some a := by
    unfold Db.agentOfTenant at hagent
    cases h : s.agent agentId with
    | none =>
      rw [h] at hagent
      cases hagent
    | some a => exact ⟨a, rfl⟩
  obtain ⟨choice, hrun, -, -, -⟩ := run_chooseDeployment mailboxId roles hcache none
    (s.mailboxDeployments tenantId mailboxId (some agentId))
  unfold resolveRequestedTarget hasActiveMailboxBinding
  rw [Prog.run_bind, run_query, Prog.andThen_ok, hrole, if_pos rfl]
  dsimp only [Prog.pure_eq, Prog.bind_eq, Prog.bind]
  rw [if_neg Bool.false_ne_true, ← Prog.bind_eq, Prog.run_bind, run_query, Prog.andThen_ok,
    ← Prog.bind_eq, Prog.run_bind, hrun, Prog.andThen_ok]
  cases choice.chosen <|> choice.fallback with
  | some d => exact ⟨d.target, rfl⟩
  | none =>
    refine ⟨⟨agentId, s.defaultVersionId a, none⟩, ?_⟩
    show (Except.ok ((s.agent agentId).map fun agent =>
      (⟨agentId, s.defaultVersionId agent, none⟩ : ExecutionTarget)), s) = _
    rw [ha]
    rfl

/-- An agent that is bound, but in none of the roles, does not execute. -/
theorem run_resolveRequestedTarget_otherwise {agentId : String} {cache : TenantMatches}
    (hrole : s.activeMailboxBinding agentId mailboxId roles = false)
    (hany : s.activeMailboxBinding agentId mailboxId [] = true) :
    (resolveRequestedTarget tenantId mailboxId roles agentId cache).run s = (.ok none, s) := by
  unfold resolveRequestedTarget hasActiveMailboxBinding
  rw [Prog.run_bind, run_query, Prog.andThen_ok, hrole, if_neg Bool.false_ne_true, Prog.run_bind,
    run_query, Prog.andThen_ok, hany]
  dsimp only
  rw [if_pos rfl]
  rfl

/-- An agent that is not bound executes as its newest deployment says. -/
theorem run_resolveRequestedTarget_free {agentId : String} {cache : TenantMatches}
    (hcache : s.Remembers tenantId cache) (hagent : s.agentOfTenant tenantId agentId = true)
    (hany : s.activeMailboxBinding agentId mailboxId [] = false) :
    (resolveRequestedTarget tenantId mailboxId roles agentId cache).run s =
      (.ok ((s.mailboxDeployments tenantId mailboxId (some agentId)).head?.map
        DeploymentRow.target), s) := by
  have hrole : s.activeMailboxBinding agentId mailboxId roles = false :=
    Db.activeMailboxBinding_none hany
  have hor : ∀ found : Option DeploymentRow, (none <|> found) = found := fun _ => rfl
  have hrowAgent : ∀ d ∈ s.mailboxDeployments tenantId mailboxId (some agentId),
      d.agentId = agentId := by
    intro d hd
    rw [Db.mailboxDeployments, List.mem_reverse, List.mem_filter] at hd
    simp only [Bool.and_eq_true, beq_iff_eq, Option.all_some] at hd
    exact hd.2.1.1.2
  obtain ⟨choice, hrun, -, hchosen, hfallback⟩ := run_chooseDeployment mailboxId roles hcache none
    (s.mailboxDeployments tenantId mailboxId (some agentId))
  have hnone : choice.chosen = none := by
    rw [hchosen, List.find?_eq_none]
    intro d hd
    rw [Db.boundDeployment, hrowAgent d hd, hrole]
    simp
  have hfirst : choice.fallback =
      (s.mailboxDeployments tenantId mailboxId (some agentId)).head? := by
    rw [hfallback hnone, hor]
    rcases hlist : s.mailboxDeployments tenantId mailboxId (some agentId) with _ | ⟨d, rest⟩
    · rfl
    · have hd : d.agentId = agentId := hrowAgent d (by rw [hlist]; exact List.mem_cons_self)
      rw [List.find?_cons_of_pos, List.head?_cons]
      rw [Db.freeDeployment, hd, hagent, hany]
      rfl
  unfold resolveRequestedTarget hasActiveMailboxBinding
  rw [Prog.run_bind, run_query, Prog.andThen_ok, hrole, if_neg Bool.false_ne_true, Prog.run_bind,
    run_query, Prog.andThen_ok, hany]
  dsimp only
  rw [if_neg Bool.false_ne_true, Prog.run_bind, run_query, Prog.andThen_ok, Prog.run_bind, hrun,
    Prog.andThen_ok, hnone, hfirst, hor]
  cases (s.mailboxDeployments tenantId mailboxId (some agentId)).head? <;> rfl

include hmailboxes hm in
/-- **A requested agent** of the mailbox's tenant executes exactly if it may send. -/
theorem run_resolveAgentExecutionTarget_requested {agentId : String} (hne : agentId ≠ "")
    (hagent : s.agentOfTenant mailbox.tenantId agentId = true) :
    (∃ target, (resolveAgentExecutionTarget mailbox.id (some agentId)
      sendCapableMailboxRoles).run s = (.ok (some target), s)) ↔ s.MaySend agentId mailbox.id := by
  have htruthy : (some agentId).filter truthy = some agentId := by
    simp [Option.filter, truthy, hne]
  have hstart : s.Remembers mailbox.tenantId [] := remembers_nil
  obtain ⟨cache, hcache, hmatch⟩ := run_agentMatchesMailboxTenant hstart agentId
  have hresolve : (resolveAgentExecutionTarget mailbox.id (some agentId)
      sendCapableMailboxRoles).run s = (resolveRequestedTarget mailbox.tenantId mailbox.id
        sendCapableMailboxRoles agentId cache).run s := by
    unfold resolveAgentExecutionTarget getMailboxById
    rw [Prog.run_bind, run_query, Prog.andThen_ok, Db.mailbox_of_mem hmailboxes hm]
    dsimp only
    rw [htruthy]
    dsimp only
    rw [Prog.run_bind, hmatch, Prog.andThen_ok]
    dsimp only
    rw [if_pos hagent]
  have hdeployed := Db.mailboxDeployments_ne_nil hmailboxes hm agentId
  rw [hresolve]
  unfold Db.MaySend
  cases hrole : s.activeMailboxBinding agentId mailbox.id sendCapableMailboxRoles with
  | true =>
    constructor
    · intro _
      exact .inl rfl
    · intro _
      exact run_resolveRequestedTarget_bound hcache hagent hrole
  | false =>
    cases hany : s.activeMailboxBinding agentId mailbox.id [] with
    | true =>
      rw [run_resolveRequestedTarget_otherwise hrole hany]
      constructor
      · rintro ⟨target, h⟩
        cases h
      · rintro (h | ⟨h, -⟩) <;> cases h
    | false =>
      rw [run_resolveRequestedTarget_free hcache hagent hany]
      constructor
      · rintro ⟨target, h⟩
        refine .inr ⟨rfl, hdeployed.1 ?_⟩
        intro hempty
        rw [hempty] at h
        cases h
      · rintro (h | ⟨-, h⟩)
        · cases h
        · obtain ⟨d, rest, hlist⟩ := List.exists_cons_of_ne_nil (hdeployed.2 h)
          rw [hlist]
          exact ⟨d.target, rfl⟩

/-- An agent of the mailbox's tenant is bound to the mailbox in one of the roles. -/
def Db.HasBinding (s : Db) (mailboxId : String) (roles : List MailboxRole) : Prop :=
  ∃ agentId, s.activeMailboxBinding agentId mailboxId roles = true

include hmailboxes hagents hm in
theorem Db.find_mailboxBindings (hroles : roles ≠ []) :
    ((s.mailboxBindings mailbox.id roles).find? (s.agentOfTenant mailbox.tenantId) = none ↔
      ¬ s.HasBinding mailbox.id roles) ∧
    ∀ agentId, (s.mailboxBindings mailbox.id roles).find? (s.agentOfTenant mailbox.tenantId) =
      some agentId → s.agentOfTenant mailbox.tenantId agentId = true ∧
        s.activeMailboxBinding agentId mailbox.id roles = true := by
  have hempty : roles.isEmpty = false := by
    cases roles with
    | nil => exact absurd rfl hroles
    | cons role rest => rfl
  have hmem : ∀ agentId, agentId ∈ s.mailboxBindings mailbox.id roles ↔
      s.activeMailboxBinding agentId mailbox.id roles = true := by
    intro agentId
    simp only [Db.mailboxBindings, Db.activeMailboxBinding, List.mem_map, List.mem_filter,
      List.any_eq_true, Bool.and_eq_true, beq_iff_eq, hempty, Bool.false_or]
    constructor
    · rintro ⟨b, ⟨hb, ⟨⟨⟨hid, hactive⟩, hrole⟩, hmailbox⟩, hagent⟩, rfl⟩
      exact ⟨b, hb, ⟨⟨⟨⟨hid, rfl⟩, hactive⟩, hrole⟩, hmailbox⟩, hagent⟩
    · rintro ⟨b, hb, ⟨⟨⟨⟨hid, rfl⟩, hactive⟩, hrole⟩, hmailbox⟩, hagent⟩
      exact ⟨b, ⟨hb, ⟨⟨⟨hid, hactive⟩, hrole⟩, hmailbox⟩, hagent⟩, rfl⟩
  have htenant : ∀ agentId, s.activeMailboxBinding agentId mailbox.id roles = true →
      s.agentOfTenant mailbox.tenantId agentId = true := by
    intro agentId h
    simp only [Db.activeMailboxBinding, List.any_eq_true, Bool.and_eq_true, beq_iff_eq] at h
    obtain ⟨b, hb, ⟨⟨⟨⟨hid, rfl⟩, hactive⟩, hrole⟩, hmailbox⟩, hagent⟩ := h
    rw [hid] at hmailbox
    rw [(Db.ownsMailbox_iff hmailboxes hm).1 hmailbox]
    exact (Db.agentOfTenant_iff hagents).2 hagent
  constructor
  · rw [List.find?_eq_none]
    constructor
    · rintro h ⟨agentId, hbound⟩
      exact h agentId ((hmem agentId).2 hbound) (htenant agentId hbound)
    · intro h agentId hfound
      exact absurd ⟨agentId, (hmem agentId).1 hfound⟩ h
  · intro agentId h
    exact ⟨List.find?_some h, (hmem agentId).1 (List.mem_of_find?_eq_some h)⟩

include hmailboxes hagents hm in
/-- **Without a requested agent** whoever executes is the mailbox's tenant's, and is bound in one
of the roles; or nobody is, and he is not bound at all and is deployed. -/
theorem run_resolveAgentExecutionTarget_any (hroles : roles ≠ []) {target : ExecutionTarget}
    (h : (resolveAgentExecutionTarget mailbox.id none roles).run s = (.ok (some target), s)) :
    s.agentOfTenant mailbox.tenantId target.agentId = true ∧
      (s.activeMailboxBinding target.agentId mailbox.id roles = true ∨
        (¬ s.HasBinding mailbox.id roles ∧
          s.activeMailboxBinding target.agentId mailbox.id [] = false ∧
          s.activeMailboxDeployment target.agentId mailbox.id = true)) := by
  obtain ⟨hnobody, hsomebody⟩ := Db.find_mailboxBindings hmailboxes hagents hm hroles
  unfold resolveAgentExecutionTarget getMailboxById at h
  rw [Prog.run_bind, run_query, Prog.andThen_ok, Db.mailbox_of_mem hmailboxes hm] at h
  change (resolveMailboxTarget mailbox.tenantId mailbox.id roles).run s = _ at h
  unfold resolveMailboxTarget at h
  rw [Prog.run_bind, run_query, Prog.andThen_ok] at h
  have hstart : s.Remembers mailbox.tenantId [] := remembers_nil
  set rows := s.mailboxDeployments mailbox.tenantId mailbox.id none with hrows
  have hdeployed : ∀ d ∈ rows, s.activeMailboxDeployment d.agentId mailbox.id = true := by
    intro d hd
    apply (Db.mailboxDeployments_ne_nil hmailboxes hm _).1
    intro hempty
    rw [hrows, Db.mailboxDeployments, List.mem_reverse, List.mem_filter] at hd
    rw [Db.mailboxDeployments, List.reverse_eq_nil_iff, List.filter_eq_nil_iff] at hempty
    refine hempty d hd.1 ?_
    simpa using hd.2
  obtain ⟨choice, hrun, hcache, hchosen, hfallback⟩ := run_chooseDeployment mailbox.id roles
    hstart none rows
  rw [Prog.run_bind, hrun, Prog.andThen_ok] at h
  cases hc : choice.chosen with
  | some d =>
    rw [hc] at h hchosen
    obtain rfl : d.target = target := by
      cases h
      rfl
    have hd := List.find?_some hchosen.symm
    simp only [Db.boundDeployment, Bool.and_eq_true] at hd
    exact ⟨hd.1, .inl hd.2⟩
  | none =>
    rw [hc] at h
    have hfree := hfallback hc
    dsimp only at h
    rw [Prog.run_bind, run_query, Prog.andThen_ok, Prog.run_bind] at h
    obtain ⟨cache', hcache', hbinding⟩ :=
      run_chooseBinding hcache (s.mailboxBindings mailbox.id roles)
    rw [hbinding, Prog.andThen_ok] at h
    cases hb : (s.mailboxBindings mailbox.id roles).find? (s.agentOfTenant mailbox.tenantId) with
    | some agentId =>
      rw [hb] at h
      obtain ⟨hagent, hbound⟩ := hsomebody agentId hb
      obtain rfl : (⟨agentId, none, none⟩ : ExecutionTarget) = target := by
        cases h
        rfl
      exact ⟨hagent, .inl hbound⟩
    | none =>
      rw [hb] at h
      cases hf : choice.fallback with
      | some d =>
        rw [hf] at h hfree
        obtain rfl : d.target = target := by
          cases h
          rfl
        have hfound : rows.find? (s.freeDeployment mailbox.tenantId mailbox.id) = some d :=
          hfree.symm
        have hd := List.find?_some hfound
        simp only [Db.freeDeployment, Bool.and_eq_true, Bool.not_eq_true'] at hd
        exact ⟨hd.1, .inr ⟨hnobody.1 hb, hd.2,
          hdeployed d (List.mem_of_find?_eq_some hfound)⟩⟩
      | none =>
        rw [hf] at h
        obtain ⟨cache'', -, hagain⟩ :=
          run_chooseBinding hcache' (s.mailboxBindings mailbox.id roles)
        dsimp only at h
        rw [Prog.run_bind, run_query, Prog.andThen_ok, Prog.run_bind, hagain, Prog.andThen_ok,
          hb] at h
        cases h

end Targets

/-! ### They agree -/

/-- **All decisions agree** about any agent of the mailbox's tenant: who executes, the three of
the API, the consumer's, and the one before an administrator mints a token. And whoever
executes without being requested is of the mailbox's tenant, and bound in one of the roles, or, if
nobody is, not bound at all and deployed. Identifiers are unique, and not empty. -/
theorem send_decisions_agree (s : Db) (hmailboxes : (s.mailboxes.map MailboxRow.id).Nodup)
    (hagents : (s.agents.map AgentRow.id).Nodup) :
    (∀ mailbox ∈ s.mailboxes, ∀ agent ∈ s.agents, agent.tenantId = mailbox.tenantId →
      agent.id ≠ "" →
      ((∃ target, (resolveAgentExecutionTarget mailbox.id (some agent.id)
          sendCapableMailboxRoles).run s = (.ok (some target), s)) ↔
        (canAgentSendForMailbox agent.id mailbox.id).run s = (.ok true, s)) ∧
      ((canAgentSendForMailbox agent.id mailbox.id).run s = (.ok true, s) ↔
        (validateSendAgentBinding routeRequestError mailbox.tenantId agent.id mailbox.id).run s =
          (.ok (), s)) ∧
      ((canAgentSendForMailbox agent.id mailbox.id).run s = (.ok true, s) ↔
        (validateSendAgentBinding draftSendValidationError mailbox.tenantId agent.id
          mailbox.id).run s = (.ok (), s)) ∧
      (∀ scopes : List String, "draft:send" ∈ scopes →
        ((canAgentSendForMailbox agent.id mailbox.id).run s = (.ok true, s) ↔
          (validateTokenAgentMailboxScopes (some agent.id) [mailbox.id] scopes).run s =
            (.ok (), s))) ∧
      ((canAgentSendForMailbox agent.id mailbox.id).run s = (.ok true, s) ↔
        (assertAgentActiveForMailbox agent.id mailbox.id true).run s = (.ok (), s))) ∧
    (∀ mailbox ∈ s.mailboxes, ∀ (roles : List MailboxRole) (target : ExecutionTarget), roles ≠ [] →
      (resolveAgentExecutionTarget mailbox.id none roles).run s = (.ok (some target), s) →
        (∃ agent ∈ s.agents, agent.id = target.agentId ∧ agent.tenantId = mailbox.tenantId) ∧
        (s.activeMailboxBinding target.agentId mailbox.id roles = true ∨
          (¬ s.HasBinding mailbox.id roles ∧
            s.activeMailboxBinding target.agentId mailbox.id [] = false ∧
            s.activeMailboxDeployment target.agentId mailbox.id = true))) := by
  constructor
  · intro mailbox hm agent ha htenant hne
    have hagent : s.agentOfTenant mailbox.tenantId agent.id = true := by
      rw [Db.agentOfTenant_iff hagents, Db.ownsAgent, List.any_eq_true]
      exact ⟨agent, ha, by simp [htenant]⟩
    refine ⟨?_, ?_, ?_, ?_, ?_⟩
    · rw [run_resolveAgentExecutionTarget_requested hmailboxes hm hne hagent,
        run_canAgentSendForMailbox]
    · rw [run_canAgentSendForMailbox, run_validateSendAgentBinding hagent]
    · rw [run_canAgentSendForMailbox, run_validateSendAgentBinding hagent]
    · intro scopes hscopes
      have htruthy : (some agent.id).filter truthy = some agent.id := by
        simp [Option.filter, truthy, hne]
      have hcontains : scopes.contains "draft:send" = true := List.contains_iff_mem.2 hscopes
      unfold validateTokenAgentMailboxScopes
      rw [if_neg (by simp), htruthy]
      dsimp only
      rw [hcontains, run_canAgentSendForMailbox, run_validateAgentForMailboxes]
      simp
    · rw [run_canAgentSendForMailbox, assertAgentActiveForMailbox, run_validateAgentForMailbox]
  · intro mailbox hm roles target hroles h
    obtain ⟨hagent, hcause⟩ :=
      run_resolveAgentExecutionTarget_any hmailboxes hagents hm hroles h
    rw [Db.agentOfTenant_iff hagents, Db.ownsAgent, List.any_eq_true] at hagent
    obtain ⟨agent, ha, hboth⟩ := hagent
    simp only [Bool.and_eq_true, beq_iff_eq] at hboth
    exact ⟨⟨agent, ha, hboth⟩, hcause⟩

/-- The mailbox of the database below. -/
def fallbackMailbox : MailboxRow := ⟨"mbx_1", "t_1", "a@b", "active"⟩

/-- The deployed agent of the database below. -/
def fallbackAgent : AgentRow := ⟨"agt_2", "t_1", .active, none⟩

/-- One agent is bound to receive for the mailbox, another one is deployed to it. -/
def fallbackDb : Db where
  mailboxes := [fallbackMailbox]
  agents := [⟨"agt_1", "t_1", .active, none⟩, fallbackAgent]
  agentVersions := [⟨"agv_1", "agt_2", none⟩]
  agentMailboxes := [⟨"t_1", "agt_1", "mbx_1", .receiveOnly, true⟩]
  agentDeployments := [⟨"dep_1", "t_1", "agt_2", "agv_1", .mailbox, "mbx_1", .active, 0⟩]

theorem fallbackAgent_sends :
    ((canAgentSendForMailbox "agt_2" "mbx_1").run fallbackDb = (.ok true, fallbackDb) ↔
      (assertAgentActiveForMailbox "agt_2" "mbx_1" true).run fallbackDb = (.ok (), fallbackDb)) ∧
    ¬ fallbackDb.HasBinding "mbx_1" sendCapableMailboxRoles := by
  have h := send_decisions_agree fallbackDb (by decide) (by decide)
  refine ⟨(h.1 fallbackMailbox (by decide) fallbackAgent (by decide) (by decide)
    (by decide)).2.2.2.2, ?_⟩
  have hcause := (h.2 fallbackMailbox (by decide) sendCapableMailboxRoles
    ⟨"agt_2", some "agv_1", some "dep_1"⟩ (by decide) (by rfl)).2
  obtain hbound | ⟨hnobody, -⟩ := hcause
  · exact absurd hbound (by decide)
  · exact hnobody

/-- The mailbox has an active binding, and an agent that has none may be the one that executes. -/
theorem fallback_beside_binding :
    ∃ target, (resolveAgentExecutionTarget "mbx_1" none sendCapableMailboxRoles).run fallbackDb =
        (.ok (some target), fallbackDb) ∧
      ¬ (fallbackDb.activeMailboxBinding target.agentId "mbx_1" sendCapableMailboxRoles = true ∨
        (¬ fallbackDb.HasBinding "mbx_1" [] ∧
          fallbackDb.activeMailboxDeployment target.agentId "mbx_1" = true)) := by
  refine ⟨⟨"agt_2", some "agv_1", some "dep_1"⟩, by rfl, ?_⟩
  rintro (hbound | ⟨hnobody, -⟩)
  · exact absurd hbound (by decide)
  · exact hnobody ⟨"agt_1", by decide⟩

end MailRuntime
