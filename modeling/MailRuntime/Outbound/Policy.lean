import MailRuntime.Outbound.Routing
import MailRuntime.Repositories.Billing

/-!
# Outbound policy and credit requirements

`lib/outbound-policy.ts` decides whether a tenant's agent may send to a set of
recipients, `lib/outbound-credits.ts` what the send costs. Both route the recipients for
themselves. The quota at the end of the policy is only consulted while external sending
is not unlocked, and then an earlier branch has refused already; it is kept as the
source has it.
-/

namespace MailRuntime

open Js Interaction

/-! ### Credits -/

/-- `isCreditExemptCreatedVia`. -/
def isCreditExemptCreatedVia (env : Env) (createdVia : Option String) : Bool :=
  (createdVia.map env.toLowerCase).getD "" == "system:token_reissue_self_mailbox"

/-- `classifyOutboundUsageEntryType`: whether the send counts as a reply. -/
def isReplyUsage (env : Env) (sourceMessageId createdVia : Option String) : Bool :=
  sourceMessageId.any truthy || includes ((createdVia.map env.toLowerCase).getD "") "reply"

/-- `OutboundCreditRequirement`; `entryType` is that of `reply`. -/
structure CreditRequirement where
  reply : Bool
  creditsRequired : Int
  requiresCredits : Bool
  recipientDomains : List String
  externalDomains : List String
deriving DecidableEq, Repr

/-- `DEFAULT_OUTBOUND_CREDITS_PER_SEND`. -/
def outboundCreditsPerSend : Int := 1

/-- The requirement of recipients that are routed so. -/
def creditRequirement (env : Env) (routed : RoutedRecipients)
    (sourceMessageId createdVia : Option String) : CreditRequirement :=
  let exempt := isCreditExemptCreatedVia env createdVia
  { reply := isReplyUsage env sourceMessageId createdVia
    creditsRequired := if exempt then 0 else outboundCreditsPerSend
    requiresCredits := !exempt && decide (0 < routed.externalRecipientCount)
    recipientDomains := routed.recipientDomains
    externalDomains := routed.externalDomains }

/-- `getOutboundCreditRequirement`. -/
def getOutboundCreditRequirement (env : Env) (recipients : Recipients)
    (sourceMessageId createdVia : Option String) : Op CreditRequirement := do
  let routed ← routeOutboundRecipients env recipients
  pure (creditRequirement env routed sourceMessageId createdVia)

/-- The answer of `checkOutboundCreditRequirement`. -/
structure CreditCheck where
  requirement : CreditRequirement
  availableCredits : Option Int
  hasSufficientCredits : Bool
deriving DecidableEq, Repr

/-- `checkOutboundCreditRequirement`. -/
def checkOutboundCreditRequirement (env : Env) (tenantId : String) (recipients : Recipients)
    (sourceMessageId createdVia : Option String) : Op CreditCheck := do
  let requirement ← getOutboundCreditRequirement env recipients sourceMessageId createdVia
  if requirement.requiresCredits then do
    let account ← ensureTenantBillingAccount env tenantId
    pure ⟨requirement, some account.availableCredits,
      decide (requirement.creditsRequired ≤ account.availableCredits)⟩
  else pure ⟨requirement, none, true⟩

/-- The error of a send that cannot be paid for. -/
def insufficientCredits (check : CreditCheck) : String :=
  "Insufficient credits for external sending. Required: " ++
    toString check.requirement.creditsRequired ++ ", available: " ++
    toString (check.availableCredits.getD 0)

/-! ### Quota -/

/-- The drafts of a message's jobs, of an agent and a mailbox that are still the tenant's. -/
def Db.draftsOfMessage (s : Db) (messageId : String) : List DraftRow :=
  s.drafts.filter fun d =>
    (s.outboundJobs.any fun o => o.messageId == messageId && o.draftR2Key == d.draftR2Key) &&
    s.ownsAgent d.tenantId d.agentId && s.ownsMailbox d.tenantId d.mailboxId

/-- The message counts for its tenant's quota; SQLite's `LIKE 'system:%'` is blind to the case of
ASCII letters. -/
def Db.countsForQuota (s : Db) (tenantId : String) (excludeDraftR2Key : Option String)
    (m : MessageRow) : Bool :=
  m.tenantId == tenantId && m.direction == .outbound && m.provider != .internal &&
  m.status != .failed &&
  !(s.outboundJobs.any fun o => o.messageId == m.id && o.status == .failed) &&
  !(s.outboundJobs.any fun o => o.messageId == m.id && excludeDraftR2Key == some o.draftR2Key) &&
  s.ownsMailbox m.tenantId m.mailboxId &&
  !(((s.draftsOfMessage m.id).map DraftRow.id).eraseDups.length == 1 &&
    (s.draftsOfMessage m.id).any fun d =>
      "system:".toList.isPrefixOf (sqlLower (d.createdVia.getD "")).toList)

/-- How many messages count since a moment. -/
def Db.outboundUsage (s : Db) (tenantId : String) (excludeDraftR2Key : Option String)
    (since : Nat) : Nat :=
  s.messages.countP fun m => s.countsForQuota tenantId excludeDraftR2Key m && since ≤ m.createdAt

/-- `getTenantOutboundUsageWindowCounts`: the counts of the last hour and of the last day. -/
def getTenantOutboundUsageWindowCounts (tenantId : String) (sinceHour sinceDay : Nat)
    (excludeDraftR2Key : Option String) : Op (Nat × Nat) :=
  query (.read .messages) fun s =>
    (s.outboundUsage tenantId excludeDraftR2Key (max sinceHour sinceDay),
      s.outboundUsage tenantId excludeDraftR2Key sinceDay)

/-- `rollingWindowStart`. -/
def rollingWindowStart (env : Env) (hours : Nat) : Op Nat := do
  let now ← nowIso env
  pure (now - hours * 60 * 60 * 1000)

/-! ### Policy -/

/-- The codes of `OutboundPolicyDecision`. -/
inductive PolicyCode where
  | accessMailboxDenied
  | invalidRecipientRouting
  | externalSendNotEnabled
  | recipientDomainNotAllowed
  | dailyQuotaExceeded
  | hourlyQuotaExceeded
deriving DecidableEq, Repr

/-- `OutboundPolicyDecision`: the refusal, if it is one. -/
structure PolicyDecision where
  refusal : Option (PolicyCode × String)
  recipientDomains : Option (List String) := none
  externalDomains : Option (List String) := none
  externalRecipientCount : Option Nat := none
deriving DecidableEq, Repr

/-- `decision.ok`. -/
def PolicyDecision.ok (d : PolicyDecision) : Bool := d.refusal.isNone

/-- The external domains that the agent's policy does not allow. -/
def disallowedDomains (env : Env) (policy : AgentPolicyRow) (externalDomains : List String) :
    List String :=
  let allowed := policy.allowedRecipientDomains.map env.toLowerCase
  externalDomains.filter fun domain => !allowed.contains domain

/-- The refusal of an agent's policy, if there is one: a non-empty list of allowed domains
binds, unless it is the one agents are created with and credits unlock sending. -/
def agentPolicyRefusal (env : Env) (agentPolicy : Option AgentPolicyRow)
    (tenantPolicy : SendPolicyRow) (unlockedByCredits : Bool) (routed : RoutedRecipients) :
    Option (PolicyCode × String) :=
  match agentPolicy with
  | none => none
  | some policy =>
    if policy.allowedRecipientDomains.isEmpty then none
    else if !routed.externalDomains.isEmpty && decide (0 < routed.externalRecipientCount) &&
        unlockedByCredits &&
        isDefaultSelfServeInternalOnlyAgentPolicy env policy tenantPolicy.internalDomainAllowlist
    then none
    else
      let disallowed := disallowedDomains env policy routed.externalDomains
      if disallowed.isEmpty then none
      else some (.recipientDomainNotAllowed,
        "Recipient domains are not allowed for this agent: " ++ join ", " disallowed)

/-- The text of an exceeded quota. -/
def quotaMessage (window hours : String) (limit : Nat) : String :=
  "Free-tier " ++ window ++ " send limit reached. Ordinary users can send up to " ++
    toString limit ++ " email" ++ (if limit = 1 then "" else "s") ++ " in a rolling " ++ hours ++
    " window."

/-- The refusal of the quota, if there is one. -/
def quotaRefusal (limits : Option Nat × Option Nat) (usage : Nat × Nat) :
    Option (PolicyCode × String) :=
  let (daily, hourly) := limits
  let (sentLastHour, sentLastDay) := usage
  match daily.filter fun limit => limit ≤ sentLastDay with
  | some limit => some (.dailyQuotaExceeded, quotaMessage "daily" "24-hour" limit)
  | none => (hourly.filter fun limit => limit ≤ sentLastHour).map fun limit =>
      (.hourlyQuotaExceeded, quotaMessage "hourly" "1-hour" limit)

/-- The refusal of the quota, which only sending that is not unlocked is subject to. -/
def checkQuota (env : Env) (tenantId : String) (excludeDraftR2Key : Option String)
    (unlocked : Bool) (limits : Option Nat × Option Nat) : Op (Option (PolicyCode × String)) :=
  if !unlocked && (limits.1.isSome || limits.2.isSome) then do
    let sinceHour ← rollingWindowStart env 1
    let sinceDay ← rollingWindowStart env 24
    let usage ← getTenantOutboundUsageWindowCounts tenantId sinceHour sinceDay excludeDraftR2Key
    pure (quotaRefusal limits usage)
  else pure none

/-- The part of `evaluateOutboundPolicy` for recipients that are not all internal. -/
def evaluateExternalPolicy (env : Env) (tenantId agentId : String) (routed : RoutedRecipients)
    (excludeDraftR2Key : Option String) : Op PolicyDecision := do
  let tenantPolicy ← ensureTenantSendPolicy env tenantId
  let account ← ensureTenantBillingAccount env tenantId
  let unlockedByPolicy :=
    tenantPolicy.externalSendEnabled && tenantPolicy.outboundStatus == .externalEnabled
  -- credits that are reserved for a send keep sending unlocked for it
  let unlockedByCredits := decide (0 < account.availableCredits + account.reservedCredits)
  let recipientDomains := some routed.recipientDomains
  let externalDomains := some routed.externalDomains
  let externalRecipientCount := some routed.externalRecipientCount
  if tenantPolicy.outboundStatus = .suspended then
    pure {
      refusal := some (.accessMailboxDenied, "Outbound sending is suspended for this tenant") }
  else if !unlockedByPolicy && !unlockedByCredits then
    pure {
      refusal := some (.externalSendNotEnabled,
        "External sending requires available credits or an enabled outbound policy. " ++
          "Disallowed domains: " ++ join ", " routed.externalDomains)
      recipientDomains, externalDomains, externalRecipientCount }
  else do
    let agentPolicy ← getAgentPolicy agentId
    match agentPolicyRefusal env agentPolicy tenantPolicy unlockedByCredits routed with
    | some refusal => pure { refusal := some refusal, recipientDomains, externalDomains }
    | none => do
      match ← checkQuota env tenantId excludeDraftR2Key (unlockedByPolicy || unlockedByCredits)
        (getEffectiveSendLimits tenantPolicy.pricingTier) with
      | some refusal => pure { refusal := some refusal, recipientDomains, externalDomains }
      | none => pure { refusal := none, recipientDomains, externalDomains, externalRecipientCount }

/-- `evaluateOutboundPolicy`. -/
def evaluateOutboundPolicy (env : Env) (tenantId agentId : String) (recipients : Recipients)
    (excludeDraftR2Key : Option String) : Op PolicyDecision := do
  let routed ← routeOutboundRecipients env recipients
  if routed.recipientDomains.isEmpty then
    pure {
      refusal := some (.recipientDomainNotAllowed,
        "At least one valid recipient domain is required") }
  else match getOutboundRecipientRoutingValidationError routed with
    | some message => pure {
        refusal := some (.invalidRecipientRouting, message)
        recipientDomains := some routed.recipientDomains
        externalDomains := some routed.externalDomains
        externalRecipientCount := some routed.externalRecipientCount }
    | none =>
      if routed.externalRecipientCount = 0 then
        pure {
          refusal := none, recipientDomains := some routed.recipientDomains
          externalDomains := some [], externalRecipientCount := some 0 }
      else evaluateExternalPolicy env tenantId agentId routed excludeDraftR2Key

/-- The HTTP status of a refusal. -/
def PolicyDecision.status (d : PolicyDecision) : Nat :=
  match d.refusal with
  | some (.invalidRecipientRouting, _) => 400
  | some (.dailyQuotaExceeded, _) | some (.hourlyQuotaExceeded, _) => 429
  | _ => 403

/-! ### Footprints -/

variable {ts : List Table} {env : Env}

@[simp] theorem touches_getTenantOutboundUsageWindowCounts {tenantId : String}
    {sinceHour sinceDay : Nat} {excludeDraftR2Key : Option String} :
    Touches ts (getTenantOutboundUsageWindowCounts tenantId sinceHour sinceDay
      excludeDraftR2Key) := touches_query rfl

@[simp] theorem touches_checkQuota {tenantId : String} {excludeDraftR2Key : Option String}
    {unlocked : Bool} {limits : Option Nat × Option Nat} :
    Touches ts (checkQuota env tenantId excludeDraftR2Key unlocked limits) := by
  rw [checkQuota]
  split
  · exact .bind (.bind touches_nowIso fun _ => trivial) fun _ =>
      .bind (.bind touches_nowIso fun _ => trivial) fun _ =>
      .bind touches_getTenantOutboundUsageWindowCounts fun _ => trivial
  · trivial

/-- The tables that the policy may have to write a first row to. -/
theorem touches_evaluateExternalPolicy {tenantId agentId : String} {routed : RoutedRecipients}
    {excludeDraftR2Key : Option String} : Touches [.sendPolicies, .accounts]
      (evaluateExternalPolicy env tenantId agentId routed excludeDraftR2Key) := by
  refine .bind (touches_ensureTenantSendPolicy.mono (by simp)) fun tenantPolicy =>
    .bind (touches_ensureTenantBillingAccount.mono (by simp)) fun account => ?_
  dsimp only
  split
  · trivial
  · split
    · trivial
    · refine .bind touches_getAgentPolicy fun agentPolicy => ?_
      split
      · trivial
      · refine .bind touches_checkQuota fun refusal => ?_
        split <;> trivial

theorem touches_evaluateOutboundPolicy {tenantId agentId : String} {recipients : Recipients}
    {excludeDraftR2Key : Option String} : Touches [.sendPolicies, .accounts]
      (evaluateOutboundPolicy env tenantId agentId recipients excludeDraftR2Key) := by
  refine .bind touches_routeOutboundRecipients fun routed => ?_
  split
  · trivial
  · split
    · trivial
    · split
      · trivial
      · exact touches_evaluateExternalPolicy

end MailRuntime
