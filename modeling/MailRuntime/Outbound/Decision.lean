import MailRuntime.Outbound.Policy

/-!
# What the outbound policy decides

`evaluateOutboundPolicy` tests its conditions one after the other and returns at the first that
fails. Here they are stated of the database that it finds, and it is shown which refusal, if any,
it comes to. Sending that is not unlocked is refused before the quota is looked at, and sending
that is unlocked has no quota, so no send is ever refused for a quota.
-/

namespace MailRuntime

open Js Interaction

/-! ### The conditions -/

/-- The send policy a tenant has, or is given. -/
def Db.effectiveSendPolicy (s : Db) (env : Env) (tenantId : String) : SendPolicyRow :=
  (s.sendPolicy env tenantId).getD {
    tenantId := tenantId, pricingTier := .free, outboundStatus := .internalOnly
    internalDomainAllowlist := cleanDomains env ["mailagents.net"]
    externalSendEnabled := false, reviewRequired := true, updatedAt := env.clock s.draws }

/-- The available and the reserved credits of a tenant. -/
def Db.usableCredits (s : Db) (tenantId : String) : Int :=
  ((s.account tenantId).map fun a => a.availableCredits + a.reservedCredits).getD 0

/-- The tenant's send policy unlocks sending. -/
def Db.unlockedByPolicy (s : Db) (env : Env) (tenantId : String) : Bool :=
  let policy := s.effectiveSendPolicy env tenantId
  policy.externalSendEnabled && policy.outboundStatus == .externalEnabled

/-- Sending is unlocked by the policy or by credits. -/
def Db.unlocked (s : Db) (env : Env) (tenantId : String) : Bool :=
  s.unlockedByPolicy env tenantId || decide (0 < s.usableCredits tenantId)

/-- The domains that the agent may write to, if that is restricted: the policy that agents are
created with does not restrict it where credits unlock sending. -/
def Db.allowlist (s : Db) (env : Env) (tenantId agentId : String) : Option (List String) :=
  (s.agentPolicy agentId).bind fun policy =>
    if policy.allowedRecipientDomains.isEmpty then none
    else if decide (0 < s.usableCredits tenantId) && isDefaultSelfServeInternalOnlyAgentPolicy env policy
        (s.effectiveSendPolicy env tenantId).internalDomainAllowlist then none
    else some (policy.allowedRecipientDomains.map env.toLowerCase)

/-- The limits that apply to a tenant, for a day and for an hour. -/
def Db.sendLimits (s : Db) (env : Env) (tenantId : String) : Option Nat × Option Nat :=
  if s.unlocked env tenantId then (none, none)
  else getEffectiveSendLimits (s.effectiveSendPolicy env tenantId).pricingTier

/-- The messages that count since a moment are fewer than the limit, if there is one. -/
def Db.below (s : Db) (limit : Option Nat) (tenantId : String) (excludeDraftR2Key : Option String)
    (since : Nat) : Prop := ∀ n, limit = some n → s.outboundUsage tenantId excludeDraftR2Key since < n

/-- The agent may write to the external recipients. -/
structure Db.MayWrite (s : Db) (env : Env) (tenantId agentId : String) (routed : RoutedRecipients)
    (excludeDraftR2Key : Option String) : Prop where
  direct : 0 < routed.externalToRecipientCount
  active : (s.effectiveSendPolicy env tenantId).outboundStatus ≠ .suspended
  unlocked : s.unlocked env tenantId = true
  allowed : ∀ domains, s.allowlist env tenantId agentId = some domains →
    ∀ domain ∈ routed.externalDomains, domain ∈ domains
  daily : ∀ since, s.below (s.sendLimits env tenantId).1 tenantId excludeDraftR2Key since
  hourly : ∀ since, s.below (s.sendLimits env tenantId).2 tenantId excludeDraftR2Key since

/-- The domains outside the allowlist. -/
def Db.forbiddenDomains (s : Db) (env : Env) (tenantId agentId : String)
    (routed : RoutedRecipients) : List String :=
  match s.allowlist env tenantId agentId with
  | none => []
  | some domains => routed.externalDomains.filter fun domain => !domains.contains domain

/-- The code of the refusal, if there is one. -/
def Db.policyRefusal (s : Db) (env : Env) (tenantId agentId : String) (routed : RoutedRecipients) :
    Option PolicyCode :=
  if routed.recipientDomains.isEmpty then some .recipientDomainNotAllowed
  else if (getOutboundRecipientRoutingValidationError routed).isSome then
    some .invalidRecipientRouting
  else if routed.externalRecipientCount = 0 then none
  else if (s.effectiveSendPolicy env tenantId).outboundStatus = .suspended then
    some .accessMailboxDenied
  else if !s.unlocked env tenantId then some .externalSendNotEnabled
  else if !(s.forbiddenDomains env tenantId agentId routed).isEmpty then
    some .recipientDomainNotAllowed
  else none

/-! ### Running the policy alone -/

section Run

variable {env : Env} {s : Db} {tenantId agentId : String} {routed : RoutedRecipients}
  {excludeDraftR2Key : Option String}

theorem run_ensureTenantSendPolicy (env : Env) (s : Db) (tenantId : String) :
    ∃ s', (ensureTenantSendPolicy env tenantId).run s =
      (.ok (s.effectiveSendPolicy env tenantId), s') ∧ s'.accounts = s.accounts := by
  rw [ensureTenantSendPolicy, getTenantSendPolicy, Prog.run_bind, run_query, Prog.andThen_ok]
  rcases hpolicy : s.sendPolicy env tenantId with _ | policy
  · have hnone : s.sendPolicies.find? (fun p => p.tenantId == tenantId) = none :=
      Option.map_eq_none_iff.1 hpolicy
    have hany : s.sendPolicies.any (fun p => p.tenantId == tenantId) = false := by
      rw [List.any_eq_false]
      exact List.find?_eq_none.1 hnone
    simp only [Prog.run_bind, run_nowIso, Prog.andThen_ok, execute, Prog.run_perform, hany,
      Bool.false_eq_true, if_false, run_query, Db.sendPolicy, List.find?_append, hnone,
      Db.effectiveSendPolicy]
    simp [requireRow]
  · refine ⟨s, ?_, rfl⟩
    rw [Db.effectiveSendPolicy, hpolicy]
    rfl

theorem run_ensureTenantBillingAccount (env : Env) (s : Db) (tenantId : String) :
    ∃ account s', (ensureTenantBillingAccount env tenantId).run s = (.ok account, s') ∧
      account.availableCredits + account.reservedCredits = s.usableCredits tenantId := by
  rw [ensureTenantBillingAccount, getTenantBillingAccount, Prog.run_bind, run_query,
    Prog.andThen_ok]
  rcases haccount : s.account tenantId with _ | account
  · have hnone : s.accounts.find? (fun p => p.tenantId == tenantId) = none := haccount
    simp only [Prog.run_bind, run_nowIso, Prog.andThen_ok, execute, Prog.run_perform, run_query,
      Db.account, hnone, Db.usableCredits]
    simp [requireRow, hnone]
  · refine ⟨account, s, rfl, ?_⟩
    rw [Db.usableCredits, haccount]
    rfl

/-- The agent's policy refuses exactly if a domain is forbidden. -/
theorem agentPolicyRefusal_eq (hexternal : routed.externalRecipientCount ≠ 0) :
    (agentPolicyRefusal env (s.agentPolicy agentId) (s.effectiveSendPolicy env tenantId)
      (decide (0 < s.usableCredits tenantId)) routed).map Prod.fst =
    if (s.forbiddenDomains env tenantId agentId routed).isEmpty then none
    else some .recipientDomainNotAllowed := by
  have hcount : decide (0 < routed.externalRecipientCount) = true := by
    simpa using Nat.pos_of_ne_zero hexternal
  rw [Db.forbiddenDomains, Db.allowlist]
  rcases s.agentPolicy agentId with _ | policy
  · rfl
  · simp only [agentPolicyRefusal, Option.bind_some]
    by_cases hempty : policy.allowedRecipientDomains.isEmpty = true
    · simp only [if_pos hempty]
      rfl
    · simp only [if_neg hempty, hcount, Bool.and_true]
      generalize decide (0 < s.usableCredits tenantId) = credits
      generalize isDefaultSelfServeInternalOnlyAgentPolicy env policy _ = default
      by_cases hbypass : (credits && default) = true
      · simp only [Bool.and_assoc, hbypass, Bool.and_true, List.isEmpty_nil, if_true]
        by_cases hdomains : routed.externalDomains.isEmpty = true
        · simp [disallowedDomains, List.isEmpty_iff.1 hdomains]
        · simp [hdomains]
      · simp only [Bool.and_assoc, Bool.eq_false_iff.2 hbypass, Bool.and_false,
          Bool.false_eq_true, if_false]
        show Option.map Prod.fst (if (disallowedDomains env policy _).isEmpty = true then none
          else some _) = if (disallowedDomains env policy _).isEmpty = true then none else _
        split <;> rfl

/-- What the policy comes to for recipients that are not all internal. -/
theorem run_evaluateExternalPolicy (hdomains : routed.recipientDomains.isEmpty = false)
    (hrouting : (getOutboundRecipientRoutingValidationError routed).isSome = false)
    (hexternal : routed.externalRecipientCount ≠ 0) :
    ∃ d s', (evaluateExternalPolicy env tenantId agentId routed excludeDraftR2Key).run s =
      (.ok d, s') ∧ d.refusal.map Prod.fst = s.policyRefusal env tenantId agentId routed := by
  obtain ⟨s₁, hpolicy, haccounts⟩ := run_ensureTenantSendPolicy env s tenantId
  obtain ⟨account, s₂, haccount, hcredits⟩ := run_ensureTenantBillingAccount env s₁ tenantId
  have hsame : ∀ t : Table, t ≠ .sendPolicies → t ≠ .accounts → t.Same s s₂ := by
    intro t hpolicies haccounts
    have h₁ : t.Same s s₁ := touches_ensureTenantSendPolicy.same_of_run hpolicy (by simpa)
    have h₂ : t.Same s₁ s₂ := touches_ensureTenantBillingAccount.same_of_run haccount (by simpa)
    exact h₁.trans h₂
  have hagent : s₂.agentPolicy agentId = s.agentPolicy agentId := by
    have hpolicies : s.agentPolicies = s₂.agentPolicies := hsame .agentPolicies (by simp) (by simp)
    have hagents : s.agents = s₂.agents := hsame .agents (by simp) (by simp)
    rw [Db.agentPolicy, Db.agentPolicy, hpolicies, hagents]
  have hcredits' : account.availableCredits + account.reservedCredits = s.usableCredits tenantId := by
    rw [hcredits, Db.usableCredits, Db.account, haccounts, Db.usableCredits, Db.account]
  have hunlocked : s.unlocked env tenantId =
      ((s.effectiveSendPolicy env tenantId).externalSendEnabled &&
        (s.effectiveSendPolicy env tenantId).outboundStatus == .externalEnabled ||
        decide (0 < s.usableCredits tenantId)) := rfl
  have hguard : (!((s.effectiveSendPolicy env tenantId).externalSendEnabled &&
      (s.effectiveSendPolicy env tenantId).outboundStatus == .externalEnabled) &&
        !decide (0 < s.usableCredits tenantId)) = !s.unlocked env tenantId := by
    rw [hunlocked, Bool.not_or]
  have hagentRefusal : (agentPolicyRefusal env (s.agentPolicy agentId)
      (s.effectiveSendPolicy env tenantId) (decide (0 < s.usableCredits tenantId)) routed).map
        Prod.fst =
      if (s.forbiddenDomains env tenantId agentId routed).isEmpty then none
      else some .recipientDomainNotAllowed := agentPolicyRefusal_eq hexternal
  rw [Db.policyRefusal, if_neg (by simp [hdomains]), if_neg (by simp [hrouting]), if_neg hexternal,
    evaluateExternalPolicy, Prog.run_bind, hpolicy, Prog.andThen_ok, Prog.run_bind, haccount,
    Prog.andThen_ok]
  simp only [hcredits', hguard]
  by_cases hactive : (s.effectiveSendPolicy env tenantId).outboundStatus = .suspended
  · rw [if_pos hactive, if_pos hactive]
    exact ⟨_, s₂, rfl, rfl⟩
  · rw [if_neg hactive, if_neg hactive]
    by_cases hopen : s.unlocked env tenantId = true
    · rw [if_neg (by simp [hopen]), if_neg (by simp [hopen]), Prog.run_bind, getAgentPolicy,
        run_query, Prog.andThen_ok, hagent]
      rcases hrefusal : agentPolicyRefusal env (s.agentPolicy agentId)
        (s.effectiveSendPolicy env tenantId) (decide (0 < s.usableCredits tenantId)) routed with _ | r
      · rw [hrefusal] at hagentRefusal
        have hnone : (s.forbiddenDomains env tenantId agentId routed).isEmpty = true := by
          by_contra h
          rw [if_neg h] at hagentRefusal
          cases hagentRefusal
        rw [← hunlocked, hopen, if_neg (by simp [hnone])]
        exact ⟨_, s₂, rfl, rfl⟩
      · rw [hrefusal] at hagentRefusal
        have hsome : ¬ (s.forbiddenDomains env tenantId agentId routed).isEmpty = true := by
          intro h
          rw [if_pos h] at hagentRefusal
          cases hagentRefusal
        rw [if_neg hsome] at hagentRefusal
        rw [if_pos (by simpa using hsome)]
        exact ⟨_, s₂, rfl, hagentRefusal⟩
    · rw [if_pos (by simpa using hopen), if_pos (by simpa using hopen)]
      exact ⟨_, s₂, rfl, rfl⟩

/-- **What the policy comes to**: the refusal that the database calls for. -/
theorem run_evaluateOutboundPolicy (env : Env) (s : Db) (tenantId agentId : String)
    (recipients : Recipients) (excludeDraftR2Key : Option String) :
    ∃ d s', (evaluateOutboundPolicy env tenantId agentId recipients excludeDraftR2Key).run s =
      (.ok d, s') ∧
      d.refusal.map Prod.fst = s.policyRefusal env tenantId agentId (s.route env recipients) := by
  rw [evaluateOutboundPolicy, Prog.run_bind, run_routeOutboundRecipients, Prog.andThen_ok]
  generalize s.route env recipients = routed
  by_cases hdomains : routed.recipientDomains.isEmpty = true
  · rw [if_pos hdomains, Db.policyRefusal, if_pos hdomains]
    exact ⟨_, s, rfl, rfl⟩
  · rw [if_neg hdomains]
    rcases hrouting : getOutboundRecipientRoutingValidationError routed with _ | message
    · dsimp only
      by_cases hexternal : routed.externalRecipientCount = 0
      · rw [if_pos hexternal, Db.policyRefusal, if_neg hdomains, hrouting, if_neg (by simp),
          if_pos hexternal]
        exact ⟨_, s, rfl, rfl⟩
      · rw [if_neg hexternal]
        exact run_evaluateExternalPolicy (by simpa using hdomains) (by rw [hrouting]; rfl) hexternal
    · rw [Db.policyRefusal, if_neg hdomains, hrouting, if_pos Option.isSome_some]
      exact ⟨_, s, rfl, rfl⟩

/-- The refusal of a run. -/
theorem refusal_of_run {recipients : Recipients} {d : PolicyDecision} {s' : Db}
    (hrun : (evaluateOutboundPolicy env tenantId agentId recipients excludeDraftR2Key).run s =
      (.ok d, s')) :
    d.refusal.map Prod.fst = s.policyRefusal env tenantId agentId (s.route env recipients) := by
  obtain ⟨d', s'', hrun', hd⟩ :=
    run_evaluateOutboundPolicy env s tenantId agentId recipients excludeDraftR2Key
  rw [hrun] at hrun'
  obtain rfl : d = d' := Except.ok.inj (Prod.mk.inj hrun').1
  exact hd

end Run

/-! ### When it allows a send -/

section Allowed

variable {env : Env} {s : Db} {tenantId agentId : String} {routed : RoutedRecipients}
  {excludeDraftR2Key : Option String}

theorem forbiddenDomains_isEmpty : (s.forbiddenDomains env tenantId agentId routed).isEmpty = true ↔
    ∀ domains, s.allowlist env tenantId agentId = some domains →
      ∀ domain ∈ routed.externalDomains, domain ∈ domains := by
  rw [Db.forbiddenDomains]
  rcases s.allowlist env tenantId agentId with _ | domains
  · simp
  · rw [List.isEmpty_iff, List.filter_eq_nil_iff]
    constructor
    · intro h domains' hdomains domain hdomain
      obtain rfl := Option.some.inj hdomains
      simpa using h domain hdomain
    · intro h domain hdomain
      simpa using h domains rfl domain hdomain

/-- Sending that is unlocked has no limits. -/
theorem sendLimits_unlocked (h : s.unlocked env tenantId = true) :
    s.sendLimits env tenantId = (none, none) := if_pos h

theorem mayWrite_of_unlocked (hdirect : 0 < routed.externalToRecipientCount)
    (hactive : (s.effectiveSendPolicy env tenantId).outboundStatus ≠ .suspended)
    (hunlocked : s.unlocked env tenantId = true)
    (hallowed : (s.forbiddenDomains env tenantId agentId routed).isEmpty = true) :
    s.MayWrite env tenantId agentId routed excludeDraftR2Key := by
  have hlimits := sendLimits_unlocked hunlocked
  refine ⟨hdirect, hactive, hunlocked, forbiddenDomains_isEmpty.1 hallowed, ?_, ?_⟩
  · intro since n hn
    rw [hlimits] at hn
    cases hn
  · intro since n hn
    rw [hlimits] at hn
    cases hn

theorem routing_isSome : (getOutboundRecipientRoutingValidationError routed).isSome = true ↔
    0 < routed.externalRecipientCount ∧ routed.externalToRecipientCount = 0 := by
  rw [getOutboundRecipientRoutingValidationError]
  split
  · next h => exact iff_of_true rfl h
  · next h => exact iff_of_false Bool.false_ne_true h

/-- There is no refusal exactly if all recipients are internal, or all conditions are met. -/
theorem policyRefusal_eq_none (excludeDraftR2Key : Option String) :
    s.policyRefusal env tenantId agentId routed = none ↔
    routed.recipientDomains ≠ [] ∧ (routed.externalRecipientCount = 0 ∨
      s.MayWrite env tenantId agentId routed excludeDraftR2Key) := by
  rw [Db.policyRefusal]
  by_cases hdomains : routed.recipientDomains = []
  · rw [if_pos (by simpa using hdomains)]
    exact iff_of_false (by simp) fun h => h.1 hdomains
  rw [if_neg (by simpa using hdomains)]
  by_cases hrouting : (getOutboundRecipientRoutingValidationError routed).isSome = true
  · rw [if_pos hrouting]
    obtain ⟨hexternal, hdirect⟩ := routing_isSome.1 hrouting
    refine iff_of_false (by simp) ?_
    rintro ⟨-, h | h⟩
    · omega
    · have hpos := h.direct
      omega
  rw [if_neg hrouting]
  by_cases hexternal : routed.externalRecipientCount = 0
  · rw [if_pos hexternal]
    exact iff_of_true rfl ⟨hdomains, .inl hexternal⟩
  have hdirect : 0 < routed.externalToRecipientCount := by
    by_contra h
    exact hrouting (routing_isSome.2 ⟨by omega, by omega⟩)
  rw [if_neg hexternal]
  by_cases hactive : (s.effectiveSendPolicy env tenantId).outboundStatus = .suspended
  · rw [if_pos hactive]
    refine iff_of_false (by simp) ?_
    rintro ⟨-, h | h⟩
    · exact hexternal h
    · exact h.active hactive
  rw [if_neg hactive]
  by_cases hunlocked : s.unlocked env tenantId = true
  · rw [if_neg (by simp [hunlocked])]
    by_cases hallowed : (s.forbiddenDomains env tenantId agentId routed).isEmpty = true
    · rw [if_neg (by simp [hallowed])]
      exact iff_of_true rfl ⟨hdomains, .inr (mayWrite_of_unlocked hdirect hactive hunlocked hallowed)⟩
    · rw [if_pos (by simpa using hallowed)]
      refine iff_of_false (by simp) ?_
      rintro ⟨-, h | h⟩
      · exact hexternal h
      · exact hallowed (forbiddenDomains_isEmpty.2 h.allowed)
  · rw [if_pos (by simpa using hunlocked)]
    refine iff_of_false (by simp) ?_
    rintro ⟨-, h | h⟩
    · exact hexternal h
    · exact hunlocked h.unlocked

end Allowed

/-! ### The decision table -/

/-- Some send is refused with that code. -/
def Refused (code : PolicyCode) : Prop :=
  ∃ env s tenantId agentId recipients excludeDraftR2Key d s',
    (evaluateOutboundPolicy env tenantId agentId recipients excludeDraftR2Key).run s = (.ok d, s') ∧
    d.refusal.map Prod.fst = some code

/-- A send that is refused with the code, if the database calls for that. -/
theorem refused_of_policyRefusal {code : PolicyCode} (env : Env) (s : Db)
    (tenantId agentId : String) (recipients : Recipients)
    (h : s.policyRefusal env tenantId agentId (s.route env recipients) = some code) :
    Refused code := by
  obtain ⟨d, s', hrun, hd⟩ := run_evaluateOutboundPolicy env s tenantId agentId recipients none
  exact ⟨env, s, tenantId, agentId, recipients, none, d, s', hrun, hd.trans h⟩

/-- A tenant with one credit, and an agent with a list of allowed domains. -/
def restrictedDb : Db where
  agents := [⟨"agt", "t", .active, none⟩]
  agentPolicies := [⟨"agt", true, false, 0, 1, ["ok"], [], []⟩]
  accounts := [⟨"t", .trial, .free, none, none, 1, 0, 0⟩]

/-- A tenant that is suspended. -/
def suspendedDb : Db where
  sendPolicies := [⟨"t", .free, .suspended, [], false, true, 0⟩]

/-- The database calls for no refusal because of a quota. -/
theorem policyRefusal_ne_quota {env : Env} {s : Db} {tenantId agentId : String}
    {routed : RoutedRecipients} {code : PolicyCode}
    (h : s.policyRefusal env tenantId agentId routed = some code) :
    code ≠ .dailyQuotaExceeded ∧ code ≠ .hourlyQuotaExceeded := by
  unfold Db.policyRefusal at h
  split at h
  · cases h
    simp
  split at h
  · cases h
    simp
  split at h
  · cases h
  split at h
  · cases h
    simp
  split at h
  · cases h
    simp
  split at h
  · cases h
    simp
  · cases h

/-- **The decision table of the outbound policy**: when a send is allowed, and with which codes
sends are refused. Every code but those of the quota is a code that some send is refused with. -/
theorem evaluateOutboundPolicy_decides (env : Env) (s : Db) (tenantId agentId : String)
    (recipients : Recipients) (excludeDraftR2Key : Option String) (code : PolicyCode) :
    (∃ d s', (evaluateOutboundPolicy env tenantId agentId recipients excludeDraftR2Key).run s =
        (.ok d, s') ∧
      (d.ok = true ↔ (s.route env recipients).recipientDomains ≠ [] ∧
        ((s.route env recipients).externalRecipientCount = 0 ∨
          s.MayWrite env tenantId agentId (s.route env recipients) excludeDraftR2Key))) ∧
    (Refused code ↔ code ≠ .dailyQuotaExceeded ∧ code ≠ .hourlyQuotaExceeded) := by
  constructor
  · obtain ⟨d, s', hrun, hd⟩ :=
      run_evaluateOutboundPolicy env s tenantId agentId recipients excludeDraftR2Key
    refine ⟨d, s', hrun, ?_⟩
    rw [← policyRefusal_eq_none excludeDraftR2Key, ← hd, PolicyDecision.ok, Option.isNone_iff_eq_none,
      Option.map_eq_none_iff]
  · constructor
    · rintro ⟨env, s, tenantId, agentId, recipients, excludeDraftR2Key, d, s', hrun, hcode⟩
      exact policyRefusal_ne_quota ((refusal_of_run hrun).symm.trans hcode)
    · rintro ⟨hdaily, hhourly⟩
      cases code with
      | accessMailboxDenied =>
        exact refused_of_policyRefusal Env.bare suspendedDb "t" "agt" ⟨["a@x"], [], []⟩
          (by decide +kernel)
      | invalidRecipientRouting =>
        exact refused_of_policyRefusal Env.bare {} "t" "agt" ⟨[], ["a@x"], []⟩ (by decide +kernel)
      | externalSendNotEnabled =>
        exact refused_of_policyRefusal Env.bare {} "t" "agt" ⟨["a@x"], [], []⟩ (by decide +kernel)
      | recipientDomainNotAllowed =>
        exact refused_of_policyRefusal Env.bare {} "t" "agt" ⟨[], [], []⟩ (by decide +kernel)
      | dailyQuotaExceeded => exact absurd rfl hdaily
      | hourlyQuotaExceeded => exact absurd rfl hhourly

/-- No send is refused for its daily quota. -/
theorem daily_quota_never_refuses : ¬ ∀ code, Refused code := by
  intro h
  obtain ⟨env, s, tenantId, agentId, recipients, excludeDraftR2Key, d, s', hrun, hcode⟩ :=
    h .dailyQuotaExceeded
  exact (policyRefusal_ne_quota ((refusal_of_run hrun).symm.trans hcode)).1 rfl

/-! ### Whom a restricted agent writes to -/

/-- The domain of an address is what follows its last `@`, if that is something. -/
structure DomainOf (address domain : String) : Prop where
  nonempty : domain ≠ ""
  noAt : '@' ∉ domain.toList
  after : ∃ front, address = front ++ "@" ++ domain

theorem exists_last_at {address : List Char} (h : '@' ∈ address) :
    ∃ front domain, address = front ++ '@' :: domain ∧ '@' ∉ domain := by
  obtain ⟨back, front, hsplit, hnone⟩ := List.eq_append_cons_of_mem (List.mem_reverse.2 h)
  refine ⟨front.reverse, back.reverse, ?_, by simpa using hnone⟩
  rw [← List.reverse_reverse address, hsplit]
  simp

/-- What follows the last `@` is read from the end. -/
theorem takeWhile_reverse_at {front domain : List Char} (h : '@' ∉ domain) :
    ((front ++ '@' :: domain).reverse.takeWhile (· ≠ '@')).reverse = domain := by
  have hall : ∀ c ∈ domain.reverse, decide (c ≠ '@') = true := fun c hc =>
    decide_eq_true fun heq => h (heq ▸ List.mem_reverse.1 hc)
  rw [List.reverse_append, List.reverse_cons, List.append_assoc, List.takeWhile_append_of_pos hall]
  simp

theorem recipientDomain_eq_some {address domain : String} :
    recipientDomain address = some domain ↔ DomainOf address domain := by
  constructor
  · intro h
    simp only [recipientDomain, List.contains_iff_mem] at h
    split at h
    · next hat =>
      split at h
      · next htruthy =>
        obtain rfl := Option.some.inj h
        obtain ⟨front, domain, haddress, hnone⟩ := exists_last_at hat
        rw [haddress, takeWhile_reverse_at hnone] at htruthy ⊢
        refine ⟨by simpa [truthy] using htruthy, by simpa using hnone, String.ofList front,
          String.toList_injective ?_⟩
        rw [haddress]
        simp
      · cases h
    · cases h
  · rintro ⟨hne, hnone, front, rfl⟩
    have hlist : (front ++ "@" ++ domain).toList = front.toList ++ '@' :: domain.toList := by simp
    simp only [recipientDomain, hlist]
    rw [takeWhile_reverse_at hnone, String.ofList_toList, if_pos (by simp), if_pos]
    simpa [truthy] using hne

/-- An address has a domain where it contains an `@` and does not end in one. -/
theorem exists_domainOf {address : String} : (∃ domain, DomainOf address domain) ↔
    '@' ∈ address.toList ∧ address.toList.getLast? ≠ some '@' := by
  constructor
  · rintro ⟨domain, hne, hnone, front, rfl⟩
    have hdomain : domain.toList ≠ [] := fun h => hne (String.toList_injective h)
    refine ⟨by simp, fun hlast => hnone ?_⟩
    rw [String.toList_append, List.getLast?_append_of_ne_nil _ hdomain] at hlast
    exact List.mem_of_getLast? hlast
  · rintro ⟨hat, hlast⟩
    obtain ⟨front, domain, haddress, hnone⟩ := exists_last_at hat
    refine ⟨String.ofList domain, fun hempty => hlast ?_, by simpa using hnone,
      String.ofList front, String.toList_injective ?_⟩
    · have hnil : domain = [] := by simpa using congrArg String.toList hempty
      rw [haddress, hnil]
      simp
    · rw [haddress]
      simp

theorem mem_externalDomains {routed : RoutedRecipients} {domain : String} :
    domain ∈ routed.externalDomains ↔
      ∃ address ∈ routed.externalAddresses, DomainOf address domain := by
  simp [RoutedRecipients.externalDomains, uniqueDomains, List.mem_eraseDups, List.mem_filterMap,
    recipientDomain_eq_some]

/-- A send that is allowed, if the database calls for no refusal. -/
theorem exists_allowed {env : Env} {s : Db} {tenantId agentId : String} {recipients : Recipients}
    (h : s.policyRefusal env tenantId agentId (s.route env recipients) = none) :
    ∃ d s', (evaluateOutboundPolicy env tenantId agentId recipients none).run s = (.ok d, s') ∧
      d.ok = true := by
  obtain ⟨d, s', hrun, hd⟩ := run_evaluateOutboundPolicy env s tenantId agentId recipients none
  rw [h, Option.map_eq_none_iff] at hd
  exact ⟨d, s', hrun, by rw [PolicyDecision.ok, hd]; rfl⟩

end MailRuntime
