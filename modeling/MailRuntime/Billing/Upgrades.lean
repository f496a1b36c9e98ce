import MailRuntime.Billing.Confirmations

/-!
# The policies that an upgrade changes

Between the credits of an upgrade and the reconciliation of the account stand the tier,
the send policy and the agents' policies. Nothing there throws unless a statement fails:
every row that is required was there or has just been written, and no billing call takes
one away.
-/

namespace MailRuntime

open Js X402 Interaction

/-! ### Upserts -/

section Upsert

variable {α : Type} {rows : List α} (key : α → String) (row : α) {k own : String}

/-- A key that is there stays there. -/
theorem any_upsert_of_any (hown : key row = own)
    (h : (rows.any fun r => key r == k) = true) :
    ((upsert rows (fun r => key r == own) row).any fun r => key r == k) = true := by
  rw [List.any_eq_true] at h ⊢
  obtain ⟨r, hr, hk⟩ := h
  rw [upsert]
  split
  · refine ⟨if (key r == own) = true then row else r, List.mem_map.2 ⟨r, hr, rfl⟩, ?_⟩
    split
    · next hkey =>
      rw [beq_iff_eq] at hkey hk ⊢
      exact hown.trans (hkey.symm.trans hk)
    · exact hk
  · exact ⟨r, List.mem_append_left _ hr, hk⟩

/-- The key of the row is there. -/
theorem any_upsert_self (hown : key row = own) :
    ((upsert rows (fun r => key r == own) row).any fun r => key r == own) = true := by
  rw [upsert]
  split
  · next hany =>
    rw [List.any_eq_true] at hany ⊢
    obtain ⟨r, hr, hk⟩ := hany
    exact ⟨row, List.mem_map.2 ⟨r, hr, if_pos hk⟩, beq_iff_eq.2 hown⟩
  · simp [hown]

end Upsert

theorem Db.isSome_sendPolicy {s : Db} {env : Env} {t : String} :
    (s.sendPolicy env t).isSome = s.sendPolicies.any fun p => p.tenantId == t := by
  rw [Db.sendPolicy, Option.isSome_map, List.isSome_find?]

theorem Db.isSome_agentPolicy {s : Db} {agentId : String} :
    (s.agentPolicy agentId).isSome ↔ (s.agentPolicies.any fun p => p.agentId == agentId) = true ∧
      (s.agents.any fun a => a.id == agentId) = true := by
  rw [Db.agentPolicy, List.find?_isSome, List.any_eq_true]
  constructor
  · rintro ⟨p, hp, hkey⟩
    rw [Bool.and_eq_true, beq_iff_eq] at hkey
    exact ⟨⟨p, hp, by simp [hkey.1]⟩, hkey.1 ▸ hkey.2⟩
  · rintro ⟨⟨p, hp, hkey⟩, hagent⟩
    refine ⟨p, hp, ?_⟩
    rw [beq_iff_eq] at hkey
    rw [hkey, hagent]
    simp

namespace Setting

variable {ι : Type} [DecidableEq ι] {S : Setting ι} {i : ι} {w : World ι Db Label}
  {env : Env} {t : String}

/-! ### The tenant's policy -/

/-- A change of the send policies that takes none away is calm. -/
theorem Calm.sendPolicies {rows : List SendPolicyRow} (hw : S.Inv w)
    (h : ∀ t, (w.store.sendPolicies.any fun p => p.tenantId == t) = true →
      (rows.any fun p => p.tenantId == t) = true) :
    S.Calm w { w.store with sendPolicies := rows } :=
  Calm.of_same hw rfl rfl rfl rfl rfl h fun _ h => h

/-- A policy that is there is read back. -/
theorem safe_requireSendPolicy {message : String} (hw : S.Inv w)
    (h : (w.store.sendPolicies.any fun p => p.tenantId == t) = true) :
    S.protocol.Safe i (fun _ _ => True) (fun _ _ => ¬S.alone)
      (getTenantSendPolicy env t >>= fun row => requireRow row message) w := by
  refine safe_read rfl hw (fun w₁ h₁ => ?_) fun ha _ _ => ha
  have hsome : (w.store.sendPolicy env t).isSome = true := Db.isSome_sendPolicy.trans h
  obtain ⟨r, hr⟩ := Option.isSome_iff_exists.1 hsome
  rw [hr]
  trivial

theorem safe_ensureTenantSendPolicy (hw : S.Inv w) :
    S.protocol.Safe i (fun _ _ => True) (fun _ _ => ¬S.alone) (ensureTenantSendPolicy env t)
      w := by
  refine safe_read rfl hw (fun w₁ h₁ => ?_) fun ha _ _ => ha
  cases w.store.sendPolicy env t with
  | some existing => trivial
  | none =>
    refine safe_nowIso h₁.inv fun updatedAt w₂ h₂ => ?_
    refine safe_write (fun _ => rfl) h₂.inv ?_ (fun w₃ h₃ _ => ?_) fun ha _ _ => ha
    · split
      · exact Calm.refl h₂.inv
      · refine Calm.sendPolicies h₂.inv fun t' ht' => ?_
        rw [List.any_append, ht', Bool.true_or]
    · refine safe_requireSendPolicy h₃.inv (h₃.keeps.sendPolicies t ?_)
      split
      · assumption
      · simp

theorem safe_upsertTenantSendPolicy {pricingTier : PricingTier} {outboundStatus : OutboundStatus}
    {domains : List String} {enabled review : Bool} (hw : S.Inv w) :
    S.protocol.Safe i (fun _ _ => True) (fun _ _ => ¬S.alone)
      (upsertTenantSendPolicy env t pricingTier outboundStatus domains enabled review) w := by
  refine safe_nowIso hw fun updatedAt w₁ h₁ => ?_
  refine safe_write (fun _ => rfl) h₁.inv (Calm.sendPolicies h₁.inv fun t' ht' => ?_)
    (fun w₂ h₂ _ => ?_) fun ha _ _ => ha
  · exact any_upsert_of_any SendPolicyRow.tenantId _ rfl ht'
  · exact safe_requireSendPolicy h₂.inv
      (h₂.keeps.sendPolicies t (any_upsert_self SendPolicyRow.tenantId _ rfl))

/-! ### The agents' policies -/

/-- The agent is there, and no billing call takes it away. -/
theorem agent_isSome {a : AgentRow} (hw : S.Inv w) (ha : a ∈ S.start.agents) :
    (w.store.agent a.id).isSome := by
  rw [Db.agent, hw.agents, List.find?_isSome]
  exact ⟨a, ha, by simp⟩

theorem safe_upsertAgentPolicy {policy : AgentPolicyRow} {a : AgentRow} (hw : S.Inv w)
    (ha : a ∈ S.start.agents) (hid : policy.agentId = a.id) :
    S.protocol.Safe i (fun _ _ => True) (fun _ _ => ¬S.alone) (upsertAgentPolicy env policy) w := by
  refine safe_nowIso hw fun updatedAt w₁ h₁ => ?_
  have hagents : (w₁.store.agents.any fun b => b.id == policy.agentId) = true := by
    rw [h₁.inv.agents, List.any_eq_true]
    exact ⟨a, ha, by simp [hid]⟩
  have hcalm : S.Calm w₁ { w₁.store with
      agentPolicies := upsert w₁.store.agentPolicies (fun p => p.agentId == policy.agentId)
        policy } := by
    refine Calm.of_same h₁.inv rfl rfl rfl rfl rfl (fun _ h => h) fun agentId h => ?_
    rw [Db.isSome_agentPolicy] at h ⊢
    exact ⟨any_upsert_of_any AgentPolicyRow.agentId _ rfl h.1, h.2⟩
  refine safe_write (fun _ => rfl) h₁.inv hcalm (fun w₂ h₂ _ => ?_) fun ha _ _ => ha
  have hpolicy : (w₂.store.agentPolicy policy.agentId).isSome := by
    refine h₂.keeps.agentPolicies _ (Db.isSome_agentPolicy.2 ⟨?_, hagents⟩)
    exact any_upsert_self AgentPolicyRow.agentId _ rfl
  refine safe_read rfl h₂.inv (fun w₃ h₃ => ?_) fun ha _ _ => ha
  obtain ⟨b, hb⟩ := Option.isSome_iff_exists.1 (agent_isSome h₂.inv ha)
  rw [hid, hb]
  refine safe_read rfl h₃.inv (fun w₄ _ => ?_) fun ha _ _ => ha
  obtain ⟨p, hp⟩ := Option.isSome_iff_exists.1 (h₃.keeps.agentPolicies _ hpolicy)
  rw [← hid, hp]
  trivial

theorem safe_relaxAgentPolicies {domains : List String} (agents : List AgentRow) (hw : S.Inv w)
    (hagents : ∀ a ∈ agents, a ∈ S.start.agents) :
    S.protocol.Safe i (fun _ _ => True) (fun _ _ => ¬S.alone)
      (relaxAgentPolicies env domains agents) w := by
  induction agents generalizing w with
  | nil => trivial
  | cons a rest ih =>
    have hone : S.protocol.Safe i (fun _ _ => True) (fun _ _ => ¬S.alone)
        (relaxAgentPolicy env domains a) w := by
      refine safe_read rfl hw (fun w₁ h₁ => ?_) fun ha _ _ => ha
      cases hpolicy : w.store.agentPolicy a.id with
      | none => trivial
      | some policy =>
        have hid := List.find?_some hpolicy
        rw [Bool.and_eq_true, beq_iff_eq] at hid
        simp only
        split
        · exact Protocol.Safe.bind h₁.inv (safe_upsertAgentPolicy h₁.inv
            (hagents a List.mem_cons_self) hid.1) (fun _ _ _ _ => trivial) fun _ _ _ h => h
        · trivial
    refine Protocol.Safe.bind hw hone (fun _ w₁ hw₁ _ => ?_) fun _ _ _ h => h
    exact Protocol.Safe.bind hw₁ (ih hw₁ fun b hb => hagents b (List.mem_cons_of_mem _ hb))
      (fun _ _ _ _ => trivial) fun _ _ _ h => h

/-- What an upgrade changes besides the credits throws only if a statement fails. -/
theorem safe_applyUpgrade {receipt : TypedReceipt} (hw : S.Inv w) :
    S.protocol.Safe i (fun _ _ => True) (fun _ _ => ¬S.alone) (applyUpgrade env receipt) w := by
  refine Protocol.Safe.bind hw (safe_ensureTenantBillingAccount hw) (fun _ w₁ hw₁ _ => ?_)
    fun _ _ _ h => h
  refine Protocol.Safe.bind hw₁ (safe_updateTenantBillingAccountProfile hw₁)
    (fun _ w₂ hw₂ _ => ?_) fun _ _ _ h => h
  refine Protocol.Safe.bind hw₂ (safe_ensureTenantSendPolicy hw₂) (fun _ w₃ hw₃ _ => ?_)
    fun _ _ _ h => h
  refine Protocol.Safe.bind hw₃ (safe_upsertTenantSendPolicy hw₃) (fun policy w₄ hw₄ _ => ?_)
    fun _ _ _ h => h
  have hrelax : S.protocol.Safe i (fun _ _ => True) (fun _ _ => ¬S.alone)
      (relaxTenantDefaultAgentRecipientPoliciesForExternalSend env receipt.row.tenantId
        policy.internalDomainAllowlist) w₄ := by
    refine safe_read rfl hw₄ (fun w₅ h₅ => ?_) fun ha _ _ => ha
    refine safe_relaxAgentPolicies _ h₅.inv fun a ha => ?_
    rw [hw₄.agents] at ha
    exact (List.mem_filter.1 ha).1
  exact Protocol.Safe.bind hw₄ hrelax (fun _ _ _ _ => trivial) fun _ _ _ h => h

end Setting

end MailRuntime
