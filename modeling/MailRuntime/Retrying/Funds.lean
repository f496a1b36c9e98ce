import MailRuntime.Billing.Tables
import MailRuntime.Routes.OutboundRetry

/-!
# What a retry does to credits before it reserves any

The balances of all tenants, and that no statement of a retry moves one until credits are
reserved: an account may be opened on the way, without credits.
-/

namespace MailRuntime

open Js Interaction

/-- The available credits of a tenant. -/
def Db.availableCredits (s : Db) (tenantId : String) : Int :=
  ((s.account tenantId).map BillingAccountRow.availableCredits).getD 0

/-- The reserved credits of a tenant. -/
def Db.reservedCredits (s : Db) (tenantId : String) : Int :=
  ((s.account tenantId).map BillingAccountRow.reservedCredits).getD 0

/-- The primary key of the accounts. -/
def Db.AccountsKeyed (s : Db) : Prop := s.accounts.Pairwise fun a b => a.tenantId ≠ b.tenantId

/-- No balance differs, and the accounts are keyed if they were. -/
structure Db.SameFunds (s s' : Db) : Prop where
  keyed : s.AccountsKeyed → s'.AccountsKeyed
  available : ∀ tenantId, s'.availableCredits tenantId = s.availableCredits tenantId
  reserved : ∀ tenantId, s'.reservedCredits tenantId = s.reservedCredits tenantId

theorem Db.SameFunds.of_accounts {s s' : Db} (h : s'.accounts = s.accounts) : s.SameFunds s' := by
  refine ⟨fun hkeyed => ?_, fun tenantId => ?_, fun tenantId => ?_⟩
  · rwa [AccountsKeyed, h]
  · rw [availableCredits, availableCredits, account, account, h]
  · rw [reservedCredits, reservedCredits, account, account, h]

theorem Db.SameFunds.refl (s : Db) : s.SameFunds s := .of_accounts rfl

theorem Db.SameFunds.trans {s s' s'' : Db} (h : s.SameFunds s') (h' : s'.SameFunds s'') :
    s.SameFunds s'' :=
  ⟨fun hs => h'.keyed (h.keyed hs), fun t => (h'.available t).trans (h.available t),
    fun t => (h'.reserved t).trans (h.reserved t)⟩

/-- A new account without credits. -/
theorem Db.SameFunds.openAccount {s : Db} {row : BillingAccountRow}
    (hnone : s.account row.tenantId = none) (havailable : row.availableCredits = 0)
    (hreserved : row.reservedCredits = 0) : s.SameFunds { s with accounts := s.accounts ++ [row] } := by
  have haccount : ∀ t, Db.account { s with accounts := s.accounts ++ [row] } t =
      (s.account t).or (if row.tenantId = t then some row else none) := by
    intro t
    simp only [Db.account, List.find?_append, List.find?_singleton, beq_iff_eq]
  refine ⟨fun hkeyed => ?_, fun t => ?_, fun t => ?_⟩
  · refine List.pairwise_append.2 ⟨hkeyed, List.pairwise_singleton _ _, fun a ha b hb => ?_⟩
    obtain rfl := List.mem_singleton.1 hb
    intro hab
    have := List.find?_eq_none.1 hnone a ha
    simp [hab] at this
  · rw [availableCredits, haccount, availableCredits]
    by_cases ht : row.tenantId = t
    · subst ht
      simp [hnone, havailable]
    · simp [ht]
  · rw [reservedCredits, haccount, reservedCredits]
    by_cases ht : row.tenantId = t
    · subst ht
      simp [hnone, hreserved]
    · simp [ht]

/-! ### Programs that move no credits -/

/-- The statement is about a balance. -/
def Label.movesCredits : Label → Bool
  | reserveCredits _ _ _ | releaseCredits _ _ _ | captureCredits _ _ | setAvailable _ => true
  | _ => false

theorem Label.movesCredits_of_table {l : Label} (haccounts : l.table ≠ some .accounts)
    (hledger : l.table ≠ some .ledger) : l.movesCredits = false := by
  cases l <;> first | rfl | exact absurd rfl haccounts | exact absurd rfl hledger

/-- A statement of the checks: it moves no credits, and writes no table but, where there is no
row yet, those of the policies and the accounts. -/
structure Checks (name : Db → Label) (run : Db → Db) : Prop where
  within : Within [.sendPolicies, .accounts] name run
  funds : ∀ s : Db, s.SameFunds (run s)
  moves : ∀ s, (name s).movesCredits = false

/-- A program all of whose statements are such. -/
def Prepares {α : Type} (p : Op α) : Prop := p.Each Draws Checks

variable {α β : Type} {env : Env}

theorem Prepares.bind {p : Op α} {f : α → Op β} (hp : Prepares p) (hf : ∀ a, Prepares (f a)) :
    Prepares (p >>= f) := Prog.Each.bind hp hf

@[simp] theorem prepares_ret (a : α) : Prepares (.ret a : Op α) := trivial

@[simp] theorem prepares_throw (e : Exn) : Prepares (.throw e : Op α) := trivial

/-- What touches neither accounts nor ledger moves no credits. -/
theorem prepares_of_touches {p : Op α} (hp : Touches [.sendPolicies] p) : Prepares p := by
  have hmem : ∀ t : Table, t ∈ [Table.sendPolicies] → t ∈ [Table.sendPolicies, .accounts] := by
    simp
  refine Prog.Each.mono hp (fun _ h => h) fun name run h => ⟨fun s => ⟨fun t ht => ?_, fun t ht => ?_⟩,
    fun s => ?_, fun s => ?_⟩
  · exact (h s).1 t fun ht' => ht (hmem t ht')
  · exact hmem t ((h s).2 t ht)
  · exact .of_accounts ((h s).1 .accounts (by simp)).symm
  · refine Label.movesCredits_of_table (fun ht => ?_) fun ht => ?_
    · simpa using (h s).2 _ ht
    · simpa using (h s).2 _ ht

theorem prepares_reads {p : Op α} (hp : Touches [] p) : Prepares p :=
  prepares_of_touches (hp.mono (by simp))

theorem prepares_ensureTenantBillingAccount {tenantId : String} :
    Prepares (ensureTenantBillingAccount env tenantId) := by
  refine .bind (prepares_reads touches_getTenantBillingAccount) fun existing => ?_
  cases existing with
  | some _ => trivial
  | none =>
    refine .bind (prepares_reads touches_nowIso) fun updatedAt =>
      .bind (Prog.each_perform.2 ⟨fun s => ⟨fun t ht => ?_, fun t ht => ?_⟩, fun s => ?_,
        fun _ => rfl⟩) fun _ => .bind (prepares_reads touches_getTenantBillingAccount) fun _ =>
        prepares_reads touches_requireRow
    · split
      · exact Table.Same.rfl
      · exact Table.same_accounts fun h => ht (h ▸ by simp)
    · obtain rfl := Option.some.inj ht
      simp
    · split
      · exact .refl s
      · next h => exact .openAccount (Option.not_isSome_iff_eq_none.1 h) rfl rfl

theorem prepares_evaluateExternalPolicy {tenantId agentId : String} {routed : RoutedRecipients}
    {excludeDraftR2Key : Option String} :
    Prepares (evaluateExternalPolicy env tenantId agentId routed excludeDraftR2Key) := by
  refine .bind (prepares_of_touches touches_ensureTenantSendPolicy) fun tenantPolicy =>
    .bind prepares_ensureTenantBillingAccount fun account => ?_
  dsimp only
  split
  · trivial
  · split
    · trivial
    · refine .bind (prepares_reads touches_getAgentPolicy) fun agentPolicy => ?_
      split
      · trivial
      · refine .bind (prepares_reads touches_checkQuota) fun refusal => ?_
        split <;> trivial

theorem prepares_evaluateOutboundPolicy {tenantId agentId : String} {recipients : Recipients}
    {excludeDraftR2Key : Option String} :
    Prepares (evaluateOutboundPolicy env tenantId agentId recipients excludeDraftR2Key) := by
  refine .bind (prepares_reads touches_routeOutboundRecipients) fun routed => ?_
  split
  · trivial
  · split
    · trivial
    · split
      · trivial
      · exact prepares_evaluateExternalPolicy

theorem prepares_ensureDraftSendAllowed {draft : DraftRow} :
    Prepares (ensureDraftSendAllowed env draft) :=
  .bind (prepares_reads touches_validateActiveDraftMailbox) fun _ =>
    .bind (prepares_reads touches_validateSendAgentBinding) fun _ =>
    .bind (prepares_reads touches_validateDraftReferences) fun _ =>
    .bind (prepares_reads touches_validateStoredDraftPayload) fun _ =>
    .bind prepares_evaluateOutboundPolicy fun _ => prepares_reads touches_refuseByPolicy

theorem prepares_checkOutboundCreditRequirement {tenantId : String} {recipients : Recipients}
    {sourceMessageId createdVia : Option String} :
    Prepares (checkOutboundCreditRequirement env tenantId recipients sourceMessageId createdVia) := by
  refine .bind (prepares_reads touches_getOutboundCreditRequirement) fun requirement => ?_
  split
  · exact .bind prepares_ensureTenantBillingAccount fun _ => trivial
  · trivial

end MailRuntime
