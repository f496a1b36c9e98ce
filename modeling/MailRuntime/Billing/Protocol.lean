import MailRuntime.Billing.Consistent
import MailRuntime.Interaction.RelyGuarantee
import MailRuntime.Outbound.Billing
import MailRuntime.Routes.Payments
import Mathlib.Data.Fintype.Basic

/-!
# The billing protocol

The settlements, reservations, releases and payment requests that run on one database,
and what they keep to among each other. The invariant says that the tables keep their
keys, that every row of the ledger is the debit of a settlement or the credit of a
receipt, and, under the two conditions below, that accounts are balanced where nobody
owes a reconciliation and that receipts and ledger agree.

A run may be held to two conditions. `ReconcilesAlone`: no row enters a tenant's ledger
while another thread is between reading its sum and setting the account from it.
`ActsOnCurrent`: a thread writes a receipt only if no other thread has written it since
this one last read it.
-/

namespace MailRuntime

open Js X402 Interaction

/-! ### Calls -/

/-- The calls that change accounts, ledger or receipts. -/
inductive Call where
  | settle (input : UsageInput)
  | reserve (tenantId : String) (credits : Int)
  | release (tenantId : String) (sourceMessageId draftCreatedVia : Option String)
      (recipients : Recipients)
  | topup (request : ProofRequest) (credits : Option Json)
  | upgradeIntent (request : ProofRequest) (targetPricingTier : Option Json)
  | confirm (tenantId : String) (receiptId : Option String) (manual : Bool)

/-- What a call answers. -/
inductive Answer where
  | done
  | account (account : Option BillingAccountRow)
  | response (response : PaymentResponse)

/-- The program of a call. -/
def Call.prog (env : Env) : Call → Op Answer
  | settle input => (fun _ => .done) <$> settleOutboundUsageDebit env input
  | reserve tenantId credits => .account <$> reserveTenantAvailableCredits env tenantId credits
  | release tenantId sourceMessageId draftCreatedVia recipients =>
    (fun _ => .done) <$>
      releaseOutboundUsageReservation env tenantId sourceMessageId draftCreatedVia recipients
  | topup request credits => .response <$> MailRuntime.topup env request credits
  | upgradeIntent request tier => .response <$> MailRuntime.upgradeIntent env request tier
  | confirm tenantId receiptId manual =>
    .response <$> confirmPayment env tenantId receiptId manual

/-- The calls at the start, none of which has taken a step. -/
def startCalls {ι : Type} (env : Env) (calls : ι → Call) (s : Db) :
    Config ι Db Label Exn Answer := ⟨⟨s, []⟩, fun i => (calls i).prog env⟩

/-! ### What the trace says -/

/-- After this statement the tenant's ledger has to be reconciled, or is. -/
def Label.owes (tenantId : String) : Label → Option Bool
  | insertLedger t n | captureCredits t n => if t = tenantId ∧ 0 < n then some true else none
  | setAvailable t => if t = tenantId then some false else none
  | _ => none

/-- With this statement a reconciliation has read the sum, or has set the account. -/
def Label.opens (tenantId : String) : Label → Option Bool
  | sumLedger t => if t = tenantId then some true else none
  | setAvailable t => if t = tenantId then some false else none
  | _ => none

variable {ι : Type} [DecidableEq ι]

/-- The thread has changed the books of a tenant and not reconciled them since. -/
def owing (tenantId : String) (i : ι) (trace : List (Event ι Label)) : Bool :=
  latest (fun e => if e.thread = i then e.label.owes tenantId else none) trace

/-- The thread has read the sum of a tenant's ledger and not set the account since. -/
def reconciling (tenantId : String) (i : ι) (trace : List (Event ι Label)) : Bool :=
  latest (fun e => if e.thread = i then e.label.opens tenantId else none) trace

/-- What the event says of `i`'s view of the receipt: that it is current, or no longer. -/
def viewOf (i : ι) (receiptId : String) (e : Event ι Label) : Option Bool :=
  match e.label with
  | .loadReceipt rid =>
    if rid = receiptId ∧ e.thread = i ∧ e.outcome = .done then some true else none
  | .writeReceipt rid _ n =>
    if rid = receiptId ∧ e.thread ≠ i ∧ e.outcome.effective = true ∧ 0 < n then some false
    else none
  | _ => none

/-- The thread has read the receipt, and no other thread has written it since. -/
def undisturbed (i : ι) (receiptId : String) (trace : List (Event ι Label)) : Bool :=
  latest (viewOf i receiptId) trace

/-! ### The two conditions -/

/-- Nothing fails, and no row enters a ledger while another thread reconciles it. -/
def ReconcilesAlone (i : ι) (w : World ι Db Label) (l : Label) (o : Outcome) : Prop :=
  o = .done ∧ match l with
    | .insertLedger t n => n = 0 ∨ ∀ j, j ≠ i → reconciling t j w.trace = false
    | _ => True

/-- A receipt is written by a thread whose view of it is current. -/
def ActsOnCurrent (i : ι) (w : World ι Db Label) (l : Label) (_ : Outcome) : Prop :=
  match l with
  | .writeReceipt rid _ n => n = 0 ∨ undisturbed i rid w.trace = true
  | _ => True

instance [Fintype ι] (i : ι) (w : World ι Db Label) (l : Label) (o : Outcome) :
    Decidable (ReconcilesAlone i w l o) := by
  unfold ReconcilesAlone
  cases l <;> infer_instance

instance (i : ι) (w : World ι Db Label) (l : Label) (o : Outcome) :
    Decidable (ActsOnCurrent i w l o) := by
  unfold ActsOnCurrent
  cases l <;> infer_instance

/-- The facilitator, which is not the mock, settles with a reference that is a function of
the payload. -/
def SettlesBy (env : Env) (reference : Json → String) : Prop :=
  isLocalMockUrl env.X402_FACILITATOR_URL = false ∧
    ∀ config, getX402FacilitatorConfig env = some config →
      ∀ n payload requirements key status body,
        env.fetchFacilitator n config.settleUrl (requestBody payload requirements key) =
          some (status, body) →
        let response := (normalizeSettlementResponse requirements status
          (parseFacilitatorResponse body)).response
        response.settled = true → response.settlementReference = some (reference payload)

/-! ### The protocol -/

/-- The calls, the database they start on, and what is assumed of their run. -/
structure Setting (ι : Type) where
  env : Env
  calls : ι → Call
  start : Db
  /-- The run reconciles alone. -/
  alone : Prop
  /-- The run acts on current receipts. -/
  current : Prop
  /-- The facilitator's settlement reference, where it is a function of the payload. -/
  reference : Option (Json → String)
  settles : ∀ f, reference = some f → SettlesBy env f

/-- The ledger's entry type and credits for a purchase. -/
def Purchase.entry : Purchase → EntryType × Int
  | topup credits => (.topup, credits)
  | upgrade credits => (.adjustment, credits)

/-- The requirement that a settlement computes for its send. -/
def UsageInput.requirement (env : Env) (s : Db) (input : UsageInput) : CreditRequirement :=
  creditRequirement env (s.route env input.recipients) input.sourceMessageId
    input.draftCreatedVia

/-- The entry is the debit of a settlement. -/
structure IsDebit (env : Env) (s : Db) (input : UsageInput) (e : CreditLedgerRow) : Prop where
  tenant : e.tenantId = input.tenantId
  reference : e.referenceId = some input.outboundJobId
  receipt : e.paymentReceiptId = none
  entryType : e.entryType = usageEntryType (input.requirement env s).reply
  credits : e.creditsDelta = -(input.requirement env s).creditsRequired

/-- The entry is the credit of a receipt that is there. -/
def IsCredit (s : Db) (e : CreditLedgerRow) : Prop :=
  ∃ rid receiptType purchase, e.paymentReceiptId = some rid ∧
    s.terms e.tenantId rid = some (receiptType, purchase) ∧
    (e.entryType, e.creditsDelta) = purchase.entry

/-- What no billing call ever takes back. -/
structure Grows (current : Prop) (s s' : Db) : Prop where
  accounts : ∀ t, (s.account t).isSome → (s'.account t).isSome
  sendPolicies : ∀ t, (s.sendPolicies.any fun p => p.tenantId == t) = true →
    (s'.sendPolicies.any fun p => p.tenantId == t) = true
  agentPolicies : ∀ a, (s.agentPolicy a).isSome → (s'.agentPolicy a).isSome
  ledger : s.ledger ⊆ s'.ledger
  terms : ∀ t rid x, s.terms t rid = some x → s'.terms t rid = some x
  settling : current → ∀ t rid, s.Settling t rid → s'.Settling t rid

theorem Grows.refl (current : Prop) (s : Db) : Grows current s s :=
  ⟨fun _ h => h, fun _ h => h, fun _ h => h, List.Subset.refl _, fun _ _ _ h => h,
    fun _ _ _ h => h⟩

theorem Grows.trans {current : Prop} {s s' s'' : Db} (h : Grows current s s')
    (h' : Grows current s' s'') : Grows current s s'' :=
  ⟨fun t ht => h'.accounts t (h.accounts t ht), fun t ht => h'.sendPolicies t (h.sendPolicies t ht),
    fun a ha => h'.agentPolicies a (h.agentPolicies a ha), List.Subset.trans h.ledger h'.ledger,
    fun t rid x hx => h'.terms t rid x (h.terms t rid x hx),
    fun hc t rid hs => h'.settling hc t rid (h.settling hc t rid hs)⟩

/-- The receipt was settled at the start, or has been marked settled since. -/
def SettledBefore (start : Db) (receiptId : String) (trace : List (Event ι Label)) : Prop :=
  (∃ r ∈ start.receipts, r.id = receiptId ∧ r.status = .settled) ∨
    ∃ e ∈ trace, e.outcome.effective = true ∧
      ∃ n, 0 < n ∧ e.label = .writeReceipt receiptId .settled n

namespace Setting

variable (S : Setting ι)

/-- The invariant of the billing calls. -/
structure Inv (w : World ι Db Label) : Prop where
  mailboxes : w.store.mailboxes = S.start.mailboxes
  agents : w.store.agents = S.start.agents
  keyed : w.store.Keyed
  justified : ∀ e ∈ w.store.ledger, e ∈ S.start.ledger ∨
    (∃ i input, S.calls i = .settle input ∧ IsDebit S.env S.start input e) ∨ IsCredit w.store e
  balanced : S.alone → ∀ t, S.start.Balanced t → (∀ i, owing t i w.trace = false) →
    w.store.Balanced t
  consistent : S.current → w.store.Consistent S.reference
  settled : S.current → ∀ rid, SettledBefore S.start rid w.trace →
    ∃ r ∈ w.store.receipts, r.id = rid ∧ r.status = .settled

/-- What a thread relies on the others to do: they leave its books alone, and they do not
write a receipt behind its back. -/
structure Rely (i : ι) (w w' : World ι Db Label) : Prop where
  owing : ∀ t, owing t i w'.trace = owing t i w.trace
  reconciling : ∀ t, reconciling t i w'.trace = reconciling t i w.trace
  ledgerSum : S.alone → ∀ t, MailRuntime.reconciling t i w.trace = true →
    w'.store.ledgerSum t = w.store.ledgerSum t
  undisturbed : ∀ rid, undisturbed i rid w'.trace = true → undisturbed i rid w.trace = true
  receipt : ∀ t rid r, MailRuntime.undisturbed i rid w'.trace = true →
    w.store.receipt t rid = some r → w'.store.receipt t rid = some r

/-- What the run is held to. -/
def Allow (i : ι) (w : World ι Db Label) (l : Label) (o : Outcome) : Prop :=
  (S.alone → ReconcilesAlone i w l o) ∧ (S.current → ActsOnCurrent i w l o)

/-- The protocol of the billing calls. -/
def protocol : Protocol ι Db Label where
  inv := S.Inv
  keeps w w' := Grows S.current w.store w'.store
  rely := S.Rely
  allow := S.Allow
  keeps_refl _ := Grows.refl _ _
  keeps_trans _ _ _ h h' := h.trans h'
  rely_refl _ _ :=
    ⟨fun _ => rfl, fun _ => rfl, fun _ _ _ => rfl, fun _ h => h, fun _ _ _ _ h => h⟩
  rely_trans _ _ _ _ h h' :=
    ⟨fun t => (h'.owing t).trans (h.owing t), fun t => (h'.reconciling t).trans (h.reconciling t),
      fun ha t ht => (h'.ledgerSum ha t ((h.reconciling t).trans ht)).trans (h.ledgerSum ha t ht),
      fun rid hu => h.undisturbed rid (h'.undisturbed rid hu),
      fun t rid r hu hr => h'.receipt t rid r hu (h.receipt t rid r (h'.undisturbed rid hu) hr)⟩

end Setting

end MailRuntime
