import MailRuntime.Payments.Metadata
import Mathlib.Algebra.Ring.Int.Defs

/-!
# The billing repository

`repositories/billing.ts`: the billing accounts, the credit ledger and the payment
receipts. Every SQL statement is one statement here. The unique indexes of the ledger
(`payment_receipt_id`, `reference_id`) and of the receipts (`payment_reference`,
`settlement_reference`, `payment_proof_fingerprint`) are over all tenants, and count only
values that are not null.
-/

namespace MailRuntime

open Js X402 Interaction

/-! ### Accounts -/

/-- The account of a tenant. -/
def Db.account (s : Db) (tenantId : String) : Option BillingAccountRow :=
  s.accounts.find? fun r => r.tenantId == tenantId

/-- `UPDATE tenant_billing_accounts SET … WHERE tenant_id = ? AND guard`. -/
def Db.updateAccount (s : Db) (tenantId : String) (guard : BillingAccountRow → Bool)
    (set : BillingAccountRow → BillingAccountRow) : Nat × Db :=
  (s.accounts.countP fun r => r.tenantId == tenantId && guard r,
    { s with accounts := s.accounts.map fun r =>
        if r.tenantId == tenantId && guard r then set r else r })

/-- `getTenantBillingAccount`. -/
def getTenantBillingAccount (tenantId : String) : Op (Option BillingAccountRow) :=
  query (.read .accounts) fun s => s.account tenantId

/-- `ensureTenantBillingAccount`. -/
def ensureTenantBillingAccount (env : Env) (tenantId : String) : Op BillingAccountRow := do
  match ← getTenantBillingAccount tenantId with
  | some existing => pure existing
  | none => do
    let updatedAt ← nowIso env
    let _ ← execute (fun _ => .write .accounts) fun s =>
      if (s.account tenantId).isSome then (0, s)
      else (1, { s with accounts := s.accounts ++ [{
        tenantId := tenantId, status := .trial, pricingTier := .free
        defaultNetwork := none, defaultAsset := none
        availableCredits := 0, reservedCredits := 0, updatedAt := updatedAt }] })
    let created ← getTenantBillingAccount tenantId
    requireRow created "Failed to create tenant billing account"

/-- `updateTenantBillingAccountProfile`. -/
def updateTenantBillingAccountProfile (env : Env) (tenantId : String)
    (status : Option BillingStatus) (pricingTier : Option PricingTier)
    (defaultNetwork defaultAsset : Option String) : Op BillingAccountRow := do
  let _ ← ensureTenantBillingAccount env tenantId
  let updatedAt ← nowIso env
  let changes ← execute (fun _ => .write .accounts) fun s =>
    s.updateAccount tenantId (fun _ => true) fun r => { r with
      status := status.getD r.status
      pricingTier := pricingTier.getD r.pricingTier
      defaultNetwork := defaultNetwork.or r.defaultNetwork
      defaultAsset := defaultAsset.or r.defaultAsset
      updatedAt := updatedAt }
  if changes = 0 then
    throw (Exn.error ("Tenant billing account " ++ tenantId ++ " no longer exists"))
  else do
    requireRow (← getTenantBillingAccount tenantId)
      ("Failed to load tenant billing account " ++ tenantId)

/-- The balance update that `reserve`, `release` and `capture` share: null if no row has
the balance it takes from. -/
def moveCredits (env : Env) (l : Nat → Label) (tenantId : String)
    (guard : BillingAccountRow → Bool) (available reserved : Int) :
    Op (Option BillingAccountRow) := do
  let updatedAt ← nowIso env
  let changes ← execute l fun s =>
    s.updateAccount tenantId guard fun r => { r with
      availableCredits := r.availableCredits + available
      reservedCredits := r.reservedCredits + reserved
      updatedAt := updatedAt }
  if changes = 0 then pure none
  else do
    let account ← requireRow (← getTenantBillingAccount tenantId)
      ("Failed to load tenant billing account " ++ tenantId)
    pure (some account)

/-- `reserveTenantAvailableCredits`. -/
def reserveTenantAvailableCredits (env : Env) (tenantId : String) (credits : Int) :
    Op (Option BillingAccountRow) :=
  moveCredits env (.reserveCredits tenantId credits) tenantId
    (fun r => credits ≤ r.availableCredits) (-credits) credits

/-- `releaseTenantReservedCredits`. -/
def releaseTenantReservedCredits (env : Env) (tenantId : String) (credits : Int) :
    Op (Option BillingAccountRow) :=
  moveCredits env (.releaseCredits tenantId credits) tenantId (fun r => credits ≤ r.reservedCredits)
    credits (-credits)

/-- `captureTenantReservedCredits`. -/
def captureTenantReservedCredits (env : Env) (tenantId : String) (credits : Int) :
    Op (Option BillingAccountRow) :=
  moveCredits env (.captureCredits tenantId) tenantId (fun r => credits ≤ r.reservedCredits)
    0 (-credits)

/-! ### The ledger -/

/-- The sum of a tenant's ledger. -/
def Db.ledgerSum (s : Db) (tenantId : String) : Int :=
  ((s.ledger.filter fun r => r.tenantId == tenantId).map CreditLedgerRow.creditsDelta).sum

/-- Two values that are not null and equal. -/
def clash (a b : Option String) : Bool := a.isSome && a == b

/-- The two rows cannot both be in the ledger, by its primary key and its unique indexes. -/
def CreditLedgerRow.clashes (a b : CreditLedgerRow) : Bool :=
  a.id == b.id || clash a.paymentReceiptId b.paymentReceiptId || clash a.referenceId b.referenceId

/-- `INSERT OR IGNORE INTO tenant_credit_ledger`: nothing happens if the row breaks the
primary key or one of the unique indexes. -/
def Db.insertLedgerRow (s : Db) (row : CreditLedgerRow) : Nat × Db :=
  if s.ledger.any fun r => r.clashes row then (0, s)
  else (1, { s with ledger := s.ledger ++ [row] })

/-- `reconcileTenantAvailableCredits`. The sum is read in one statement and the balance set
from it in another. -/
def reconcileTenantAvailableCredits (env : Env) (tenantId : String) : Op BillingAccountRow := do
  let _ ← ensureTenantBillingAccount env tenantId
  let totalCredits ← query (.sumLedger tenantId) fun s => s.ledgerSum tenantId
  let updatedAt ← nowIso env
  let changes ← execute (fun _ => .setAvailable tenantId) fun s =>
    s.updateAccount tenantId (fun _ => true) fun r => { r with
      availableCredits := totalCredits - r.reservedCredits
      updatedAt := updatedAt }
  if changes = 0 then
    throw (Exn.error ("Tenant billing account " ++ tenantId ++ " no longer exists"))
  else do
    requireRow (← getTenantBillingAccount tenantId)
      ("Failed to load tenant billing account " ++ tenantId)

/-- The only row of several, which throws if there are more. -/
def uniqueRow {α : Type} (rows : List α) (message : String) : Op (Option α) :=
  match rows with
  | [] => pure none
  | [row] => pure (some row)
  | _ => throw ⟨.billingUniqueness, message, 500, false⟩

/-- `getTypedCreditLedgerEntryByPaymentReceiptId`. -/
def getTypedCreditLedgerEntryByPaymentReceiptId (tenantId paymentReceiptId : String) :
    Op (Option TypedLedgerEntry) := do
  let rows ← query (.read .ledger) fun s => s.ledger.filter fun r =>
    r.tenantId == tenantId && r.paymentReceiptId == some paymentReceiptId
  let entry ← uniqueRow rows ("Ledger entries for payment receipt " ++ paymentReceiptId ++
    " are ambiguous; manual reconciliation is required")
  pure (entry.bind parseTypedCreditLedgerEntry)

/-- `getTypedCreditLedgerEntryByReferenceId`. -/
def getTypedCreditLedgerEntryByReferenceId (tenantId referenceId : String) :
    Op (Option TypedLedgerEntry) := do
  let rows ← query (.read .ledger) fun s => s.ledger.filter fun r =>
    r.tenantId == tenantId && r.referenceId == some referenceId
  let entry ← uniqueRow rows ("Ledger entries for reference " ++ referenceId ++
    " are ambiguous; manual reconciliation is required")
  pure (entry.bind parseTypedCreditLedgerEntry)

/-- The `INSERT OR IGNORE` of the three `append…LedgerEntry` functions. -/
def insertLedgerEntry (tenantId : String) (row : CreditLedgerRow) : Op Nat :=
  execute (.insertLedger tenantId) fun s => s.insertLedgerRow row

/-- `DELETE FROM tenant_credit_ledger WHERE tenant_id = ? AND id = ?`, errors ignored. -/
def deleteLedgerEntry (tenantId id : String) : Op Unit :=
  catchAll (do
    let _ ← execute (fun _ => .write .ledger) fun s =>
      let doomed (r : CreditLedgerRow) := r.tenantId == tenantId && r.id == id
      (s.ledger.countP doomed, { s with ledger := s.ledger.filter fun r => !doomed r })) ()

/-- The compensation of an insert whose row is not what was wanted: nothing if there was no
insert. -/
def undoInsert (changes : Nat) (tenantId id : String) : Op Unit :=
  if 0 < changes then deleteLedgerEntry tenantId id else pure ()

/-- The entry of a receipt, or of a reference where there is no receipt. -/
def getSettlementEntry (tenantId : String) (paymentReceiptId referenceId : Option String) :
    Op (Option TypedLedgerEntry) :=
  match paymentReceiptId with
  | some receiptId => getTypedCreditLedgerEntryByPaymentReceiptId tenantId receiptId
  | none => getTypedCreditLedgerEntryByReferenceId tenantId (referenceId.getD "")

/-- What `appendTopupSettlementLedgerEntry` and `appendUpgradeCreditGrantLedgerEntry` have in
common: they differ in the entry type, the test of it and the texts of their errors. -/
def appendReceiptLedgerEntry (env : Env) (entryType : EntryType)
    (isExpected : TypedLedgerEntry → Bool) (unexpected failed : String) (tenantId : String)
    (creditsDelta : Int) (reason : String) (paymentReceiptId referenceId : Option String)
    (metadata : LedgerMetadata) : Op TypedLedgerEntry := do
  let id ← createId env "led"
  let createdAt ← nowIso env
  let changes ← insertLedgerEntry tenantId {
    id := id, tenantId := tenantId, entryType := entryType, creditsDelta := creditsDelta
    reason := reason, paymentReceiptId := paymentReceiptId, referenceId := referenceId
    metadata := some metadata.toJson, createdAt := createdAt }
  match ← getSettlementEntry tenantId paymentReceiptId referenceId with
  | none => do
    undoInsert changes tenantId id
    throw (Exn.error failed)
  | some entry =>
    if isExpected entry then pure entry
    else do
      undoInsert changes tenantId id
      throw ⟨.billingUniqueness, unexpected, 500, false⟩

/-- `appendTopupSettlementLedgerEntry`. -/
def appendTopupSettlementLedgerEntry (env : Env) (tenantId : String) (creditsDelta : Int)
    (reason : String) (paymentReceiptId referenceId : Option String)
    (metadata : LedgerMetadata) : Op TypedLedgerEntry :=
  appendReceiptLedgerEntry env .topup isTopupSettlementLedgerEntry
    ("Settlement ledger for payment receipt " ++
      (paymentReceiptId.or referenceId).getD "unknown" ++
      " has an unexpected type; manual reconciliation is required")
    "Failed to append typed topup settlement ledger entry"
    tenantId creditsDelta reason paymentReceiptId referenceId metadata

/-- `appendUpgradeCreditGrantLedgerEntry`. -/
def appendUpgradeCreditGrantLedgerEntry (env : Env) (tenantId : String) (creditsDelta : Int)
    (reason : String) (paymentReceiptId referenceId : Option String)
    (metadata : LedgerMetadata) : Op TypedLedgerEntry :=
  appendReceiptLedgerEntry env .adjustment isUpgradeCreditGrantLedgerEntry
    ("Credit grant ledger for payment receipt " ++
      (paymentReceiptId.or referenceId).getD "unknown" ++
      " has an unexpected type; manual reconciliation is required")
    "Failed to append typed upgrade credit grant ledger entry"
    tenantId creditsDelta reason paymentReceiptId referenceId metadata

/-- `appendOutboundUsageLedgerEntry`. -/
def appendOutboundUsageLedgerEntry (env : Env) (tenantId : String) (entryType : EntryType)
    (creditsDelta : Int) (reason referenceId : String) (metadata : LedgerMetadata) :
    Op TypedLedgerEntry := do
  let id ← createId env "led"
  let createdAt ← nowIso env
  let changes ← insertLedgerEntry tenantId {
    id := id, tenantId := tenantId, entryType := entryType, creditsDelta := creditsDelta
    reason := reason, paymentReceiptId := none, referenceId := some referenceId
    metadata := some metadata.toJson, createdAt := createdAt }
  match ← getTypedCreditLedgerEntryByReferenceId tenantId referenceId with
  | none => do
    undoInsert changes tenantId id
    throw (Exn.error "Failed to append typed outbound usage ledger entry")
  | some entry => pure entry

/-! ### Receipts -/

/-- The receipt of a tenant. -/
def Db.receipt (s : Db) (tenantId receiptId : String) : Option PaymentReceiptRow :=
  s.receipts.find? fun r => r.tenantId == tenantId && r.id == receiptId

/-- `SELECT … FROM tenant_payment_receipts WHERE tenant_id = ? AND id = ?`. -/
def selectReceipt (l : Label) (tenantId receiptId : String) : Op (Option PaymentReceiptRow) :=
  query l fun s => s.receipt tenantId receiptId

/-- `getTenantPaymentReceiptById`, as the repository calls it before an `UPDATE`. -/
def getTenantPaymentReceiptById (tenantId receiptId : String) : Op (Option PaymentReceiptRow) :=
  selectReceipt (.read .receipts) tenantId receiptId

/-- `getTypedTenantPaymentReceiptById`: the receipt a route goes on to act on, which its label
says. -/
def getTypedTenantPaymentReceiptById (tenantId receiptId : String) :
    Op (Option TypedReceipt) := do
  let receipt ← selectReceipt (.loadReceipt receiptId) tenantId receiptId
  pure (receipt.bind parseTypedPaymentReceipt)

/-- The statement that reads the receipts with a fingerprint. -/
def receiptsByFingerprint (fingerprint : String) : Op (List PaymentReceiptRow) :=
  queryAs (fun rows => match rows with
    | [row] => .loadReceipt row.id
    | _ => .read .receipts)
    fun s => s.receipts.filter fun r => r.paymentProofFingerprint == some fingerprint

/-- `getTypedPaymentReceiptByProofFingerprint`. -/
def getTypedPaymentReceiptByProofFingerprint (fingerprint : String) :
    Op (Option TypedReceipt) := do
  let rows ← receiptsByFingerprint fingerprint
  let receipt ← uniqueRow rows ("Payment proof fingerprint " ++ fingerprint ++
    " matches multiple receipts; manual reconciliation is required")
  pure (receipt.bind parseTypedPaymentReceipt)

/-- The two rows cannot both be receipts, by their primary key and their unique indexes. -/
def PaymentReceiptRow.clashes (a b : PaymentReceiptRow) : Bool :=
  a.id == b.id || clash a.paymentReference b.paymentReference ||
    clash a.settlementReference b.settlementReference ||
    clash a.paymentProofFingerprint b.paymentProofFingerprint

/-- No receipt has the new row's identifier, references or fingerprint. -/
def Db.receiptFree (s : Db) (row : PaymentReceiptRow) : Bool :=
  !s.receipts.any fun r => r.clashes row

/-- The error of a receipt that breaks a unique index. -/
def alreadyAssociated (what value : String) : Exn :=
  ⟨.billingUniqueness, what ++ " " ++ value ++
    " is already associated with another receipt; manual reconciliation is required", 500, false⟩

/-- `createTenantPaymentReceipt`, of a receipt without references, as its callers make it. -/
def createTenantPaymentReceipt (env : Env) (tenantId : String) (receiptType : ReceiptType)
    (paymentScheme : String) (network asset : Option String) (amountAtomic : String)
    (amountDisplay fingerprint : Option String) (status : ReceiptStatus) (metadata : Draft) :
    Op PaymentReceiptRow := do
  let id ← createId env "prc"
  let timestamp ← nowIso env
  let row : PaymentReceiptRow := {
    id := id, tenantId := tenantId, receiptType := receiptType, paymentScheme := paymentScheme
    network := network, asset := asset, amountAtomic := amountAtomic
    amountDisplay := amountDisplay, paymentReference := none, settlementReference := none
    paymentProofFingerprint := fingerprint, status := status
    metadata := some (.obj metadata.stored), createdAt := timestamp, updatedAt := timestamp }
  tryCatch
    (insertRow (fun _ => .write .receipts) (fun s => s.receiptFree row) fun s =>
      { s with receipts := s.receipts ++ [row] })
    fun error =>
      match error.isUniqueConstraintError, fingerprint with
      | true, some fingerprint =>
        throw (alreadyAssociated "Payment proof fingerprint" fingerprint)
      | _, _ => throw error
  let row ← query (.loadReceipt id) fun s => s.receipts.find? fun r => r.id == id
  requireRow row "Failed to load payment receipt"

/-- `createTypedTenantPaymentReceipt`. -/
def createTypedTenantPaymentReceipt (env : Env) (tenantId : String) (receiptType : ReceiptType)
    (paymentScheme : String) (network asset : Option String) (amountAtomic : String)
    (amountDisplay fingerprint : Option String) (status : ReceiptStatus)
    (metadata : ReceiptMetadata) : Op TypedReceipt := do
  let receipt ← createTenantPaymentReceipt env tenantId receiptType paymentScheme network asset
    amountAtomic amountDisplay fingerprint status metadata.toDraft
  match parseTypedPaymentReceipt receipt with
  | some typed => pure typed
  | none => do
    catchAll (do
      let doomed (r : PaymentReceiptRow) := r.tenantId == tenantId && r.id == receipt.id
      let _ ← execute (fun _ => .write .receipts) fun s =>
        (s.receipts.countP doomed, { s with receipts := s.receipts.filter fun r => !doomed r })) ()
    throw (Exn.error "Failed to create typed payment receipt")

/-- `UPDATE tenant_payment_receipts SET … WHERE tenant_id = ? AND id = ?`; null if the new
references belong to another receipt. -/
def Db.updateReceipt (s : Db) (tenantId receiptId : String) (status : ReceiptStatus)
    (paymentReference settlementReference : Option String) (metadata : Option Json)
    (updatedAt : Nat) : Option Nat × Db :=
  let target (r : PaymentReceiptRow) := r.tenantId == tenantId && r.id == receiptId
  let taken (r : PaymentReceiptRow) := !target r && (clash r.paymentReference paymentReference ||
    clash r.settlementReference settlementReference)
  if s.receipts.any target && s.receipts.any taken then (none, s)
  else
    let set (r : PaymentReceiptRow) := { r with
      status := status, paymentReference := paymentReference
      settlementReference := settlementReference, metadata := metadata, updatedAt := updatedAt }
    (some (s.receipts.countP target),
      { s with receipts := s.receipts.map fun r => if target r then set r else r })

/-- The statement of `updateTenantPaymentReceiptStatus` and
`restoreTenantPaymentReceiptSnapshot`. -/
def writeReceipt (tenantId receiptId : String) (status : ReceiptStatus)
    (paymentReference settlementReference : Option String) (metadata : Option Json)
    (updatedAt : Nat) : Op Nat := do
  let changes ← Prog.perform
    (fun s => .writeReceipt receiptId status ((s.updateReceipt tenantId receiptId status
      paymentReference settlementReference metadata updatedAt).1.getD 0))
    (fun s => s.updateReceipt tenantId receiptId status paymentReference settlementReference
      metadata updatedAt) Exn.d1
  match changes with
  | some n => pure n
  | none => throw Exn.unique

/-- What `updateTenantPaymentReceiptStatus` throws for an exception of its `UPDATE`. -/
def receiptUpdateError (error : Exn) (existing : PaymentReceiptRow)
    (paymentReference settlementReference : Option String) : Exn :=
  if !error.isUniqueConstraintError then error
  else if settlementReference.isSome ∧ settlementReference ≠ existing.settlementReference then
    alreadyAssociated "Settlement reference" (settlementReference.getD "")
  else if paymentReference.isSome ∧ paymentReference ≠ existing.paymentReference then
    alreadyAssociated "Payment reference" (paymentReference.getD "")
  else error

/-- `updateTenantPaymentReceiptStatus`. -/
def updateTenantPaymentReceiptStatus (env : Env) (tenantId receiptId : String)
    (status : ReceiptStatus) (paymentReference settlementReference : Option String)
    (metadata : ReceiptMetadata) : Op PaymentReceiptRow := do
  match ← getTenantPaymentReceiptById tenantId receiptId with
  | none => throw (Exn.error "Payment receipt not found")
  | some existing => do
    let updatedAt ← nowIso env
    let nextMetadata := (spread ((asRecord existing.metadata).getD []) metadata.toDraft).stored
    let changes ← tryCatch
      (writeReceipt tenantId receiptId status (paymentReference.or existing.paymentReference)
        (settlementReference.or existing.settlementReference) (some (.obj nextMetadata)) updatedAt)
      fun error => throw (receiptUpdateError error existing paymentReference settlementReference)
    if changes = 0 then
      throw (Exn.error ("Payment receipt " ++ receiptId ++ " no longer exists"))
    else do
      requireRow (← selectReceipt (.read .receipts) tenantId receiptId)
        "Failed to load payment receipt"

/-- `restoreTenantPaymentReceiptSnapshot`. -/
def restoreTenantPaymentReceiptSnapshot (receipt : PaymentReceiptRow) : Op Unit := do
  let changes ← writeReceipt receipt.tenantId receipt.id receipt.status receipt.paymentReference
    receipt.settlementReference ((asRecord receipt.metadata).map .obj) receipt.updatedAt
  if changes = 0 then
    throw (Exn.error ("Payment receipt " ++ receipt.id ++ " no longer exists"))

/-- `updateTypedTenantPaymentReceiptStatus`. -/
def updateTypedTenantPaymentReceiptStatus (env : Env) (tenantId receiptId : String)
    (status : ReceiptStatus) (paymentReference settlementReference : Option String)
    (metadata : ReceiptMetadata) : Op TypedReceipt := do
  match ← getTenantPaymentReceiptById tenantId receiptId with
  | none => throw (Exn.error "Payment receipt not found")
  | some existing => do
    let receipt ← updateTenantPaymentReceiptStatus env tenantId receiptId status
      paymentReference settlementReference metadata
    match parseTypedPaymentReceipt receipt with
    | some typed => pure typed
    | none => do
      catchAll (restoreTenantPaymentReceiptSnapshot existing) ()
      throw (Exn.error "Failed to update typed payment receipt")

/-! ### Footprints -/

variable {ts : List Table} {env : Env} {tenantId : String}

theorem Table.same_accounts {s : Db} {rows : List BillingAccountRow} {t : Table}
    (h : t ≠ .accounts) : t.Same s { s with accounts := rows } := by
  cases t <;> first | rfl | exact absurd rfl h

theorem Table.same_ledger {s : Db} {rows : List CreditLedgerRow} {t : Table}
    (h : t ≠ .ledger) : t.Same s { s with ledger := rows } := by
  cases t <;> first | rfl | exact absurd rfl h

theorem Table.same_receipts {s : Db} {rows : List PaymentReceiptRow} {t : Table}
    (h : t ≠ .receipts) : t.Same s { s with receipts := rows } := by
  cases t <;> first | rfl | exact absurd rfl h

@[simp] theorem touches_getTenantBillingAccount : Touches ts (getTenantBillingAccount tenantId) :=
  touches_query rfl

theorem touches_ensureTenantBillingAccount :
    Touches [.accounts] (ensureTenantBillingAccount env tenantId) := by
  refine .bind touches_getTenantBillingAccount fun existing => ?_
  cases existing with
  | some _ => trivial
  | none =>
    refine .bind touches_nowIso fun _ => .bind (touches_execute (fun s t ht => ?_) fun _ => rfl)
      fun _ => .bind touches_getTenantBillingAccount fun _ => touches_requireRow
    split
    · exact Table.Same.rfl
    · exact Table.same_accounts ht

theorem touches_updateTenantBillingAccountProfile {status : Option BillingStatus}
    {pricingTier : Option PricingTier} {defaultNetwork defaultAsset : Option String} :
    Touches [.accounts] (updateTenantBillingAccountProfile env tenantId status pricingTier
      defaultNetwork defaultAsset) := by
  refine .bind touches_ensureTenantBillingAccount fun _ => .bind touches_nowIso fun _ =>
    .bind (touches_execute (fun s t ht => Table.same_accounts ht) fun _ => rfl) fun changes => ?_
  split
  · trivial
  · exact .bind touches_getTenantBillingAccount fun _ => touches_requireRow

/-- A move of credits changes accounts, and bears on what its label says. -/
theorem touches_moveCredits {l : Nat → Label} {guard : BillingAccountRow → Bool}
    {available reserved : Int} (hts : .accounts ∈ ts)
    (hl : ∀ n t, (l n).table = some t → t ∈ ts) :
    Touches ts (moveCredits env l tenantId guard available reserved) := by
  refine .bind touches_nowIso fun _ => .bind (Prog.each_perform.2 fun s => ⟨fun t ht => ?_,
    hl _⟩) fun changes => ?_
  · exact Table.same_accounts fun h => ht (h ▸ hts)
  · split
    · trivial
    · exact .bind touches_getTenantBillingAccount fun _ => .bind touches_requireRow fun _ =>
        touches_ret _

theorem touches_captureTenantReservedCredits {credits : Int} :
    Touches [.accounts, .ledger] (captureTenantReservedCredits env tenantId credits) :=
  touches_moveCredits (by simp) fun n t h => by
    obtain rfl := Option.some.inj h
    simp

theorem touches_reconcileTenantAvailableCredits :
    Touches [.accounts, .ledger] (reconcileTenantAvailableCredits env tenantId) := by
  refine .bind (touches_ensureTenantBillingAccount.mono (by simp)) fun _ =>
    .bind (Prog.each_perform.2 fun s => ⟨fun _ _ => Table.Same.rfl, fun t h => ?_⟩) fun _ =>
    .bind touches_nowIso fun _ =>
    .bind (Prog.each_perform.2 fun s => ⟨fun t ht => ?_, fun t h => ?_⟩) fun changes => ?_
  · obtain rfl := Option.some.inj h
    simp
  · exact Table.same_accounts fun h => ht (h ▸ by simp)
  · obtain rfl := Option.some.inj h
    simp
  · split
    · trivial
    · exact .bind touches_getTenantBillingAccount fun _ => touches_requireRow

@[simp] theorem touches_uniqueRow {α : Type} {rows : List α} {message : String} :
    Touches ts (uniqueRow rows message) := by
  rcases rows with _ | ⟨_, _ | _⟩ <;> trivial

@[simp] theorem touches_getTypedCreditLedgerEntryByPaymentReceiptId {receiptId : String} :
    Touches ts (getTypedCreditLedgerEntryByPaymentReceiptId tenantId receiptId) :=
  .bind (touches_query rfl) fun _ => .bind touches_uniqueRow fun _ => touches_ret _

@[simp] theorem touches_getTypedCreditLedgerEntryByReferenceId {referenceId : String} :
    Touches ts (getTypedCreditLedgerEntryByReferenceId tenantId referenceId) :=
  .bind (touches_query rfl) fun _ => .bind touches_uniqueRow fun _ => touches_ret _

@[simp] theorem touches_getSettlementEntry {receiptId referenceId : Option String} :
    Touches ts (getSettlementEntry tenantId receiptId referenceId) := by
  cases receiptId
  · exact touches_getTypedCreditLedgerEntryByReferenceId
  · exact touches_getTypedCreditLedgerEntryByPaymentReceiptId

theorem touches_insertLedgerEntry {row : CreditLedgerRow} :
    Touches [.ledger] (insertLedgerEntry tenantId row) := by
  refine touches_execute (fun s t ht => ?_) fun _ => rfl
  rw [Db.insertLedgerRow]
  split
  · exact Table.Same.rfl
  · exact Table.same_ledger ht

theorem touches_undoInsert {changes : Nat} {id : String} :
    Touches [.ledger] (undoInsert changes tenantId id) := by
  rw [undoInsert]
  split
  · exact .catchAll (.bind (touches_execute (fun s t ht => Table.same_ledger ht) fun _ => rfl)
      fun _ => trivial)
  · trivial

theorem touches_appendReceiptLedgerEntry {entryType : EntryType}
    {isExpected : TypedLedgerEntry → Bool} {unexpected failed : String} {creditsDelta : Int}
    {reason : String} {receiptId referenceId : Option String} {metadata : LedgerMetadata} :
    Touches [.ledger] (appendReceiptLedgerEntry env entryType isExpected unexpected failed tenantId
      creditsDelta reason receiptId referenceId metadata) := by
  refine .bind touches_createId fun _ => .bind touches_nowIso fun _ =>
    .bind touches_insertLedgerEntry fun _ => .bind touches_getSettlementEntry fun entry => ?_
  cases entry with
  | none => exact .bind touches_undoInsert fun _ => trivial
  | some entry =>
    simp only
    split
    · trivial
    · exact .bind touches_undoInsert fun _ => trivial

theorem touches_selectReceipt {l : Label} {receiptId : String}
    (h : ∀ t, l.table = some t → t ∈ ts) : Touches ts (selectReceipt l tenantId receiptId) :=
  Prog.each_perform.2 fun _ => ⟨fun _ _ => Table.Same.rfl, fun t ht => h t ht⟩

@[simp] theorem touches_getTenantPaymentReceiptById {receiptId : String} :
    Touches ts (getTenantPaymentReceiptById tenantId receiptId) :=
  touches_selectReceipt fun _ h => by cases h

theorem touches_writeReceipt {receiptId : String} {status : ReceiptStatus}
    {paymentReference settlementReference : Option String} {metadata : Option Json}
    {updatedAt : Nat} : Touches [.receipts] (writeReceipt tenantId receiptId status
      paymentReference settlementReference metadata updatedAt) := by
  refine .bind (Prog.each_perform.2 fun s => ⟨fun t ht => ?_, fun t h => ?_⟩) fun changes => ?_
  · simp only [Db.updateReceipt]
    split
    · exact Table.Same.rfl
    · exact Table.same_receipts (by simpa using ht)
  · obtain rfl := Option.some.inj h
    simp
  · cases changes <;> trivial

theorem touches_updateTenantPaymentReceiptStatus {receiptId : String} {status : ReceiptStatus}
    {paymentReference settlementReference : Option String} {metadata : ReceiptMetadata} :
    Touches [.receipts] (updateTenantPaymentReceiptStatus env tenantId receiptId status
      paymentReference settlementReference metadata) := by
  refine .bind touches_getTenantPaymentReceiptById fun existing => ?_
  cases existing with
  | none => trivial
  | some existing =>
    refine .bind touches_nowIso fun _ => .bind (.tryCatch touches_writeReceipt fun _ => trivial)
      fun changes => ?_
    split
    · trivial
    · exact .bind (touches_selectReceipt fun _ h => by cases h) fun _ => touches_requireRow

theorem touches_updateTypedTenantPaymentReceiptStatus {receiptId : String}
    {status : ReceiptStatus} {paymentReference settlementReference : Option String}
    {metadata : ReceiptMetadata} :
    Touches [.receipts] (updateTypedTenantPaymentReceiptStatus env tenantId receiptId status
      paymentReference settlementReference metadata) := by
  refine .bind touches_getTenantPaymentReceiptById fun existing => ?_
  cases existing with
  | none => trivial
  | some existing =>
    refine .bind touches_updateTenantPaymentReceiptStatus fun receipt => ?_
    cases parseTypedPaymentReceipt receipt with
    | some typed => exact touches_ret _
    | none =>
      refine .bind (.catchAll (.bind touches_writeReceipt fun _ => ?_)) fun _ => trivial
      split <;> trivial

theorem touches_getTypedTenantPaymentReceiptById {receiptId : String} :
    Touches [.receipts] (getTypedTenantPaymentReceiptById tenantId receiptId) :=
  .bind (touches_selectReceipt fun t h => by
    obtain rfl := Option.some.inj h
    simp) fun _ => touches_ret _

theorem touches_getTypedPaymentReceiptByProofFingerprint {fingerprint : String} :
    Touches [.receipts] (getTypedPaymentReceiptByProofFingerprint fingerprint) := by
  refine .bind (touches_queryAs fun rows t h => ?_) fun _ =>
    .bind touches_uniqueRow fun _ => touches_ret _
  split at h
  · exact (Option.some.inj h).symm
  · cases h

theorem touches_createTenantPaymentReceipt {receiptType : ReceiptType} {paymentScheme : String}
    {network asset : Option String} {amountAtomic : String}
    {amountDisplay fingerprint : Option String} {status : ReceiptStatus} {metadata : Draft} :
    Touches [.receipts] (createTenantPaymentReceipt env tenantId receiptType paymentScheme network
      asset amountAtomic amountDisplay fingerprint status metadata) := by
  refine .bind touches_createId fun _ => .bind touches_nowIso fun _ =>
    .bind (.tryCatch (touches_insertRow (fun s t ht => Table.same_receipts ht) fun _ => rfl)
      fun e => ?_) fun _ =>
    .bind (Prog.each_perform.2 fun s => ⟨fun _ _ => Table.Same.rfl, fun t h => ?_⟩) fun _ =>
    touches_requireRow
  · split <;> trivial
  · obtain rfl := Option.some.inj h
    simp

theorem touches_createTypedTenantPaymentReceipt {receiptType : ReceiptType}
    {paymentScheme : String} {network asset : Option String} {amountAtomic : String}
    {amountDisplay fingerprint : Option String} {status : ReceiptStatus}
    {metadata : ReceiptMetadata} :
    Touches [.receipts] (createTypedTenantPaymentReceipt env tenantId receiptType paymentScheme
      network asset amountAtomic amountDisplay fingerprint status metadata) := by
  refine .bind touches_createTenantPaymentReceipt fun receipt => ?_
  cases parseTypedPaymentReceipt receipt with
  | some typed => exact touches_ret _
  | none =>
    exact .bind (.catchAll (.bind (touches_execute (fun s t ht => Table.same_receipts ht)
      fun _ => rfl) fun _ => trivial)) fun _ => trivial

end MailRuntime
