import MailRuntime.Repositories.Agents
import MailRuntime.Repositories.Billing

/-!
# The payment routes

`POST /v1/billing/topup`, `POST /v1/billing/upgrade-intent` and
`POST /v1/billing/payment/confirm` of `routes/api.ts`, from where the request is known to
be the tenant's own. A payment proof becomes a receipt; the facilitator verifies and
settles it, each answer being written to the receipt; and `finalize…` enters the credits
in the ledger and marks the receipt settled. Any of the three routes can be the one that
carries a receipt on, and several may at once.
-/

namespace MailRuntime

open Js X402 Interaction

/-- What `finalizePaymentReceiptSettlement` answers. -/
structure Settlement where
  receipt : TypedReceipt
  ledgerEntry : TypedLedgerEntry
  includedCredits : Option Int := none
  account : BillingAccountRow
  sendPolicy : Option SendPolicyRow := none
  message : String

/-- The answers of the payment routes. -/
inductive PaymentResponse where
  /-- `{ error }` with a status. -/
  | error (status : Nat) (error : String)
  /-- The quote, with status 402. -/
  | paymentRequired (tenantDid : Option String) (quote : Quote)
  /-- `invalidX402PaymentProofResponse`. -/
  | invalidProof (error : ValidationError)
  /-- `x402PaymentFailureResponse`, with its header. -/
  | paymentFailed (header error : String) (settlement : Json) (receipt : TypedReceipt)
  /-- The receipt as it is, with status 202. -/
  | captured (receipt : TypedReceipt) (verificationStatus : ReceiptStatus) (message : String)
  /-- The receipt is settled. -/
  | settled (settlement : Settlement)

/-- `x402UnavailableResponse`. -/
def x402UnavailableResponse : PaymentResponse :=
  .error 503 "x402 billing is not configured for this environment"

/-- What `btoa` throws at a character past Latin-1. -/
def invalidCharacter : Exn :=
  .error "btoa() can only operate on characters in the Latin1 (ISO/IEC 8859-1) range."

/-- `x402PaymentFailureResponse`, which throws where its header cannot be encoded. -/
def x402PaymentFailureResponse (error : String) (settlement : Json) (receipt : TypedReceipt) :
    Op PaymentResponse :=
  match encodePaymentResponseHeader settlement with
  | some header => pure (.paymentFailed header error settlement receipt)
  | none => throw invalidCharacter

/-! ### The facilitator's part -/

/-- What `confirmPaymentReceiptWithFacilitator` answers; no caller asks for a settlement
reference of its own. -/
structure FacilitatorOutcome where
  receipt : TypedReceipt
  paymentReference : Option String := none
  settlementReference : Option String := none
  verifyResponse : Option VerifyResponse := none
  settleResponse : Option SettleResponse := none
  failureResponse : Option PaymentResponse := none

/-- The part of `confirmPaymentReceiptWithFacilitator` that settles: `receipt` is the one it
was called with, whose metadata both writes build on, `working` the one it has now. -/
def settleWithFacilitator (env : Env) (receipt working : TypedReceipt) (payload : Json)
    (requirements : Fields) (verifyResponse : Option VerifyResponse) : Op FacilitatorOutcome := do
  let settle ← settleX402Payment env payload requirements working.row.id
  let updated ← updateTypedTenantPaymentReceiptStatus env working.row.tenantId working.row.id
    .verified working.row.paymentReference settle.response.settlementReference
    (withReceiptConfirmation receipt.metadata .facilitator verifyResponse (some settle.response)
      (some settle.status))
  if settle.response.settled then
    pure {
      receipt := updated
      paymentReference := working.row.paymentReference
      settlementReference := settle.response.settlementReference
      verifyResponse := verifyResponse
      settleResponse := some settle.response }
  else do
    let failure ← x402PaymentFailureResponse "Payment settlement failed" settle.response.toJson
      updated
    pure {
      receipt := updated
      paymentReference := updated.row.paymentReference
      settlementReference := settle.response.settlementReference
      verifyResponse := verifyResponse
      settleResponse := some settle.response
      failureResponse := some failure }

/-- The part of `confirmPaymentReceiptWithFacilitator` for a receipt that is pending: it is
verified first, and fails if the facilitator does not accept the proof. -/
def verifyWithFacilitator (env : Env) (receipt : TypedReceipt) (payload : Json)
    (requirements : Fields) : Op FacilitatorOutcome := do
  let verify ← verifyX402Payment env payload requirements receipt.row.id
  let metadata := withReceiptConfirmation receipt.metadata .facilitator (some verify.response) none
    (some verify.status)
  if verify.response.isValid then do
    let working ← updateTypedTenantPaymentReceiptStatus env receipt.row.tenantId receipt.row.id
      .verified verify.response.paymentReference none metadata
    settleWithFacilitator env receipt working payload requirements (some verify.response)
  else do
    let failed ← updateTypedTenantPaymentReceiptStatus env receipt.row.tenantId receipt.row.id
      .failed verify.response.paymentReference none metadata
    let failure ← x402PaymentFailureResponse "Payment verification failed" verify.response.toJson
      failed
    pure {
      receipt := failed
      paymentReference := verify.response.paymentReference
      verifyResponse := some verify.response
      failureResponse := some failure }

/-- The part of `confirmPaymentReceiptWithFacilitator` for a receipt that is past
verification: a settlement the facilitator has already reported is not asked for again. -/
def resumeWithFacilitator (env : Env) (receipt : TypedReceipt) (payload : Json)
    (requirements : Fields) : Op FacilitatorOutcome :=
  let verifyResponse := parseStoredX402VerificationResponse receipt.metadata.facilitatorVerify
  let stored := parseStoredX402SettlementResponse receipt.metadata.facilitatorSettle
  match stored.filter SettleResponse.settled with
  | some settled => pure {
      receipt := receipt
      paymentReference := receipt.row.paymentReference
      settlementReference := settled.settlementReference.or receipt.row.settlementReference
      verifyResponse := verifyResponse
      settleResponse := some settled }
  | none => settleWithFacilitator env receipt receipt payload requirements verifyResponse

/-- `confirmPaymentReceiptWithFacilitator`. -/
def confirmPaymentReceiptWithFacilitator (env : Env) (receipt : TypedReceipt) :
    Op FacilitatorOutcome :=
  match getReceiptPaymentRequirements receipt.metadata,
      getReceiptPaymentPayload receipt.metadata with
  | some requirements, some payload =>
    match receipt.row.status with
    | .failed => pure {
        receipt := receipt
        failureResponse := some (.error 409 "Failed payment receipts cannot be settled") }
    | .pending => verifyWithFacilitator env receipt payload requirements
    | .verified | .settled | .refunded => resumeWithFacilitator env receipt payload requirements
  | _, _ => pure {
      receipt := receipt
      failureResponse :=
        some (.error 409 "Payment receipt is missing x402 payment proof or requirements") }

/-! ### The ledger's part -/

/-- The mode and the responses a settlement is recorded with. -/
structure Confirmation where
  mode : ConfirmationMode
  paymentReference : Option String
  verifyResponse : Option VerifyResponse
  settleResponse : Option SettleResponse

/-- The confirmation of an outcome; there is none where the receipt was settled before. -/
def confirmationOf : Option FacilitatorOutcome → Confirmation
  | some o => ⟨.facilitator, o.paymentReference, o.verifyResponse, o.settleResponse⟩
  | none => ⟨.manualAdmin, none, none, none⟩

/-- The last step of a settlement: the receipt is marked settled. -/
def markSettled (env : Env) (receipt : TypedReceipt) (metadata : ReceiptMetadata)
    (confirmation : Confirmation) (entryId : String)
    (sendPolicyStatus : Option OutboundStatus) : Op TypedReceipt :=
  updateTypedTenantPaymentReceiptStatus env receipt.row.tenantId receipt.row.id .settled
    confirmation.paymentReference none
    (withReceiptConfirmation metadata confirmation.mode confirmation.verifyResponse
      confirmation.settleResponse none (some entryId) sendPolicyStatus)

/-- The receipt marked settled, where it has to be. -/
def markSettledIf (needed : Bool) (env : Env) (receipt : TypedReceipt)
    (metadata : ReceiptMetadata) (confirmation : Confirmation) (entryId : String)
    (sendPolicyStatus : Option OutboundStatus) : Op TypedReceipt :=
  if needed then markSettled env receipt metadata confirmation entryId sendPolicyStatus
  else pure receipt

/-- `finalizePaymentReceiptSettlement` of a topup whose credits are in the ledger. -/
def finalizeExistingTopup (env : Env) (receipt : TypedReceipt) (entry : TypedLedgerEntry)
    (confirmation : Confirmation) : Op Settlement := do
  if !isTopupSettlementLedgerEntry entry then
    throw (routeRequestError ("Payment receipt is linked to a non-topup ledger entry; " ++
      "manual reconciliation is required") 409)
  else do
    let account ← reconcileTenantAvailableCredits env receipt.row.tenantId
    let settled ← markSettledIf (receipt.row.status != .settled) env receipt receipt.metadata
      confirmation entry.row.id none
    pure {
      receipt := settled, ledgerEntry := entry, account := account
      message := "Payment receipt was already settled." }

/-- `finalizePaymentReceiptSettlement` of a topup whose credits are not in the ledger. -/
def finalizeNewTopup (env : Env) (receipt : TypedReceipt) (confirmation : Confirmation) :
    Op Settlement :=
  match receipt.metadata.purchase with
  | .upgrade _ =>
    throw (routeRequestError "Payment receipt metadata is missing creditsRequested" 409)
  | .topup creditsRequested => do
    let entry ← appendTopupSettlementLedgerEntry env receipt.row.tenantId creditsRequested
      (if confirmation.mode = .facilitator then "facilitator_payment_settlement"
        else "manual_payment_confirmation")
      (some receipt.row.id) receipt.row.settlementReference
      (buildTopupSettlementLedgerMetadata creditsRequested confirmation.mode
        confirmation.verifyResponse confirmation.settleResponse)
    let account ← reconcileTenantAvailableCredits env receipt.row.tenantId
    let settled ← markSettled env receipt receipt.metadata confirmation entry.row.id none
    pure {
      receipt := settled, ledgerEntry := entry, account := account
      message := "Payment receipt settled and credits applied." }

/-- The metadata of an upgrade, its quote saying the same number of credits. -/
def normalizedUpgradeMetadata (m : ReceiptMetadata) (includedCredits : Int) : ReceiptMetadata :=
  { m with
    purchase := .upgrade includedCredits
    quote := (spread m.quote [("includedCredits", some (.num includedCredits))]).stored }

/-- The ledger entry of an upgrade: the one there is, or a new one. -/
def upgradeLedgerEntry (env : Env) (receipt : TypedReceipt) (existing : Option TypedLedgerEntry)
    (includedCredits : Int) (confirmation : Confirmation) : Op TypedLedgerEntry :=
  match existing with
  | some entry => pure entry
  | none => appendUpgradeCreditGrantLedgerEntry env receipt.row.tenantId includedCredits
      (if confirmation.mode = .facilitator then "facilitator_upgrade_credit_grant"
        else "manual_upgrade_credit_grant")
      (some receipt.row.id) receipt.row.settlementReference
      (buildUpgradeCreditGrantLedgerMetadata includedCredits confirmation.mode
        confirmation.verifyResponse confirmation.settleResponse)

/-- What an upgrade changes besides the credits: the tier, the send policy, and the policies
of agents that still are as they were created. -/
def applyUpgrade (env : Env) (receipt : TypedReceipt) : Op SendPolicyRow := do
  let tenantId := receipt.row.tenantId
  let existingAccount ← ensureTenantBillingAccount env tenantId
  let _ ← updateTenantBillingAccountProfile env tenantId
    (if existingAccount.status = .trial then some .active else none) (some .paidActive)
    receipt.row.network receipt.row.asset
  let existingSendPolicy ← ensureTenantSendPolicy env tenantId
  let sendPolicy ← upsertTenantSendPolicy env tenantId .paidActive .externalEnabled
    existingSendPolicy.internalDomainAllowlist true false
  let _ ← relaxTenantDefaultAgentRecipientPoliciesForExternalSend env tenantId
    sendPolicy.internalDomainAllowlist
  pure sendPolicy

/-- `finalizePaymentReceiptSettlement` of an upgrade that is not settled. -/
def finalizeOpenUpgrade (env : Env) (receipt : TypedReceipt) (existing : Option TypedLedgerEntry)
    (includedCredits : Int) (confirmation : Confirmation) : Op Settlement := do
  let entry ← upgradeLedgerEntry env receipt existing includedCredits confirmation
  let sendPolicy ← applyUpgrade env receipt
  let account ← reconcileTenantAvailableCredits env receipt.row.tenantId
  let metadataNeedsRefresh := receipt.row.status != .settled ||
    receipt.metadata.creditLedgerEntryId != some entry.row.id ||
    receipt.metadata.sendPolicyStatus != some sendPolicy.outboundStatus
  let settled ← markSettledIf metadataNeedsRefresh env receipt
    (normalizedUpgradeMetadata receipt.metadata includedCredits) confirmation entry.row.id
    (some sendPolicy.outboundStatus)
  pure {
    receipt := settled, ledgerEntry := entry, includedCredits := some includedCredits
    account := account, sendPolicy := some sendPolicy
    message := "Upgrade payment settled, external sending approved automatically, and " ++
      toString includedCredits ++ " credits granted." }

/-- `finalizePaymentReceiptSettlement` of an upgrade that is settled. -/
def finalizeSettledUpgrade (env : Env) (receipt : TypedReceipt) (entry : TypedLedgerEntry)
    (includedCredits : Int) : Op Settlement := do
  let account ← reconcileTenantAvailableCredits env receipt.row.tenantId
  let sendPolicy ← ensureTenantSendPolicy env receipt.row.tenantId
  pure {
    receipt := receipt, ledgerEntry := entry, includedCredits := some includedCredits
    account := account, sendPolicy := some sendPolicy
    message := "Payment receipt was already settled." }

/-- `finalizePaymentReceiptSettlement` of an upgrade. -/
def finalizeUpgrade (env : Env) (receipt : TypedReceipt) (existing : Option TypedLedgerEntry)
    (confirmation : Confirmation) : Op Settlement :=
  match receipt.metadata.purchase with
  | .topup _ =>
    throw (routeRequestError "Payment receipt metadata is missing targetPricingTier" 409)
  | .upgrade includedCredits =>
    if includedCredits ≤ 0 then
      throw (routeRequestError
        "Payment receipt metadata is missing includedCredits for upgrade settlement" 409)
    else match existing with
      | none => finalizeOpenUpgrade env receipt none includedCredits confirmation
      | some entry =>
        if !isUpgradeCreditGrantLedgerEntry entry then
          throw (routeRequestError ("Payment receipt is linked to a non-upgrade ledger entry; " ++
            "manual reconciliation is required") 409)
        else if receipt.row.status = .settled then
          finalizeSettledUpgrade env receipt entry includedCredits
        else finalizeOpenUpgrade env receipt (some entry) includedCredits confirmation

/-- `finalizePaymentReceiptSettlement`. -/
def finalizePaymentReceiptSettlement (env : Env) (receipt : TypedReceipt)
    (outcome : Option FacilitatorOutcome) : Op Settlement := do
  let finalized := (outcome.map FacilitatorOutcome.receipt).getD receipt
  let existing ← getTypedCreditLedgerEntryByPaymentReceiptId finalized.row.tenantId
    finalized.row.id
  if finalized.row.status = .settled ∧ existing.isNone then
    throw (routeRequestError ("Payment receipt is already settled but local settlement records " ++
      "are incomplete; manual reconciliation is required") 409)
  else if finalized.row.receiptType = .upgrade then
    finalizeUpgrade env finalized existing (confirmationOf outcome)
  else match existing with
    | some entry => finalizeExistingTopup env finalized entry (confirmationOf outcome)
    | none => finalizeNewTopup env finalized (confirmationOf outcome)

/-! ### The routes -/

/-- `attemptAutomaticPaymentSettlement`; its answer is never null. -/
def attemptAutomaticPaymentSettlement (env : Env) (receipt : TypedReceipt) :
    Op PaymentResponse := do
  let outcome ← confirmPaymentReceiptWithFacilitator env receipt
  match outcome.failureResponse with
  | some failure => pure failure
  | none => .settled <$> finalizePaymentReceiptSettlement env receipt (some outcome)

/-- `withRefreshedPaymentReceipt`: an action that throws is tried once more if the receipt or
its ledger entry has changed meanwhile. -/
def withRefreshedPaymentReceipt {α : Type} (receipt : TypedReceipt)
    (action : TypedReceipt → Op α) : Op α := do
  let tenantId := receipt.row.tenantId
  let id := receipt.row.id
  let initialLedgerEntry ← catchAll (getTypedCreditLedgerEntryByPaymentReceiptId tenantId id) none
  tryCatch (action receipt) fun error => do
    let refreshed ← catchAll (getTypedTenantPaymentReceiptById tenantId id) none
    let refreshedLedgerEntry ←
      catchAll (getTypedCreditLedgerEntryByPaymentReceiptId tenantId id) none
    match refreshed with
    | none => throw error
    | some refreshed =>
      if refreshed.row.updatedAt ≠ receipt.row.updatedAt ∨
          refreshed.row.status ≠ receipt.row.status ∨
          refreshed.row.paymentReference ≠ receipt.row.paymentReference ∨
          refreshed.row.settlementReference ≠ receipt.row.settlementReference ∨
          (initialLedgerEntry.isNone ∧ refreshedLedgerEntry.isSome)
      then action refreshed
      else throw error

/-- A request of one of the two routes that take a proof, authenticated as the tenant's own.
`tenantDid` is what the tenant's DID binding says. -/
structure ProofRequest where
  tenantId : String
  tenantDid : Option String
  apiBaseUrl : String
  paymentScheme : Option String
  network : Option String
  asset : Option String
  paymentSignature : Option String

/-- A receipt for a proof that was submitted before is carried on if it is still open. -/
def replayReceipt (env : Env) (receipt : TypedReceipt) : Op PaymentResponse :=
  if (getX402FacilitatorConfig env).isSome ∧
      (receipt.row.status = .pending ∨ receipt.row.status = .verified)
  then withRefreshedPaymentReceipt receipt (attemptAutomaticPaymentSettlement env)
  else pure (.captured receipt receipt.row.status
    "Payment proof already captured. Reusing the existing receipt.")

/-- `findPaymentReceiptReplay` and what the routes make of it: null if the proof is new. -/
def replayPaymentProof (env : Env) (tenantId fingerprint : String) :
    Op (Option PaymentResponse) := do
  match ← getTypedPaymentReceiptByProofFingerprint fingerprint with
  | none => pure none
  | some existing =>
    if existing.row.tenantId ≠ tenantId then
      pure (some (.error 400 "payment proof has already been submitted"))
    else some <$> replayReceipt env existing

/-- What the two routes do with a new receipt. -/
def settleNewReceipt (env : Env) (message : String) (receipt : TypedReceipt) :
    Op PaymentResponse :=
  if (getX402FacilitatorConfig env).isSome then
    withRefreshedPaymentReceipt receipt (attemptAutomaticPaymentSettlement env)
  else pure (.captured receipt .pending message)

/-- The receipt of a new proof; if it cannot be created, the proof may have been submitted by
another request meanwhile. -/
def capturePaymentProof (env : Env) (request : ProofRequest) (receiptType : ReceiptType)
    (purchase : Purchase) (quote : Quote) (proof : PaymentProof) :
    Op (TypedReceipt ⊕ PaymentResponse) :=
  let requirements := quote.paymentRequirements
  let fingerprint := fingerprintPaymentProof env proof
  tryCatch
    (.inl <$> createTypedTenantPaymentReceipt env request.tenantId receiptType
      (orDefault request.paymentScheme requirements.scheme)
      (some (orDefault request.network requirements.network))
      (some (orDefault request.asset requirements.asset)) requirements.amount
      (some quote.amountUsd) (some fingerprint) .pending
      (buildReceiptMetadata purchase request.tenantDid quote proof))
    fun error => do
      match ← replayPaymentProof env request.tenantId fingerprint with
      | some response => pure (.inr response)
      | none => throw error

/-- What the two routes do with a proof for a quote. -/
def submitPaymentProof (env : Env) (request : ProofRequest) (receiptType : ReceiptType)
    (purchase : Purchase) (message : String) (quote : Quote) (proof : PaymentProof) :
    Op PaymentResponse := do
  match ← replayPaymentProof env request.tenantId (fingerprintPaymentProof env proof) with
  | some response => pure response
  | none => do
    match ← capturePaymentProof env request receiptType purchase quote proof with
    | .inl receipt => settleNewReceipt env message receipt
    | .inr response => pure response

/-- What the two routes have in common, once the request's body is checked. -/
def quoteAndSubmit (env : Env) (request : ProofRequest) (receiptType : ReceiptType)
    (purchase : Purchase) (message : String) (buildQuote : Op Quote) : Op PaymentResponse :=
  if (getX402Defaults env).payTo.isNone then pure x402UnavailableResponse
  else do
    let _ ← ensureTenantBillingAccount env request.tenantId
    let quote ← buildQuote
    match parseX402PaymentProof env request.paymentSignature with
    | none => pure (.paymentRequired request.tenantDid quote)
    | some proof =>
      match validateX402PaymentProof proof quote.paymentRequirements with
      | some error => pure (.invalidProof error)
      | none => submitPaymentProof env request receiptType purchase message quote proof

/-- `parseTopupCredits`. -/
def parseTopupCredits (value : Option Json) : Option Int :=
  (asInteger value).filter fun credits => 1 ≤ credits ∧ credits ≤ 100000

/-- `POST /v1/billing/topup`. -/
def topup (env : Env) (request : ProofRequest) (credits : Option Json) : Op PaymentResponse :=
  match parseTopupCredits credits with
  | none => pure (.error 400 "credits must be an integer between 1 and 100000")
  | some credits => quoteAndSubmit env request .topup (.topup credits)
      ("Payment proof captured. Verification and credit settlement are not enabled yet on this " ++
        "endpoint.")
      (buildX402TopupQuote env credits request.tenantId request.tenantDid request.apiBaseUrl)

/-- `POST /v1/billing/upgrade-intent`. -/
def upgradeIntent (env : Env) (request : ProofRequest) (targetPricingTier : Option Json) :
    Op PaymentResponse :=
  match targetPricingTier.getD (.str "paid_review") with
  | .str "paid_review" => quoteAndSubmit env request .upgrade
      (.upgrade (getX402Defaults env).upgradeIncludedCredits)
      ("Upgrade payment proof captured. Verification and plan upgrade are not yet automatic on " ++
        "this endpoint.")
      (buildX402UpgradeQuote env request.tenantId request.tenantDid request.apiBaseUrl)
  | _ => pure (.error 400 "targetPricingTier must currently be paid_review")

/-- What `POST /v1/billing/payment/confirm` does with the receipt it finds. -/
def confirmReceipt (env : Env) (receipt : TypedReceipt) : Op PaymentResponse :=
  if receipt.row.status = .settled then
    .settled <$> finalizePaymentReceiptSettlement env receipt none
  else attemptAutomaticPaymentSettlement env receipt

/-- `POST /v1/billing/payment/confirm`; `manual` says that the body asks for a manual
confirmation. -/
def confirmPayment (env : Env) (tenantId : String) (receiptId : Option String) (manual : Bool) :
    Op PaymentResponse :=
  match receiptId.filter truthy with
  | none => pure (.error 400 "receiptId is required")
  | some receiptId =>
    if (getX402FacilitatorConfig env).isNone then pure x402UnavailableResponse
    else if manual then
      pure (.error 410 ("manual payment confirmation is no longer supported; submit a " ++
        "facilitator-compatible payment proof and use this endpoint only to retry facilitator " ++
        "settlement by receiptId"))
    else do
      match ← getTypedTenantPaymentReceiptById tenantId receiptId with
      | none => pure (.error 404 "Payment receipt not found")
      | some receipt =>
        if receipt.row.status = .failed then
          pure (.error 409 "Failed payment receipts cannot be confirmed")
        else withRefreshedPaymentReceipt receipt (confirmReceipt env)

/-! ### Footprints -/

variable {env : Env} {receipt : TypedReceipt}

@[simp] theorem touches_x402PaymentFailureResponse {ts : List Table} {error : String}
    {settlement : Json} : Touches ts (x402PaymentFailureResponse error settlement receipt) := by
  rw [x402PaymentFailureResponse]
  split <;> trivial

theorem touches_settleWithFacilitator {working : TypedReceipt} {payload : Json}
    {requirements : Fields} {verifyResponse : Option VerifyResponse} :
    Touches [.receipts]
      (settleWithFacilitator env receipt working payload requirements verifyResponse) := by
  refine .bind touches_settleX402Payment fun settle =>
    .bind touches_updateTypedTenantPaymentReceiptStatus fun updated => ?_
  split
  · trivial
  · exact .bind touches_x402PaymentFailureResponse fun _ => touches_ret _

theorem touches_confirmPaymentReceiptWithFacilitator :
    Touches [.receipts] (confirmPaymentReceiptWithFacilitator env receipt) := by
  have hresume : ∀ payload requirements,
      Touches [.receipts] (resumeWithFacilitator env receipt payload requirements) := by
    intro payload requirements
    simp only [resumeWithFacilitator]
    split
    · trivial
    · exact touches_settleWithFacilitator
  rw [confirmPaymentReceiptWithFacilitator]
  split
  · split
    · trivial
    · refine .bind touches_verifyX402Payment fun verify => ?_
      simp only
      split
      · exact .bind touches_updateTypedTenantPaymentReceiptStatus fun _ =>
          touches_settleWithFacilitator
      · exact .bind touches_updateTypedTenantPaymentReceiptStatus fun _ =>
          .bind touches_x402PaymentFailureResponse fun _ => touches_ret _
    · exact hresume _ _
    · exact hresume _ _
    · exact hresume _ _
  · trivial

theorem touches_applyUpgrade :
    Touches [.accounts, .sendPolicies, .agentPolicies] (applyUpgrade env receipt) :=
  .bind (touches_ensureTenantBillingAccount.mono (by simp)) fun _ =>
    .bind (touches_updateTenantBillingAccountProfile.mono (by simp)) fun _ =>
    .bind (touches_ensureTenantSendPolicy.mono (by simp)) fun _ =>
    .bind (touches_upsertTenantSendPolicy.mono (by simp)) fun _ =>
    .bind (touches_relaxTenantDefaultAgentRecipientPoliciesForExternalSend.mono (by simp))
      fun _ => touches_ret _

end MailRuntime
