import MailRuntime.Payments.Facilitator

/-!
# Metadata of receipts and ledger entries

The `metadata_json` columns of the billing tables are free JSON. The typed parsers below
decide whether a row counts at all: a receipt or ledger row whose metadata do not parse
is one the callers treat as absent. The builders are the only writers of these columns.
-/

namespace MailRuntime

open Js X402

/-- `PaymentConfirmationMode`. -/
inductive ConfirmationMode where
  | manualAdmin | facilitator
deriving DecidableEq, Repr

/-- The mode as it is stored. -/
def ConfirmationMode.text : ConfirmationMode → String
  | manualAdmin => "manual_admin"
  | facilitator => "facilitator"

/-- `asConfirmationMode`. -/
def asConfirmationMode (v : Option Json) : Option ConfirmationMode :=
  match string v with
  | some "manual_admin" => some .manualAdmin
  | some "facilitator" => some .facilitator
  | _ => none

/-- The status as it is stored. -/
def OutboundStatus.text : OutboundStatus → String
  | internalOnly => "internal_only"
  | externalReview => "external_review"
  | externalEnabled => "external_enabled"
  | suspended => "suspended"

/-- `asOutboundStatus`. -/
def asOutboundStatus (v : Option Json) : Option OutboundStatus :=
  match string v with
  | some "internal_only" => some .internalOnly
  | some "external_review" => some .externalReview
  | some "external_enabled" => some .externalEnabled
  | some "suspended" => some .suspended
  | _ => none

/-! ### Receipts -/

/-- What a receipt pays for: the fields of its metadata that depend on its type. -/
inductive Purchase where
  | topup (creditsRequested : Int)
  | upgrade (includedCredits : Int)
deriving DecidableEq, Repr

/-- `StoredX402PaymentProof`. -/
structure StoredProof where
  raw : Option String
  parsed : Option Fields

/-- `PaymentReceiptMetadata`; the `targetPricingTier` of an upgrade is always `paid_review`. -/
structure ReceiptMetadata where
  purchase : Purchase
  quote : Fields
  paymentProof : StoredProof
  tenantDid : Option String := none
  confirmationMode : Option ConfirmationMode := none
  facilitatorVerify : Option Json := none
  facilitatorSettle : Option Json := none
  facilitatorStatusCode : Option Int := none
  creditLedgerEntryId : Option String := none
  sendPolicyStatus : Option OutboundStatus := none

/-- `serializePaymentReceiptMetadata`. -/
def ReceiptMetadata.toDraft (m : ReceiptMetadata) : Draft :=
  (match m.purchase with
    | .topup creditsRequested =>
      [("receiptType", some (.str "topup")), ("creditsRequested", some (.num creditsRequested))]
    | .upgrade includedCredits =>
      [("receiptType", some (.str "upgrade")), ("targetPricingTier", some (.str "paid_review")),
        ("includedCredits", some (.num includedCredits))]) ++
  [("tenantDid", ofString m.tenantDid),
    ("quote", some (.obj m.quote)),
    ("paymentProof", some (.obj (Draft.stored [("raw", ofString m.paymentProof.raw),
      ("parsed", m.paymentProof.parsed.map .obj)]))),
    ("confirmationMode", ofString (m.confirmationMode.map ConfirmationMode.text)),
    ("facilitatorVerify", m.facilitatorVerify),
    ("facilitatorSettle", m.facilitatorSettle),
    ("facilitatorStatusCode", m.facilitatorStatusCode.map .num),
    ("creditLedgerEntryId", ofString m.creditLedgerEntryId),
    ("sendPolicyStatus", ofString (m.sendPolicyStatus.map OutboundStatus.text))]

/-- `parseStoredPaymentProof`. -/
def parseStoredPaymentProof (v : Option Json) : Option StoredProof := do
  let record ← asRecord v
  let proof : StoredProof := ⟨asString (record.lookup "raw"), asRecord (record.lookup "parsed")⟩
  if proof.raw.isNone ∧ proof.parsed.isNone then none else some proof

/-- What `isTopupQuote` and `isUpgradeQuote` both ask of a quote. -/
def isQuote (quote : Fields) : Bool :=
  (["scheme", "network", "asset", "amountUsd", "amountAtomic", "description"].all fun key =>
    (string (quote.lookup key)).isSome) &&
  ((quote.lookup "assetSymbol").isNone || (string (quote.lookup "assetSymbol")).isSome) &&
  (asRecord (quote.lookup "paymentRequired")).isSome

/-- `isTopupQuote`. -/
def isTopupQuote (quote : Fields) : Bool := isQuote quote && isNumber (quote.lookup "credits")

/-- `isUpgradeQuote`. -/
def isUpgradeQuote (quote : Fields) : Bool :=
  isQuote quote && string (quote.lookup "targetPricingTier") == some "paid_review" &&
  ((quote.lookup "includedCredits").isNone || isNumber (quote.lookup "includedCredits"))

/-- What the metadata of a receipt of this type say it pays for. -/
def parsePurchase (receiptType : ReceiptType) (record quote : Fields) : Option Purchase :=
  match receiptType with
  | .topup => do
    let creditsRequested ← asInteger (record.lookup "creditsRequested")
    if creditsRequested = 0 ∨ !isTopupQuote quote then none else some (.topup creditsRequested)
  | .upgrade =>
    let includedCredits := ((asInteger (record.lookup "includedCredits")).or
      (asInteger (quote.lookup "includedCredits"))).getD 0
    if string (record.lookup "targetPricingTier") ≠ some "paid_review" ∨ !isUpgradeQuote quote
    then none
    else some (.upgrade includedCredits)
  | .refund | .adjustment => none

/-- `parsePaymentReceiptMetadata`. -/
def parsePaymentReceiptMetadata (receiptType : ReceiptType) (value : Option Json) :
    Option ReceiptMetadata := do
  let record ← asRecord value
  let paymentProof ← parseStoredPaymentProof (record.lookup "paymentProof")
  let quote ← asRecord (record.lookup "quote")
  let purchase ← parsePurchase receiptType record quote
  some {
    purchase := purchase
    quote := quote
    paymentProof := paymentProof
    tenantDid := asString (record.lookup "tenantDid")
    confirmationMode := asConfirmationMode (record.lookup "confirmationMode")
    facilitatorVerify := record.lookup "facilitatorVerify"
    facilitatorSettle := record.lookup "facilitatorSettle"
    facilitatorStatusCode := asInteger (record.lookup "facilitatorStatusCode")
    creditLedgerEntryId := asString (record.lookup "creditLedgerEntryId")
    sendPolicyStatus := asOutboundStatus (record.lookup "sendPolicyStatus") }

/-- `TypedPaymentReceiptRecord`: a receipt and what its metadata parse to. -/
structure TypedReceipt where
  row : PaymentReceiptRow
  metadata : ReceiptMetadata
  parsed : parsePaymentReceiptMetadata row.receiptType row.metadata = some metadata

/-- `parseTypedPaymentReceipt`. -/
def parseTypedPaymentReceipt (row : PaymentReceiptRow) : Option TypedReceipt :=
  match h : parsePaymentReceiptMetadata row.receiptType row.metadata with
  | some metadata => some ⟨row, metadata, h⟩
  | none => none

/-- `buildTopupReceiptMetadata` and `buildUpgradeReceiptMetadata`. -/
def buildReceiptMetadata (purchase : Purchase) (tenantDid : Option String) (quote : Quote)
    (proof : PaymentProof) : ReceiptMetadata where
  purchase := purchase
  quote := quote.toFields
  paymentProof := ⟨some proof.raw, proof.parsed⟩
  tenantDid := tenantDid

/-- `getPaymentRequirementsFromRequired`. -/
def getPaymentRequirementsFromRequired (value : Option Json) : Option Fields := do
  let record ← asRecord value
  let accepts ← asArray (record.lookup "accepts")
  let accepted ← asRecord accepts.head?
  if (["scheme", "network", "asset", "amount", "payTo"].all fun key =>
      (string (accepted.lookup key)).isSome) ∧ isNumber (accepted.lookup "maxTimeoutSeconds")
  then some accepted else none

/-- `getReceiptPaymentRequirements`. -/
def getReceiptPaymentRequirements (m : ReceiptMetadata) : Option Fields :=
  (asRecord (m.quote.lookup "paymentRequirements")).or
    (getPaymentRequirementsFromRequired (m.quote.lookup "paymentRequired"))

/-- `getReceiptPaymentPayload`. -/
def getReceiptPaymentPayload (m : ReceiptMetadata) : Option Json :=
  (m.paymentProof.parsed.map Json.obj).or (ofString m.paymentProof.raw)

/-- `withReceiptConfirmation`. -/
def withReceiptConfirmation (m : ReceiptMetadata) (mode : ConfirmationMode)
    (verify : Option VerifyResponse) (settle : Option SettleResponse := none)
    (statusCode : Option Nat := none) (entryId : Option String := none)
    (sendPolicyStatus : Option OutboundStatus := none) : ReceiptMetadata :=
  { m with
    confirmationMode := some mode
    facilitatorStatusCode := (statusCode.map Int.ofNat).or m.facilitatorStatusCode
    facilitatorVerify := (verify.map VerifyResponse.toJson).or m.facilitatorVerify
    facilitatorSettle := (settle.map SettleResponse.toJson).or m.facilitatorSettle
    creditLedgerEntryId := entryId.or m.creditLedgerEntryId
    sendPolicyStatus := sendPolicyStatus.or m.sendPolicyStatus }

/-! ### Ledger entries -/

/-- `CreditLedgerMetadata`. -/
inductive LedgerMetadata where
  /-- `TopupSettlementLedgerMetadata`. -/
  | topup (mode : ConfirmationMode) (creditsRequested : Json) (verify settle : Option Json)
  /-- `UpgradeCreditGrantLedgerMetadata`. -/
  | upgradeGrant (mode : ConfirmationMode) (creditsGranted : Json) (verify settle : Option Json)
  /-- `OutboundUsageLedgerMetadata`; `usageType` is that of the entry type. -/
  | outboundUsage (reply : Bool) (creditsCharged : Json) (messageId outboundJobId : String)
      (draftId draftCreatedVia : Option String) (recipientDomains externalDomains : List String)

/-- The entry type of an outbound usage. -/
def usageEntryType (reply : Bool) : EntryType := if reply then .debitReply else .debitSend

/-- The entry type as it is stored in metadata. -/
def EntryType.text : EntryType → String
  | topup => "topup"
  | debitSend => "debit_send"
  | debitReply => "debit_reply"
  | refund => "refund"
  | adjustment => "adjustment"

/-- `serializeCreditLedgerMetadata`. -/
def LedgerMetadata.toJson : LedgerMetadata → Json
  | topup mode creditsRequested verify settle =>
    .obj (Draft.stored [("entryType", some (.str "topup")), ("receiptType", some (.str "topup")),
      ("confirmationMode", some (.str mode.text)), ("creditsRequested", some creditsRequested),
      ("facilitatorVerify", verify), ("facilitatorSettle", settle)])
  | upgradeGrant mode creditsGranted verify settle =>
    .obj (Draft.stored [("entryType", some (.str "adjustment")),
      ("receiptType", some (.str "upgrade")), ("confirmationMode", some (.str mode.text)),
      ("creditsGranted", some creditsGranted), ("targetPricingTier", some (.str "paid_review")),
      ("facilitatorVerify", verify), ("facilitatorSettle", settle)])
  | outboundUsage reply creditsCharged messageId outboundJobId draftId draftCreatedVia
      recipientDomains externalDomains =>
    .obj (Draft.stored [("entryType", some (.str (usageEntryType reply).text)),
      ("usageType", some (.str (if reply then "reply" else "send"))),
      ("chargeStage", some (.str "post_send")), ("creditsCharged", some creditsCharged),
      ("messageId", some (.str messageId)), ("outboundJobId", some (.str outboundJobId)),
      ("draftId", ofString draftId), ("draftCreatedVia", ofString draftCreatedVia),
      ("recipientDomains", names recipientDomains), ("externalDomains", names externalDomains)])

/-- `TypedCreditLedgerEntryRecord`: an entry and its metadata, parsed. -/
structure TypedLedgerEntry where
  row : CreditLedgerRow
  metadata : LedgerMetadata

/-- The strings of a list of values. -/
def strings (items : List Json) : List String := items.filterMap fun v => string (some v)

/-- The metadata of an entry of this type. -/
def parseLedgerMetadata (entryType : EntryType) (m : Fields) : Option LedgerMetadata :=
  let text key := string (m.lookup key)
  if text "entryType" ≠ some entryType.text then none
  else match entryType with
  | .topup => do
    let mode ← asConfirmationMode (m.lookup "confirmationMode")
    let creditsRequested ← m.lookup "creditsRequested"
    if text "receiptType" = some "topup" ∧ isNumber (some creditsRequested) then
      some (.topup mode creditsRequested (m.lookup "facilitatorVerify")
        (m.lookup "facilitatorSettle"))
    else none
  | .adjustment => do
    let mode ← asConfirmationMode (m.lookup "confirmationMode")
    let creditsGranted ← m.lookup "creditsGranted"
    if text "receiptType" = some "upgrade" ∧ isNumber (some creditsGranted) ∧
        text "targetPricingTier" = some "paid_review" then
      some (.upgradeGrant mode creditsGranted (m.lookup "facilitatorVerify")
        (m.lookup "facilitatorSettle"))
    else none
  | .debitSend | .debitReply => do
    let creditsCharged ← m.lookup "creditsCharged"
    let messageId ← text "messageId"
    let outboundJobId ← text "outboundJobId"
    let recipientDomains ← asArray (m.lookup "recipientDomains")
    let externalDomains ← asArray (m.lookup "externalDomains")
    if (text "usageType" = some "send" ∨ text "usageType" = some "reply") ∧
        text "chargeStage" = some "post_send" ∧ isNumber (some creditsCharged) then
      some (.outboundUsage (entryType == .debitReply) creditsCharged messageId outboundJobId
        (text "draftId") (text "draftCreatedVia") (strings recipientDomains)
        (strings externalDomains))
    else none
  | .refund => none

/-- `parseTypedCreditLedgerEntry`. -/
def parseTypedCreditLedgerEntry (row : CreditLedgerRow) : Option TypedLedgerEntry := do
  let record ← asRecord row.metadata
  let metadata ← parseLedgerMetadata row.entryType record
  some ⟨row, metadata⟩

/-- `isTopupSettlementLedgerEntry`. -/
def isTopupSettlementLedgerEntry (e : TypedLedgerEntry) : Bool :=
  match e.metadata with
  | .topup .. => e.row.entryType == .topup
  | _ => false

/-- `isUpgradeCreditGrantLedgerEntry`. -/
def isUpgradeCreditGrantLedgerEntry (e : TypedLedgerEntry) : Bool :=
  match e.metadata with
  | .upgradeGrant .. => e.row.entryType == .adjustment
  | _ => false

/-- `buildTopupSettlementLedgerMetadata`. -/
def buildTopupSettlementLedgerMetadata (creditsRequested : Int) (mode : ConfirmationMode)
    (verify : Option VerifyResponse) (settle : Option SettleResponse) : LedgerMetadata :=
  .topup mode (.num creditsRequested) (verify.map VerifyResponse.toJson)
    (settle.map SettleResponse.toJson)

/-- `buildUpgradeCreditGrantLedgerMetadata`. -/
def buildUpgradeCreditGrantLedgerMetadata (includedCredits : Int) (mode : ConfirmationMode)
    (verify : Option VerifyResponse) (settle : Option SettleResponse) : LedgerMetadata :=
  .upgradeGrant mode (.num includedCredits) (verify.map VerifyResponse.toJson)
    (settle.map SettleResponse.toJson)

end MailRuntime
