import MailRuntime.Payments.Metadata

/-!
# Metadata that are written parse again

A receipt's metadata are parsed, confirmed, merged into what the row holds by then, and
stored. `parse_spread` says that the result parses, whatever it was merged into, and what
it says of the purchase, the proof and the facilitator's settlement is what was written.
The typed ledger entries parse likewise.
-/

namespace MailRuntime

open Js X402

/-- The purchase and its quote are of a receipt of this type. -/
def Purchase.Fits : ReceiptType → Purchase → Fields → Prop
  | .topup, .topup credits, quote => credits ≠ 0 ∧ isTopupQuote quote = true
  | .upgrade, .upgrade _, quote => isUpgradeQuote quote = true
  | _, _, _ => False

/-- What the parser guarantees of the metadata of a receipt of this type. -/
structure ReceiptMetadata.Valid (receiptType : ReceiptType) (m : ReceiptMetadata) : Prop where
  purchase : m.purchase.Fits receiptType m.quote
  proof : m.paymentProof.raw.isSome ∨ m.paymentProof.parsed.isSome
  raw : ∀ r, m.paymentProof.raw = some r → trimmed r = some r

/-- The two metadata agree in what decides over money. -/
structure ReceiptMetadata.Agrees (m m' : ReceiptMetadata) : Prop where
  purchase : m.purchase = m'.purchase
  quote : m.quote = m'.quote
  paymentProof : m.paymentProof = m'.paymentProof
  facilitatorSettle : m.facilitatorSettle = m'.facilitatorSettle

/-- The type of a receipt for a purchase. -/
def Purchase.receiptType : Purchase → ReceiptType
  | topup _ => .topup
  | upgrade _ => .upgrade

variable {receiptType : ReceiptType} {m : ReceiptMetadata}

theorem parsePurchase_fits {record quote : Fields} {purchase : Purchase}
    (h : parsePurchase receiptType record quote = some purchase) :
    purchase.Fits receiptType quote := by
  cases receiptType with
  | topup =>
    simp only [parsePurchase, Option.bind_eq_bind, Option.bind_eq_some_iff] at h
    obtain ⟨credits, -, h⟩ := h
    split at h
    · cases h
    · next hn =>
      obtain rfl := Option.some.inj h
      push Not at hn
      exact ⟨hn.1, by simpa using hn.2⟩
  | upgrade =>
    simp only [parsePurchase] at h
    split at h
    · cases h
    · next hn =>
      obtain rfl := Option.some.inj h
      push Not at hn
      simpa [Purchase.Fits] using hn.2
  | refund => cases h
  | adjustment => cases h

/-- What is parsed is valid. -/
theorem valid_of_parse {v : Option Json}
    (h : parsePaymentReceiptMetadata receiptType v = some m) : m.Valid receiptType := by
  simp only [parsePaymentReceiptMetadata, Option.bind_eq_bind, Option.bind_eq_some_iff] at h
  obtain ⟨record, -, proof, hproof, quote, -, purchase, hpurchase, h⟩ := h
  obtain rfl := Option.some.inj h
  simp only [parseStoredPaymentProof, Option.bind_eq_bind, Option.bind_eq_some_iff] at hproof
  obtain ⟨fields, -, hproof⟩ := hproof
  split at hproof
  · cases hproof
  · next hn =>
    obtain rfl := Option.some.inj hproof
    refine ⟨parsePurchase_fits hpurchase, ?_, fun r hr => asString_eq_some hr⟩
    simp only [Option.isNone_iff_eq_none, not_and_or, ← Option.isSome_iff_ne_none] at hn
    exact hn

/-- The fields of metadata have different names. -/
theorem toDraft_nodup (m : ReceiptMetadata) : (m.toDraft.map Prod.fst).Nodup := by
  cases hp : m.purchase <;> simp [ReceiptMetadata.toDraft, hp]

theorem parseStoredPaymentProof_toDraft {fs : Fields} (hm : m.Valid receiptType) :
    parseStoredPaymentProof ((spread fs m.toDraft).stored.lookup "paymentProof") =
      some m.paymentProof := by
  have hlookup : (spread fs m.toDraft).stored.lookup "paymentProof" =
      some (.obj (Draft.stored [("raw", ofString m.paymentProof.raw),
        ("parsed", m.paymentProof.parsed.map .obj)])) := by
    refine lookup_spread (toDraft_nodup m) ?_
    cases hp : m.purchase <;> simp [ReceiptMetadata.toDraft, hp, List.lookup_cons]
  rw [hlookup]
  obtain ⟨⟨raw, parsed⟩, hproof, hraw⟩ :
      ∃ p, m.paymentProof = p ∧ ∀ r, p.raw = some r → trimmed r = some r :=
    ⟨_, rfl, hm.raw⟩
  have hsome := hm.proof
  rw [hproof] at hsome ⊢
  cases raw with
  | none =>
    cases parsed with
    | none => simp at hsome
    | some fields =>
      simp [parseStoredPaymentProof, asRecord, Draft.stored, ofString, asString, string,
        List.lookup_cons]
  | some r =>
    have hr := hraw r rfl
    cases parsed with
    | none =>
      simp [parseStoredPaymentProof, asRecord, Draft.stored, ofString, asString, string,
        List.lookup_cons, hr]
    | some fields =>
      simp [parseStoredPaymentProof, asRecord, Draft.stored, ofString, asString, string,
        List.lookup_cons, hr]

theorem parsePurchase_toDraft {fs : Fields} (hm : m.Valid receiptType) :
    parsePurchase receiptType (spread fs m.toDraft).stored m.quote = some m.purchase := by
  have hnodup := toDraft_nodup m
  have hvalid := hm.purchase
  rcases hp : m.purchase with credits | included
  · cases receiptType <;> simp only [hp, Purchase.Fits] at hvalid
    have hcredits : (spread fs m.toDraft).stored.lookup "creditsRequested" =
        some (.num credits) :=
      lookup_spread hnodup (by simp [ReceiptMetadata.toDraft, hp, List.lookup_cons])
    simp [parsePurchase, hcredits, asInteger, hvalid]
  · cases receiptType <;> simp only [hp, Purchase.Fits] at hvalid
    have hincluded : (spread fs m.toDraft).stored.lookup "includedCredits" =
        some (.num included) :=
      lookup_spread hnodup (by simp [ReceiptMetadata.toDraft, hp, List.lookup_cons])
    have htier : (spread fs m.toDraft).stored.lookup "targetPricingTier" =
        some (.str "paid_review") :=
      lookup_spread hnodup (by simp [ReceiptMetadata.toDraft, hp, List.lookup_cons])
    simp [parsePurchase, hincluded, htier, asInteger, string, hvalid]

/-- **Metadata that are written parse again**, whatever they are merged into, and agree with
what was written. -/
theorem parse_spread (fs : Fields) (hm : m.Valid receiptType) :
    ∃ m', parsePaymentReceiptMetadata receiptType (some (.obj (spread fs m.toDraft).stored)) =
      some m' ∧ m'.Agrees m := by
  have hnodup := toDraft_nodup m
  have hquote : (spread fs m.toDraft).stored.lookup "quote" = some (.obj m.quote) :=
    lookup_spread hnodup (by
      cases hp : m.purchase <;> simp [ReceiptMetadata.toDraft, hp, List.lookup_cons])
  have hsettle : (spread fs m.toDraft).stored.lookup "facilitatorSettle" = m.facilitatorSettle :=
    lookup_spread hnodup (by
      cases hp : m.purchase <;> simp [ReceiptMetadata.toDraft, hp, List.lookup_cons])
  simp only [parsePaymentReceiptMetadata, asRecord, Option.bind_eq_bind, Option.bind_some,
    parseStoredPaymentProof_toDraft hm, hquote, parsePurchase_toDraft hm]
  exact ⟨_, rfl, rfl, rfl, rfl, hsettle⟩

theorem ReceiptMetadata.Agrees.symm {m m' : ReceiptMetadata} (h : m.Agrees m') : m'.Agrees m :=
  ⟨h.1.symm, h.2.symm, h.3.symm, h.4.symm⟩

/-- A confirmation leaves metadata valid. -/
theorem ReceiptMetadata.Valid.confirmed {mode : ConfirmationMode}
    {verify : Option VerifyResponse} {settle : Option SettleResponse} {statusCode : Option Nat}
    {entryId : Option String} {sendPolicyStatus : Option OutboundStatus}
    (hm : m.Valid receiptType) :
    (withReceiptConfirmation m mode verify settle statusCode entryId sendPolicyStatus).Valid
      receiptType := ⟨hm.purchase, hm.proof, hm.raw⟩

/-- Writing the credits of an upgrade into its quote leaves metadata valid. -/
theorem ReceiptMetadata.Valid.normalizedQuote {included : Int} (hm : m.Valid receiptType)
    (hp : m.purchase = .upgrade included) :
    isUpgradeQuote (spread m.quote [("includedCredits", some (.num included))]).stored = true := by
  have hvalid := hm.purchase
  cases receiptType <;> simp only [hp, Purchase.Fits] at hvalid
  have hkeep : ∀ key, key ≠ "includedCredits" →
      (spread m.quote [("includedCredits", some (.num included))]).stored.lookup key =
        m.quote.lookup key := fun key hkey =>
    lookup_spread_of_not_mem (by simpa using hkey)
  have hset : (spread m.quote [("includedCredits", some (.num included))]).stored.lookup
      "includedCredits" = some (.num included) :=
    lookup_spread (by simp) (by simp)
  simp only [isUpgradeQuote, isQuote, Bool.and_eq_true] at hvalid ⊢
  obtain ⟨⟨hquote, htier⟩, -⟩ := hvalid
  refine ⟨⟨?_, ?_⟩, ?_⟩
  · simpa [hkeep] using hquote
  · simpa [hkeep] using htier
  · simp [hset, isNumber]

/-! ### New metadata -/

/-- The quote is for the purchase. -/
def X402.Quote.For (quote : Quote) : Purchase → Prop
  | .topup credits => credits ≠ 0 ∧ quote.quoteFor = .topup credits
  | .upgrade credits => quote.quoteFor = .upgrade credits

theorem isQuote_toFields (quote : Quote) : isQuote quote.toFields = true := by
  cases h : quote.quoteFor <;>
    simp [isQuote, Quote.toFields, h, List.lookup_cons, string, asRecord]

/-- The metadata of a new receipt are valid. -/
theorem buildReceiptMetadata_valid {purchase : Purchase} {tenantDid : Option String}
    {quote : Quote} {proof : PaymentProof} (hquote : quote.For purchase)
    (hraw : trimmed proof.raw = some proof.raw) :
    (buildReceiptMetadata purchase tenantDid quote proof).Valid purchase.receiptType := by
  refine ⟨?_, .inl rfl, fun r hr => ?_⟩
  · cases purchase with
    | topup credits =>
      refine ⟨hquote.1, ?_⟩
      rw [isTopupQuote, buildReceiptMetadata, isQuote_toFields, Bool.true_and]
      simp [Quote.toFields, hquote.2, List.lookup_cons, isNumber]
    | upgrade credits =>
      show isUpgradeQuote quote.toFields = true
      rw [isUpgradeQuote, isQuote_toFields, Bool.true_and]
      have hfor : quote.quoteFor = .upgrade credits := hquote
      simp [Quote.toFields, hfor, List.lookup_cons, isNumber, string]
  · obtain rfl := Option.some.inj hr
    exact hraw

theorem raw_of_parseX402PaymentProof {env : Env} {header : Option String} {proof : PaymentProof}
    (h : parseX402PaymentProof env header = some proof) : trimmed proof.raw = some proof.raw := by
  obtain ⟨raw, hraw, rfl⟩ := Option.map_eq_some_iff.1 h
  obtain ⟨header, -, hheader⟩ := Option.bind_eq_some_iff.1 hraw
  exact trimmed_of_trimmed hheader

/-! ### The facilitator's answers -/

/-- The stored answer says that the payment is settled. -/
def X402.SettleResponse.reports (r : SettleResponse) : Bool :=
  (parseStoredX402SettlementResponse (some r.toJson)).any SettleResponse.settled

/-- The answer names its scheme and its network. -/
def X402.SettleResponse.Named (r : SettleResponse) : Prop :=
  ∃ scheme network, r.scheme = some (.str scheme) ∧ r.network = some (.str network)

/-- An answer that names its scheme and its network is stored as what it says. -/
theorem X402.SettleResponse.Named.reports {r : SettleResponse} (h : r.Named) :
    r.reports = r.settled := by
  obtain ⟨scheme, network, hscheme, hnetwork⟩ := h
  obtain ⟨settled, rscheme, rnetwork, asset, amount, error, reference, hash, raw⟩ := r
  simp only at hscheme hnetwork
  subst hscheme hnetwork
  simp only [SettleResponse.reports, parseStoredX402SettlementResponse, SettleResponse.toJson,
    asRecord, Option.bind_eq_bind, Option.bind_some]
  have hlookup := lookup_stored (d := [("type", some (.str "settle")),
    ("settled", some (.bool settled)), ("scheme", some (.str scheme)),
    ("network", some (.str network)), ("asset", asset), ("amount", amount),
    ("error", ofString error), ("settlementReference", ofString reference),
    ("transactionHash", ofString hash), ("raw", raw.map .obj)]) (by simp)
  simp only [hlookup, List.lookup_cons]
  cases settled <;> cases herror : asString (some (ofString error)).join <;>
    simp_all [string, asBool]

/-- What a stored answer parses to is named. -/
theorem named_of_parseStored {v : Option Json} {r : SettleResponse}
    (h : parseStoredX402SettlementResponse v = some r) : r.Named := by
  simp only [parseStoredX402SettlementResponse, Option.bind_eq_bind, Option.bind_eq_some_iff] at h
  obtain ⟨data, -, scheme, -, network, -, h⟩ := h
  split at h
  · cases h
  · simp only [Option.bind_eq_some_iff] at h
    obtain ⟨settled, -, h⟩ := h
    split at h
    · obtain rfl := Option.some.inj h
      exact ⟨scheme, network, rfl, rfl⟩
    · simp only [Option.bind_eq_some_iff] at h
      obtain ⟨error, -, h⟩ := h
      obtain rfl := Option.some.inj h
      exact ⟨scheme, network, rfl, rfl⟩

/-! ### Ledger entries -/

@[simp] theorem asConfirmationMode_text (mode : ConfirmationMode) :
    asConfirmationMode (some (.str mode.text)) = some mode := by cases mode <;> rfl

/-- The metadata of a topup's entry parse to a topup's entry. -/
theorem parse_topup_entry {row : CreditLedgerRow} {credits : Int} {mode : ConfirmationMode}
    {verify : Option VerifyResponse} {settle : Option SettleResponse}
    (hrow : row.metadata =
      some (buildTopupSettlementLedgerMetadata credits mode verify settle).toJson)
    (htype : row.entryType = .topup) :
    ∃ e, parseTypedCreditLedgerEntry row = some e ∧ e.row = row ∧
      isTopupSettlementLedgerEntry e = true := by
  refine ⟨⟨row, .topup mode (.num credits) (verify.map VerifyResponse.toJson)
    (settle.map SettleResponse.toJson)⟩, ?_, rfl, by simp [isTopupSettlementLedgerEntry, htype]⟩
  cases verify <;> cases settle <;>
    simp [parseTypedCreditLedgerEntry, hrow, htype, buildTopupSettlementLedgerMetadata,
      LedgerMetadata.toJson, Draft.stored, asRecord, parseLedgerMetadata, List.lookup_cons,
      string, EntryType.text, isNumber]

/-- The metadata of an upgrade's entry parse to an upgrade's entry. -/
theorem parse_upgrade_entry {row : CreditLedgerRow} {credits : Int} {mode : ConfirmationMode}
    {verify : Option VerifyResponse} {settle : Option SettleResponse}
    (hrow : row.metadata =
      some (buildUpgradeCreditGrantLedgerMetadata credits mode verify settle).toJson)
    (htype : row.entryType = .adjustment) :
    ∃ e, parseTypedCreditLedgerEntry row = some e ∧ e.row = row ∧
      isUpgradeCreditGrantLedgerEntry e = true := by
  refine ⟨⟨row, .upgradeGrant mode (.num credits) (verify.map VerifyResponse.toJson)
    (settle.map SettleResponse.toJson)⟩, ?_, rfl,
    by simp [isUpgradeCreditGrantLedgerEntry, htype]⟩
  cases verify <;> cases settle <;>
    simp [parseTypedCreditLedgerEntry, hrow, htype, buildUpgradeCreditGrantLedgerMetadata,
      LedgerMetadata.toJson, Draft.stored, asRecord, parseLedgerMetadata, List.lookup_cons,
      string, EntryType.text, isNumber]

/-- The metadata of a send's entry parse. -/
theorem parse_usage_entry (row : CreditLedgerRow) {reply : Bool} {credits : Int}
    {messageId outboundJobId : String} {draftId createdVia : Option String}
    {recipientDomains externalDomains : List String}
    (hrow : row.metadata = some (LedgerMetadata.outboundUsage reply (.num credits) messageId
      outboundJobId draftId createdVia recipientDomains externalDomains).toJson)
    (htype : row.entryType = usageEntryType reply) :
    ∃ e, parseTypedCreditLedgerEntry row = some e ∧ e.row = row := by
  cases reply <;> cases draftId <;> cases createdVia <;>
    simp [parseTypedCreditLedgerEntry, hrow, htype, LedgerMetadata.toJson, Draft.stored, asRecord,
      parseLedgerMetadata, List.lookup_cons, string, EntryType.text, isNumber, usageEntryType,
      ofString, names, asArray]

end MailRuntime
