import MailRuntime.Payments.RoundTrip
import MailRuntime.Outbound.Billing
import MailRuntime.Js.Infinities

/-!
# Metadata read back from their JSON text

The metadata columns hold JSON text. What a builder made, and what a confirmation makes of it
and merges into what the row holds, reads back as the same metadata, however often. One thing
is lost on the way: a number of the client's proof or of the facilitator's answer that is too
large for a double is infinite in memory and `null` in the text.
-/

namespace MailRuntime

open Js X402

/-! ### Metadata as the text has them -/

/-- The metadata with `null` for infinite numbers. -/
def ReceiptMetadata.asStored (m : ReceiptMetadata) : ReceiptMetadata :=
  { m with
    quote := finiteFields m.quote
    paymentProof := ⟨m.paymentProof.raw, m.paymentProof.parsed.map finiteFields⟩
    facilitatorVerify := m.facilitatorVerify.map finite
    facilitatorSettle := m.facilitatorSettle.map finite }

/-- The metadata with `null` for infinite numbers. -/
def LedgerMetadata.asStored : LedgerMetadata → LedgerMetadata
  | topup mode creditsRequested verify settle =>
    .topup mode (finite creditsRequested) (verify.map finite) (settle.map finite)
  | upgradeGrant mode creditsGranted verify settle =>
    .upgradeGrant mode (finite creditsGranted) (verify.map finite) (settle.map finite)
  | outboundUsage reply creditsCharged messageId outboundJobId draftId draftCreatedVia
      recipientDomains externalDomains =>
    .outboundUsage reply (finite creditsCharged) messageId outboundJobId draftId draftCreatedVia
      recipientDomains externalDomains

/-- The input of `withReceiptConfirmation`. -/
structure ReceiptConfirmation where
  mode : ConfirmationMode
  statusCode : Option Nat := none
  verify : Option VerifyResponse := none
  settle : Option SettleResponse := none
  entryId : Option String := none
  sendPolicyStatus : Option OutboundStatus := none

/-- `withReceiptConfirmation(metadata, input)`. -/
def ReceiptMetadata.confirm (m : ReceiptMetadata) (c : ReceiptConfirmation) : ReceiptMetadata :=
  withReceiptConfirmation m c.mode c.verify c.settle c.statusCode c.entryId c.sendPolicyStatus

/-! ### What the callers supply -/

/-- The string is absent, or neither blank nor in need of trimming. -/
def AbsentOrTrimmed (s : Option String) : Prop := ∀ t, s = some t → trimmed t = some t

/-- The object, if there is one, is such as JavaScript has in memory. -/
def AbsentOrProper (v : Option Json) : Prop := ∀ w, v = some w → Proper (finite w)

/-- A confirmation that a caller can give. -/
structure ReceiptConfirmation.Given (c : ReceiptConfirmation) : Prop where
  verify : AbsentOrProper (c.verify.map VerifyResponse.toJson)
  settle : AbsentOrProper (c.settle.map SettleResponse.toJson)
  entryId : AbsentOrTrimmed c.entryId

/-- The metadata of receipts of this type that the callers come to have: those they build,
those they confirm, and those they read. -/
inductive ReceiptMetadata.Supplied : ReceiptType → ReceiptMetadata → Prop where
  | built {purchase : Purchase} {tenantDid : Option String} {quote : Quote} {proof : PaymentProof}
      (hquote : quote.For purchase) (hdid : AbsentOrTrimmed tenantDid)
      (hraw : trimmed proof.raw = some proof.raw)
      (hproper : Proper (finite (.obj quote.toFields)))
      (hparsed : AbsentOrProper (proof.parsed.map .obj)) :
      Supplied purchase.receiptType (buildReceiptMetadata purchase tenantDid quote proof)
  | confirmed {receiptType : ReceiptType} {m : ReceiptMetadata} {c : ReceiptConfirmation}
      (h : Supplied receiptType m) (hc : c.Given) : Supplied receiptType (m.confirm c)
  | read {receiptType : ReceiptType} {m : ReceiptMetadata} (h : Supplied receiptType m) :
      Supplied receiptType m.asStored

/-- The row of a receipt of this type holds `fields`, which were last written of `m`: when the
receipt was created, or by the shallow merge of `updateTenantPaymentReceiptStatus`. -/
inductive ReceiptMetadata.Recorded : ReceiptType → Fields → ReceiptMetadata → Prop where
  | created {receiptType : ReceiptType} {m : ReceiptMetadata} {fields : Fields}
      (h : Supplied receiptType m)
      (hread : parse (written (.obj m.toDraft.stored)) = some (.obj fields)) :
      Recorded receiptType fields m
  | merged {receiptType : ReceiptType} {m₀ m : ReceiptMetadata} {before fields : Fields}
      {c : ReceiptConfirmation} (h₀ : Recorded receiptType before m₀)
      (h : Supplied receiptType m) (hc : c.Given)
      (hread : parse (written (.obj (spread before (m.confirm c).toDraft).stored)) =
        some (.obj fields)) :
      Recorded receiptType fields (m.confirm c)

/-- The metadata of ledger entries of this type that the callers build. -/
inductive LedgerMetadata.Built : EntryType → LedgerMetadata → Prop where
  | topup {credits : Int} {mode : ConfirmationMode} {verify : Option VerifyResponse}
      {settle : Option SettleResponse} (hcredits : 0 < credits)
      (hverify : AbsentOrProper (verify.map VerifyResponse.toJson))
      (hsettle : AbsentOrProper (settle.map SettleResponse.toJson)) :
      Built .topup (buildTopupSettlementLedgerMetadata credits mode verify settle)
  | upgradeGrant {credits : Int} {mode : ConfirmationMode} {verify : Option VerifyResponse}
      {settle : Option SettleResponse} (hcredits : 0 < credits)
      (hverify : AbsentOrProper (verify.map VerifyResponse.toJson))
      (hsettle : AbsentOrProper (settle.map SettleResponse.toJson)) :
      Built .adjustment (buildUpgradeCreditGrantLedgerMetadata credits mode verify settle)
  | outboundUsage {input : UsageInput} {requirement : CreditRequirement}
      (hcredits : 0 < requirement.creditsRequired) :
      Built (usageEntryType requirement.reply) (buildOutboundUsageLedgerMetadata input requirement)

/-! ### Drafts as the text has them -/

/-- The fields of metadata that depend on the type of the receipt. -/
def Purchase.toDraft : Purchase → Draft
  | .topup creditsRequested =>
    [("receiptType", some (.str "topup")), ("creditsRequested", some (.num creditsRequested))]
  | .upgrade includedCredits =>
    [("receiptType", some (.str "upgrade")), ("targetPricingTier", some (.str "paid_review")),
      ("includedCredits", some (.num includedCredits))]

/-- The payment proof as it is stored. -/
def StoredProof.toDraft (p : StoredProof) : Draft :=
  [("raw", ofString p.raw), ("parsed", p.parsed.map .obj)]

/-- The fields that the metadata of all receipts have. -/
def ReceiptMetadata.commonDraft (m : ReceiptMetadata) : Draft :=
  [("tenantDid", ofString m.tenantDid),
    ("quote", some (.obj m.quote)),
    ("paymentProof", some (.obj m.paymentProof.toDraft.stored)),
    ("confirmationMode", ofString (m.confirmationMode.map ConfirmationMode.text)),
    ("facilitatorVerify", m.facilitatorVerify),
    ("facilitatorSettle", m.facilitatorSettle),
    ("facilitatorStatusCode", m.facilitatorStatusCode.map .num),
    ("creditLedgerEntryId", ofString m.creditLedgerEntryId),
    ("sendPolicyStatus", ofString (m.sendPolicyStatus.map OutboundStatus.text))]

theorem toDraft_eq (m : ReceiptMetadata) : m.toDraft = m.purchase.toDraft ++ m.commonDraft := by
  unfold ReceiptMetadata.toDraft
  cases m.purchase <;> rfl

theorem toDraft_asStored (m : ReceiptMetadata) : m.asStored.toDraft = Draft.finite m.toDraft := by
  obtain ⟨purchase, quote, ⟨raw, parsed⟩, did, mode, verify, settle, code, entry, status⟩ := m
  cases purchase <;> cases raw <;> cases parsed <;> cases did <;> cases mode <;> cases code <;>
    cases entry <;> cases status <;> rfl

/-- An object is such as JSON text says it when its keys are distinct and its values are. -/
theorem proper_obj {fields : Fields} (hkeys : (fields.map Prod.fst).Nodup)
    (hvalues : ∀ p ∈ fields, Proper p.2) : Proper (.obj fields) := by
  unfold Proper
  exact ⟨hkeys, (properFields_iff fields).2 hvalues⟩

theorem keys_stored_sublist (d : Draft) :
    List.Sublist (d.stored.map Prod.fst) (d.map Prod.fst) := by
  induction d with
  | nil => exact .slnil
  | cons p d ih =>
    obtain ⟨key, value⟩ := p
    cases value with
    | none => exact ih.cons key
    | some value => exact ih.cons_cons key

theorem mem_stored {d : Draft} {p : String × Json} (h : p ∈ d.stored) : (p.1, some p.2) ∈ d := by
  obtain ⟨q, hq, hqp⟩ := List.mem_filterMap.1 h
  obtain ⟨v, hv, rfl⟩ := Option.map_eq_some_iff.1 hqp
  have hpair : q = (q.1, some v) := Prod.ext rfl hv
  rwa [hpair] at hq

theorem proper_stored {d : Draft} (hkeys : (d.map Prod.fst).Nodup)
    (hvalues : ∀ p ∈ d, ∀ v, p.2 = some v → Proper v) : Proper (.obj d.stored) := by
  apply proper_obj
  · exact hkeys.sublist (keys_stored_sublist d)
  · intro p hp
    exact hvalues _ (mem_stored hp) p.2 rfl

/-- What is spread over an object is an object with distinct keys again. -/
theorem proper_spread {fs : Fields} {d : Draft} (hfs : Proper (.obj fs))
    (hd : Proper (.obj d.stored)) : Proper (.obj (spread fs d).stored) := by
  obtain ⟨hbefore, hvalues⟩ : (fs.map Prod.fst).Nodup ∧ ProperFields fs := by
    simpa only [Proper] using hfs
  obtain ⟨hnew, hnewValues⟩ : (d.stored.map Prod.fst).Nodup ∧ ProperFields d.stored := by
    simpa only [Proper] using hd
  rw [stored_spread]
  apply proper_obj
  · rw [List.map_append, List.nodup_append]
    refine ⟨hbefore.sublist (List.filter_sublist.map _), hnew, ?_⟩
    rintro key hkept _ hwritten rfl
    obtain ⟨p, hp, rfl⟩ := List.mem_map.1 hkept
    obtain ⟨q, hq, hqp⟩ := List.mem_map.1 ((keys_stored_sublist d).subset hwritten)
    have hnot := (List.mem_filter.1 hp).2
    simp only [Bool.not_eq_true', List.any_eq_false, beq_iff_eq] at hnot
    exact hnot q hq hqp
  · intro p hp
    obtain hp | hp := List.mem_append.1 hp
    · exact (properFields_iff fs).1 hvalues p (List.mem_filter.1 hp).1
    · exact (properFields_iff _).1 hnewValues p hp

/-! ### Receipts -/

/-- What holds of all metadata that the callers come to have. -/
structure ReceiptMetadata.Storable (receiptType : ReceiptType) (m : ReceiptMetadata) : Prop where
  valid : m.asStored.Valid receiptType
  tenantDid : AbsentOrTrimmed m.tenantDid
  entryId : AbsentOrTrimmed m.creditLedgerEntryId
  quote : Proper (finite (.obj m.quote))
  parsed : AbsentOrProper (m.paymentProof.parsed.map .obj)
  verify : AbsentOrProper m.facilitatorVerify
  settle : AbsentOrProper m.facilitatorSettle

theorem isQuote_finiteFields (quote : Quote) : isQuote (finiteFields quote.toFields) = true := by
  cases h : quote.quoteFor <;>
    simp [isQuote, Quote.toFields, h, finiteFields, finite, List.lookup_cons, string, asRecord]

/-- The metadata of a new receipt are valid once they are written. -/
theorem valid_asStored_built {purchase : Purchase} {tenantDid : Option String} {quote : Quote}
    {proof : PaymentProof} (hquote : quote.For purchase)
    (hraw : trimmed proof.raw = some proof.raw) :
    (buildReceiptMetadata purchase tenantDid quote proof).asStored.Valid
      purchase.receiptType := by
  refine ⟨?_, .inl rfl, ?_⟩
  · cases purchase with
    | topup credits =>
      refine ⟨hquote.1, ?_⟩
      show isTopupQuote (finiteFields quote.toFields) = true
      rw [isTopupQuote, isQuote_finiteFields, Bool.true_and]
      simp [Quote.toFields, hquote.2, finiteFields, finite, List.lookup_cons, isNumber]
    | upgrade credits =>
      show isUpgradeQuote (finiteFields quote.toFields) = true
      have hfor : quote.quoteFor = .upgrade credits := hquote
      rw [isUpgradeQuote, isQuote_finiteFields, Bool.true_and]
      simp [Quote.toFields, hfor, finiteFields, finite, List.lookup_cons, isNumber, string]
  · intro r hr
    obtain rfl := Option.some.inj hr
    exact hraw

theorem absentOrProper_or {v w : Option Json} (hv : AbsentOrProper v) (hw : AbsentOrProper w) :
    AbsentOrProper (v.or w) := by
  cases v with
  | none => exact hw
  | some x => exact hv

theorem absentOrTrimmed_or {s t : Option String} (hs : AbsentOrTrimmed s)
    (ht : AbsentOrTrimmed t) : AbsentOrTrimmed (s.or t) := by
  cases s with
  | none => exact ht
  | some x => exact hs

theorem absentOrProper_finite {v : Option Json} (hv : AbsentOrProper v) :
    AbsentOrProper (v.map finite) := by
  intro w hw
  obtain ⟨x, hx, rfl⟩ := Option.map_eq_some_iff.1 hw
  rw [finite_finite]
  exact hv x hx

theorem asStored_asStored (m : ReceiptMetadata) : m.asStored.asStored = m.asStored := by
  simp [ReceiptMetadata.asStored, Function.comp_def]

/-- Building, confirming and reading keep metadata storable. -/
theorem ReceiptMetadata.Supplied.storable {receiptType : ReceiptType} {m : ReceiptMetadata}
    (h : m.Supplied receiptType) : m.Storable receiptType := by
  induction h with
  | built hquote hdid hraw hproper hparsed =>
    exact ⟨valid_asStored_built hquote hraw, hdid, nofun, hproper, hparsed, nofun, nofun⟩
  | confirmed h hc ih =>
    constructor
    · exact ⟨ih.valid.purchase, ih.valid.proof, ih.valid.raw⟩
    · exact ih.tenantDid
    · exact absentOrTrimmed_or hc.entryId ih.entryId
    · exact ih.quote
    · exact ih.parsed
    · exact absentOrProper_or hc.verify ih.verify
    · exact absentOrProper_or hc.settle ih.settle
  | @read receiptType m h ih =>
    have hquote : finite (.obj m.asStored.quote) = finite (.obj m.quote) := by
      simp [ReceiptMetadata.asStored, finite]
    have hparsed : m.asStored.paymentProof.parsed.map Json.obj =
        (m.paymentProof.parsed.map Json.obj).map finite := by
      cases hp : m.paymentProof.parsed <;> simp [ReceiptMetadata.asStored, hp, finite]
    constructor
    · rw [asStored_asStored]
      exact ih.valid
    · exact ih.tenantDid
    · exact ih.entryId
    · rw [hquote]
      exact ih.quote
    · rw [hparsed]
      exact absentOrProper_finite ih.parsed
    · exact absentOrProper_finite ih.verify
    · exact absentOrProper_finite ih.settle

/-- What is written of metadata is such as JSON text says it. -/
theorem ReceiptMetadata.Storable.proper {receiptType : ReceiptType} {m : ReceiptMetadata}
    (h : m.Storable receiptType) : Proper (.obj m.asStored.toDraft.stored) := by
  have hstring : ∀ (s : Option String) (v : Json), ofString s = some v → Proper v := by
    intro s v hv
    obtain ⟨t, -, rfl⟩ := Option.map_eq_some_iff.1 hv
    trivial
  have hnumber : ∀ (n : Option Int) (v : Json), n.map Json.num = some v → Proper v := by
    intro n v hv
    obtain ⟨t, -, rfl⟩ := Option.map_eq_some_iff.1 hv
    trivial
  have hfinite : ∀ {w : Option Json}, AbsentOrProper w → ∀ v, w.map finite = some v → Proper v := by
    intro w hw v hv
    obtain ⟨x, hx, rfl⟩ := Option.map_eq_some_iff.1 hv
    exact hw x hx
  have hproof : Proper (.obj m.asStored.paymentProof.toDraft.stored) := by
    apply proper_stored (by simp [StoredProof.toDraft])
    simp only [StoredProof.toDraft, List.forall_mem_cons, List.not_mem_nil, false_imp_iff,
      implies_true, and_true]
    refine ⟨hstring _, ?_⟩
    intro v hv
    apply hfinite h.parsed
    rw [← hv]
    simp [ReceiptMetadata.asStored, Function.comp_def, finite]
  have hpurchase : ∀ p ∈ m.asStored.purchase.toDraft, ∀ v, p.2 = some v → Proper v := by
    cases m.asStored.purchase <;> simp [Purchase.toDraft, Proper]
  have hcommon : ∀ p ∈ m.asStored.commonDraft, ∀ v, p.2 = some v → Proper v := by
    simp only [ReceiptMetadata.commonDraft, List.forall_mem_cons, List.not_mem_nil, false_imp_iff,
      implies_true, and_true]
    refine ⟨hstring _, ?_, ?_, hstring _, hfinite h.verify, hfinite h.settle, hnumber _, hstring _,
      hstring _⟩
    · rintro _ ⟨⟩
      exact h.quote
    · rintro _ ⟨⟩
      exact hproof
  apply proper_stored (toDraft_nodup _)
  rw [toDraft_eq]
  intro p hp
  obtain hp | hp := List.mem_append.1 hp
  · exact hpurchase p hp
  · exact hcommon p hp

@[simp] theorem asOutboundStatus_text (status : OutboundStatus) :
    asOutboundStatus (some (.str status.text)) = some status := by
  cases status <;> rfl

/-- A field that all metadata have reads back, whatever was there before. -/
theorem lookup_spread_common (fs : Fields) (m : ReceiptMetadata) {key : String} {v : Option Json}
    (hkey : key ∉ m.purchase.toDraft.map Prod.fst) (hv : m.commonDraft.lookup key = some v) :
    (spread fs m.toDraft).stored.lookup key = v := by
  have hnone : m.purchase.toDraft.lookup key = none := by
    rw [List.lookup_eq_none_iff]
    intro p hp
    have hne : key ≠ p.1 := fun h => hkey (h ▸ List.mem_map_of_mem hp)
    simpa using hne
  apply lookup_spread (toDraft_nodup m)
  rw [toDraft_eq, List.lookup_append, hnone, Option.none_or]
  exact hv

theorem asString_ofString {s : Option String} (h : AbsentOrTrimmed s) :
    asString (ofString s) = s := by
  cases s with
  | none => rfl
  | some t => exact h t rfl

/-- Valid metadata read back as they are, whatever they were merged into. -/
theorem parse_spread_eq {receiptType : ReceiptType} {m : ReceiptMetadata} (fs : Fields)
    (hm : m.Valid receiptType) (hdid : AbsentOrTrimmed m.tenantDid)
    (hentry : AbsentOrTrimmed m.creditLedgerEntryId) :
    parsePaymentReceiptMetadata receiptType (some (.obj (spread fs m.toDraft).stored)) =
      some m := by
  have hnew : ∀ key, key ∉ ["receiptType", "creditsRequested", "targetPricingTier",
      "includedCredits"] → key ∉ m.purchase.toDraft.map Prod.fst := by
    intro key hkey
    cases m.purchase <;> simp_all [Purchase.toDraft]
  have hquote := lookup_spread_common fs m (hnew "quote" (by decide)) rfl
  have htenant := lookup_spread_common fs m (hnew "tenantDid" (by decide)) rfl
  have hmode := lookup_spread_common fs m (hnew "confirmationMode" (by decide)) rfl
  have hverify := lookup_spread_common fs m (hnew "facilitatorVerify" (by decide)) rfl
  have hsettle := lookup_spread_common fs m (hnew "facilitatorSettle" (by decide)) rfl
  have hcode := lookup_spread_common fs m (hnew "facilitatorStatusCode" (by decide)) rfl
  have hid := lookup_spread_common fs m (hnew "creditLedgerEntryId" (by decide)) rfl
  have hstatus := lookup_spread_common fs m (hnew "sendPolicyStatus" (by decide)) rfl
  have hreadMode : asConfirmationMode (ofString (m.confirmationMode.map ConfirmationMode.text)) =
      m.confirmationMode := by
    cases m.confirmationMode with
    | none => rfl
    | some mode => exact asConfirmationMode_text mode
  have hreadStatus : asOutboundStatus (ofString (m.sendPolicyStatus.map OutboundStatus.text)) =
      m.sendPolicyStatus := by
    cases m.sendPolicyStatus with
    | none => rfl
    | some status => exact asOutboundStatus_text status
  have hreadCode : asInteger (m.facilitatorStatusCode.map .num) = m.facilitatorStatusCode := by
    cases m.facilitatorStatusCode <;> rfl
  simp only [parsePaymentReceiptMetadata, asRecord, Option.bind_eq_bind, Option.bind_some,
    parseStoredPaymentProof_toDraft hm, hquote, parsePurchase_toDraft hm, htenant, hmode, hverify,
    hsettle, hcode, hid, hstatus, hreadMode, hreadStatus, hreadCode, asString_ofString hdid,
    asString_ofString hentry]

/-- What is merged into a row is such as JSON text says it. -/
theorem ReceiptMetadata.Storable.proper_spread {receiptType : ReceiptType} {m : ReceiptMetadata}
    (h : m.Storable receiptType) {fs : Fields} (hfs : Proper (.obj (finiteFields fs))) :
    Proper (finite (.obj (spread fs m.toDraft).stored)) := by
  show Proper (.obj (finiteFields (spread fs m.toDraft).stored))
  rw [finiteFields_spread, ← toDraft_asStored]
  exact MailRuntime.proper_spread hfs h.proper

/-- What is merged into a row can be read. -/
theorem ReceiptMetadata.Storable.exists_read {receiptType : ReceiptType} {m : ReceiptMetadata}
    (h : m.Storable receiptType) {fs : Fields} (hfs : Proper (.obj (finiteFields fs))) :
    ∃ fields, parse (written (.obj (spread fs m.toDraft).stored)) = some (.obj fields) :=
  ⟨finiteFields (spread fs m.toDraft).stored, parse_written (h.proper_spread hfs)⟩

/-- Storable metadata read back as they are stored, whatever they were merged into. -/
theorem ReceiptMetadata.Storable.read {receiptType : ReceiptType} {m : ReceiptMetadata}
    (h : m.Storable receiptType) {fs fields : Fields} (hfs : Proper (.obj (finiteFields fs)))
    (hread : parse (written (.obj (spread fs m.toDraft).stored)) = some (.obj fields)) :
    Proper (.obj (finiteFields fields)) ∧
      parsePaymentReceiptMetadata receiptType (some (.obj fields)) = some m.asStored := by
  have hproper := h.proper_spread hfs
  rw [parse_written hproper] at hread
  obtain rfl : finiteFields (spread fs m.toDraft).stored = fields :=
    Json.obj.inj (Option.some.inj hread)
  constructor
  · rw [finiteFields_finiteFields]
    exact hproper
  · rw [finiteFields_spread, ← toDraft_asStored]
    exact parse_spread_eq _ h.valid h.tenantDid h.entryId

/-- Metadata that are created are merged into nothing. -/
theorem spread_nil (d : Draft) : (spread [] d).stored = d.stored := by
  rw [stored_spread]
  rfl

theorem proper_nil : Proper (.obj (finiteFields [])) := by
  simp [finiteFields, Proper, ProperFields]

/-- What a row holds parses to what was last written of it, after any number of merges. -/
theorem ReceiptMetadata.Recorded.read {receiptType : ReceiptType} {m : ReceiptMetadata}
    {fields : Fields} (h : Recorded receiptType fields m) :
    Proper (.obj (finiteFields fields)) ∧
      parsePaymentReceiptMetadata receiptType (some (.obj fields)) = some m.asStored := by
  induction h with
  | created h hread =>
    rw [← spread_nil] at hread
    exact h.storable.read proper_nil hread
  | merged h₀ h hc hread ih => exact (h.confirmed hc).storable.read ih.1 hread

/-! ### Ledger entries -/

/-- A draft reads back as it is stored. -/
theorem parse_written_stored {d : Draft} (hkeys : (d.map Prod.fst).Nodup)
    (hvalues : ∀ p ∈ d, AbsentOrProper p.2) :
    parse (written (.obj d.stored)) = some (.obj (Draft.finite d).stored) := by
  rw [← finiteFields_stored]
  apply parse_written
  show Proper (.obj (finiteFields d.stored))
  rw [finiteFields_stored]
  apply proper_stored
  · rwa [Draft.keys_finite]
  · intro p hp v hv
    obtain ⟨q, hq, rfl⟩ := List.mem_map.1 hp
    obtain ⟨w, hw, rfl⟩ := Option.map_eq_some_iff.1 hv
    exact hvalues q hq w hw

theorem absentOrProper_str (s : String) : AbsentOrProper (some (.str s)) := by
  rintro _ ⟨⟩
  trivial

theorem absentOrProper_num (n : Int) : AbsentOrProper (some (.num n)) := by
  rintro _ ⟨⟩
  trivial

theorem absentOrProper_ofString (s : Option String) : AbsentOrProper (ofString s) := by
  cases s with
  | none => exact nofun
  | some t => exact absentOrProper_str t

theorem absentOrProper_names (l : List String) : AbsentOrProper (names l) := by
  rintro _ ⟨⟩
  have hitems : ProperItems (finiteItems (l.map .str)) := by
    rw [properItems_iff, finiteItems_eq_map, List.map_map]
    intro v hv
    obtain ⟨s, -, rfl⟩ := List.mem_map.1 hv
    trivial
  simpa only [finite, Proper] using hitems

/-- Names are strings, and stay so. -/
theorem strings_names (l : List String) : strings (finiteItems (l.map .str)) = l := by
  induction l with
  | nil => rfl
  | cons s l ih => simpa [finiteItems, finite, strings, string] using ih

/-- What is written of a ledger entry's metadata reads back as they are stored. -/
theorem LedgerMetadata.Built.read {entryType : EntryType} {m : LedgerMetadata}
    (h : m.Built entryType) : ∃ fields, parse (written m.toJson) = some (.obj fields) ∧
      parseLedgerMetadata entryType fields = some m.asStored := by
  cases h with
  | @topup credits mode verify settle hcredits hverify hsettle =>
    refine ⟨_, parse_written_stored (by simp) ?_, ?_⟩
    · simp only [List.forall_mem_cons, List.not_mem_nil, false_imp_iff, implies_true, and_true]
      exact ⟨absentOrProper_str _, absentOrProper_str _, absentOrProper_str _,
        absentOrProper_num _, hverify, hsettle⟩
    · cases verify <;> cases settle <;>
        simp [Draft.finite, Draft.stored, parseLedgerMetadata, List.lookup_cons, string,
          EntryType.text, isNumber, finite, LedgerMetadata.asStored,
          buildTopupSettlementLedgerMetadata]
  | @upgradeGrant credits mode verify settle hcredits hverify hsettle =>
    refine ⟨_, parse_written_stored (by simp) ?_, ?_⟩
    · simp only [List.forall_mem_cons, List.not_mem_nil, false_imp_iff, implies_true, and_true]
      exact ⟨absentOrProper_str _, absentOrProper_str _, absentOrProper_str _,
        absentOrProper_num _, absentOrProper_str _, hverify, hsettle⟩
    · cases verify <;> cases settle <;>
        simp [Draft.finite, Draft.stored, parseLedgerMetadata, List.lookup_cons, string,
          EntryType.text, isNumber, finite, LedgerMetadata.asStored,
          buildUpgradeCreditGrantLedgerMetadata]
  | @outboundUsage input requirement hcredits =>
    refine ⟨_, parse_written_stored (by simp) ?_, ?_⟩
    · simp only [List.forall_mem_cons, List.not_mem_nil, false_imp_iff, implies_true, and_true]
      exact ⟨absentOrProper_str _, absentOrProper_str _, absentOrProper_str _,
        absentOrProper_num _, absentOrProper_str _, absentOrProper_str _,
        absentOrProper_ofString _, absentOrProper_ofString _, absentOrProper_names _,
        absentOrProper_names _⟩
    · unfold buildOutboundUsageLedgerMetadata
      cases requirement.reply <;> cases input.draftId <;> cases input.draftCreatedVia <;>
        simp [Draft.finite, Draft.stored, parseLedgerMetadata, List.lookup_cons, string,
          EntryType.text, isNumber, finite, usageEntryType, ofString, names, asArray,
          strings_names, LedgerMetadata.asStored]

/-- **Typed metadata read back** as what was built, confirmed or merged, but for infinite
numbers: the parsers refuse nothing that the builders write. -/
theorem typed_metadata_read_back :
    (∀ {entryType : EntryType} {m : LedgerMetadata}, m.Built entryType →
      ∃ fields, parse (written m.toJson) = some (.obj fields) ∧
        ∀ row : CreditLedgerRow, row.entryType = entryType → row.metadata = some (.obj fields) →
          parseTypedCreditLedgerEntry row = some ⟨row, m.asStored⟩) ∧
    (∀ {receiptType : ReceiptType} {m : ReceiptMetadata}, m.Supplied receiptType →
      (∃ fields, m.Recorded receiptType fields) ∧
      ∀ {m₀ : ReceiptMetadata} {before : Fields} {c : ReceiptConfirmation},
        m₀.Recorded receiptType before → c.Given →
          ∃ fields, (m.confirm c).Recorded receiptType fields) ∧
    ∀ {receiptType : ReceiptType} {m : ReceiptMetadata} {fields : Fields},
      m.Recorded receiptType fields →
      ∀ row : PaymentReceiptRow, row.receiptType = receiptType →
        row.metadata = some (.obj fields) →
          ∃ typed, parseTypedPaymentReceipt row = some typed ∧ typed.row = row ∧
            typed.metadata = m.asStored := by
  refine ⟨?_, ?_, ?_⟩
  · intro entryType m h
    obtain ⟨fields, hread, hparse⟩ := h.read
    refine ⟨fields, hread, ?_⟩
    rintro row rfl hmetadata
    simp only [parseTypedCreditLedgerEntry, hmetadata, asRecord, Option.bind_eq_bind,
      Option.bind_some, hparse]
  · intro receiptType m h
    constructor
    · obtain ⟨fields, hread⟩ := h.storable.exists_read proper_nil
      rw [spread_nil] at hread
      exact ⟨fields, .created h hread⟩
    · intro m₀ before c h₀ hc
      obtain ⟨fields, hread⟩ := (h.confirmed hc).storable.exists_read h₀.read.1
      exact ⟨fields, .merged h₀ h hc hread⟩
  · rintro receiptType m fields h row rfl hmetadata
    have hparse : parsePaymentReceiptMetadata row.receiptType row.metadata = some m.asStored := by
      rw [hmetadata]
      exact h.read.2
    refine ⟨⟨row, m.asStored, hparse⟩, ?_, rfl, rfl⟩
    unfold parseTypedPaymentReceipt
    split
    · next hsome =>
      rw [hparse] at hsome
      cases hsome
      rfl
    · next hnone =>
      rw [hparse] at hnone
      cases hnone

/-- A quote for ten credits. -/
def tenCreditsQuote : Quote where
  quoteFor := .topup 10
  assetSymbol := "usdc"
  amountUsd := "1.00"
  paymentRequirements := {
    scheme := "exact", network := "eip155:84532", asset := "usdc", amount := "1000000",
    payTo := "0x1", extra := [], resource := "/v1/billing/topup", description := "",
    outputSchema := "" }

/-- The metadata of a receipt for ten credits, paid for with a proof of one field. -/
def tenCreditsReceipt (field : Json) : ReceiptMetadata :=
  buildReceiptMetadata (.topup 10) none tenCreditsQuote ⟨"proof", some [("nonce", field)]⟩

theorem supplied_tenCreditsReceipt {field : Json} (h : Proper (finite field)) :
    (tenCreditsReceipt field).Supplied .topup := by
  have hraw : trimmed "proof" = some "proof" := by decide
  have hquote : tenCreditsQuote.For (.topup 10) := ⟨by decide, rfl⟩
  refine .built hquote nofun hraw ?_ ?_
  · simp [tenCreditsQuote, Quote.toFields, PaymentRequirement.toFields,
      PaymentRequirement.required, PaymentRequirement.resourceFields, finite, finiteFields,
      finiteItems, Proper, ProperFields, ProperItems]
  · rintro _ ⟨⟩
    simpa [finite, finiteFields, Proper, ProperFields] using h

/-- A receipt that is created, and settled by hand. -/
theorem typed_metadata_read_back_settled :
    ∃ fields, ((tenCreditsReceipt .null).confirm { mode := .manualAdmin }).Recorded .topup fields ∧
      ∀ row : PaymentReceiptRow, row.receiptType = .topup → row.metadata = some (.obj fields) →
        ∃ typed, parseTypedPaymentReceipt row = some typed ∧ typed.row = row ∧
          typed.metadata =
            ((tenCreditsReceipt .null).confirm { mode := .manualAdmin }).asStored := by
  have hsupplied : (tenCreditsReceipt .null).Supplied .topup := supplied_tenCreditsReceipt trivial
  obtain ⟨⟨before, hcreated⟩, hmerge⟩ := typed_metadata_read_back.2.1 hsupplied
  obtain ⟨fields, hmerged⟩ := hmerge (c := { mode := .manualAdmin }) hcreated
    ⟨nofun, nofun, nofun⟩
  exact ⟨fields, hmerged, typed_metadata_read_back.2.2 hmerged⟩

/-- A proof with a number too large for a double does not read back as it was. -/
theorem infinite_number_not_read_back :
    (tenCreditsReceipt (.decimal "Infinity")).Supplied .topup ∧
    ∃ fields, parse (written (.obj (tenCreditsReceipt (.decimal "Infinity")).toDraft.stored)) =
        some (.obj fields) ∧
      parsePaymentReceiptMetadata .topup (some (.obj fields)) ≠
        some (tenCreditsReceipt (.decimal "Infinity")) := by
  have hsupplied : (tenCreditsReceipt (.decimal "Infinity")).Supplied .topup :=
    supplied_tenCreditsReceipt (by simp [finite, isInfinite, Proper])
  refine ⟨hsupplied, ?_⟩
  obtain ⟨fields, hread⟩ := hsupplied.storable.exists_read proper_nil
  have hparse := (hsupplied.storable.read proper_nil hread).2
  rw [spread_nil] at hread
  refine ⟨fields, hread, ?_⟩
  rw [hparse]
  intro h
  have hproof := congrArg (fun m : ReceiptMetadata => m.paymentProof.parsed) (Option.some.inj h)
  have hfield : some (Json.null) = some (Json.decimal "Infinity") :=
    congrArg (fun parsed => field parsed "nonce") hproof
  cases hfield

end MailRuntime
