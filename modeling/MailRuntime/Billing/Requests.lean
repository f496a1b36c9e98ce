import MailRuntime.Billing.Upgrades

/-!
# Payment requests under the protocol

From the facilitator's answer to the settled receipt. `finalizePaymentReceiptSettlement`
enters the credits, reconciles the account and marks the receipt settled, in this order;
what it takes along from each step to the next is that the receipt is being settled and
that the answer it goes on says so (`Ready`). Every request that answers with a
settlement leaves the receipt's credits in the ledger, and every request, whatever it
answers, ends with nothing owed.
-/

namespace MailRuntime

open Js X402 Interaction

/-- What the confirmation writes says that the facilitator has settled the payment. -/
def Confirmation.Reports (c : Confirmation) (r : TypedReceipt) : Prop :=
  (withReceiptConfirmation r.metadata c.mode c.verifyResponse c.settleResponse).reportsSettled =
    true

namespace Setting

variable {ι : Type} [DecidableEq ι] {S : Setting ι} {i : ι} {w w' : World ι Db Label}
  {env : Env} {t rid : String} {β : Type} {Q : β → World ι Db Label → Prop}
  {E : Exn → World ι Db Label → Prop} {r : TypedReceipt} {c : Confirmation}

/-! ### Receipts that are being settled -/

/-- The receipt is being settled, and the confirmation says so. -/
structure Ready (S : Setting ι) (i : ι) (r : TypedReceipt) (c : Confirmation)
    (w : World ι Db Label) : Prop where
  knows : S.Knows i r w
  settling : S.current → w.store.Settling r.row.tenantId r.row.id
  reports : S.current → c.Reports r

theorem Ready.mono (h : S.Ready i r c w) (hg : Grows S.current w.store w'.store)
    (hv : Views i w w') : S.Ready i r c w' :=
  ⟨h.knows.mono hg hv, fun hc => hg.settling hc _ _ (h.settling hc), h.reports⟩

theorem Ready.later (h : S.Ready i r c w) (hl : S.protocol.Later i w w') : S.Ready i r c w' :=
  h.mono hl.keeps (Rely.views (S := S) hl.rely)

/-- An outcome without a failure is of a receipt that is being settled. -/
theorem Confirmed.ready {o : FacilitatorOutcome} (h : S.Confirmed i t rid o w)
    (hnone : o.failureResponse = none) : S.Ready i o.receipt (confirmationOf (some o)) w := by
  refine ⟨h.knows, fun hc => ?_, fun hc => ?_⟩
  · rw [h.tenant, h.id]
    exact h.settling hnone hc
  · obtain ⟨response, hresponse, hreports⟩ := h.reports hnone hc
    rw [Confirmation.Reports, ReceiptMetadata.reportsSettled, withReceiptConfirmation,
      confirmationOf, hresponse]
    exact hreports

/-- A receipt that is marked settled is being settled. -/
theorem Knows.ready (h : S.Knows i r w) (hsettled : r.row.status = .settled) :
    S.Ready i r (confirmationOf none) w := by
  have hstored : S.current → r.row.storedSettled = true := fun hc =>
    ((h.ok hc).settled hsettled).1
  exact ⟨h, fun hc => h.settling hc (hstored hc), fun hc =>
    (storedSettled_eq r).symm.trans (hstored hc)⟩

/-- A program that writes no receipts leaves a receipt ready. -/
theorem frame_ready {ts : List Table} {p : Op β} (hp : Touches ts p) (hts : .receipts ∉ ts)
    (hw : S.Inv w) (h : S.protocol.Safe i Q E p w) (hready : S.Ready i r c w) :
    S.protocol.Safe i (fun a w' => Q a w' ∧ S.Ready i r c w') E p w := by
  have hkeep := Protocol.Safe.keep (P := S.protocol)
    (A := fun w' => Grows S.current w.store w'.store) (fun _ _ hk hg => hg.trans hk)
    (frame_views hp hts h) (Grows.refl _ _)
  exact Protocol.Safe.mono hw hkeep (fun a w' _ hq => ⟨hq.1.1, hready.mono hq.2 hq.1.2⟩)
    fun _ _ _ he => he.1.1

/-- What is in the ledger stays there. -/
theorem keep_credit {p : Op β} (h : S.protocol.Safe i Q E p w) (hc : w.store.HasCredit t rid) :
    S.protocol.Safe i (fun a w' => Q a w' ∧ w'.store.HasCredit t rid)
      (fun e w' => E e w' ∧ w'.store.HasCredit t rid) p w :=
  Protocol.Safe.keep (fun _ _ hk h => h.imp fun _ he => ⟨hk.ledger he.1, he.2⟩) h hc

/-- A program that bears on no ledger leaves nothing owed. -/
theorem frame_clear {ts : List Table} {p : Op β} (hp : Touches ts p) (hts : .ledger ∉ ts)
    (hw : S.Inv w) (h : S.protocol.Safe i Q E p w) (hclear : S.Clear i w) :
    S.protocol.Safe i (fun a w' => Q a w' ∧ S.Clear i w') (fun _ w' => S.Clear i w') p w :=
  Protocol.Safe.mono hw (frame_owing hp hts h)
    (fun _ _ _ hq => ⟨hq.1, fun ha t => (hq.2 t).trans (hclear ha t)⟩)
    fun _ _ _ he ha t => (he.2 t).trans (hclear ha t)

/-! ### The last write -/

/-- The credits of the receipt are in the ledger, and nothing is owed. -/
def Credited (S : Setting ι) (i : ι) (r : TypedReceipt) (w : World ι Db Label) : Prop :=
  S.Clear i w ∧ w.store.HasCredit r.row.tenantId r.row.id

/-- A receipt whose credits are in the ledger may be marked settled. -/
theorem safe_markSettled {m : ReceiptMetadata} {entryId : String}
    {sendPolicyStatus : Option OutboundStatus} (hw : S.Inv w) (hready : S.Ready i r c w)
    (hcredited : S.Credited i r w) (hpurchase : m.purchase = r.metadata.purchase)
    (hproof : m.paymentProof = r.metadata.paymentProof)
    (hsettle : m.facilitatorSettle = r.metadata.facilitatorSettle)
    (hvalid : m.Valid r.row.receiptType) (hquotable : r.metadata.Quotable → m.Quotable) :
    S.protocol.Safe i (fun r' w' => S.Credited i r' w') (fun _ w' => S.Clear i w')
      (markSettled env r m c entryId sendPolicyStatus) w := by
  have hreports : S.current → (withReceiptConfirmation m c.mode c.verifyResponse c.settleResponse
      none (some entryId) sendPolicyStatus).reportsSettled = true := fun hc => by
    rw [← hready.reports hc]
    simp only [ReceiptMetadata.reportsSettled, withReceiptConfirmation, hsettle]
  have hwrite : S.protocol.Safe i
      (fun r' w' => S.Wrote i r.row.tenantId r.row.id .settled (withReceiptConfirmation m c.mode
        c.verifyResponse c.settleResponse none (some entryId) sendPolicyStatus) r' w')
      (fun _ _ => True) (markSettled env r m c entryId sendPolicyStatus) w := by
    refine safe_updateTypedTenantPaymentReceiptStatus hw (hpurchase ▸ hready.knows.terms)
      hvalid.confirmed fun hc w₁ old h₁ hu hold => ?_
    have hknows := hready.knows.later h₁
    obtain rfl := Option.some.inj (hold.symm.trans (hknows.held hu))
    have hcredit : w₁.store.HasCredit r.row.tenantId r.row.id :=
      hcredited.2.imp fun e he => ⟨h₁.keeps.ledger he.1, he.2⟩
    refine ⟨fun _ => ⟨hreports hc, rfl⟩, fun _ => .inr rfl, fun _ f hf payload hpayload => ?_,
      fun _ => ⟨hreports hc, hcredit⟩, hquotable (hready.knows.quotable hc)⟩
    -- the reference was stored with the facilitator's answer
    obtain ⟨row, hrow, hstored⟩ := (hready.later h₁).settling hc
    obtain rfl := Option.some.inj (hold.symm.trans hrow)
    refine (hknows.ok hc).backed hstored f hf r.metadata payload r.parsed ?_
    rw [getReceiptPaymentPayload, ← hproof]
    exact hpayload
  refine Protocol.Safe.mono hw (keep_credit (frame_clear
    touches_updateTypedTenantPaymentReceiptStatus (by simp) hw hwrite hcredited.1) hcredited.2)
    (fun r' w' _ h => ?_) fun _ _ _ h => h.1
  refine ⟨h.1.2, ?_⟩
  rw [h.1.1.tenant, h.1.1.id]
  exact h.2

theorem safe_markSettledIf {m : ReceiptMetadata} {needed : Bool} {entryId : String}
    {sendPolicyStatus : Option OutboundStatus} (hw : S.Inv w) (hready : S.Ready i r c w)
    (hcredited : S.Credited i r w) (hpurchase : m.purchase = r.metadata.purchase)
    (hproof : m.paymentProof = r.metadata.paymentProof)
    (hsettle : m.facilitatorSettle = r.metadata.facilitatorSettle)
    (hvalid : m.Valid r.row.receiptType) (hquotable : r.metadata.Quotable → m.Quotable) :
    S.protocol.Safe i (fun r' w' => S.Credited i r' w') (fun _ w' => S.Clear i w')
      (markSettledIf needed env r m c entryId sendPolicyStatus) w := by
  rw [markSettledIf]
  split
  · exact safe_markSettled hw hready hcredited hpurchase hproof hsettle hvalid hquotable
  · exact hcredited

/-- Once the credits are entered, the account is reconciled. -/
theorem safe_reconcileCredited (hw : S.Inv w) (hready : S.Ready i r c w)
    (hbut : S.ClearBut i r.row.tenantId w)
    (hcredit : w.store.HasCredit r.row.tenantId r.row.id) :
    S.protocol.Safe i (fun _ w' => S.Credited i r w' ∧ S.Ready i r c w')
      (fun _ w' => S.Clear i w') (reconcileTenantAvailableCredits env r.row.tenantId) w :=
  Protocol.Safe.mono hw (frame_ready touches_reconcileTenantAvailableCredits (by simp) hw
    (keep_credit (safe_reconcileTenantAvailableCredits hw hbut) hcredit) hready)
    (fun _ _ _ h => h) fun _ _ _ h halone => absurd halone h.1

/-! ### Finalization -/

/-- A look for the receipt's entry changes nothing, and finds only what is there. -/
theorem safe_lookupEntry (hw : S.Inv w) :
    S.protocol.Safe i
      (fun entry w' => S.protocol.Later i w w' ∧ (entry.isSome → w'.store.HasCredit t rid))
      (fun _ w' => S.protocol.Later i w w')
      (getTypedCreditLedgerEntryByPaymentReceiptId t rid) w := by
  have htouches : Touches [] (getTypedCreditLedgerEntryByPaymentReceiptId t rid) :=
    touches_getTypedCreditLedgerEntryByPaymentReceiptId
  refine Protocol.Safe.mono hw (frame_later htouches (by simp) (by simp)
    (safe_getTypedCreditLedgerEntryByPaymentReceiptId hw) hw) (fun entry w' _ h => ?_)
    fun _ _ _ h => h.2
  exact ⟨h.2, fun hsome => (h.1.2.2 hsome).imp fun e he => ⟨h.2.keeps.ledger he.1, he.2⟩⟩

/-- The receipt of the settlement has its credits, and nothing is owed. -/
def Settles (S : Setting ι) (i : ι) (st : Settlement) (w : World ι Db Label) : Prop :=
  S.Credited i st.receipt w

theorem safe_finalizeExistingTopup {entry : TypedLedgerEntry} (hw : S.Inv w)
    (hready : S.Ready i r c w) (hcredited : S.Credited i r w) :
    S.protocol.Safe i (fun st w' => S.Settles i st w') (fun _ w' => S.Clear i w')
      (finalizeExistingTopup env r entry c) w := by
  rw [finalizeExistingTopup]
  split
  · exact hcredited.1
  · refine Protocol.Safe.bind hw (safe_reconcileCredited hw hready hcredited.1.but hcredited.2)
      (fun _ w₁ hw₁ h₁ => ?_) fun _ _ _ h => h
    exact Protocol.Safe.bind hw₁ (safe_markSettledIf hw₁ h₁.2 h₁.1 rfl rfl rfl
      (valid_of_parse r.parsed) id) (fun _ _ _ h => h) fun _ _ _ h => h

theorem safe_finalizeNewTopup (hw : S.Inv w) (hready : S.Ready i r c w)
    (hclear : S.Clear i w) :
    S.protocol.Safe i (fun st w' => S.Settles i st w') (fun _ w' => S.Clear i w')
      (finalizeNewTopup env r c) w := by
  rw [finalizeNewTopup]
  cases hpurchase : r.metadata.purchase with
  | upgrade includedCredits => exact hclear
  | topup creditsRequested =>
    refine Protocol.Safe.bind hw (frame_ready touches_appendReceiptLedgerEntry (by simp) hw
      (safe_appendTopupSettlementLedgerEntry hw hclear (hpurchase ▸ hready.knows.terms)
        hready.settling) hready) (fun entry w₁ hw₁ h₁ => ?_) fun _ _ _ h => h
    obtain ⟨⟨hbut, hcredit⟩, hready⟩ := h₁
    refine Protocol.Safe.bind hw₁ (safe_reconcileCredited hw₁ hready hbut hcredit)
      (fun _ w₂ hw₂ h₂ => ?_) fun _ _ _ h => h
    exact Protocol.Safe.bind hw₂ (safe_markSettled hw₂ h₂.2 h₂.1 rfl rfl rfl
      (valid_of_parse r.parsed) id) (fun _ _ _ h => h) fun _ _ _ h => h

/-- The entry of an upgrade is there, or is appended. -/
theorem safe_upgradeLedgerEntry {existing : Option TypedLedgerEntry} {includedCredits : Int}
    (hw : S.Inv w) (hready : S.Ready i r c w) (hclear : S.Clear i w)
    (hpurchase : r.metadata.purchase = .upgrade includedCredits)
    (hexisting : existing.isSome → w.store.HasCredit r.row.tenantId r.row.id) :
    S.protocol.Safe i
      (fun _ w' => (S.ClearBut i r.row.tenantId w' ∧
        w'.store.HasCredit r.row.tenantId r.row.id) ∧ S.Ready i r c w')
      (fun _ w' => S.Clear i w') (upgradeLedgerEntry env r existing includedCredits c) w := by
  cases existing with
  | some entry => exact ⟨⟨hclear.but, hexisting rfl⟩, hready⟩
  | none =>
    exact frame_ready touches_appendReceiptLedgerEntry (by simp) hw
      (safe_appendUpgradeCreditGrantLedgerEntry hw hclear (hpurchase ▸ hready.knows.terms)
        hready.settling) hready

omit [DecidableEq ι] in
/-- The quote of an upgrade with its credits written into it names what it named. -/
theorem quotable_normalizedUpgradeMetadata {m : ReceiptMetadata} {includedCredits : Int}
    (h : m.Quotable) : (normalizedUpgradeMetadata m includedCredits).Quotable := by
  intro requirements hreq
  refine h requirements ?_
  rw [getReceiptPaymentRequirements, normalizedUpgradeMetadata,
    lookup_spread_of_not_mem (by simp), lookup_spread_of_not_mem (by simp)] at hreq
  exact hreq

omit [DecidableEq ι] in
theorem valid_normalizedUpgradeMetadata {receiptType : ReceiptType} {m : ReceiptMetadata}
    {includedCredits : Int} (h : m.Valid receiptType)
    (hpurchase : m.purchase = .upgrade includedCredits) :
    (normalizedUpgradeMetadata m includedCredits).Valid receiptType := by
  refine ⟨?_, h.proof, h.raw⟩
  have hfits := h.purchase
  have hquote := h.normalizedQuote hpurchase
  cases receiptType <;> simp only [hpurchase, Purchase.Fits] at hfits
  exact hquote

theorem safe_finalizeOpenUpgrade {existing : Option TypedLedgerEntry} {includedCredits : Int}
    (hw : S.Inv w) (hready : S.Ready i r c w) (hclear : S.Clear i w)
    (hpurchase : r.metadata.purchase = .upgrade includedCredits)
    (hexisting : existing.isSome → w.store.HasCredit r.row.tenantId r.row.id) :
    S.protocol.Safe i (fun st w' => S.Settles i st w') (fun _ w' => S.Clear i w')
      (finalizeOpenUpgrade env r existing includedCredits c) w := by
  refine Protocol.Safe.bind hw (safe_upgradeLedgerEntry hw hready hclear hpurchase hexisting)
    (fun entry w₁ hw₁ h₁ => ?_) fun _ _ _ h => h
  obtain ⟨⟨hbut, hcredit⟩, hready⟩ := h₁
  refine Protocol.Safe.bind hw₁ (frame_later touches_applyUpgrade (by simp) (by simp)
    (safe_applyUpgrade hw₁) hw₁) (fun sendPolicy w₂ hw₂ h₂ => ?_)
    fun _ _ _ h halone => absurd halone h.1
  have h₂ := h₂.2
  refine Protocol.Safe.bind hw₂ (safe_reconcileCredited hw₂ (hready.later h₂) (hbut.later h₂)
    (hcredit.imp fun e he => ⟨h₂.keeps.ledger he.1, he.2⟩)) (fun _ w₃ hw₃ h₃ => ?_)
    fun _ _ _ h => h
  exact Protocol.Safe.bind hw₃ (safe_markSettledIf hw₃ h₃.2 h₃.1 hpurchase.symm rfl rfl
    (valid_normalizedUpgradeMetadata (valid_of_parse r.parsed) hpurchase)
    quotable_normalizedUpgradeMetadata) (fun _ _ _ h => h) fun _ _ _ h => h

theorem safe_finalizeSettledUpgrade {entry : TypedLedgerEntry} {includedCredits : Int}
    (hw : S.Inv w) (hready : S.Ready i r c w) (hcredited : S.Credited i r w) :
    S.protocol.Safe i (fun st w' => S.Settles i st w') (fun _ w' => S.Clear i w')
      (finalizeSettledUpgrade env r entry includedCredits) w := by
  refine Protocol.Safe.bind hw (safe_reconcileCredited hw hready hcredited.1.but hcredited.2)
    (fun _ w₁ hw₁ h₁ => ?_) fun _ _ _ h => h
  obtain ⟨⟨hclear, hcredit⟩, -⟩ := h₁
  refine Protocol.Safe.bind hw₁ (frame_later touches_ensureTenantSendPolicy (by simp) (by simp)
    (safe_ensureTenantSendPolicy hw₁) hw₁) (fun sendPolicy w₂ _ h₂ => ?_)
    fun _ _ _ h => hclear.later h.2
  exact ⟨hclear.later h₂.2, hcredit.imp fun e he => ⟨h₂.2.keeps.ledger he.1, he.2⟩⟩

theorem safe_finalizeUpgrade {existing : Option TypedLedgerEntry} (hw : S.Inv w)
    (hready : S.Ready i r c w) (hclear : S.Clear i w)
    (hexisting : existing.isSome → w.store.HasCredit r.row.tenantId r.row.id) :
    S.protocol.Safe i (fun st w' => S.Settles i st w') (fun _ w' => S.Clear i w')
      (finalizeUpgrade env r existing c) w := by
  rw [finalizeUpgrade]
  cases hpurchase : r.metadata.purchase with
  | topup creditsRequested => exact hclear
  | upgrade includedCredits =>
    simp only
    split
    · exact hclear
    · cases existing with
      | none => exact safe_finalizeOpenUpgrade hw hready hclear hpurchase fun h => (by cases h)
      | some entry =>
        simp only
        split
        · exact hclear
        · split
          · exact safe_finalizeSettledUpgrade hw hready ⟨hclear, hexisting rfl⟩
          · exact safe_finalizeOpenUpgrade hw hready hclear hpurchase hexisting

/-- **Finalization** of a receipt that is being settled, or that is marked settled: if it
returns, the receipt's credits are in the ledger. -/
theorem safe_finalizePaymentReceiptSettlement {outcome : Option FacilitatorOutcome}
    (hw : S.Inv w) (hknows : S.Knows i ((outcome.map FacilitatorOutcome.receipt).getD r) w)
    (hready : outcome = none → r.row.status = .settled)
    (hsome : ∀ o, outcome = some o → S.Ready i o.receipt (confirmationOf outcome) w)
    (hclear : S.Clear i w) :
    S.protocol.Safe i (fun st w' => S.Settles i st w') (fun _ w' => S.Clear i w')
      (finalizePaymentReceiptSettlement env r outcome) w := by
  have hready : S.Ready i ((outcome.map FacilitatorOutcome.receipt).getD r)
      (confirmationOf outcome) w := by
    cases outcome with
    | none => exact hknows.ready (hready rfl)
    | some o => exact hsome o rfl
  rw [finalizePaymentReceiptSettlement]
  generalize (outcome.map FacilitatorOutcome.receipt).getD r = finalized at hready ⊢
  refine Protocol.Safe.bind hw (safe_lookupEntry hw) (fun existing w₁ hw₁ h₁ => ?_)
    fun _ _ _ h => hclear.later h
  obtain ⟨h₁, hcredit⟩ := h₁
  have hclear := hclear.later h₁
  have hready := hready.later h₁
  split
  · exact hclear
  · split
    · exact safe_finalizeUpgrade hw₁ hready hclear hcredit
    · cases existing with
      | none => exact safe_finalizeNewTopup hw₁ hready hclear
      | some entry => exact safe_finalizeExistingTopup hw₁ hready ⟨hclear, hcredit rfl⟩

/-! ### Requests -/

/-- What a route's answer is worth: nothing is owed, and if it is a settlement, the receipt's
credits are in the ledger. -/
def Answers (S : Setting ι) (i : ι) (response : PaymentResponse) (w : World ι Db Label) : Prop :=
  S.Clear i w ∧ ∀ st, response = .settled st →
    w.store.HasCredit st.receipt.row.tenantId st.receipt.row.id

theorem Clear.answers {response : PaymentResponse} (h : S.Clear i w)
    (hne : ∀ st, response ≠ .settled st) : S.Answers i response w :=
  ⟨h, fun st hst => absurd hst (hne st)⟩

/-- A settlement that is wrapped as an answer. -/
theorem safe_settled {p : Op Settlement} (hw : S.Inv w)
    (h : S.protocol.Safe i (fun st w' => S.Settles i st w') (fun _ w' => S.Clear i w') p w) :
    S.protocol.Safe i (fun response w' => S.Answers i response w') (fun _ w' => S.Clear i w')
      (PaymentResponse.settled <$> p) w := by
  refine Protocol.Safe.map hw (Protocol.Safe.mono hw h (fun st w' _ hst => ⟨hst.1, ?_⟩)
    fun _ _ _ h => h)
  rintro st' ⟨⟩
  exact hst.2

/-- The settlement of a receipt through the facilitator. -/
theorem safe_attemptAutomaticPaymentSettlement (hw : S.Inv w) (hknows : S.Knows i r w)
    (hclear : S.Clear i w) :
    S.protocol.Safe i (fun response w' => S.Answers i response w') (fun _ w' => S.Clear i w')
      (attemptAutomaticPaymentSettlement S.env r) w := by
  refine Protocol.Safe.bind hw (frame_clear touches_confirmPaymentReceiptWithFacilitator (by simp)
    hw (safe_confirmPaymentReceiptWithFacilitator hw hknows) hclear) (fun o w₁ hw₁ h₁ => ?_)
    fun _ _ _ h => h
  obtain ⟨hconfirmed, hclear⟩ := h₁
  cases hfailure : o.failureResponse with
  | some failure => exact hclear.answers (hconfirmed.failure failure hfailure)
  | none =>
    have hready := hconfirmed.ready hfailure
    refine safe_settled hw₁ (safe_finalizePaymentReceiptSettlement hw₁ hready.knows
      (fun h => by cases h) (fun o' ho' => ?_) hclear)
    obtain rfl := Option.some.inj ho'
    exact hready

/-- A look at the receipt's entry changes nothing, whether or not it succeeds. -/
theorem safe_peekEntry (hw : S.Inv w) :
    S.protocol.Safe i (fun _ w' => S.protocol.Later i w w') E
      (catchAll (getTypedCreditLedgerEntryByPaymentReceiptId t rid) none) w :=
  Protocol.Safe.tryCatch hw (Protocol.Safe.mono hw (safe_lookupEntry hw) (fun _ _ _ h => h.1)
    fun _ _ _ h => h) fun _ _ _ h => h

/-- An action that is right for every receipt the thread knows is right with a second try. -/
theorem safe_withRefreshedPaymentReceipt {action : TypedReceipt → Op β} (hw : S.Inv w)
    (hknows : S.Knows i r w) (hclear : S.Clear i w)
    (haction : ∀ r w, S.Inv w → S.Knows i r w → S.Clear i w →
      S.protocol.Safe i Q (fun _ w' => S.Clear i w') (action r) w) :
    S.protocol.Safe i Q (fun _ w' => S.Clear i w') (withRefreshedPaymentReceipt r action) w := by
  refine Protocol.Safe.bind hw (safe_peekEntry (E := fun _ w' => S.Clear i w') hw)
    (fun initial w₁ hw₁ h₁ => ?_) fun _ _ _ h => h
  refine Protocol.Safe.tryCatch hw₁ (haction r w₁ hw₁ (hknows.later h₁) (hclear.later h₁))
    fun e w₂ hw₂ hclear => ?_
  have hread : S.protocol.Safe i
      (fun result w' => (∀ r', result = some r' → S.Knows i r' w') ∧ S.Clear i w')
      (fun _ w' => S.Clear i w')
      (catchAll (getTypedTenantPaymentReceiptById r.row.tenantId r.row.id) none) w₂ := by
    refine Protocol.Safe.tryCatch hw₂ (Protocol.Safe.mono hw₂ (frame_clear
      touches_getTypedTenantPaymentReceiptById (by simp) hw₂
      (safe_getTypedTenantPaymentReceiptById hw₂) hclear) (fun result w' _ h => ?_)
      fun _ _ _ h => h) fun _ w' _ h => ⟨fun r' hr' => (by cases hr'), h⟩
    exact ⟨fun r' hr' => (h.1 r' hr').1, h.2⟩
  refine Protocol.Safe.bind hw₂ hread (fun refreshed w₃ hw₃ h₃ => ?_) fun _ _ _ h => h
  refine Protocol.Safe.bind hw₃ (safe_peekEntry (E := fun _ w' => S.Clear i w') hw₃)
    (fun entry w₄ hw₄ h₄ => ?_) fun _ _ _ h => h
  have hclear := h₃.2.later h₄
  cases refreshed with
  | none => exact hclear
  | some refreshed =>
    simp only
    split
    · exact haction refreshed w₄ hw₄ ((h₃.1 refreshed rfl).later h₄) hclear
    · exact hclear

theorem safe_replayReceipt (hw : S.Inv w) (hknows : S.Knows i r w) (hclear : S.Clear i w) :
    S.protocol.Safe i (fun response w' => S.Answers i response w') (fun _ w' => S.Clear i w')
      (replayReceipt S.env r) w := by
  rw [replayReceipt]
  split
  · exact safe_withRefreshedPaymentReceipt hw hknows hclear fun _ _ hw hk hc =>
      safe_attemptAutomaticPaymentSettlement hw hk hc
  · exact hclear.answers fun st h => by cases h

theorem safe_replayPaymentProof {fingerprint : String} (hw : S.Inv w) (hclear : S.Clear i w) :
    S.protocol.Safe i
      (fun result w' => S.Clear i w' ∧ ∀ response, result = some response →
        S.Answers i response w')
      (fun _ w' => S.Clear i w') (replayPaymentProof S.env t fingerprint) w := by
  refine Protocol.Safe.bind hw (frame_clear touches_getTypedPaymentReceiptByProofFingerprint
    (by simp) hw (safe_getTypedPaymentReceiptByProofFingerprint hw) hclear)
    (fun result w₁ hw₁ h₁ => ?_) fun _ _ _ h => h
  obtain ⟨hknows, hclear⟩ := h₁
  cases result with
  | none => exact ⟨hclear, fun _ h => by cases h⟩
  | some existing =>
    simp only
    split
    · refine ⟨hclear, fun response hresponse => ?_⟩
      obtain rfl := Option.some.inj hresponse
      exact hclear.answers fun st h => by cases h
    · refine Protocol.Safe.map hw₁ (Protocol.Safe.mono hw₁
        (safe_replayReceipt hw₁ (hknows existing rfl) hclear) (fun response w' _ h => ?_)
        fun _ _ _ h => h)
      refine ⟨h.1, fun response' hresponse' => ?_⟩
      obtain rfl := Option.some.inj hresponse'
      exact h

theorem safe_settleNewReceipt {message : String} (hw : S.Inv w) (hknows : S.Knows i r w)
    (hclear : S.Clear i w) :
    S.protocol.Safe i (fun response w' => S.Answers i response w') (fun _ w' => S.Clear i w')
      (settleNewReceipt S.env message r) w := by
  rw [settleNewReceipt]
  split
  · exact safe_withRefreshedPaymentReceipt hw hknows hclear fun _ _ hw hk hc =>
      safe_attemptAutomaticPaymentSettlement hw hk hc
  · exact hclear.answers fun st h => by cases h

omit [DecidableEq ι] in
/-- A quote names its requirement. -/
theorem quotable_buildReceiptMetadata {purchase : Purchase} {tenantDid : Option String}
    {quote : Quote} {proof : PaymentProof} :
    (buildReceiptMetadata purchase tenantDid quote proof).Quotable := by
  intro requirements hreq
  have hfields : requirements = quote.paymentRequirements.toFields := by
    cases hfor : quote.quoteFor <;>
      simpa [getReceiptPaymentRequirements, buildReceiptMetadata, Quote.toFields, hfor,
        List.lookup_cons, asRecord, eq_comm] using hreq
  rw [hfields]
  exact ⟨quote.paymentRequirements.scheme, quote.paymentRequirements.network, rfl, rfl⟩

/-- A new receipt, or the answer that another request's receipt leads to. -/
theorem safe_capturePaymentProof {request : ProofRequest} {purchase : Purchase} {quote : Quote}
    {proof : PaymentProof} (hw : S.Inv w) (hclear : S.Clear i w) (hquote : quote.For purchase)
    (hraw : trimmed proof.raw = some proof.raw) :
    S.protocol.Safe i
      (fun result w' => S.Clear i w' ∧ match result with
        | .inl r => S.Knows i r w'
        | .inr response => S.Answers i response w')
      (fun _ w' => S.Clear i w')
      (capturePaymentProof S.env request purchase.receiptType purchase quote proof) w := by
  refine Protocol.Safe.tryCatch hw (Protocol.Safe.map hw (Protocol.Safe.mono hw
    (frame_clear touches_createTypedTenantPaymentReceipt (by simp) hw
      (safe_createTypedTenantPaymentReceipt hw (buildReceiptMetadata_valid hquote hraw)
        quotable_buildReceiptMetadata rfl) hclear) (fun r w' _ h => ⟨h.2, h.1⟩)
      fun _ _ _ h => h)) fun e w₁ hw₁ hclear => ?_
  refine Protocol.Safe.bind hw₁ (safe_replayPaymentProof hw₁ hclear) (fun result w₂ _ h₂ => ?_)
    fun _ _ _ h => h
  cases result with
  | none => exact h₂.1
  | some response => exact ⟨h₂.1, h₂.2 response rfl⟩

theorem safe_submitPaymentProof {request : ProofRequest} {purchase : Purchase} {quote : Quote}
    {proof : PaymentProof} {message : String} (hw : S.Inv w) (hclear : S.Clear i w)
    (hquote : quote.For purchase) (hraw : trimmed proof.raw = some proof.raw) :
    S.protocol.Safe i (fun response w' => S.Answers i response w') (fun _ w' => S.Clear i w')
      (submitPaymentProof S.env request purchase.receiptType purchase message quote proof) w := by
  refine Protocol.Safe.bind hw (safe_replayPaymentProof hw hclear) (fun result w₁ hw₁ h₁ => ?_)
    fun _ _ _ h => h
  cases result with
  | some response => exact h₁.2 response rfl
  | none =>
    refine Protocol.Safe.bind hw₁ (safe_capturePaymentProof hw₁ h₁.1 hquote hraw)
      (fun result w₂ hw₂ h₂ => ?_) fun _ _ _ h => h
    cases result with
    | inl r => exact safe_settleNewReceipt hw₂ h₂.2 h₂.1
    | inr response => exact h₂.2

/-- A quote is for what it is asked for. -/
theorem safe_buildQuote {tenantId path schema description apiBaseUrl : String}
    {tenantDid : Option String} {extra : Draft} {quoteFor : QuoteFor} {price : String × String}
    (hw : S.Inv w) :
    S.protocol.Safe i (fun quote w' => quote.quoteFor = quoteFor ∧ S.protocol.Later i w w')
      (fun _ w' => S.protocol.Later i w w')
      (buildQuote S.env tenantId tenantDid apiBaseUrl path schema description extra quoteFor price)
      w := by
  simp only [buildQuote]
  split
  · exact Protocol.Later.refl hw
  · exact safe_nowIso hw fun _ _ h => ⟨rfl, h⟩

theorem safe_quoteAndSubmit {request : ProofRequest} (purchase : Purchase) {message : String}
    {quote : Op Quote} (hw : S.Inv w) (hclear : S.Clear i w)
    (hquote : ∀ w, S.Inv w → S.protocol.Safe i
      (fun quote w' => quote.For purchase ∧ S.protocol.Later i w w')
      (fun _ w' => S.protocol.Later i w w') quote w) :
    S.protocol.Safe i (fun response w' => S.Answers i response w') (fun _ w' => S.Clear i w')
      (quoteAndSubmit S.env request purchase.receiptType purchase message quote) w := by
  rw [quoteAndSubmit]
  split
  · exact hclear.answers fun st h => by cases h
  · refine Protocol.Safe.bind hw (frame_clear touches_ensureTenantBillingAccount (by simp) hw
      (safe_ensureTenantBillingAccount hw) hclear) (fun _ w₁ hw₁ h₁ => ?_) fun _ _ _ h => h
    refine Protocol.Safe.bind hw₁ (hquote w₁ hw₁) (fun quote w₂ hw₂ h₂ => ?_)
      fun _ _ _ h => h₁.2.later h
    have hclear := h₁.2.later h₂.2
    cases hproof : parseX402PaymentProof S.env request.paymentSignature with
    | none => exact hclear.answers fun st h => by cases h
    | some proof =>
      simp only
      split
      · exact hclear.answers fun st h => by cases h
      · exact safe_submitPaymentProof hw₂ hclear h₂.1 (raw_of_parseX402PaymentProof hproof)

/-- **`POST /v1/billing/topup`**. -/
theorem safe_topup {request : ProofRequest} {credits : Option Json} (hw : S.Inv w)
    (hclear : S.Clear i w) :
    S.protocol.Safe i (fun response w' => S.Answers i response w') (fun _ w' => S.Clear i w')
      (topup S.env request credits) w := by
  rw [topup]
  cases hcredits : parseTopupCredits credits with
  | none => exact hclear.answers fun st h => by cases h
  | some credits =>
    have hpos := (Option.filter_eq_some_iff.1 hcredits).2
    rw [decide_eq_true_eq] at hpos
    refine safe_quoteAndSubmit (.topup credits) hw hclear fun w hw => ?_
    exact Protocol.Safe.mono hw (safe_buildQuote hw)
      (fun quote w' _ h => ⟨⟨by omega, h.1⟩, h.2⟩) fun _ _ _ h => h

/-- **`POST /v1/billing/upgrade-intent`**. -/
theorem safe_upgradeIntent {request : ProofRequest} {targetPricingTier : Option Json}
    (hw : S.Inv w) (hclear : S.Clear i w) :
    S.protocol.Safe i (fun response w' => S.Answers i response w') (fun _ w' => S.Clear i w')
      (upgradeIntent S.env request targetPricingTier) w := by
  rw [upgradeIntent]
  split
  · exact safe_quoteAndSubmit (.upgrade _) hw hclear fun w hw => safe_buildQuote hw
  · exact hclear.answers fun st h => by cases h

/-- **`POST /v1/billing/payment/confirm`**. -/
theorem safe_confirmPayment {receiptId : Option String} {manual : Bool} (hw : S.Inv w)
    (hclear : S.Clear i w) :
    S.protocol.Safe i (fun response w' => S.Answers i response w') (fun _ w' => S.Clear i w')
      (confirmPayment S.env t receiptId manual) w := by
  rw [confirmPayment]
  cases receiptId.filter truthy with
  | none => exact hclear.answers fun st h => by cases h
  | some receiptId =>
    simp only
    split
    · exact hclear.answers fun st h => by cases h
    · split
      · exact hclear.answers fun st h => by cases h
      · refine Protocol.Safe.bind hw (frame_clear touches_getTypedTenantPaymentReceiptById
          (by simp) hw (safe_getTypedTenantPaymentReceiptById hw) hclear)
          (fun result w₁ hw₁ h₁ => ?_) fun _ _ _ h => h
        cases result with
        | none => exact h₁.2.answers fun st h => by cases h
        | some receipt =>
          simp only
          split
          · exact h₁.2.answers fun st h => by cases h
          · refine safe_withRefreshedPaymentReceipt hw₁ (h₁.1 receipt rfl).1 h₁.2
              fun r w hw hknows hclear => ?_
            rw [confirmReceipt]
            split
            · next hsettled =>
              exact safe_settled hw (safe_finalizePaymentReceiptSettlement hw hknows
                (fun _ => hsettled) (fun o ho => by cases ho) hclear)
            · exact safe_attemptAutomaticPaymentSettlement hw hknows hclear

end Setting

end MailRuntime
