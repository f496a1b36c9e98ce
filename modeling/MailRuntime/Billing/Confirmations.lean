import MailRuntime.Billing.Receipts

/-!
# The facilitator's part of a payment

What `confirmPaymentReceiptWithFacilitator` comes to. It writes a receipt three times at
most, and what each write needs is that the facilitator had not settled before; a thread
whose view is current knows so from its own copy. Where it does not answer with a failure
the receipt is being settled, whoever wrote that: from here on no status but `settled` is
right for it.
-/

namespace MailRuntime

open Js X402 Interaction

/-- The requirement names its scheme and its network. -/
def NamesRequirement (requirements : Fields) : Prop :=
  ∃ scheme network, requirements.lookup "scheme" = some (.str scheme) ∧
    requirements.lookup "network" = some (.str network)

theorem orRequirement_str (data : Option Fields) (key : String) {value : String}
    {requirement : Option Json} (h : requirement = some (.str value)) :
    ∃ text, orRequirement data key requirement = some (.str text) := by
  rw [orRequirement, h]
  cases asString (field data key) with
  | none => exact ⟨value, rfl⟩
  | some text => exact ⟨text, rfl⟩

/-- An answer to a requirement that names its scheme and network names them too. -/
theorem normalizeSettlementResponse_named {requirements : Fields} {status : Nat}
    {data : Option Fields} (h : NamesRequirement requirements) :
    (normalizeSettlementResponse requirements status data).response.Named := by
  obtain ⟨scheme, network, hscheme, hnetwork⟩ := h
  obtain ⟨scheme', hscheme'⟩ := orRequirement_str data "scheme" hscheme
  obtain ⟨network', hnetwork'⟩ := orRequirement_str data "network" hnetwork
  simp only [normalizeSettlementResponse]
  split <;> exact ⟨scheme', network', hscheme', hnetwork'⟩

namespace Setting

variable {ι : Type} [DecidableEq ι] {S : Setting ι} {i : ι} {w w' : World ι Db Label}
  {env : Env} {t rid : String}

/-- The facilitator's answer to a settlement. -/
theorem safe_settleX402Payment {payload : Json} {requirements : Fields} {key : String}
    (hw : S.Inv w) :
    S.protocol.Safe i
      (fun result w' => S.protocol.Later i w w' ∧
        (NamesRequirement requirements → result.response.Named) ∧
        ∀ f, S.reference = some f → result.response.settled = true →
          result.response.settlementReference = some (f payload))
      (fun _ _ => True) (settleX402Payment S.env payload requirements key) w := by
  simp only [settleX402Payment]
  split
  · next hmock =>
    -- the mock is not a facilitator that settles by reference
    have hreference : ∀ f, S.reference ≠ some f := fun f hf => by
      rw [(S.settles f hf).1] at hmock
      cases hmock
    unfold buildMockSettleResult
    split
    · refine safe_createId hw fun reference w₁ h₁ => safe_createId h₁.inv fun hash w₂ h₂ => ?_
      exact ⟨h₁.trans h₂, fun h => h, fun f hf => absurd hf (hreference f)⟩
    · exact ⟨.refl hw, fun h => h, fun f hf => absurd hf (hreference f)⟩
  · cases hconfig : getX402FacilitatorConfig S.env with
    | none => trivial
    | some config =>
      simp only
      rw [postToFacilitator, bind_assoc]
      refine safe_call (fun _ => rfl) hw (fun w₁ h₁ => ?_) fun _ _ _ => trivial
      cases hanswer : S.env.fetchFacilitator w.store.draws config.settleUrl
          (requestBody payload requirements key) with
      | none => trivial
      | some answer =>
        obtain ⟨status, body⟩ := answer
        refine ⟨h₁, fun h => normalizeSettlementResponse_named h, fun f hf => ?_⟩
        exact (S.settles f hf).2 config hconfig _ _ _ _ _ _ hanswer

/-- What an outcome of the facilitator's part is worth. -/
structure Confirmed (S : Setting ι) (i : ι) (t rid : String) (o : FacilitatorOutcome)
    (w : World ι Db Label) : Prop where
  knows : S.Knows i o.receipt w
  tenant : o.receipt.row.tenantId = t
  id : o.receipt.row.id = rid
  failure : ∀ f, o.failureResponse = some f → ∀ st, f ≠ .settled st
  settling : o.failureResponse = none → S.current → w.store.Settling t rid
  reports : o.failureResponse = none → S.current →
    ∃ response, o.settleResponse = some response ∧ response.reports = true

/-- A failure response is none of a settlement, if there is one at all. -/
theorem safe_x402PaymentFailureResponse {error : String} {settlement : Json} {r : TypedReceipt}
    {Q : PaymentResponse → World ι Db Label → Prop}
    (hQ : ∀ failure, (∀ st, failure ≠ .settled st) → Q failure w) :
    S.protocol.Safe i Q (fun _ _ => True) (x402PaymentFailureResponse error settlement r) w := by
  rw [x402PaymentFailureResponse]
  split
  · exact hQ _ fun st h => by cases h
  · trivial

/-- The part that settles, for a receipt that the facilitator has not settled as far as the
thread's current view goes. -/
theorem safe_settleWithFacilitator {receipt working : TypedReceipt} {payload : Json}
    {requirements : Fields} {verifyResponse : Option VerifyResponse} (hw : S.Inv w)
    (hterms : w.store.terms working.row.tenantId working.row.id =
      some (receipt.row.receiptType, receipt.metadata.purchase))
    (hpayload : getReceiptPaymentPayload receipt.metadata = some payload)
    (hnames : S.current → NamesRequirement requirements)
    (hquotable : S.current → receipt.metadata.Quotable)
    (hheld : undisturbed i working.row.id w.trace = true →
      w.store.receipt working.row.tenantId working.row.id = some working.row)
    (hopen : S.current → undisturbed i working.row.id w.trace = true →
      working.row.storedSettled = false) :
    S.protocol.Safe i
      (fun o w' => S.Confirmed i working.row.tenantId working.row.id o w') (fun _ _ => True)
      (settleWithFacilitator S.env receipt working payload requirements verifyResponse) w := by
  refine Protocol.Safe.bind hw (safe_settleX402Payment hw) (fun settle w₁ hw₁ h₁ => ?_)
    fun _ _ _ h => h
  obtain ⟨h₁, hnamed, hreference⟩ := h₁
  have hreports : S.current → settle.response.reports = settle.response.settled := fun hc =>
    (hnamed (hnames hc)).reports
  refine Protocol.Safe.bind hw₁ (safe_updateTypedTenantPaymentReceiptStatus hw₁
    (h₁.keeps.terms _ _ _ hterms) (valid_of_parse receipt.parsed).confirmed ?_)
    (fun updated w₂ hw₂ hwrote => ?_) fun _ _ _ h => h
  · intro hc w' old h' hu hold
    have h' := h₁.trans h'
    have hu₀ := h'.rely.undisturbed _ hu
    have hsame := h'.rely.receipt _ _ _ hu (hheld hu₀)
    obtain rfl := Option.some.inj (hold.symm.trans hsame)
    refine ⟨fun hs => ?_, fun _ => .inl rfl, fun hr f hf payload' hpayload' => ?_,
      fun hst => (by cases hst), hquotable hc⟩
    · rw [hopen hc hu₀] at hs
      cases hs
    · have hsettled : settle.response.settled = true := (hreports hc).symm.trans hr
      have hsame : getReceiptPaymentPayload receipt.metadata = some payload' := hpayload'
      obtain rfl := Option.some.inj (hpayload.symm.trans hsame)
      rw [hreference f hf hsettled, Option.some_or]
  · by_cases hsettled : settle.response.settled = true
    · rw [if_pos hsettled]
      exact ⟨hwrote.knows, hwrote.tenant, hwrote.id, fun f hf => (by cases hf),
        fun _ hc => hwrote.settling hc ((hreports hc).trans hsettled),
        fun _ hc => ⟨_, rfl, (hreports hc).trans hsettled⟩⟩
    · rw [if_neg hsettled]
      refine Protocol.Safe.bind hw₂ (safe_x402PaymentFailureResponse fun failure hfailure => ?_)
        (fun failure w₃ _ h₃ => h₃) fun _ _ _ h => h
      exact ⟨hwrote.knows, hwrote.tenant, hwrote.id,
        fun f hf => by obtain rfl := Option.some.inj hf; exact hfailure,
        fun hn => (by cases hn), fun hn => (by cases hn)⟩

theorem Knows.quotable {r : TypedReceipt} (h : S.Knows i r w) (hc : S.current) :
    r.metadata.Quotable := by
  obtain ⟨m, hm, hq⟩ := (h.ok hc).typed
  obtain rfl := Option.some.inj (r.parsed.symm.trans hm)
  exact hq

theorem storedSettled_eq (r : TypedReceipt) : r.row.storedSettled = r.metadata.reportsSettled :=
  PaymentReceiptRow.storedSettled_of_parse r.parsed

/-- A failure that answers with an error. -/
theorem Confirmed.of_error {r : TypedReceipt} {status : Nat} {error : String}
    (h : S.Knows i r w) : S.Confirmed i r.row.tenantId r.row.id
      { receipt := r, failureResponse := some (.error status error) } w := by
  refine ⟨h, rfl, rfl, fun f hf st hst => ?_, fun hn => (by cases hn), fun hn => (by cases hn)⟩
  obtain rfl := Option.some.inj hf
  cases hst

/-- The part for a receipt past verification. -/
theorem safe_resumeWithFacilitator {r : TypedReceipt} {payload : Json} {requirements : Fields}
    (hw : S.Inv w) (hk : S.Knows i r w)
    (hpayload : getReceiptPaymentPayload r.metadata = some payload)
    (hreq : getReceiptPaymentRequirements r.metadata = some requirements) :
    S.protocol.Safe i (fun o w' => S.Confirmed i r.row.tenantId r.row.id o w') (fun _ _ => True)
      (resumeWithFacilitator S.env r payload requirements) w := by
  simp only [resumeWithFacilitator]
  split
  · next settled hstored =>
    obtain ⟨hparse, hsettled⟩ := Option.filter_eq_some_iff.1 hstored
    have hrow : r.row.storedSettled = true := by
      rw [storedSettled_eq, ReceiptMetadata.reportsSettled, hparse]
      exact hsettled
    exact ⟨hk, rfl, rfl, fun f hf => (by cases hf), fun _ hc => hk.settling hc hrow,
      fun _ _ => ⟨settled, rfl, (named_of_parseStored hparse).reports.trans hsettled⟩⟩
  · next hstored =>
    refine safe_settleWithFacilitator hw hk.terms hpayload
      (fun hc => hk.quotable hc requirements hreq) hk.quotable hk.held fun _ _ => ?_
    rw [storedSettled_eq, ReceiptMetadata.reportsSettled]
    cases hparse : parseStoredX402SettlementResponse r.metadata.facilitatorSettle with
    | none => rfl
    | some response =>
      refine Bool.eq_false_iff.2 fun hs => ?_
      have hsettled : response.settled = true := hs
      simp [hparse, hsettled] at hstored

/-- A receipt that the facilitator has not settled may be marked verified or failed. -/
theorem MayWrite.of_verify {r : TypedReceipt} {status : ReceiptStatus} {verify : VerifyResult}
    (hk : S.Knows i r w) (hopen : S.current → r.row.storedSettled = false)
    (hstatus : status ≠ .settled) (hc : S.current) (h : S.protocol.Later i w w')
    (hu : undisturbed i r.row.id w'.trace = true) {old : PaymentReceiptRow}
    (hold : w'.store.receipt r.row.tenantId r.row.id = some old) :
    S.MayWrite w'.store old status none (withReceiptConfirmation r.metadata .facilitator
      (some verify.response) none (some verify.status)) := by
  obtain rfl := Option.some.inj (hold.symm.trans ((hk.later h).held hu))
  have hreports : (withReceiptConfirmation r.metadata .facilitator (some verify.response) none
      (some verify.status)).reportsSettled = false :=
    (storedSettled_eq r).symm.trans (hopen hc)
  refine ⟨fun hs => ?_, fun hr => ?_, fun hr => ?_, fun h => absurd h hstatus, hk.quotable hc⟩
  · rw [hopen hc] at hs
    cases hs
  · rw [hreports] at hr
    cases hr
  · rw [hreports] at hr
    cases hr

/-- The part for a pending receipt. -/
theorem safe_verifyWithFacilitator {r : TypedReceipt} {payload : Json} {requirements : Fields}
    (hw : S.Inv w) (hk : S.Knows i r w) (hpending : r.row.status = .pending)
    (hpayload : getReceiptPaymentPayload r.metadata = some payload)
    (hreq : getReceiptPaymentRequirements r.metadata = some requirements) :
    S.protocol.Safe i (fun o w' => S.Confirmed i r.row.tenantId r.row.id o w') (fun _ _ => True)
      (verifyWithFacilitator S.env r payload requirements) w := by
  have hopen : S.current → r.row.storedSettled = false := fun hc => by
    refine Bool.eq_false_iff.2 fun hs => ?_
    rcases (hk.ok hc).stored hs with h | h <;> rw [hpending] at h <;> cases h
  have hverify : Touches [] (verifyX402Payment S.env payload requirements r.row.id) :=
    touches_verifyX402Payment
  refine Protocol.Safe.bind hw (frame_later hverify (by simp) (by simp)
    (safe_of_touches_nil hverify hw) hw) (fun verify w₁ hw₁ h₁ => ?_) fun _ _ _ _ => trivial
  have h₁ := h₁.2
  have hk := hk.later h₁
  have hupdate : ∀ status, status ≠ .settled → S.protocol.Safe i
      (fun u w' => S.Wrote i r.row.tenantId r.row.id status (withReceiptConfirmation r.metadata
          .facilitator (some verify.response) none (some verify.status)) u w' ∧
        w'.store.terms r.row.tenantId r.row.id =
          some (r.row.receiptType, r.metadata.purchase))
      (fun _ _ => True)
      (updateTypedTenantPaymentReceiptStatus S.env r.row.tenantId r.row.id status
        verify.response.paymentReference none (withReceiptConfirmation r.metadata .facilitator
          (some verify.response) none (some verify.status))) w₁ := fun status hstatus =>
    Protocol.Safe.mono hw₁ (Protocol.Safe.keep (P := S.protocol) (A := fun w' =>
        w'.store.terms r.row.tenantId r.row.id = some (r.row.receiptType, r.metadata.purchase))
      (fun _ _ hg h => Grows.terms hg _ _ _ h)
      (safe_updateTypedTenantPaymentReceiptStatus hw₁ hk.terms
        (valid_of_parse r.parsed).confirmed fun hc w' old hl hu hold =>
          MayWrite.of_verify hk hopen hstatus hc hl hu hold) hk.terms)
      (fun _ _ _ h => h) fun _ _ _ _ => trivial
  simp only
  split
  · refine Protocol.Safe.bind hw₁ (hupdate .verified (by decide)) (fun working w₂ hw₂ h₂ => ?_)
      fun _ _ _ h => h
    obtain ⟨⟨hworking, htenant, hid, -, hagrees, -⟩, hterms⟩ := h₂
    rw [← htenant, ← hid] at hterms ⊢
    rw [← hid] at hagrees
    refine safe_settleWithFacilitator hw₂ hterms hpayload
      (fun hc => hk.quotable hc requirements hreq) hk.quotable hworking.held fun hc hu => ?_
    -- the copy is what was written, and that was not settled
    rw [storedSettled_eq, ReceiptMetadata.reportsSettled, (hagrees hu).facilitatorSettle]
    exact (storedSettled_eq r).symm.trans (hopen hc)
  · refine Protocol.Safe.bind hw₁ (hupdate .failed (by decide)) (fun failed w₂ hw₂ h₂ => ?_)
      fun _ _ _ h => h
    have hwrote := h₂.1
    refine Protocol.Safe.bind hw₂ (safe_x402PaymentFailureResponse fun failure hfailure => ?_)
      (fun failure w₃ _ h₃ => h₃) fun _ _ _ h => h
    exact ⟨hwrote.knows, hwrote.tenant, hwrote.id,
      fun f hf => by obtain rfl := Option.some.inj hf; exact hfailure,
      fun hn => (by cases hn), fun hn => (by cases hn)⟩

/-- **The facilitator's part**: any outcome without a failure is of a receipt that is being
settled. -/
theorem safe_confirmPaymentReceiptWithFacilitator {r : TypedReceipt} (hw : S.Inv w)
    (hk : S.Knows i r w) :
    S.protocol.Safe i (fun o w' => S.Confirmed i r.row.tenantId r.row.id o w') (fun _ _ => True)
      (confirmPaymentReceiptWithFacilitator S.env r) w := by
  rw [confirmPaymentReceiptWithFacilitator]
  cases hreq : getReceiptPaymentRequirements r.metadata with
  | none => exact Confirmed.of_error hk
  | some requirements =>
    cases hpayload : getReceiptPaymentPayload r.metadata with
    | none => exact Confirmed.of_error hk
    | some payload =>
      simp only
      cases hstatus : r.row.status with
      | failed => exact Confirmed.of_error hk
      | pending => exact safe_verifyWithFacilitator hw hk hstatus hpayload hreq
      | verified => exact safe_resumeWithFacilitator hw hk hpayload hreq
      | settled => exact safe_resumeWithFacilitator hw hk hpayload hreq
      | refunded => exact safe_resumeWithFacilitator hw hk hpayload hreq

end Setting

end MailRuntime
