import MailRuntime.Billing.Tables

/-!
# What receipts and ledger say of each other

A receipt goes through the facilitator before its credits go into the ledger, and is
marked settled after. So the stored answer of the facilitator is the pivot: credits are
entered only where it says settled, and where it says settled the receipt has left the
statuses `pending` and `failed` behind. `Db.Consistent` says so of a database; the
statements of the billing repository keep it under the conditions given here.

Where a facilitator's settlement reference depends on nothing but the signed payload,
`reference` is that function, and a consistent database has it in every receipt that
the facilitator has settled.
-/

namespace MailRuntime

open Js X402

/-- The stored metadata say that the facilitator has settled the payment. -/
def PaymentReceiptRow.storedSettled (r : PaymentReceiptRow) : Bool :=
  ((parsePaymentReceiptMetadata r.receiptType r.metadata).bind fun m =>
    parseStoredX402SettlementResponse m.facilitatorSettle).any SettleResponse.settled

/-- The requirement that the payload is for names its scheme and its network. -/
def ReceiptMetadata.Quotable (m : ReceiptMetadata) : Prop :=
  ∀ requirements, getReceiptPaymentRequirements m = some requirements →
    ∃ scheme network, requirements.lookup "scheme" = some (.str scheme) ∧
      requirements.lookup "network" = some (.str network)

/-- The payload that the receipt's metadata hold. -/
def PaymentReceiptRow.payload (r : PaymentReceiptRow) : Option Json :=
  (parsePaymentReceiptMetadata r.receiptType r.metadata).bind getReceiptPaymentPayload

/-- The settlement reference is the one of the receipt's payload. -/
def PaymentReceiptRow.Backed (reference : Json → String) (r : PaymentReceiptRow) : Prop :=
  ∀ m payload, parsePaymentReceiptMetadata r.receiptType r.metadata = some m →
    getReceiptPaymentPayload m = some payload → r.settlementReference = some (reference payload)

/-- The receipt's status is what the facilitator and the ledger say it is. -/
structure Db.ReceiptOk (s : Db) (reference : Option (Json → String)) (r : PaymentReceiptRow) :
    Prop where
  typed : ∃ m, parsePaymentReceiptMetadata r.receiptType r.metadata = some m ∧ m.Quotable
  stored : r.storedSettled = true → r.status = .verified ∨ r.status = .settled
  backed : r.storedSettled = true → ∀ f, reference = some f → r.Backed f
  settled : r.status = .settled → r.storedSettled = true ∧ s.HasCredit r.tenantId r.id

/-- The facilitator has settled the receipt of a tenant. -/
def Db.Settling (s : Db) (tenantId receiptId : String) : Prop :=
  ∃ r, s.receipt tenantId receiptId = some r ∧ r.storedSettled = true

/-- Credits are of receipts that the facilitator has settled, and all receipts are in order. -/
structure Db.Consistent (s : Db) (reference : Option (Json → String)) : Prop where
  credited : ∀ e ∈ s.ledger, ∀ rid, e.paymentReceiptId = some rid → s.Settling e.tenantId rid
  receipts : ∀ r ∈ s.receipts, s.ReceiptOk reference r

variable {s s' : Db} {reference : Option (Json → String)} {row : CreditLedgerRow}
  {old new r : PaymentReceiptRow} {t rid : String}

/-- What is in the ledger stays, so a receipt in order stays so. -/
theorem Db.ReceiptOk.mono (h : s.ReceiptOk reference r) (hsub : s.ledger ⊆ s'.ledger) :
    s'.ReceiptOk reference r :=
  ⟨h.typed, h.stored, h.backed, fun hst =>
    let ⟨hstored, e, he, hkey⟩ := h.settled hst
    ⟨hstored, e, hsub he, hkey⟩⟩

theorem Db.subset_insertLedgerRow : s.ledger ⊆ (s.insertLedgerRow row).2.ledger := by
  rcases s.insertLedgerRow_cases row with heq | ⟨-, heq⟩ <;> rw [heq]
  · exact List.Subset.refl _
  · exact List.subset_append_left _ _

/-- A credit is entered where the facilitator has settled. -/
theorem Db.Consistent.insertLedgerRow (h : s.Consistent reference)
    (hrow : ∀ rid, row.paymentReceiptId = some rid → s.Settling row.tenantId rid) :
    (s.insertLedgerRow row).2.Consistent reference := by
  have hsub : s.ledger ⊆ (s.insertLedgerRow row).2.ledger := Db.subset_insertLedgerRow
  rcases s.insertLedgerRow_cases row with heq | ⟨-, heq⟩
  · rw [heq]
    exact h
  · rw [heq] at hsub ⊢
    refine ⟨fun e he rid hrid => ?_, fun r hr => (h.receipts r hr).mono hsub⟩
    rcases List.mem_append.1 he with he | he
    · exact h.credited e he rid hrid
    · obtain rfl := List.mem_singleton.1 he
      exact hrow rid hrid

/-- A receipt is set to one in order, which does not take a settlement back. -/
theorem Db.Consistent.setReceipt (h : s.Consistent reference)
    (hold : s.receipt new.tenantId new.id = some old) (hnew : s.ReceiptOk reference new)
    (hstored : old.storedSettled = true → new.storedSettled = true) :
    (s.setReceipt new).Consistent reference := by
  have hsome : (s.receipt new.tenantId new.id).isSome := by rw [hold]; rfl
  refine ⟨fun e he rid hrid => ?_, fun r hr => ?_⟩
  · obtain ⟨r, hr, hrs⟩ := h.credited e he rid hrid
    rw [Db.Settling, Db.receipt_setReceipt hsome]
    by_cases hkey : new.tenantId = e.tenantId ∧ new.id = rid
    · rw [if_pos hkey]
      rw [← hkey.1, ← hkey.2, hold] at hr
      exact ⟨new, rfl, hstored (Option.some.inj hr ▸ hrs)⟩
    · rw [if_neg hkey]
      exact ⟨r, hr, hrs⟩
  · rcases Db.mem_setReceipt hr with rfl | ⟨hr, -⟩
    · exact hnew.mono (List.Subset.refl _)
    · exact (h.receipts r hr).mono (List.Subset.refl _)

/-- A new receipt is in order. -/
theorem Db.Consistent.insertReceipt (h : s.Consistent reference)
    (hnew : s.ReceiptOk reference new) :
    Db.Consistent { s with receipts := s.receipts ++ [new] } reference := by
  refine ⟨fun e he rid hrid => ?_, fun r hr => ?_⟩
  · obtain ⟨r, hr, hrs⟩ := h.credited e he rid hrid
    exact ⟨r, Db.receipt_insert hr, hrs⟩
  · rcases List.mem_append.1 hr with hr | hr
    · exact (h.receipts r hr).mono (List.Subset.refl _)
    · obtain rfl := List.mem_singleton.1 hr
      exact hnew.mono (List.Subset.refl _)

/-! ### What consistency says -/

theorem Db.Consistent.receiptOk (h : s.Consistent reference) (hr : s.receipt t rid = some r) :
    s.ReceiptOk reference r := h.receipts r (Db.receipt_mem hr).1

/-- A receipt whose credits are in the ledger is verified or settled. -/
theorem Db.Consistent.status_of_credit (h : s.Consistent reference)
    (hr : s.receipt t rid = some r) (hc : s.HasCredit t rid) :
    r.status = .verified ∨ r.status = .settled := by
  obtain ⟨e, he, rfl, hrid⟩ := hc
  obtain ⟨r', hr', hstored⟩ := h.credited e he rid hrid
  obtain rfl := Option.some.inj (hr.symm.trans hr')
  exact (h.receiptOk hr).stored hstored

end MailRuntime
