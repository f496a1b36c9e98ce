import MailRuntime.Billing.Settlements

/-!
# Receipts under the protocol

What a thread knows of a receipt it has read, and what it may write. The thread's own
copy of a receipt is only worth something as long as its view of it is undisturbed; then
the copy is what the table holds, and a write that is right for the copy is right. What
is always worth something are the receipt's terms, which no write changes.
-/

namespace MailRuntime

open Js X402 Interaction

/-- The metadata say that the facilitator has settled the payment. -/
def ReceiptMetadata.reportsSettled (m : ReceiptMetadata) : Bool :=
  (parseStoredX402SettlementResponse m.facilitatorSettle).any SettleResponse.settled

theorem PaymentReceiptRow.storedSettled_of_parse {r : PaymentReceiptRow} {m : ReceiptMetadata}
    (h : parsePaymentReceiptMetadata r.receiptType r.metadata = some m) :
    r.storedSettled = m.reportsSettled := by
  rw [storedSettled, h, Option.bind_some, ReceiptMetadata.reportsSettled]

theorem PaymentReceiptRow.terms_of_parse {r : PaymentReceiptRow} {m : ReceiptMetadata}
    (h : parsePaymentReceiptMetadata r.receiptType r.metadata = some m) :
    r.terms = some (r.receiptType, m.purchase) := by
  rw [terms, h, Option.map_some]

theorem parseTypedPaymentReceipt_of_parse {r : PaymentReceiptRow} {m : ReceiptMetadata}
    (h : parsePaymentReceiptMetadata r.receiptType r.metadata = some m) :
    parseTypedPaymentReceipt r = some ⟨r, m, h⟩ := by
  unfold parseTypedPaymentReceipt
  split
  · next m' h' =>
    obtain rfl := Option.some.inj (h'.symm.trans h)
    rfl
  · next h' =>
    rw [h] at h'
    cases h'

theorem row_of_parseTyped {r : PaymentReceiptRow} {typed : TypedReceipt}
    (h : parseTypedPaymentReceipt r = some typed) : typed.row = r := by
  unfold parseTypedPaymentReceipt at h
  split at h
  · obtain rfl := Option.some.inj h
    rfl
  · cases h

/-- A receipt that has terms parses. -/
theorem typed_of_terms {r : PaymentReceiptRow} {receiptType : ReceiptType} {purchase : Purchase}
    (h : r.terms = some (receiptType, purchase)) :
    ∃ typed, parseTypedPaymentReceipt r = some typed ∧ typed.row = r ∧
      r.receiptType = receiptType ∧ typed.metadata.purchase = purchase := by
  rw [PaymentReceiptRow.terms, Option.map_eq_some_iff] at h
  obtain ⟨m, hm, heq⟩ := h
  exact ⟨_, parseTypedPaymentReceipt_of_parse hm, rfl, congrArg Prod.fst heq,
    congrArg Prod.snd heq⟩

namespace Setting

variable {ι : Type} [DecidableEq ι] {S : Setting ι} {i : ι} {w w' : World ι Db Label}
  {env : Env} {t rid : String} {β : Type} {Q : β → World ι Db Label → Prop}
  {E : Exn → World ι Db Label → Prop}

/-! ### What a thread knows -/

/-- What a thread knows of a receipt it has read. -/
structure Knows (S : Setting ι) (i : ι) (r : TypedReceipt) (w : World ι Db Label) : Prop where
  terms : w.store.terms r.row.tenantId r.row.id = some (r.row.receiptType, r.metadata.purchase)
  held : undisturbed i r.row.id w.trace = true →
    w.store.receipt r.row.tenantId r.row.id = some r.row
  ok : S.current → w.store.ReceiptOk S.reference r.row
  settling : S.current → r.row.storedSettled = true →
    w.store.Settling r.row.tenantId r.row.id

theorem Knows.mono {r : TypedReceipt} (h : S.Knows i r w) (hg : Grows S.current w.store w'.store)
    (hv : Views i w w') : S.Knows i r w' :=
  ⟨hg.terms _ _ _ h.terms, fun hu => hv.receipt _ _ _ hu (h.held (hv.undisturbed _ hu)),
    fun hc => (h.ok hc).mono hg.ledger, fun hc hs => hg.settling hc _ _ (h.settling hc hs)⟩

theorem Knows.later {r : TypedReceipt} (h : S.Knows i r w) (hl : S.protocol.Later i w w') :
    S.Knows i r w' := h.mono hl.keeps (Rely.views (S := S) hl.rely)

/-- A receipt that is read now is known. -/
theorem Knows.of_read {r : TypedReceipt} (hw : S.Inv w)
    (hr : w.store.receipt t rid = some r.row) : S.Knows i r w := by
  obtain ⟨-, rfl, rfl⟩ := Db.receipt_mem hr
  refine ⟨?_, fun _ => hr, fun hc => (hw.consistent hc).receiptOk hr, fun _ hs => ⟨r.row, hr, hs⟩⟩
  rw [Db.terms, hr, Option.bind_some, PaymentReceiptRow.terms_of_parse r.parsed]

/-! ### The write -/

/-- The row after a write to `old`. -/
def written (old : PaymentReceiptRow) (status : ReceiptStatus)
    (paymentReference settlementReference : Option String) (metadata : Option Json)
    (updatedAt : Nat) : PaymentReceiptRow :=
  { old with
    status := status, paymentReference := paymentReference
    settlementReference := settlementReference, metadata := metadata, updatedAt := updatedAt }

/-- The write keeps receipts and ledger in agreement. -/
structure Sound (S : Setting ι) (s : Db) (old new : PaymentReceiptRow) : Prop where
  ok : s.ReceiptOk S.reference new
  stored : old.storedSettled = true → new.storedSettled = true
  settled : old.status = .settled → new.status = .settled

/-- A sound write of a receipt, by a thread whose view of it is current. -/
theorem good_setReceipt {old : PaymentReceiptRow} (new : PaymentReceiptRow) {n : Nat}
    {o : Outcome} (hw : S.Inv w)
    (hold : w.store.receipt new.tenantId new.id = some old)
    (hfp : new.paymentProofFingerprint = old.paymentProofFingerprint)
    (hfree : ∀ r ∈ w.store.receipts, r.id ≠ new.id →
      r.sharesReference new.paymentReference new.settlementReference = false)
    (hterms : ∀ x, old.terms = some x → new.terms = some x)
    (hsound : S.current → S.Sound w.store old new) (hn : 0 < n) (heff : o.effective = true) :
    S.protocol.Good i w
      ⟨w.store.setReceipt new, ⟨i, .writeReceipt new.id new.status n, o⟩ :: w.trace⟩ := by
  have hsome : (w.store.receipt new.tenantId new.id).isSome := by rw [hold]; rfl
  have hreceipt := Db.receipt_setReceipt hsome
  have htermsAll : ∀ t rid x, w.store.terms t rid = some x →
      (w.store.setReceipt new).terms t rid = some x := by
    intro t rid x hx
    rw [Db.terms, hreceipt]
    by_cases hkey : new.tenantId = t ∧ new.id = rid
    · rw [if_pos hkey]
      rw [Db.terms, ← hkey.1, ← hkey.2, hold] at hx
      exact hterms x hx
    · rw [if_neg hkey]
      exact hx
  have hquiet : ∀ t k, owing t k
      (⟨i, .writeReceipt new.id new.status n, o⟩ :: w.trace) = owing t k w.trace := by
    intro t k
    by_cases hk : k = i
    · subst hk
      exact owing_cons_self
    · exact owing_cons_of_ne hk
  refine ⟨⟨hw.mailboxes, hw.agents, hw.keyed.setReceipt hold hfp hfree, ?_, ?_, ?_, ?_⟩,
    ⟨fun _ h => h, fun _ h => h, fun _ h => h, List.Subset.refl _, htermsAll, ?_⟩, fun k hk => ?_⟩
  · intro e he
    rcases hw.justified e he with hstart | hdebit | ⟨rid, ty, p, hid, ht, hc⟩
    · exact .inl hstart
    · exact .inr (.inl hdebit)
    · exact .inr (.inr ⟨rid, ty, p, hid, htermsAll _ _ _ ht, hc⟩)
  · intro halone t ht hi
    exact hw.balanced halone t ht fun k => (hquiet t k).symm.trans (hi k)
  · exact fun hc => (hw.consistent hc).setReceipt hold (hsound hc).ok (hsound hc).stored
  · intro hc rid hs
    by_cases hset : rid = new.id ∧ new.status = .settled
    · refine ⟨new, ?_, hset.1.symm, hset.2⟩
      have hnew := hreceipt new.tenantId new.id
      rw [if_pos ⟨rfl, rfl⟩] at hnew
      exact (Db.receipt_mem hnew).1
    · have hbefore : SettledBefore S.start rid w.trace := by
        refine settledBefore_cons (fun m hl => hset ?_) hs
        obtain ⟨hid, hst, -⟩ := Label.writeReceipt.inj hl
        exact ⟨hid.symm, hst⟩
      obtain ⟨r, hr, hrid, hst⟩ := hw.settled hc rid hbefore
      have hr' := hreceipt r.tenantId r.id
      by_cases hkey : new.tenantId = r.tenantId ∧ new.id = r.id
      · -- the receipt that was settled is the one that is written
        rw [hkey.1, hkey.2, hw.keyed.receipt_of_mem hr] at hold
        obtain rfl := Option.some.inj hold
        exact absurd ⟨hrid.symm.trans hkey.2.symm, (hsound hc).settled hst⟩ hset
      · rw [if_neg hkey, hw.keyed.receipt_of_mem hr] at hr'
        exact ⟨r, (Db.receipt_mem hr').1, hrid, hst⟩
  · rintro hc t rid ⟨r, hr, hrs⟩
    show (w.store.setReceipt new).Settling t rid
    rw [Db.Settling, hreceipt]
    by_cases hkey : new.tenantId = t ∧ new.id = rid
    · rw [if_pos hkey]
      rw [← hkey.1, ← hkey.2, hold] at hr
      obtain rfl := Option.some.inj hr
      exact ⟨new, rfl, (hsound hc).stored hrs⟩
    · rw [if_neg hkey]
      exact ⟨r, hr, hrs⟩
  · refine ⟨fun t => hquiet t k, fun _ => reconciling_cons_of_ne hk, fun _ _ _ => rfl,
      fun _ hu => undisturbed_of_cons_ne hk hu, fun t rid r hu hr => ?_⟩
    show (w.store.setReceipt new).receipt t rid = some r
    rw [hreceipt, if_neg fun hkey => ?_]
    · exact hr
    · have hview : viewOf k rid (⟨i, .writeReceipt new.id new.status n, o⟩ : Event ι Label) =
          some false := if_pos ⟨hkey.2, Ne.symm hk, heff, hn⟩
      rw [undisturbed, latest_cons_some hview] at hu
      cases hu

/-- A write that changes no row. -/
theorem good_noReceipt {status : ReceiptStatus} {n : Nat} {o : Outcome} (hw : S.Inv w)
    (hn : n = 0 ∨ o.effective = false) :
    S.protocol.Good i w ⟨w.store, ⟨i, .writeReceipt rid status n, o⟩ :: w.trace⟩ := by
  have hquiet : ∀ t k, owing t k
      (⟨i, .writeReceipt rid status n, o⟩ :: w.trace) = owing t k w.trace := by
    intro t k
    by_cases hk : k = i
    · subst hk
      exact owing_cons_self
    · exact owing_cons_of_ne hk
  refine ⟨⟨hw.mailboxes, hw.agents, hw.keyed, hw.justified, ?_, hw.consistent, ?_⟩,
    Grows.refl _ _, fun k hk => ⟨fun t => hquiet t k, fun _ => reconciling_cons_of_ne hk,
      fun _ _ _ => rfl, fun _ hu => undisturbed_of_cons_ne hk hu, fun _ _ _ _ hr => hr⟩⟩
  · intro halone t ht hi
    exact hw.balanced halone t ht fun k => (hquiet t k).symm.trans (hi k)
  · rintro hc rid' (h | ⟨e, he, heff, m, hm, hlabel⟩)
    · exact hw.settled hc rid' (.inl h)
    · rcases List.mem_cons.1 he with rfl | he
      · obtain ⟨-, -, rfl⟩ := Label.writeReceipt.inj hlabel
        rcases hn with rfl | hn
        · exact absurd hm (Nat.lt_irrefl 0)
        · rw [hn] at heff
          cases heff
      · exact hw.settled hc rid' (.inr ⟨e, he, heff, m, hm, hlabel⟩)

/-- A write of a receipt's status: right for the row it finds, if the thread's view of the
receipt is current. -/
theorem safe_writeReceipt {status : ReceiptStatus}
    {paymentReference settlementReference : Option String} {metadata : Option Json}
    {updatedAt : Nat} {receiptType : ReceiptType} {purchase : Purchase} {m : ReceiptMetadata}
    (hw : S.Inv w) (hterms : w.store.terms t rid = some (receiptType, purchase))
    (hm : parsePaymentReceiptMetadata receiptType metadata = some m)
    (hpurchase : m.purchase = purchase)
    (hsound : S.current → undisturbed i rid w.trace = true →
      ∀ old, w.store.receipt t rid = some old → S.Sound w.store old
        (written old status paymentReference settlementReference metadata updatedAt)) :
    S.protocol.Safe i
      (fun _ w' => (undisturbed i rid w'.trace = true → ∃ old, w'.store.receipt t rid =
          some (written old status paymentReference settlementReference metadata updatedAt)) ∧
        (S.current → m.reportsSettled = true → w'.store.Settling t rid))
      (fun _ _ => True)
      (writeReceipt t rid status paymentReference settlementReference metadata updatedAt) w := by
  have hcases := Db.updateReceipt_cases hw.keyed t rid status paymentReference settlementReference
    metadata updatedAt
  simp only at hcases
  obtain ⟨old, hold⟩ : ∃ old, w.store.receipt t rid = some old := by
    rw [Db.terms, Option.bind_eq_some_iff] at hterms
    obtain ⟨old, hold, -⟩ := hterms
    exact ⟨old, hold⟩
  obtain ⟨-, rfl, rfl⟩ := Db.receipt_mem hold
  have hold_terms : old.terms = some (receiptType, purchase) := by
    rw [Db.terms, hold, Option.bind_some] at hterms
    exact hterms
  have htype : old.receiptType = receiptType := (typed_of_terms hold_terms).choose_spec.2.2.1
  refine safe_perform (fun o ho => ?_) (fun w' h' => ?_) fun _ _ _ => trivial
  · rcases hcases with heq | ⟨hnone, -⟩ | ⟨old', n, hold', hfree, hn, heq⟩
    · -- a reference is taken
      simp only [heq, ite_self, Option.getD_none]
      exact good_noReceipt hw (.inl rfl)
    · rw [hold] at hnone
      cases hnone
    · obtain rfl := Option.some.inj (hold.symm.trans hold')
      rw [heq] at ho ⊢
      simp only [Option.getD_some] at ho ⊢
      by_cases heff : o.effective = true
      · rw [if_pos heff]
        refine good_setReceipt (written old status paymentReference settlementReference metadata
          updatedAt) hw hold rfl hfree (fun x hx => ?_) (fun hc => ?_) hn heff
        · obtain rfl := Option.some.inj (hold_terms.symm.trans hx)
          rw [← hpurchase, ← htype]
          exact PaymentReceiptRow.terms_of_parse (htype ▸ hm)
        · refine hsound hc ?_ old hold
          exact (ho.2 hc).resolve_left (Nat.pos_iff_ne_zero.1 hn)
      · rw [if_neg heff]
        exact good_noReceipt hw (.inr (by simpa using heff))
  · rcases hcases with heq | ⟨hnone, -⟩ | ⟨old', n, hold', -, -, heq⟩
    · simp only [heq]
      trivial
    · rw [hold] at hnone
      cases hnone
    · obtain rfl := Option.some.inj (hold.symm.trans hold')
      rw [heq] at h' ⊢
      have hset : (w.store.setReceipt (written old status paymentReference settlementReference
          metadata updatedAt)).receipt old.tenantId old.id =
          some (written old status paymentReference settlementReference metadata updatedAt) := by
        refine (Db.receipt_setReceipt ?_ old.tenantId old.id).trans (if_pos ⟨rfl, rfl⟩)
        exact Option.isSome_iff_exists.2 ⟨old, hold⟩
      refine ⟨fun hu => ⟨old, h'.rely.receipt _ _ _ hu hset⟩, fun hc hs => ?_⟩
      refine h'.keeps.settling hc _ _ ⟨_, hset, ?_⟩
      rw [← hs]
      exact PaymentReceiptRow.storedSettled_of_parse (htype ▸ hm)

/-- What makes a status write right for the row `old` it finds. -/
structure MayWrite (S : Setting ι) (s : Db) (old : PaymentReceiptRow) (status : ReceiptStatus)
    (settlementReference : Option String) (metadata : ReceiptMetadata) : Prop where
  stored : old.storedSettled = true → metadata.reportsSettled = true ∧ status = .settled
  reports : metadata.reportsSettled = true → status = .verified ∨ status = .settled
  backed : metadata.reportsSettled = true → ∀ f, S.reference = some f →
    ∀ payload, getReceiptPaymentPayload metadata = some payload →
      settlementReference.or old.settlementReference = some (f payload)
  settled : status = .settled →
    metadata.reportsSettled = true ∧ s.HasCredit old.tenantId old.id
  quotable : metadata.Quotable

omit [DecidableEq ι] in
theorem MayWrite.sound {s : Db} {old : PaymentReceiptRow} {status : ReceiptStatus}
    {paymentReference settlementReference : Option String} {metadata m : ReceiptMetadata}
    {json : Option Json} {updatedAt : Nat}
    (h : S.MayWrite s old status settlementReference metadata)
    (hold : s.ReceiptOk S.reference old)
    (hm : parsePaymentReceiptMetadata old.receiptType json = some m) (hagree : m.Agrees metadata) :
    S.Sound s old (written old status paymentReference
      (settlementReference.or old.settlementReference) json updatedAt) := by
  have hreports : m.reportsSettled = metadata.reportsSettled := by
    rw [ReceiptMetadata.reportsSettled, hagree.facilitatorSettle]
    rfl
  have hstored : (written old status paymentReference
      (settlementReference.or old.settlementReference) json updatedAt).storedSettled =
      metadata.reportsSettled :=
    (PaymentReceiptRow.storedSettled_of_parse hm).trans hreports
  refine ⟨⟨⟨m, hm, ?_⟩, fun hs => ?_, fun hs f hf m' payload hm' hpayload => ?_, fun hst => ?_⟩,
    fun hs => ?_, fun hst => ?_⟩
  · intro requirements hreq
    rw [getReceiptPaymentRequirements, hagree.quote] at hreq
    exact h.quotable requirements hreq
  · exact h.reports (hstored ▸ hs)
  · obtain rfl := Option.some.inj (hm.symm.trans hm')
    rw [getReceiptPaymentPayload, hagree.paymentProof] at hpayload
    exact h.backed (hstored ▸ hs) f hf payload hpayload
  · rw [hstored]
    exact h.settled hst
  · rw [hstored]
    exact (h.stored hs).1
  · exact (h.stored (hold.settled hst).1).2

/-- What a thread has after it wrote a receipt's status and read the receipt again. -/
structure Wrote (S : Setting ι) (i : ι) (t rid : String) (status : ReceiptStatus)
    (metadata : ReceiptMetadata) (r : TypedReceipt) (w : World ι Db Label) : Prop where
  knows : S.Knows i r w
  tenant : r.row.tenantId = t
  id : r.row.id = rid
  status : undisturbed i rid w.trace = true → r.row.status = status
  agrees : undisturbed i rid w.trace = true → r.metadata.Agrees metadata
  settling : S.current → metadata.reportsSettled = true → w.store.Settling t rid

/-- The `UPDATE` of a receipt keeps its terms; where the thread's view of the receipt stays
current, the row that is read back is the one that was written. -/
theorem safe_updateTenantPaymentReceiptStatus {status : ReceiptStatus}
    {paymentReference settlementReference : Option String} {metadata : ReceiptMetadata}
    {receiptType : ReceiptType} (hw : S.Inv w)
    (hterms : w.store.terms t rid = some (receiptType, metadata.purchase))
    (hvalid : metadata.Valid receiptType)
    (hwrite : S.current → ∀ w' old, S.protocol.Later i w w' →
      undisturbed i rid w'.trace = true → w'.store.receipt t rid = some old →
      S.MayWrite w'.store old status settlementReference metadata) :
    S.protocol.Safe i
      (fun row w' => ∃ r, parseTypedPaymentReceipt row = some r ∧
        S.Wrote i t rid status metadata r w')
      (fun _ _ => True)
      (updateTenantPaymentReceiptStatus env t rid status paymentReference settlementReference
        metadata) w := by
  obtain ⟨existing, hexisting⟩ : ∃ existing, w.store.receipt t rid = some existing := by
    rw [Db.terms, Option.bind_eq_some_iff] at hterms
    obtain ⟨existing, h, -⟩ := hterms
    exact ⟨existing, h⟩
  refine safe_read rfl hw (fun w₁ h₁ => ?_) fun _ _ _ => trivial
  rw [hexisting]
  refine safe_nowIso h₁.inv fun updatedAt w₂ h₂ => ?_
  have h₂ := h₁.trans h₂
  have hterms₂ := h₂.keeps.terms t rid _ hterms
  obtain ⟨m, hm, hagree⟩ := parse_spread ((asRecord existing.metadata).getD []) hvalid
  -- the row the write finds is the one that was read, if nobody wrote in between
  have hsound : S.current → undisturbed i rid w₂.trace = true →
      ∀ old, w₂.store.receipt t rid = some old → S.Sound w₂.store old
        (written old status (paymentReference.or existing.paymentReference)
          (settlementReference.or existing.settlementReference)
          (some (.obj (spread ((asRecord existing.metadata).getD []) metadata.toDraft).stored))
          updatedAt) := by
    intro hc hu old hold
    have hsame := h₂.rely.receipt t rid existing hu hexisting
    obtain rfl := Option.some.inj (hold.symm.trans hsame)
    have htype : old.receiptType = receiptType := by
      rw [Db.terms, hold, Option.bind_some] at hterms₂
      obtain ⟨_, -, -, htype, -⟩ := typed_of_terms hterms₂
      exact htype
    exact (hwrite hc w₂ old h₂ hu hold).sound ((h₂.inv.consistent hc).receiptOk hold)
      (htype ▸ hm) hagree
  have hstatement := Protocol.Safe.keep (P := S.protocol)
    (A := fun w' => w'.store.terms t rid = some (receiptType, metadata.purchase))
    (fun _ _ hk h => Grows.terms hk t rid _ h)
    (safe_writeReceipt h₂.inv hterms₂ hm hagree.purchase hsound) hterms₂
  refine Protocol.Safe.bind h₂.inv
    (Protocol.Safe.tryCatch (F := fun _ _ => True) h₂.inv hstatement fun _ _ _ _ => trivial)
    (fun changes w₃ hw₃ h₃ => ?_) fun _ _ _ h => h
  obtain ⟨⟨hrow, hsettling⟩, hterms₃⟩ := h₃
  split
  · trivial
  · obtain ⟨row, hreceipt, hrowterms⟩ : ∃ row, w₃.store.receipt t rid = some row ∧
        row.terms = some (receiptType, metadata.purchase) := by
      rw [Db.terms, Option.bind_eq_some_iff] at hterms₃
      exact hterms₃
    refine safe_read rfl hw₃ (fun w₄ h₄ => ?_) fun _ _ _ => trivial
    rw [hreceipt]
    obtain ⟨r, hr, hrr, htype, -⟩ := typed_of_terms hrowterms
    have hread : w₃.store.receipt t rid = some r.row := hrr ▸ hreceipt
    obtain ⟨-, htenant, hid⟩ := Db.receipt_mem hread
    have hwritten : undisturbed i rid w₄.trace = true → row.status = status ∧
        row.metadata = some (.obj
          (spread ((asRecord existing.metadata).getD []) metadata.toDraft).stored) := by
      intro hu
      obtain ⟨old, hold⟩ := hrow (h₄.rely.undisturbed rid hu)
      obtain rfl := Option.some.inj (hreceipt.symm.trans hold)
      exact ⟨rfl, rfl⟩
    refine ⟨r, hr, (Knows.of_read hw₃ hread).later h₄, htenant, hid, fun hu => ?_, fun hu => ?_,
      fun hc hs => h₄.keeps.settling hc t rid (hsettling hc ?_)⟩
    · rw [hrr]
      exact (hwritten hu).1
    · have hparsed := r.parsed
      rw [hrr, htype, (hwritten hu).2, hm] at hparsed
      obtain rfl := Option.some.inj hparsed
      exact hagree
    · rw [ReceiptMetadata.reportsSettled, hagree.facilitatorSettle]
      exact hs

theorem safe_updateTypedTenantPaymentReceiptStatus {status : ReceiptStatus}
    {paymentReference settlementReference : Option String} {metadata : ReceiptMetadata}
    {receiptType : ReceiptType} (hw : S.Inv w)
    (hterms : w.store.terms t rid = some (receiptType, metadata.purchase))
    (hvalid : metadata.Valid receiptType)
    (hwrite : S.current → ∀ w' old, S.protocol.Later i w w' →
      undisturbed i rid w'.trace = true → w'.store.receipt t rid = some old →
      S.MayWrite w'.store old status settlementReference metadata) :
    S.protocol.Safe i (fun r w' => S.Wrote i t rid status metadata r w') (fun _ _ => True)
      (updateTypedTenantPaymentReceiptStatus env t rid status paymentReference settlementReference
        metadata) w := by
  obtain ⟨existing, hexisting⟩ : ∃ existing, w.store.receipt t rid = some existing := by
    rw [Db.terms, Option.bind_eq_some_iff] at hterms
    obtain ⟨existing, h, -⟩ := hterms
    exact ⟨existing, h⟩
  refine safe_read rfl hw (fun w₁ h₁ => ?_) fun _ _ _ => trivial
  rw [hexisting]
  refine Protocol.Safe.bind h₁.inv (safe_updateTenantPaymentReceiptStatus h₁.inv
    (h₁.keeps.terms t rid _ hterms) hvalid fun hc w' old hl => hwrite hc w' old (h₁.trans hl))
    (fun row w₂ _ h₂ => ?_) fun _ _ _ h => h
  obtain ⟨r, hr, hwrote⟩ := h₂
  rw [hr]
  exact hwrote

/-! ### Reading and creating receipts -/

/-- A receipt that is read to be acted on is known. -/
theorem safe_getTypedTenantPaymentReceiptById (hw : S.Inv w) :
    S.protocol.Safe i
      (fun result w' => ∀ r, result = some r →
        S.Knows i r w' ∧ r.row.tenantId = t ∧ r.row.id = rid)
      (fun _ _ => True) (getTypedTenantPaymentReceiptById t rid) w := by
  refine safe_query rfl hw (fun w₁ h₁ => ?_) fun _ _ _ _ => trivial
  intro r hr
  obtain ⟨row, hrow, hparse⟩ := Option.bind_eq_some_iff.1 hr
  obtain rfl := row_of_parseTyped hparse
  obtain ⟨-, ht, hid⟩ := Db.receipt_mem hrow
  exact ⟨(Knows.of_read (hw.cons rfl) hrow).later h₁, ht, hid⟩

theorem safe_getTypedPaymentReceiptByProofFingerprint {fingerprint : String} (hw : S.Inv w) :
    S.protocol.Safe i (fun result w' => ∀ r, result = some r → S.Knows i r w')
      (fun _ _ => True) (getTypedPaymentReceiptByProofFingerprint fingerprint) w := by
  refine safe_load ?_ hw (fun w₁ h₁ => ?_) fun _ _ _ _ => trivial
  · split <;> rfl
  · generalize hrows : (w.store.receipts.filter fun r =>
      r.paymentProofFingerprint == some fingerprint) = rows at h₁ ⊢
    rcases rows with _ | ⟨row, _ | ⟨row', rest⟩⟩
    · exact fun r hr => by cases hr
    · intro r hr
      have hparse : parseTypedPaymentReceipt row = some r := hr
      obtain rfl := row_of_parseTyped hparse
      have hmem : r.row ∈ w.store.receipts := by
        have := List.mem_singleton_self r.row
        rw [← hrows] at this
        exact (List.mem_filter.1 this).1
      exact (Knows.of_read (hw.cons rfl) (hw.keyed.receipt_of_mem hmem)).later h₁
    · trivial

/-- A new receipt is in order. -/
theorem Calm.insertReceipt {new : PaymentReceiptRow} (h : S.Inv w)
    (hfree : w.store.receiptFree new = true) (hok : S.current → w.store.ReceiptOk S.reference new) :
    S.Calm w { w.store with receipts := w.store.receipts ++ [new] } := by
  have hreceipt : ∀ t rid r, w.store.receipt t rid = some r →
      Db.receipt { w.store with receipts := w.store.receipts ++ [new] } t rid = some r :=
    fun _ _ _ hr => Db.receipt_insert hr
  have hterms : ∀ t rid x, w.store.terms t rid = some x →
      Db.terms { w.store with receipts := w.store.receipts ++ [new] } t rid = some x := by
    intro t rid x hx
    rw [Db.terms, Option.bind_eq_some_iff] at hx ⊢
    obtain ⟨r, hr, hrx⟩ := hx
    exact ⟨r, hreceipt t rid r hr, hrx⟩
  refine ⟨⟨h.mailboxes, h.agents, h.keyed.insertReceipt hfree, ?_, h.balanced,
    fun hc => (h.consistent hc).insertReceipt (hok hc), ?_⟩,
    ⟨fun _ h => h, fun _ h => h, fun _ h => h, List.Subset.refl _, hterms, ?_⟩, fun _ => rfl,
    hreceipt⟩
  · intro e he
    rcases h.justified e he with hstart | hdebit | ⟨rid, ty, p, hid, ht, hc⟩
    · exact .inl hstart
    · exact .inr (.inl hdebit)
    · exact .inr (.inr ⟨rid, ty, p, hid, hterms _ _ _ ht, hc⟩)
  · intro hc rid hs
    obtain ⟨r, hr, hkey⟩ := h.settled hc rid hs
    exact ⟨r, List.mem_append_left _ hr, hkey⟩
  · rintro - t rid ⟨r, hr, hrs⟩
    exact ⟨r, hreceipt t rid r hr, hrs⟩

/-- The `INSERT` of a receipt in order leaves its terms in the table, or throws. -/
theorem safe_insertReceipt {new : PaymentReceiptRow} {x : ReceiptType × Purchase} (hw : S.Inv w)
    (hok : S.current → w.store.ReceiptOk S.reference new) (hterms : new.terms = some x) :
    S.protocol.Safe i (fun _ w' => w'.store.terms new.tenantId new.id = some x)
      (fun _ _ => True)
      (insertRow (fun _ => .write .receipts) (fun s => s.receiptFree new) fun s =>
        { s with receipts := s.receipts ++ [new] }) w := by
  have hcalm : S.Calm w (if w.store.receiptFree new = true then
      (1, { w.store with receipts := w.store.receipts ++ [new] }) else (0, w.store)).2 := by
    split
    · next hfree => exact Calm.insertReceipt hw hfree hok
    · exact Calm.refl hw
  refine safe_write (fun _ => rfl) hw hcalm (fun w₁ h₁ _ => ?_) fun _ _ _ => trivial
  by_cases hfree : w.store.receiptFree new = true
  · rw [if_pos hfree] at h₁ ⊢
    refine h₁.keeps.terms _ _ _ ?_
    have hkeyed := hw.keyed.insertReceipt hfree
    have hfound := hkeyed.receipt_of_mem (List.mem_append_right _ (List.mem_singleton_self new))
    show Db.terms _ new.tenantId new.id = _
    rw [Db.terms, hfound, Option.bind_some, hterms]
  · rw [if_neg hfree]
    trivial

/-- The receipt with an identifier is the one a tenant has with it. -/
theorem find_of_receipt {s : Db} (hs : s.Keyed) {row : PaymentReceiptRow}
    (hrow : s.receipt t rid = some row) :
    (s.receipts.find? fun r => r.id == rid) = some row := by
  obtain ⟨hmem, -, hid⟩ := Db.receipt_mem hrow
  have hsome : (s.receipts.find? fun r => r.id == rid).isSome :=
    List.find?_isSome.2 ⟨row, hmem, by simp [hid]⟩
  obtain ⟨row', hrow'⟩ := Option.isSome_iff_exists.1 hsome
  have hid' : row'.id = rid := by simpa using List.find?_some hrow'
  rw [hrow', hs.eq_of_id (List.mem_of_find?_eq_some hrow') hmem (hid'.trans hid.symm)]

theorem safe_createTenantPaymentReceipt {receiptType : ReceiptType} {paymentScheme : String}
    {network asset : Option String} {amountAtomic : String}
    {amountDisplay fingerprint : Option String} {metadata : Draft} {m : ReceiptMetadata}
    (hw : S.Inv w)
    (hm : parsePaymentReceiptMetadata receiptType (some (.obj metadata.stored)) = some m)
    (hquotable : m.Quotable) (hnew : m.reportsSettled = false) :
    S.protocol.Safe i (fun row w' => ∃ r, parseTypedPaymentReceipt row = some r ∧ S.Knows i r w')
      (fun _ _ => True)
      (createTenantPaymentReceipt env t receiptType paymentScheme network asset amountAtomic
        amountDisplay fingerprint .pending metadata) w := by
  refine safe_createId hw fun id w₁ h₁ => safe_nowIso h₁.inv fun timestamp w₂ h₂ => ?_
  have hok : ∀ (s : Db) (new : PaymentReceiptRow), new.receiptType = receiptType →
      new.metadata = some (.obj metadata.stored) → new.status = .pending →
      s.ReceiptOk S.reference new := by
    intro s new htype hmeta hstatus
    have hparse : parsePaymentReceiptMetadata new.receiptType new.metadata = some m := by
      rw [htype, hmeta, hm]
    have hstored : new.storedSettled = false :=
      (PaymentReceiptRow.storedSettled_of_parse hparse).trans hnew
    exact ⟨⟨m, hparse, hquotable⟩, fun h => absurd h (by simp [hstored]),
      fun h => absurd h (by simp [hstored]), fun h => absurd (hstatus.symm.trans h) (by decide)⟩
  refine Protocol.Safe.bind h₂.inv (Protocol.Safe.tryCatch (F := fun _ _ => True) h₂.inv
    (safe_insertReceipt h₂.inv (fun _ => hok _ _ rfl rfl rfl)
      (PaymentReceiptRow.terms_of_parse hm)) fun e w' _ _ => by split <;> trivial)
    (fun _ w₃ hw₃ hterms => ?_) fun _ _ _ h => h
  refine safe_query rfl hw₃ (fun w₄ h₄ => ?_) fun _ _ _ _ => trivial
  rw [Db.terms, Option.bind_eq_some_iff] at hterms
  obtain ⟨row, hrow, hrowterms⟩ := hterms
  rw [find_of_receipt hw₃.keyed hrow]
  obtain ⟨r, hr, hrr, -, -⟩ := typed_of_terms hrowterms
  exact ⟨r, hr, (Knows.of_read (hw₃.cons rfl) (hrr ▸ hrow)).later h₄⟩

/-- **A new receipt**: its metadata parse again, so it is never deleted. -/
theorem safe_createTypedTenantPaymentReceipt {receiptType : ReceiptType} {paymentScheme : String}
    {network asset : Option String} {amountAtomic : String}
    {amountDisplay fingerprint : Option String} {metadata : ReceiptMetadata} (hw : S.Inv w)
    (hvalid : metadata.Valid receiptType) (hquotable : metadata.Quotable)
    (hnew : metadata.facilitatorSettle = none) :
    S.protocol.Safe i (fun r w' => S.Knows i r w') (fun _ _ => True)
      (createTypedTenantPaymentReceipt env t receiptType paymentScheme network asset amountAtomic
        amountDisplay fingerprint .pending metadata) w := by
  obtain ⟨m, hm, hagree⟩ := parse_spread [] hvalid
  have hspread : (spread [] metadata.toDraft).stored = metadata.toDraft.stored := rfl
  rw [hspread] at hm
  have hmq : m.Quotable := fun req hreq => by
    rw [getReceiptPaymentRequirements, hagree.quote] at hreq
    exact hquotable req hreq
  have hmr : m.reportsSettled = false := by
    rw [ReceiptMetadata.reportsSettled, hagree.facilitatorSettle, hnew]
    rfl
  refine Protocol.Safe.bind hw (safe_createTenantPaymentReceipt hw hm hmq hmr)
    (fun row w₁ _ h₁ => ?_) fun _ _ _ h => h
  obtain ⟨r, hr, hknows⟩ := h₁
  rw [hr]
  exact hknows

end Setting

end MailRuntime
