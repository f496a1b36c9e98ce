import MailRuntime.Repositories.Billing
import MailRuntime.Payments.RoundTrip
import Mathlib.Data.List.Pairwise

/-!
# What the billing statements do to the tables

The constraints of the three billing tables, the balance of an account and its ledger,
and the terms of a receipt, with what each statement of the billing repository does to
them. Nothing here is about runs: these are facts about one database and the next.
-/

namespace MailRuntime

open Js X402

/-- The primary keys and the unique indexes of the billing tables. -/
structure Db.Keyed (s : Db) : Prop where
  accounts : s.accounts.Pairwise fun a b => a.tenantId ≠ b.tenantId
  ledger : s.ledger.Pairwise fun a b => a.clashes b = false
  receipts : s.receipts.Pairwise fun a b => a.clashes b = false

/-- The credits of a tenant, available or reserved. -/
def Db.credits (s : Db) (tenantId : String) : Int :=
  ((s.account tenantId).map fun r => r.availableCredits + r.reservedCredits).getD 0

/-- The account says what the ledger says. -/
def Db.Balanced (s : Db) (tenantId : String) : Prop := s.credits tenantId = s.ledgerSum tenantId

instance (s : Db) (tenantId : String) : Decidable (s.Balanced tenantId) :=
  inferInstanceAs (Decidable (_ = _))

/-! ### Two rows that clash -/

theorem clash_comm (a b : Option String) : clash a b = clash b a := by
  cases a <;> cases b <;> simp [clash, eq_comm]

theorem CreditLedgerRow.clashes_comm (a b : CreditLedgerRow) : a.clashes b = b.clashes a := by
  simp only [clashes, clash_comm a.paymentReceiptId, clash_comm a.referenceId,
    BEq.comm (a := a.id)]

theorem PaymentReceiptRow.clashes_comm (a b : PaymentReceiptRow) : a.clashes b = b.clashes a := by
  simp only [clashes, clash_comm a.paymentReference, clash_comm a.settlementReference,
    clash_comm a.paymentProofFingerprint, BEq.comm (a := a.id)]

/-- In a list of which no two members are related, two related members are one. -/
theorem eq_of_pairwise {α : Type} {l : List α} {r : α → α → Bool}
    (hr : ∀ a b, r a b = r b a) (hl : l.Pairwise fun a b => r a b = false) {a b : α}
    (ha : a ∈ l) (hb : b ∈ l) (h : r a b = true) : a = b := by
  by_contra hne
  have hsymm : Std.Symm fun a b => r a b = false := ⟨fun a b h => (hr b a).trans h⟩
  have := hl.forall ha hb hne
  rw [h] at this
  cases this

/-- What picks out members of a list of which no two are related, if it only picks out
related ones, picks out the one there is. -/
theorem filter_eq_singleton {α : Type} {l : List α} {r : α → α → Bool} {p : α → Bool}
    (hl : l.Pairwise fun a b => r a b = false)
    (hp : ∀ a b, p a = true → p b = true → r a b = true) {a : α} (ha : a ∈ l) (hpa : p a = true) :
    l.filter p = [a] := by
  induction l with
  | nil => cases ha
  | cons b rest ih =>
    obtain ⟨hb, hrest⟩ := List.pairwise_cons.1 hl
    have hnone : p b = true → rest.filter p = [] := by
      intro hpb
      refine List.filter_eq_nil_iff.2 fun c hc hpc => ?_
      have h := hb c hc
      rw [hp b c hpb hpc] at h
      cases h
    rcases List.mem_cons.1 ha with rfl | ha
    · rw [List.filter_cons_of_pos hpa, hnone hpa]
    · have hpb : p b ≠ true := by
        intro hpb
        have h := hb a ha
        rw [hp b a hpb hpa] at h
        cases h
      rw [List.filter_cons_of_neg hpb]
      exact ih hrest ha

/-! ### Accounts -/

theorem Db.account_mem {s : Db} {t : String} {r : BillingAccountRow} (h : s.account t = some r) :
    r ∈ s.accounts ∧ r.tenantId = t :=
  ⟨List.mem_of_find?_eq_some h, by simpa using List.find?_some h⟩

variable {s : Db} {t : String} {guard : BillingAccountRow → Bool}
  {set : BillingAccountRow → BillingAccountRow}

/-- An update of one tenant's account is one of its account alone. -/
theorem Db.account_updateAccount (hset : ∀ r, (set r).tenantId = r.tenantId) (t' : String) :
    (s.updateAccount t guard set).2.account t' =
      (s.account t').map fun r => if t' = t ∧ guard r = true then set r else r := by
  simp only [Db.account, Db.updateAccount]
  induction s.accounts with
  | nil => rfl
  | cons r rest ih =>
    have hkeep : (if (r.tenantId == t && guard r) = true then set r else r).tenantId =
        r.tenantId := by
      split
      · exact hset r
      · rfl
    rw [List.map_cons, List.find?_cons, List.find?_cons, hkeep]
    by_cases hr : r.tenantId = t'
    · simp [hr]
    · have hr' : (r.tenantId == t') = false := by simpa using hr
      simp only [hr']
      exact ih

/-- An update neither makes nor takes an account. -/
theorem Db.isSome_account_updateAccount (hset : ∀ r, (set r).tenantId = r.tenantId) {t' : String} :
    ((s.updateAccount t guard set).2.account t').isSome ↔ (s.account t').isSome := by
  rw [Db.account_updateAccount hset, Option.isSome_map]

theorem Db.Keyed.updateAccount (hset : ∀ r, (set r).tenantId = r.tenantId) (h : s.Keyed) :
    (s.updateAccount t guard set).2.Keyed := by
  refine ⟨?_, h.ledger, h.receipts⟩
  simp only [Db.updateAccount, List.pairwise_map]
  refine h.accounts.imp fun {a b} hab => ?_
  have hkeep : ∀ r : BillingAccountRow,
      (if (r.tenantId == t && guard r) = true then set r else r).tenantId = r.tenantId := by
    intro r
    split
    · exact hset r
    · rfl
  rw [hkeep, hkeep]
  exact hab

/-- The update of an account that is there changes a row. -/
theorem Db.updateAccount_pos (h : (s.account t).isSome) :
    (s.updateAccount t (fun _ => true) set).1 ≠ 0 := by
  obtain ⟨r, hr⟩ := Option.isSome_iff_exists.1 h
  obtain ⟨hmem, ht⟩ := Db.account_mem hr
  have hpos : 0 < s.accounts.countP fun r => r.tenantId == t && true :=
    List.countP_pos_iff.2 ⟨r, hmem, by simp [ht]⟩
  exact Nat.pos_iff_ne_zero.1 hpos

/-- An update that changes no row changes nothing. -/
theorem Db.updateAccount_zero (h : (s.updateAccount t guard set).1 = 0) :
    (s.updateAccount t guard set).2 = s := by
  have hnone := List.countP_eq_zero.1 h
  have hmap : (s.accounts.map fun r => if (r.tenantId == t && guard r) = true then set r else r) =
      s.accounts := by
    conv_rhs => rw [← List.map_id s.accounts]
    refine List.map_congr_left fun r hr => ?_
    rw [if_neg (hnone r hr), id]
  rw [Db.updateAccount, hmap]

/-- An update that moves credits about leaves their number. -/
theorem Db.credits_updateAccount (hset : ∀ r, (set r).tenantId = r.tenantId)
    (hsum : ∀ r, (set r).availableCredits + (set r).reservedCredits =
      r.availableCredits + r.reservedCredits) (t' : String) :
    (s.updateAccount t guard set).2.credits t' = s.credits t' := by
  simp only [Db.credits, Db.account_updateAccount hset, Option.map_map]
  congr 2
  funext r
  simp only [Function.comp_apply]
  split
  · exact hsum r
  · rfl

/-- An account that is set to the sum of its ledger is balanced. -/
theorem Db.balanced_updateAccount (hset : ∀ r, (set r).tenantId = r.tenantId)
    (hsum : ∀ r, (set r).availableCredits + (set r).reservedCredits = s.ledgerSum t)
    (hacc : (s.account t).isSome) : (s.updateAccount t (fun _ => true) set).2.Balanced t := by
  obtain ⟨r, hr⟩ := Option.isSome_iff_exists.1 hacc
  rw [Db.Balanced, Db.credits, Db.account_updateAccount hset, hr]
  simp only [Option.map_some, Option.getD_some, and_self, if_true]
  exact hsum r

/-! ### The ledger -/

variable {row : CreditLedgerRow}

/-- A row is inserted, or one of its keys is taken and nothing happens. -/
theorem Db.insertLedgerRow_cases (s : Db) (row : CreditLedgerRow) :
    s.insertLedgerRow row = (0, s) ∨
      (∀ r ∈ s.ledger, r.clashes row = false) ∧
        s.insertLedgerRow row = (1, { s with ledger := s.ledger ++ [row] }) := by
  by_cases h : (s.ledger.any fun r => r.clashes row) = true
  · exact .inl (by simp [Db.insertLedgerRow, h])
  · refine .inr ⟨fun r hr => ?_, by simp [Db.insertLedgerRow, h]⟩
    rw [List.any_eq_true] at h
    push Not at h
    simpa using h r hr

theorem Db.Keyed.insertLedgerRow (h : s.Keyed) : (s.insertLedgerRow row).2.Keyed := by
  rcases s.insertLedgerRow_cases row with heq | ⟨hfree, heq⟩
  · rw [heq]
    exact h
  · rw [heq]
    refine ⟨h.accounts, ?_, h.receipts⟩
    refine List.pairwise_append.2 ⟨h.ledger, List.pairwise_singleton _ _, fun a ha b hb => ?_⟩
    obtain rfl := List.mem_singleton.1 hb
    exact hfree a ha

theorem Db.ledgerSum_insert_of_ne {s' : Db} (h : s'.ledger = s.ledger ++ [row])
    (ht : row.tenantId ≠ t) : s'.ledgerSum t = s.ledgerSum t := by
  have ht' : (row.tenantId == t) = false := by simpa using ht
  simp [Db.ledgerSum, h, List.filter_append, ht']

/-- No two rows of the ledger are for the same receipt. -/
theorem Db.Keyed.receipt_entry (h : s.Keyed) {e : CreditLedgerRow} {rid : String}
    (he : e ∈ s.ledger) (hr : e.paymentReceiptId = some rid) :
    (s.ledger.filter fun r => r.tenantId == e.tenantId && r.paymentReceiptId == some rid) =
      [e] := by
  refine filter_eq_singleton h.ledger (fun a b ha hb => ?_) he
    (by simp [hr])
  simp only [Bool.and_eq_true, beq_iff_eq] at ha hb
  simp [CreditLedgerRow.clashes, ha.2, hb.2, clash]

/-- No two rows of the ledger have the same reference. -/
theorem Db.Keyed.reference_entry (h : s.Keyed) {e : CreditLedgerRow} {reference : String}
    (he : e ∈ s.ledger) (hr : e.referenceId = some reference) :
    (s.ledger.filter fun r => r.tenantId == e.tenantId && r.referenceId == some reference) =
      [e] := by
  refine filter_eq_singleton h.ledger (fun a b ha hb => ?_) he
    (by simp [hr])
  simp only [Bool.and_eq_true, beq_iff_eq] at ha hb
  simp [CreditLedgerRow.clashes, ha.2, hb.2, clash]

/-- The receipt's credits are in the ledger. -/
def Db.HasCredit (s : Db) (tenantId receiptId : String) : Prop :=
  ∃ e ∈ s.ledger, e.tenantId = tenantId ∧ e.paymentReceiptId = some receiptId

instance (s : Db) (tenantId receiptId : String) : Decidable (s.HasCredit tenantId receiptId) :=
  inferInstanceAs (Decidable (∃ _ ∈ _, _))

/-- The job's debit is in the ledger. -/
def Db.HasDebit (s : Db) (tenantId outboundJobId : String) : Prop :=
  ∃ e ∈ s.ledger, e.tenantId = tenantId ∧ e.referenceId = some outboundJobId

/-! ### Receipts -/

/-- What a receipt is for, if its metadata parse: its type and its purchase. -/
def PaymentReceiptRow.terms (r : PaymentReceiptRow) : Option (ReceiptType × Purchase) :=
  (parsePaymentReceiptMetadata r.receiptType r.metadata).map fun m => (r.receiptType, m.purchase)

/-- The terms of the receipt of a tenant. -/
def Db.terms (s : Db) (tenantId receiptId : String) : Option (ReceiptType × Purchase) :=
  (s.receipt tenantId receiptId).bind PaymentReceiptRow.terms

/-- The row in the place of the one with its identifier. -/
def Db.setReceipt (s : Db) (row : PaymentReceiptRow) : Db :=
  { s with receipts := s.receipts.map fun r =>
      if r.tenantId == row.tenantId && r.id == row.id then row else r }

theorem Db.receipt_mem {s : Db} {t rid : String} {r : PaymentReceiptRow}
    (h : s.receipt t rid = some r) : r ∈ s.receipts ∧ r.tenantId = t ∧ r.id = rid := by
  have hp := List.find?_some h
  simp only [Bool.and_eq_true, beq_iff_eq] at hp
  exact ⟨List.mem_of_find?_eq_some h, hp⟩

theorem Db.Keyed.eq_of_id (h : s.Keyed) {a b : PaymentReceiptRow} (ha : a ∈ s.receipts)
    (hb : b ∈ s.receipts) (hid : a.id = b.id) : a = b :=
  eq_of_pairwise PaymentReceiptRow.clashes_comm h.receipts ha hb
    (by simp [PaymentReceiptRow.clashes, hid])

theorem Db.Keyed.receipt_of_mem (h : s.Keyed) {r : PaymentReceiptRow} (hr : r ∈ s.receipts) :
    s.receipt r.tenantId r.id = some r := by
  have hsome : (s.receipt r.tenantId r.id).isSome := by
    rw [Db.receipt, List.find?_isSome]
    exact ⟨r, hr, by simp⟩
  obtain ⟨r', hr'⟩ := Option.isSome_iff_exists.1 hsome
  obtain ⟨hmem, -, hid⟩ := Db.receipt_mem hr'
  rw [hr', h.eq_of_id hmem hr hid]

/-- What replaces the members that are picked out is found in their place. -/
theorem find?_replace {α : Type} {l : List α} {p : α → Bool} {new : α} (hnew : p new = true)
    (h : (l.find? p).isSome) : (l.map fun a => if p a then new else a).find? p = some new := by
  induction l with
  | nil => simp at h
  | cons a rest ih =>
    rw [List.map_cons]
    by_cases ha : p a = true
    · rw [if_pos ha, List.find?_cons_of_pos hnew]
    · rw [List.find?_cons_of_neg ha] at h
      rw [if_neg ha, List.find?_cons_of_neg ha]
      exact ih h

/-- What looks for other members does not notice the replacement. -/
theorem find?_replace_of_ne {α : Type} {l : List α} {p q : α → Bool} {new : α}
    (hnew : q new = false) (hpq : ∀ a, p a = true → q a = false) :
    (l.map fun a => if p a then new else a).find? q = l.find? q := by
  induction l with
  | nil => rfl
  | cons a rest ih =>
    rw [List.map_cons]
    by_cases ha : p a = true
    · rw [if_pos ha, List.find?_cons_of_neg (by simp [hnew]),
        List.find?_cons_of_neg (by simp [hpq a ha]), ih]
    · rw [if_neg ha, List.find?_cons, List.find?_cons, ih]

variable {new old : PaymentReceiptRow}

/-- A row that is set is found, and all others are found as before. -/
theorem Db.receipt_setReceipt (h : (s.receipt new.tenantId new.id).isSome) (t' rid' : String) :
    (s.setReceipt new).receipt t' rid' =
      if new.tenantId = t' ∧ new.id = rid' then some new else s.receipt t' rid' := by
  by_cases hnew : new.tenantId = t' ∧ new.id = rid'
  · obtain ⟨rfl, rfl⟩ := hnew
    rw [if_pos ⟨rfl, rfl⟩]
    exact find?_replace (by simp) h
  · rw [if_neg hnew]
    refine find?_replace_of_ne (by simpa using hnew) fun a ha => ?_
    simp only [Bool.and_eq_true, beq_iff_eq] at ha
    simpa [ha.1, ha.2] using hnew

theorem Db.mem_setReceipt {r : PaymentReceiptRow} (h : r ∈ (s.setReceipt new).receipts) :
    r = new ∨ r ∈ s.receipts ∧ ¬(r.tenantId = new.tenantId ∧ r.id = new.id) := by
  obtain ⟨a, ha, rfl⟩ := List.mem_map.1 h
  by_cases hp : (a.tenantId == new.tenantId && a.id == new.id) = true
  · exact .inl (if_pos hp)
  · rw [if_neg hp]
    exact .inr ⟨ha, by simpa using hp⟩

/-- Two receipts have the same reference. -/
def PaymentReceiptRow.sharesReference (r : PaymentReceiptRow)
    (paymentReference settlementReference : Option String) : Bool :=
  clash r.paymentReference paymentReference || clash r.settlementReference settlementReference

/-- An update that breaks no index, and keeps identifier and fingerprint, keeps the keys. -/
theorem Db.Keyed.setReceipt (h : s.Keyed) (hold : s.receipt new.tenantId new.id = some old)
    (hfp : new.paymentProofFingerprint = old.paymentProofFingerprint)
    (hfree : ∀ r ∈ s.receipts, r.id ≠ new.id →
      r.sharesReference new.paymentReference new.settlementReference = false) :
    (s.setReceipt new).Keyed := by
  refine ⟨h.accounts, h.ledger, ?_⟩
  obtain ⟨hmem, -, hid⟩ := Db.receipt_mem hold
  -- a row that is not replaced does not clash with the new one
  have hother : ∀ r ∈ s.receipts, ¬(r.tenantId = new.tenantId ∧ r.id = new.id) →
      r.clashes new = false := by
    intro r hr hne
    have hrid : r.id ≠ new.id := by
      intro hrid
      have hro : r = old := h.eq_of_id hr hmem (hrid.trans hid.symm)
      exact hne ⟨by rw [hro]; exact (Db.receipt_mem hold).2.1, hrid⟩
    have hrefs := hfree r hr hrid
    have hclash : r.clashes old = false := by
      refine Bool.eq_false_iff.2 fun hc => hrid ?_
      rw [eq_of_pairwise PaymentReceiptRow.clashes_comm h.receipts hr hmem hc, hid]
    simp only [PaymentReceiptRow.sharesReference, Bool.or_eq_false_iff] at hrefs
    simp only [PaymentReceiptRow.clashes, Bool.or_eq_false_iff] at hclash ⊢
    exact ⟨⟨⟨by simpa using hrid, hrefs.1⟩, hrefs.2⟩, hfp ▸ hclash.2⟩
  simp only [Db.setReceipt, List.pairwise_map]
  refine h.receipts.imp_of_mem fun {a b} ha hb hab => ?_
  by_cases hpa : (a.tenantId == new.tenantId && a.id == new.id) = true
  · by_cases hpb : (b.tenantId == new.tenantId && b.id == new.id) = true
    · -- two rows with the identifier cannot both be there
      simp only [Bool.and_eq_true, beq_iff_eq] at hpa hpb
      simp [PaymentReceiptRow.clashes, hpa.2, hpb.2] at hab
    · rw [if_pos hpa, if_neg hpb, PaymentReceiptRow.clashes_comm]
      exact hother b hb (by simpa using hpb)
  · by_cases hpb : (b.tenantId == new.tenantId && b.id == new.id) = true
    · rw [if_neg hpa, if_pos hpb]
      exact hother a ha (by simpa using hpa)
    · rw [if_neg hpa, if_neg hpb]
      exact hab

/-- The `UPDATE` of a receipt breaks an index, finds no row, or sets one row. -/
theorem Db.updateReceipt_cases (h : s.Keyed) (t rid : String) (status : ReceiptStatus)
    (paymentReference settlementReference : Option String) (metadata : Option Json)
    (updatedAt : Nat) :
    let result := s.updateReceipt t rid status paymentReference settlementReference metadata
      updatedAt
    result = (none, s) ∨ (s.receipt t rid = none ∧ result = (some 0, s)) ∨
      ∃ old n, s.receipt t rid = some old ∧
        (∀ r ∈ s.receipts, r.id ≠ rid →
          r.sharesReference paymentReference settlementReference = false) ∧
        0 < n ∧ result = (some n, s.setReceipt { old with
          status := status, paymentReference := paymentReference
          settlementReference := settlementReference, metadata := metadata
          updatedAt := updatedAt }) := by
  simp only [Db.updateReceipt]
  split
  · exact .inl rfl
  · next hfree =>
    right
    rcases hold : s.receipt t rid with _ | old
    · have hnone : ∀ r ∈ s.receipts, (r.tenantId == t && r.id == rid) = false := by
        intro r hr
        have := List.find?_eq_none.1 hold r hr
        simpa using this
      refine .inl ⟨rfl, ?_⟩
      have hcount : (s.receipts.countP fun r => r.tenantId == t && r.id == rid) = 0 :=
        List.countP_eq_zero.2 fun r hr => by simp [hnone r hr]
      have hmap : (s.receipts.map fun r => if (r.tenantId == t && r.id == rid) = true then
          { r with
            status := status, paymentReference := paymentReference
            settlementReference := settlementReference, metadata := metadata
            updatedAt := updatedAt } else r) = s.receipts := by
        conv_rhs => rw [← List.map_id s.receipts]
        refine List.map_congr_left fun r hr => ?_
        simp [hnone r hr]
      rw [hcount, hmap]
    · obtain ⟨hmem, ht, hid⟩ := Db.receipt_mem hold
      refine .inr ⟨old, _, rfl, ?_, ?_, Prod.ext rfl ?_⟩
      · intro r hr hrid
        refine Bool.eq_false_iff.2 fun hshare => hfree ?_
        rw [Bool.and_eq_true, List.any_eq_true, List.any_eq_true]
        refine ⟨⟨old, hmem, by simp [ht, hid]⟩, r, hr, ?_⟩
        simpa [PaymentReceiptRow.sharesReference, hrid] using hshare
      · exact List.countP_pos_iff.2 ⟨old, hmem, by simp [ht, hid]⟩
      · simp only [Db.setReceipt, ht, hid]
        congr 1
        refine List.map_congr_left fun r hr => ?_
        split
        · next hp =>
          have hr' : r = old := h.eq_of_id hr hmem (by
            simp only [Bool.and_eq_true, beq_iff_eq] at hp
            rw [hp.2, hid])
          rw [hr']
          simp [ht, hid]
        · rfl

/-- A row that is inserted breaks no index. -/
theorem Db.Keyed.insertReceipt (h : s.Keyed) (hfree : s.receiptFree new = true) :
    Db.Keyed { s with receipts := s.receipts ++ [new] } := by
  refine ⟨h.accounts, h.ledger, ?_⟩
  refine List.pairwise_append.2 ⟨h.receipts, List.pairwise_singleton _ _, fun a ha b hb => ?_⟩
  obtain rfl := List.mem_singleton.1 hb
  simp only [Db.receiptFree, Bool.not_eq_true', List.any_eq_false] at hfree
  simpa using hfree a ha

/-- The receipts that were there are found as before. -/
theorem Db.receipt_insert {r : PaymentReceiptRow} {rid : String}
    (h : s.receipt t rid = some r) :
    Db.receipt { s with receipts := s.receipts ++ [new] } t rid = some r := by
  simp only [Db.receipt] at h ⊢
  rw [List.find?_append, h, Option.some_or]

end MailRuntime
