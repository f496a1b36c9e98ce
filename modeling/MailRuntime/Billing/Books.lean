import MailRuntime.Billing.Steps

/-!
# Accounts and ledger under the protocol

What the account and ledger functions do while other billing calls run. A reconciliation
ends with nothing owed on the tenant's books, an append with the entry in the ledger and
the reconciliation owed, and between the two nothing throws unless a statement fails: the
rows that are looked for in between are never taken away.
-/

namespace MailRuntime

open Js X402 Interaction

namespace Setting

variable {ι : Type} [DecidableEq ι] {S : Setting ι} {i : ι} {w : World ι Db Label}
  {env : Env} {t : String}

/-! ### Accounts -/

/-- A new account has no credits. -/
theorem Calm.insertAccount (h : S.Inv w) {row : BillingAccountRow} (hrow : row.tenantId = t)
    (hcredits : row.availableCredits + row.reservedCredits = 0)
    (hnone : w.store.account t = none) :
    S.Calm w { w.store with accounts := w.store.accounts ++ [row] } := by
  have haccount : ∀ t', Db.account { w.store with accounts := w.store.accounts ++ [row] } t' =
      (w.store.account t').or (if row.tenantId = t' then some row else none) := by
    intro t'
    simp only [Db.account, List.find?_append, List.find?_singleton, beq_iff_eq]
  have hcredit : ∀ t', Db.credits { w.store with accounts := w.store.accounts ++ [row] } t' =
      w.store.credits t' := by
    intro t'
    rw [Db.credits, haccount, Db.credits]
    rcases hr : w.store.account t' with _ | r
    · by_cases ht : row.tenantId = t'
      · simp [ht, hcredits]
      · simp [ht]
    · rfl
  refine ⟨⟨h.mailboxes, h.agents, ⟨?_, h.keyed.ledger, h.keyed.receipts⟩, h.justified, ?_, ?_,
    h.settled⟩, ⟨?_, fun _ h => h, fun _ h => h, List.Subset.refl _, fun _ _ _ h => h,
    fun _ _ _ h => h⟩, fun _ => rfl, fun _ _ _ hr => hr⟩
  · refine List.pairwise_append.2 ⟨h.keyed.accounts, List.pairwise_singleton _ _,
      fun a ha b hb => ?_⟩
    obtain rfl := List.mem_singleton.1 hb
    intro hab
    have := List.find?_eq_none.1 hnone a ha
    simp [hab, hrow] at this
  · intro halone t' ht' hi
    have hb := h.balanced halone t' ht' hi
    rw [Db.Balanced, hcredit]
    exact hb
  · intro hc
    exact ⟨(h.consistent hc).credited, fun r hr =>
      ((h.consistent hc).receipts r hr).mono (List.Subset.refl _)⟩
  · intro t' ht'
    obtain ⟨r, hr⟩ := Option.isSome_iff_exists.1 ht'
    rw [haccount, hr]
    rfl

/-- After `ensure`, the tenant has an account. -/
theorem safe_ensureTenantBillingAccount (hw : S.Inv w) :
    S.protocol.Safe i (fun _ w' => (w'.store.account t).isSome) (fun _ _ => ¬S.alone)
      (ensureTenantBillingAccount env t) w := by
  refine safe_read rfl hw (fun w₁ h₁ => ?_) fun ha _ _ => ha
  cases hacc : w.store.account t with
  | some existing => exact h₁.keeps.accounts t (by rw [hacc]; rfl)
  | none =>
    refine safe_nowIso h₁.inv fun updatedAt w₂ h₂ => ?_
    have hcalm : S.Calm w₂ (if (w₂.store.account t).isSome then (0, w₂.store)
        else (1, { w₂.store with accounts := w₂.store.accounts ++ [{
          tenantId := t, status := .trial, pricingTier := .free
          defaultNetwork := none, defaultAsset := none
          availableCredits := 0, reservedCredits := 0, updatedAt := updatedAt }] })).2 := by
      split
      · exact Calm.refl h₂.inv
      · next hnone =>
        exact Calm.insertAccount h₂.inv rfl rfl (Option.not_isSome_iff_eq_none.1 hnone)
    refine safe_write (fun _ => rfl) h₂.inv hcalm (fun w₃ h₃ _ => ?_) fun ha _ _ => ha
    have hsome : (w₃.store.account t).isSome := by
      refine h₃.keeps.accounts t ?_
      split
      · assumption
      · simp [Db.account, List.find?_append]
    refine safe_read rfl h₃.inv (fun w₄ h₄ => ?_) fun ha _ _ => ha
    obtain ⟨r, hr⟩ := Option.isSome_iff_exists.1 hsome
    rw [hr]
    exact h₄.keeps.accounts t hsome

/-- The account of a tenant that has one is read back. -/
theorem safe_requireAccount {message : String} (hw : S.Inv w)
    (hacc : (w.store.account t).isSome) :
    S.protocol.Safe i (fun _ w' => S.protocol.Later i w w') (fun _ _ => ¬S.alone)
      (getTenantBillingAccount t >>= fun row => requireRow row message) w := by
  refine safe_read rfl hw (fun w₁ h₁ => ?_) fun ha _ _ => ha
  obtain ⟨r, hr⟩ := Option.isSome_iff_exists.1 hacc
  rw [hr]
  exact h₁

theorem safe_updateTenantBillingAccountProfile {status : Option BillingStatus}
    {pricingTier : Option PricingTier} {defaultNetwork defaultAsset : Option String}
    (hw : S.Inv w) :
    S.protocol.Safe i (fun _ _ => True) (fun _ _ => ¬S.alone)
      (updateTenantBillingAccountProfile env t status pricingTier defaultNetwork defaultAsset)
      w := by
  refine Protocol.Safe.bind hw (safe_ensureTenantBillingAccount hw) (fun _ w₁ hw₁ hacc => ?_)
    fun _ _ _ h => h
  refine safe_nowIso hw₁ fun updatedAt w₂ h₂ => ?_
  have hacc := h₂.keeps.accounts t hacc
  refine safe_write (fun _ => rfl) h₂.inv
    (Calm.updateAccount h₂.inv (fun _ => rfl) fun _ => rfl) (fun w₃ _ h₃ => ?_) fun ha _ _ => ha
  rw [if_neg (Db.updateAccount_pos hacc)]
  exact Protocol.Safe.mono h₃.inv (safe_requireAccount h₃.inv (h₃.keeps.accounts t hacc))
    (fun _ _ _ _ => trivial) fun _ _ _ h => h

/-- `reserve` and `release` move credits about. -/
theorem safe_moveCredits {l : Nat → Label} {guard : BillingAccountRow → Bool}
    {available reserved : Int} (hl : ∀ n, (l n).plain = true) (hsum : available + reserved = 0)
    (hw : S.Inv w) :
    S.protocol.Safe i (fun _ _ => True) (fun _ _ => True)
      (moveCredits env l t guard available reserved) w := by
  refine safe_nowIso hw fun updatedAt w₁ h₁ => ?_
  refine safe_write hl h₁.inv (Calm.updateAccount h₁.inv (fun _ => rfl) fun r => ?_)
    (fun w₂ h₂ _ => ?_) fun _ _ _ => trivial
  · show r.availableCredits + available + (r.reservedCredits + reserved) = _
    omega
  · split
    · trivial
    · refine safe_read rfl h₂.inv (fun w₃ _ => ?_) fun _ _ _ => trivial
      rcases w₂.store.account t with _ | r <;> trivial

/-! ### The statements on the books -/

variable {α β : Type} {Q : β → World ι Db Label → Prop} {E : Exn → World ι Db Label → Prop}
  {l : Label} {o : Outcome} {s' : Db}

/-- The thread owes no reconciliation. -/
def Clear (S : Setting ι) (i : ι) (w : World ι Db Label) : Prop :=
  S.alone → ∀ t, owing t i w.trace = false

/-- The thread owes no reconciliation but perhaps this tenant's. -/
def ClearBut (S : Setting ι) (i : ι) (t : String) (w : World ι Db Label) : Prop :=
  S.alone → ∀ t', t' ≠ t → owing t' i w.trace = false

theorem Clear.later {w' : World ι Db Label} (h : S.Clear i w)
    (hl : S.protocol.Later i w w') : S.Clear i w' :=
  fun ha t => (hl.rely.owing t).trans (h ha t)

theorem ClearBut.later {w' : World ι Db Label} (h : S.ClearBut i t w)
    (hl : S.protocol.Later i w w') : S.ClearBut i t w' :=
  fun ha t' ht' => (hl.rely.owing t').trans (h ha t' ht')

theorem Clear.but (h : S.Clear i w) : S.ClearBut i t w := fun ha t' _ => h ha t'

/-- A statement on the books: what it does to the receipts is nothing. -/
structure OnBooks (S : Setting ι) (i : ι) (l : Label) (o : Outcome) (w : World ι Db Label)
    (s' : Db) : Prop where
  label : ∀ rid st n, l ≠ .writeReceipt rid st n
  mailboxes : s'.mailboxes = w.store.mailboxes
  agents : s'.agents = w.store.agents
  keyed : s'.Keyed
  receipts : s'.receipts = w.store.receipts
  justified : ∀ e ∈ s'.ledger, e ∈ w.store.ledger ∨
    (∃ i input, S.calls i = .settle input ∧ IsDebit S.env S.start input e) ∨ IsCredit w.store e
  balanced : S.alone → ∀ t, S.start.Balanced t →
    (∀ k, owing t k (⟨i, l, o⟩ :: w.trace) = false) → s'.Balanced t
  consistent : S.current → s'.Consistent S.reference
  accounts : ∀ t, (w.store.account t).isSome → (s'.account t).isSome
  sendPolicies : s'.sendPolicies = w.store.sendPolicies
  agentPolicies : s'.agentPolicies = w.store.agentPolicies
  ledger : w.store.ledger ⊆ s'.ledger
  ledgerSum : S.alone → ∀ k, k ≠ i → ∀ t, reconciling t k w.trace = true →
    s'.ledgerSum t = w.store.ledgerSum t

theorem OnBooks.good (h : S.OnBooks i l o w s') (hw : S.Inv w) :
    S.protocol.Good i w ⟨s', ⟨i, l, o⟩ :: w.trace⟩ := by
  have hreceipt : ∀ t rid, s'.receipt t rid = w.store.receipt t rid := fun t rid => by
    rw [Db.receipt, h.receipts]
    rfl
  have hterms : ∀ t rid, s'.terms t rid = w.store.terms t rid := fun t rid => by
    rw [Db.terms, hreceipt]
    rfl
  refine ⟨⟨h.mailboxes.trans hw.mailboxes, h.agents.trans hw.agents, h.keyed, ?_, h.balanced,
    h.consistent, ?_⟩, ⟨h.accounts, ?_, ?_, h.ledger, ?_, ?_⟩, fun k hk =>
    ⟨fun _ => owing_cons_of_ne hk, fun _ => reconciling_cons_of_ne hk, fun ha => h.ledgerSum ha k hk,
      fun _ hu => undisturbed_of_cons_ne hk hu, fun t rid r _ hr => (hreceipt t rid).trans hr⟩⟩
  · have hcredit : ∀ e, IsCredit w.store e → IsCredit s' e := by
      rintro e ⟨rid, ty, p, hid, ht, hc⟩
      exact ⟨rid, ty, p, hid, (hterms _ _).trans ht, hc⟩
    intro e he
    rcases h.justified e he with hold | hdebit | hc
    · rcases hw.justified e hold with hstart | hdebit | hc
      · exact .inl hstart
      · exact .inr (.inl hdebit)
      · exact .inr (.inr (hcredit e hc))
    · exact .inr (.inl hdebit)
    · exact .inr (.inr (hcredit e hc))
  · intro hc rid hs
    obtain ⟨r, hr, hkey⟩ := hw.settled hc rid (settledBefore_cons (h.label rid .settled) hs)
    exact ⟨r, h.receipts ▸ hr, hkey⟩
  · exact fun t ht => h.sendPolicies.symm ▸ ht
  · intro a ha
    rw [Db.agentPolicy, h.agents, h.agentPolicies]
    exact ha
  · exact fun t rid x hx => (hterms t rid).trans hx
  · rintro - t rid ⟨r, hr, hrs⟩
    exact ⟨r, (hreceipt t rid).trans hr, hrs⟩

/-- A statement on the books that changes no row. -/
theorem OnBooks.refl (hw : S.Inv w) (hlabel : ∀ rid st n, l ≠ .writeReceipt rid st n)
    (hbal : S.alone → ∀ t, S.start.Balanced t →
      (∀ k, owing t k (⟨i, l, o⟩ :: w.trace) = false) → w.store.Balanced t) :
    S.OnBooks i l o w w.store where
  label := hlabel
  mailboxes := rfl
  agents := rfl
  keyed := hw.keyed
  receipts := rfl
  justified _ he := .inl he
  balanced := hbal
  consistent := hw.consistent
  accounts _ h := h
  sendPolicies := rfl
  agentPolicies := rfl
  ledger := List.Subset.refl _
  ledgerSum _ _ _ _ _ := rfl

/-- A statement on the books that changes one tenant's account. -/
theorem OnBooks.updateAccount (hw : S.Inv w) {guard : BillingAccountRow → Bool}
    {set : BillingAccountRow → BillingAccountRow} (hset : ∀ r, (set r).tenantId = r.tenantId)
    (hlabel : ∀ rid st n, l ≠ .writeReceipt rid st n)
    (howes : ∀ t', t' ≠ t → l.owes t' = none)
    (hbal : S.alone → (∀ k, owing t k (⟨i, l, o⟩ :: w.trace) = false) →
      (w.store.updateAccount t guard set).2.Balanced t) :
    S.OnBooks i l o w (w.store.updateAccount t guard set).2 where
  label := hlabel
  mailboxes := rfl
  agents := rfl
  keyed := hw.keyed.updateAccount hset
  receipts := rfl
  justified _ he := .inl he
  balanced halone t' ht' hi := by
    by_cases htt : t' = t
    · rw [htt] at hi ⊢
      exact hbal halone hi
    · have hold := hw.balanced halone t' ht' fun k => by
        have hk := hi k
        by_cases hki : k = i
        · subst hki
          rw [owing_cons_self, howes t' htt, Option.getD_none] at hk
          exact hk
        · rwa [owing_cons_of_ne hki] at hk
      have hsame : (w.store.updateAccount t guard set).2.account t' = w.store.account t' := by
        rw [Db.account_updateAccount hset]
        cases w.store.account t' <;> simp [htt]
      rw [Db.Balanced, Db.credits, hsame]
      exact hold
  consistent hc := ⟨(hw.consistent hc).credited, fun r hr =>
    ((hw.consistent hc).receipts r hr).mono (List.Subset.refl _)⟩
  accounts _ h := (Db.isSome_account_updateAccount hset).2 h
  sendPolicies := rfl
  agentPolicies := rfl
  ledger := List.Subset.refl _
  ledgerSum _ _ _ _ _ := rfl

/-- An account that is set from the sum of its ledger is balanced. -/
theorem good_setAvailable {sum : Int} {updatedAt : Nat} (hw : S.Inv w)
    (hacc : (w.store.account t).isSome) (hsum : S.alone → w.store.ledgerSum t = sum)
    (ho : S.Allow i w (.setAvailable t) o) :
    S.protocol.Good i w ⟨if o.effective then (w.store.updateAccount t (fun _ => true) fun r =>
      { r with
        availableCredits := sum - r.reservedCredits
        updatedAt := updatedAt }).2 else w.store, ⟨i, .setAvailable t, o⟩ :: w.trace⟩ := by
  refine OnBooks.good ?_ hw
  by_cases heff : o.effective = true
  · rw [if_pos heff]
    refine OnBooks.updateAccount hw (fun _ => rfl) (fun _ _ _ h => by cases h)
      (fun t' ht' => if_neg (Ne.symm ht')) fun halone _ => ?_
    refine Db.balanced_updateAccount (fun _ => rfl) (fun r => ?_) hacc
    rw [hsum halone]
    exact Int.sub_add_cancel sum r.reservedCredits
  · rw [if_neg heff]
    refine OnBooks.refl hw (fun _ _ _ h => by cases h) fun halone => ?_
    exact absurd (ho.1 halone).1 fun h => heff (by rw [h]; rfl)

/-- **Reconciliation**: if no row enters the ledger between the sum and the setting, nothing is
owed on the tenant's books any more. -/
theorem safe_reconcileTenantAvailableCredits (hw : S.Inv w) (hbut : S.ClearBut i t w) :
    S.protocol.Safe i (fun _ w' => S.Clear i w') (fun _ _ => ¬S.alone)
      (reconcileTenantAvailableCredits env t) w := by
  refine Protocol.Safe.bind hw (frame_later touches_ensureTenantBillingAccount (by simp) (by simp)
    (safe_ensureTenantBillingAccount hw) hw) (fun _ w₁ hw₁ h₁ => ?_) fun _ _ _ h => h.1
  obtain ⟨hacc, h₁⟩ := h₁
  refine safe_query rfl hw₁ (fun w₂ h₂ => ?_) fun ha _ _ _ => ha
  have hopen : reconciling t i (⟨i, .sumLedger t, .done⟩ :: w₁.trace) = true := by
    rw [reconciling_cons_self, Label.opens, if_pos rfl, Option.getD_some]
  have hbut₂ : S.ClearBut i t w₂ := fun ha t' ht' => by
    rw [h₂.rely.owing t', owing_cons_quiet rfl]
    exact (hbut.later h₁) ha t' ht'
  refine safe_nowIso h₂.inv fun updatedAt w₃ h₃ => ?_
  have hsum : S.alone → w₃.store.ledgerSum t = w₁.store.ledgerSum t := fun ha =>
    (h₂.trans h₃).rely.ledgerSum ha t hopen
  have hacc₃ := (h₂.trans h₃).keeps.accounts t hacc
  refine safe_perform (fun o ho => good_setAvailable h₃.inv hacc₃ hsum ho) (fun w₄ h₄ => ?_)
    fun ha _ _ => ha
  rw [if_neg (Db.updateAccount_pos hacc₃)]
  have hclear : S.Clear i w₄ := fun ha t' => by
    rw [h₄.rely.owing t', owing_cons_self]
    by_cases ht : t' = t
    · rw [ht, Label.owes, if_pos rfl, Option.getD_some]
    · rw [Label.owes, if_neg (Ne.symm ht), Option.getD_none]
      exact (hbut₂.later h₃) ha t' ht
  have hacc₄ : (w₄.store.account t).isSome := by
    refine h₄.keeps.accounts t ?_
    exact (Db.isSome_account_updateAccount (by intro _; rfl)).2 hacc₃
  exact Protocol.Safe.mono h₄.inv (safe_requireAccount h₄.inv hacc₄)
    (fun _ _ _ h => hclear.later h) fun _ _ _ h => h

/-- A justified row enters the ledger, if its keys are free. -/
theorem good_insertLedger {row : CreditLedgerRow} (hw : S.Inv w) (hrow : row.tenantId = t)
    (hjust : (∃ i input, S.calls i = .settle input ∧ IsDebit S.env S.start input row) ∨
      IsCredit w.store row)
    (hsettling : S.current → ∀ rid, row.paymentReceiptId = some rid → w.store.Settling t rid)
    (ho : S.Allow i w (.insertLedger t (w.store.insertLedgerRow row).1) o) :
    S.protocol.Good i w ⟨if o.effective then (w.store.insertLedgerRow row).2 else w.store,
      ⟨i, .insertLedger t (w.store.insertLedgerRow row).1, o⟩ :: w.trace⟩ := by
  refine OnBooks.good ?_ hw
  -- nothing changes if a key is taken or the statement is refused
  have hnone : ∀ n, n = 0 ∨ ¬S.alone → S.OnBooks i (.insertLedger t n) o w w.store := by
    intro n hn
    refine OnBooks.refl hw (fun _ _ _ h => by cases h) fun halone t' ht' hi => ?_
    have hn : n = 0 := hn.resolve_right fun h => h halone
    refine hw.balanced halone t' ht' fun k => ?_
    have hk := hi k
    by_cases hki : k = i
    · subst hki
      rw [owing_cons_self, Label.owes, if_neg (by omega), Option.getD_none] at hk
      exact hk
    · rwa [owing_cons_of_ne hki] at hk
  rcases w.store.insertLedgerRow_cases row with heq | ⟨-, heq⟩
  · simp only [heq, ite_self]
    exact hnone 0 (.inl rfl)
  · have hkeyed : (w.store.insertLedgerRow row).2.Keyed := hw.keyed.insertLedgerRow
    have hsub : w.store.ledger ⊆ (w.store.insertLedgerRow row).2.ledger :=
      Db.subset_insertLedgerRow
    have hcons : S.current → (w.store.insertLedgerRow row).2.Consistent S.reference := fun hc =>
      (hw.consistent hc).insertLedgerRow (hrow ▸ hsettling hc)
    rw [heq] at hkeyed hsub hcons ho ⊢
    by_cases heff : o.effective = true
    · rw [if_pos heff]
      exact {
        label := fun _ _ _ h => by cases h
        mailboxes := rfl
        agents := rfl
        keyed := hkeyed
        receipts := rfl
        justified := fun e he => by
          rcases List.mem_append.1 he with he | he
          · exact .inl he
          · obtain rfl := List.mem_singleton.1 he
            exact .inr hjust
        balanced := fun halone t' ht' hi => by
          by_cases htt : t' = t
          · have hk := hi i
            rw [owing_cons_self, Label.owes, if_pos ⟨htt.symm, Nat.one_pos⟩] at hk
            cases hk
          · have hsum : Db.ledgerSum { w.store with ledger := w.store.ledger ++ [row] } t' =
                w.store.ledgerSum t' :=
              Db.ledgerSum_insert_of_ne rfl (by rw [hrow]; exact Ne.symm htt)
            have hold := hw.balanced halone t' ht' fun k => by
              have hk := hi k
              by_cases hki : k = i
              · subst hki
                rw [owing_cons_self, Label.owes, if_neg fun h => htt h.1.symm,
                  Option.getD_none] at hk
                exact hk
              · rwa [owing_cons_of_ne hki] at hk
            rw [Db.Balanced, hsum]
            exact hold
        consistent := hcons
        accounts := fun _ h => h
        sendPolicies := rfl
        agentPolicies := rfl
        ledger := hsub
        ledgerSum := fun halone k hk t' hopen => by
          refine Db.ledgerSum_insert_of_ne rfl ?_
          rw [hrow]
          rintro rfl
          rcases (ho.1 halone).2 with h | h
          · cases h
          · rw [h k hk] at hopen
            cases hopen }
    · rw [if_neg heff]
      exact hnone 1 (.inr fun halone => heff (by rw [(ho.1 halone).1]; rfl))

/-- The entry with a key that no two entries have. -/
theorem safe_uniqueEntry (p : CreditLedgerRow → Bool) (message : String) (hw : S.Inv w)
    (hp : ∀ e ∈ w.store.ledger, p e = true → w.store.ledger.filter p = [e]) :
    S.protocol.Safe i
      (fun entry w' => S.protocol.Later i w w' ∧
        (∀ e ∈ w.store.ledger, p e = true → entry = parseTypedCreditLedgerEntry e) ∧
        (entry.isSome → ∃ e ∈ w.store.ledger, p e = true))
      (fun _ _ => ¬S.alone)
      (query (.read .ledger) (fun s => s.ledger.filter p) >>= fun rows =>
        uniqueRow rows message >>= fun entry =>
          pure (entry.bind parseTypedCreditLedgerEntry)) w := by
  refine safe_read rfl hw (fun w₁ h₁ => ?_) fun ha _ _ => ha
  by_cases hex : ∃ e ∈ w.store.ledger, p e = true
  · obtain ⟨e, he, hpe⟩ := hex
    rw [hp e he hpe]
    refine ⟨h₁, fun e' he' hpe' => ?_, fun _ => ⟨e, he, hpe⟩⟩
    have : [e] = [e'] := (hp e he hpe).symm.trans (hp e' he' hpe')
    obtain rfl := List.head_eq_of_cons_eq this
    rfl
  · have hnil : w.store.ledger.filter p = [] :=
      List.filter_eq_nil_iff.2 fun e he hpe => hex ⟨e, he, hpe⟩
    rw [hnil]
    exact ⟨h₁, fun e he hpe => absurd ⟨e, he, hpe⟩ hex, fun h => by cases h⟩

theorem safe_getTypedCreditLedgerEntryByPaymentReceiptId {rid : String} (hw : S.Inv w) :
    S.protocol.Safe i
      (fun entry w' => S.protocol.Later i w w' ∧
        (∀ e ∈ w.store.ledger, e.tenantId = t → e.paymentReceiptId = some rid →
          entry = parseTypedCreditLedgerEntry e) ∧
        (entry.isSome → w.store.HasCredit t rid))
      (fun _ _ => ¬S.alone) (getTypedCreditLedgerEntryByPaymentReceiptId t rid) w := by
  have hunique := safe_uniqueEntry (i := i)
    (fun r => r.tenantId == t && r.paymentReceiptId == some rid)
    ("Ledger entries for payment receipt " ++ rid ++
      " are ambiguous; manual reconciliation is required") hw fun e he hpe => by
    simp only [Bool.and_eq_true, beq_iff_eq] at hpe
    rw [← hpe.1]
    exact hw.keyed.receipt_entry he hpe.2
  refine Protocol.Safe.mono hw hunique (fun entry w' _ h => ⟨h.1, fun e he ht hr => ?_,
    fun hsome => ?_⟩) fun _ _ _ h => h
  · exact h.2.1 e he (by simp [ht, hr])
  · obtain ⟨e, he, hpe⟩ := h.2.2 hsome
    simp only [Bool.and_eq_true, beq_iff_eq] at hpe
    exact ⟨e, he, hpe⟩

theorem safe_getTypedCreditLedgerEntryByReferenceId {reference : String} (hw : S.Inv w) :
    S.protocol.Safe i
      (fun entry w' => S.protocol.Later i w w' ∧
        (∀ e ∈ w.store.ledger, e.tenantId = t → e.referenceId = some reference →
          entry = parseTypedCreditLedgerEntry e) ∧
        (entry.isSome → w.store.HasDebit t reference))
      (fun _ _ => ¬S.alone) (getTypedCreditLedgerEntryByReferenceId t reference) w := by
  have hunique := safe_uniqueEntry (i := i)
    (fun r => r.tenantId == t && r.referenceId == some reference)
    ("Ledger entries for reference " ++ reference ++
      " are ambiguous; manual reconciliation is required") hw fun e he hpe => by
    simp only [Bool.and_eq_true, beq_iff_eq] at hpe
    rw [← hpe.1]
    exact hw.keyed.reference_entry he hpe.2
  refine Protocol.Safe.mono hw hunique (fun entry w' _ h => ⟨h.1, fun e he ht hr => ?_,
    fun hsome => ?_⟩) fun _ _ _ h => h
  · exact h.2.1 e he (by simp [ht, hr])
  · obtain ⟨e, he, hpe⟩ := h.2.2 hsome
    simp only [Bool.and_eq_true, beq_iff_eq] at hpe
    exact ⟨e, he, hpe⟩

end Setting

end MailRuntime
