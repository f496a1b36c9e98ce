import MailRuntime.Billing.Books

/-!
# Settlements of sends, and credits of receipts

What an append to the ledger and the settlement of a send come to while other billing
calls run. An append that inserts its row finds it again, since no row is ever taken
away and no two rows have one key; the compensating delete is never reached. An append
that does not insert finds the row that was there first, or throws with nothing owed.
-/

namespace MailRuntime

open Js X402 Interaction

namespace Setting

variable {ι : Type} [DecidableEq ι] {S : Setting ι} {i : ι} {w : World ι Db Label}
  {env : Env} {t : String} {β : Type} {Q : β → World ι Db Label → Prop}
  {E : Exn → World ι Db Label → Prop}

/-! ### Entering a row -/

/-- The `INSERT OR IGNORE` of a justified row, and what comes after it. -/
theorem safe_insertLedgerEntry {row : CreditLedgerRow} {next : Nat → Op β} (hw : S.Inv w)
    (hclear : S.Clear i w) (hrow : row.tenantId = t)
    (hjust : (∃ i input, S.calls i = .settle input ∧ IsDebit S.env S.start input row) ∨
      IsCredit w.store row)
    (hsettling : S.current → ∀ rid, row.paymentReceiptId = some rid → w.store.Settling t rid)
    (hnext : ∀ n w', S.Inv w' → S.ClearBut i t w' → (n = 0 → S.Clear i w') →
      (n ≠ 0 → row ∈ w'.store.ledger) → S.protocol.Safe i Q E (next n) w')
    (hfail : ¬S.alone → ∀ w', S.Inv w' → E Exn.d1 w') :
    S.protocol.Safe i Q E (insertLedgerEntry t row >>= next) w := by
  refine safe_perform (fun o ho => good_insertLedger hw hrow hjust hsettling ho) (fun w' h' => ?_)
    hfail
  have howing : ∀ t', owing t' i w'.trace = ((Label.insertLedger t
      (w.store.insertLedgerRow row).1).owes t').getD (owing t' i w.trace) := fun t' => by
    rw [h'.rely.owing t', owing_cons_self]
  refine hnext _ w' h'.inv (fun ha t' ht' => ?_) (fun hn ha t' => ?_) fun hn => ?_
  · rw [howing, Label.owes, if_neg fun h => ht' h.1.symm, Option.getD_none]
    exact hclear ha t'
  · rw [howing, Label.owes, if_neg fun h => by omega, Option.getD_none]
    exact hclear ha t'
  · refine h'.keeps.ledger ?_
    rcases w.store.insertLedgerRow_cases row with heq | ⟨-, heq⟩
    · rw [heq] at hn
      exact absurd rfl hn
    · rw [heq]
      exact List.mem_append_right _ (List.mem_singleton_self row)

/-- **The credits of a receipt**: the append leaves its entry in the ledger, or throws with
nothing owed. -/
theorem safe_appendReceiptLedgerEntry {entryType : EntryType}
    {isExpected : TypedLedgerEntry → Bool} {unexpected failed reason rid : String}
    {creditsDelta : Int} {referenceId : Option String} {metadata : LedgerMetadata}
    {receiptType : ReceiptType} {purchase : Purchase} (hw : S.Inv w) (hclear : S.Clear i w)
    (hterms : w.store.terms t rid = some (receiptType, purchase))
    (hentry : (entryType, creditsDelta) = purchase.entry)
    (hsettling : S.current → w.store.Settling t rid)
    (hparse : ∀ row : CreditLedgerRow, row.metadata = some metadata.toJson →
      row.entryType = entryType → ∃ e, parseTypedCreditLedgerEntry row = some e ∧ e.row = row ∧
        isExpected e = true) :
    S.protocol.Safe i (fun _ w' => S.ClearBut i t w' ∧ w'.store.HasCredit t rid)
      (fun _ w' => S.Clear i w')
      (appendReceiptLedgerEntry env entryType isExpected unexpected failed t creditsDelta reason
        (some rid) referenceId metadata) w := by
  refine safe_createId hw fun id w₁ h₁ => safe_nowIso h₁.inv fun createdAt w₂ h₂ => ?_
  have h₂ := h₁.trans h₂
  refine safe_insertLedgerEntry h₂.inv (hclear.later h₂) rfl
    (.inr ⟨rid, receiptType, purchase, rfl, h₂.keeps.terms t rid _ hterms, hentry⟩) ?_
    (fun n w₃ hw₃ hbut hzero hmem => ?_) fun ha _ _ halone => absurd halone ha
  · intro hc rid' hrid
    obtain rfl := Option.some.inj hrid
    exact h₂.keeps.settling hc t _ (hsettling hc)
  · refine Protocol.Safe.bind hw₃ (safe_getTypedCreditLedgerEntryByPaymentReceiptId hw₃)
      (fun entry w₄ hw₄ h₄ => ?_) fun _ _ _ ha halone => absurd halone ha
    obtain ⟨h₄, hfound, hcredit⟩ := h₄
    by_cases hn : n = 0
    · subst hn
      have hclear₄ := (hzero rfl).later h₄
      cases entry with
      | none => exact hclear₄
      | some entry =>
        simp only
        split
        · exact ⟨hclear₄.but, (hcredit rfl).imp fun e he => ⟨h₄.keeps.ledger he.1, he.2⟩⟩
        · exact hclear₄
    · -- the row that was inserted is the one that is found
      obtain ⟨e, hpe, -, hexp⟩ := hparse {
        id := id, tenantId := t, entryType := entryType, creditsDelta := creditsDelta
        reason := reason, paymentReceiptId := some rid, referenceId := referenceId
        metadata := some metadata.toJson, createdAt := createdAt } rfl rfl
      rw [hfound _ (hmem hn) rfl rfl, hpe]
      simp only [hexp, if_true]
      exact ⟨hbut.later h₄, _, h₄.keeps.ledger (hmem hn), rfl, rfl⟩

theorem safe_appendTopupSettlementLedgerEntry {credits : Int} {reason rid : String}
    {referenceId : Option String} {mode : ConfirmationMode} {verify : Option VerifyResponse}
    {settle : Option SettleResponse} {receiptType : ReceiptType} (hw : S.Inv w)
    (hclear : S.Clear i w) (hterms : w.store.terms t rid = some (receiptType, .topup credits))
    (hsettling : S.current → w.store.Settling t rid) :
    S.protocol.Safe i (fun _ w' => S.ClearBut i t w' ∧ w'.store.HasCredit t rid)
      (fun _ w' => S.Clear i w')
      (appendTopupSettlementLedgerEntry env t credits reason (some rid) referenceId
        (buildTopupSettlementLedgerMetadata credits mode verify settle)) w :=
  safe_appendReceiptLedgerEntry hw hclear hterms rfl hsettling
    fun _ hm ht => parse_topup_entry hm ht

theorem safe_appendUpgradeCreditGrantLedgerEntry {credits : Int} {reason rid : String}
    {referenceId : Option String} {mode : ConfirmationMode} {verify : Option VerifyResponse}
    {settle : Option SettleResponse} {receiptType : ReceiptType} (hw : S.Inv w)
    (hclear : S.Clear i w) (hterms : w.store.terms t rid = some (receiptType, .upgrade credits))
    (hsettling : S.current → w.store.Settling t rid) :
    S.protocol.Safe i (fun _ w' => S.ClearBut i t w' ∧ w'.store.HasCredit t rid)
      (fun _ w' => S.Clear i w')
      (appendUpgradeCreditGrantLedgerEntry env t credits reason (some rid) referenceId
        (buildUpgradeCreditGrantLedgerMetadata credits mode verify settle)) w :=
  safe_appendReceiptLedgerEntry hw hclear hterms rfl hsettling
    fun _ hm ht => parse_upgrade_entry hm ht

/-! ### The settlement of a send -/

/-- The append of a send's debit leaves the entry in the ledger, or throws with nothing owed. -/
theorem safe_appendOutboundUsageLedgerEntry {input : UsageInput} (hcall : S.calls i = .settle input)
    (hw : S.Inv w) (hclear : S.Clear i w) :
    S.protocol.Safe i
      (fun _ w' => S.ClearBut i input.tenantId w' ∧
        w'.store.HasDebit input.tenantId input.outboundJobId)
      (fun _ w' => S.Clear i w')
      (appendOutboundUsageLedgerEntry env input.tenantId
        (usageEntryType (input.requirement S.env S.start).reply)
        (-(input.requirement S.env S.start).creditsRequired) "outbound_send_settlement"
        input.outboundJobId
        (buildOutboundUsageLedgerMetadata input (input.requirement S.env S.start))) w := by
  refine safe_createId hw fun id w₁ h₁ => safe_nowIso h₁.inv fun createdAt w₂ h₂ => ?_
  have h₂ := h₁.trans h₂
  refine safe_insertLedgerEntry h₂.inv (hclear.later h₂) rfl
    (.inl ⟨i, input, hcall, rfl, rfl, rfl, rfl, rfl⟩) (fun _ rid hrid => by cases hrid)
    (fun n w₃ hw₃ hbut hzero hmem => ?_) fun ha _ _ halone => absurd halone ha
  refine Protocol.Safe.bind hw₃ (safe_getTypedCreditLedgerEntryByReferenceId hw₃)
    (fun entry w₄ hw₄ h₄ => ?_) fun _ _ _ ha halone => absurd halone ha
  obtain ⟨h₄, hfound, hdebit⟩ := h₄
  by_cases hn : n = 0
  · subst hn
    have hclear₄ := (hzero rfl).later h₄
    cases entry with
    | none => exact hclear₄
    | some entry =>
      exact ⟨hclear₄.but, (hdebit rfl).imp fun e he => ⟨h₄.keeps.ledger he.1, he.2⟩⟩
  · obtain ⟨e, hpe, -⟩ := parse_usage_entry {
      id := id, tenantId := input.tenantId
      entryType := usageEntryType (input.requirement S.env S.start).reply
      creditsDelta := -(input.requirement S.env S.start).creditsRequired
      reason := "outbound_send_settlement", paymentReceiptId := none
      referenceId := some input.outboundJobId
      metadata := some (buildOutboundUsageLedgerMetadata input
        (input.requirement S.env S.start)).toJson
      createdAt := createdAt } rfl rfl
    rw [hfound _ (hmem hn) rfl rfl, hpe]
    exact ⟨hbut.later h₄, _, h₄.keeps.ledger (hmem hn), rfl, rfl⟩

/-- A capture leaves the tenant's reconciliation owed. -/
theorem safe_captureTenantReservedCredits {credits : Int} (hw : S.Inv w)
    (hbut : S.ClearBut i t w) :
    S.protocol.Safe i (fun _ w' => S.ClearBut i t w') (fun _ w' => S.ClearBut i t w')
      (captureTenantReservedCredits env t credits) w := by
  refine safe_nowIso hw fun updatedAt w₁ h₁ => ?_
  have hbut := hbut.later h₁
  refine safe_perform (fun o ho => ?_) (fun w₂ h₂ => ?_) fun ha _ _ halone => absurd halone ha
  · refine OnBooks.good ?_ h₁.inv
    -- where the label says that nothing was captured, nothing was
    have hzero : ∀ n, n = 0 ∨ ¬S.alone →
        S.OnBooks i (.captureCredits t n) o w₁ w₁.store := fun n hn =>
      OnBooks.refl h₁.inv (fun _ _ _ h => by cases h) fun halone t' ht' hi =>
        h₁.inv.balanced halone t' ht' fun k => by
          have hn : n = 0 := hn.resolve_right fun h => h halone
          have hk := hi k
          by_cases hki : k = i
          · subst hki
            rw [owing_cons_self, Label.owes, if_neg (by omega), Option.getD_none] at hk
            exact hk
          · rwa [owing_cons_of_ne hki] at hk
    by_cases heff : o.effective = true
    · rw [if_pos heff]
      by_cases hn : (w₁.store.updateAccount t (fun r => decide (credits ≤ r.reservedCredits))
          fun r => { r with
            availableCredits := r.availableCredits + 0
            reservedCredits := r.reservedCredits + -credits
            updatedAt := updatedAt }).1 = 0
      · rw [Db.updateAccount_zero hn, hn]
        exact hzero 0 (.inl rfl)
      · refine OnBooks.updateAccount h₁.inv (fun _ => rfl) (fun _ _ _ h => by cases h)
          (fun t' ht' => if_neg fun h => ht' h.1.symm) fun _ hi => ?_
        have hk := hi i
        rw [owing_cons_self, Label.owes, if_pos ⟨rfl, Nat.pos_of_ne_zero hn⟩] at hk
        cases hk
    · rw [if_neg heff]
      exact hzero _ (.inr fun halone => heff (by rw [(ho.1 halone).1]; rfl))
  · have hbut₂ : S.ClearBut i t w₂ := fun ha t' ht' => by
      rw [h₂.rely.owing t', owing_cons_self, Label.owes, if_neg fun h => ht' h.1.symm,
        Option.getD_none]
      exact hbut ha t' ht'
    split
    · exact hbut₂
    · refine safe_read rfl h₂.inv (fun w₃ h₃ => ?_) fun _ w₃ h₃ => hbut₂.later h₃
      have hbut₃ := hbut₂.later h₃
      rcases w₂.store.account t with _ | r
      · exact hbut₃
      · exact hbut₃

/-- Routing reads nothing that billing calls change. -/
theorem safe_localMailboxes (addresses : List String) (hw : S.Inv w) :
    S.protocol.Safe i
      (fun found w' => S.protocol.Later i w w' ∧ found = S.start.localMailboxes env addresses)
      (fun _ w' => S.protocol.Later i w w' ∧ ¬S.alone) (localMailboxes env addresses) w := by
  induction addresses generalizing w with
  | nil => exact ⟨.refl hw, rfl⟩
  | cons address rest ih =>
    refine safe_read rfl hw (fun w₁ h₁ => ?_) fun ha w₁ h₁ => ⟨h₁, ha⟩
    refine Protocol.Safe.bind h₁.inv (ih h₁.inv) (fun others w₂ _ h₂ => ?_)
      fun _ w₂ _ h₂ => ⟨h₁.trans h₂.1, h₂.2⟩
    refine ⟨h₁.trans h₂.1, ?_⟩
    rw [h₂.2, Db.mailboxByAddress, hw.mailboxes]
    rfl

theorem safe_routeOutboundRecipients {recipients : Recipients} (hw : S.Inv w) :
    S.protocol.Safe i
      (fun routed w' => S.protocol.Later i w w' ∧ routed = S.start.route env recipients)
      (fun _ w' => S.protocol.Later i w w' ∧ ¬S.alone) (routeOutboundRecipients env recipients)
      w := by
  refine Protocol.Safe.bind hw (safe_localMailboxes _ hw) (fun found w₁ _ h₁ => ?_)
    fun _ _ _ h => h
  exact ⟨h₁.1, by rw [h₁.2]; rfl⟩

/-- The requirement of a send is the same all along. -/
theorem safe_getOutboundCreditRequirement {recipients : Recipients}
    {sourceMessageId createdVia : Option String} (hw : S.Inv w) :
    S.protocol.Safe i
      (fun requirement w' => S.protocol.Later i w w' ∧
        requirement = creditRequirement env (S.start.route env recipients) sourceMessageId
          createdVia)
      (fun _ w' => S.protocol.Later i w w' ∧ ¬S.alone)
      (getOutboundCreditRequirement env recipients sourceMessageId createdVia) w :=
  Protocol.Safe.bind hw (safe_routeOutboundRecipients hw)
    (fun _ _ _ h => ⟨h.1, by rw [h.2]⟩) fun _ _ _ h => h

/-- The last step of a settlement. -/
theorem safe_reconcileSettled {input : UsageInput} (hw : S.Inv w)
    (hbut : S.ClearBut i input.tenantId w)
    (hdebit : w.store.HasDebit input.tenantId input.outboundJobId) :
    S.protocol.Safe i
      (fun _ w' => S.Clear i w' ∧ w'.store.HasDebit input.tenantId input.outboundJobId)
      (fun _ w' => S.Clear i w')
      (reconcileTenantAvailableCredits env input.tenantId >>= fun _ => pure ()) w := by
  have hkeep : S.protocol.Safe i
      (fun _ w' => S.Clear i w' ∧ w'.store.HasDebit input.tenantId input.outboundJobId)
      (fun _ w' => ¬S.alone ∧ w'.store.HasDebit input.tenantId input.outboundJobId)
      (reconcileTenantAvailableCredits env input.tenantId) w :=
    Protocol.Safe.keep (fun _ _ hk h => h.imp fun e he => ⟨hk.ledger he.1, he.2⟩)
      (safe_reconcileTenantAvailableCredits hw hbut) hdebit
  exact Protocol.Safe.bind hw hkeep (fun _ _ _ h => h) fun _ _ _ h halone => absurd halone h.1

/-- **A settlement** that returns leaves the job's entry in the ledger, if the send needs
credits, and owes nothing. -/
theorem safe_settleOutboundUsageDebit {input : UsageInput} (hcall : S.calls i = .settle input)
    (hw : S.Inv w) (hclear : S.Clear i w) :
    S.protocol.Safe i
      (fun _ w' => S.Clear i w' ∧ ((input.requirement S.env S.start).requiresCredits = true →
        w'.store.HasDebit input.tenantId input.outboundJobId))
      (fun _ w' => S.Clear i w') (settleOutboundUsageDebit S.env input) w := by
  refine Protocol.Safe.bind hw (safe_getOutboundCreditRequirement hw) (fun requirement w₁ hw₁ h₁ =>
    ?_) fun _ _ _ h => hclear.later h.1
  obtain ⟨h₁, rfl⟩ := h₁
  have hclear := hclear.later h₁
  show S.protocol.Safe i _ _ (if (input.requirement S.env S.start).requiresCredits = true then
    settleRequirement S.env input (input.requirement S.env S.start) else pure ()) w₁
  split
  · refine Protocol.Safe.mono hw₁ (?_ : S.protocol.Safe i (fun _ w' => S.Clear i w' ∧
      w'.store.HasDebit input.tenantId input.outboundJobId) (fun _ w' => S.Clear i w') _ w₁)
      (fun _ _ _ h => ⟨h.1, fun _ => h.2⟩) fun _ _ _ h => h
    refine Protocol.Safe.bind hw₁ (safe_getTypedCreditLedgerEntryByReferenceId hw₁)
      (fun entry w₂ hw₂ h₂ => ?_) fun _ _ _ ha halone => absurd halone ha
    obtain ⟨h₂, -, hdebit⟩ := h₂
    have hclear := hclear.later h₂
    cases entry with
    | some entry =>
      refine safe_reconcileSettled hw₂ hclear.but ?_
      exact (hdebit rfl).imp fun e he => ⟨h₂.keeps.ledger he.1, he.2⟩
    | none =>
      refine Protocol.Safe.bind hw₂ (safe_appendOutboundUsageLedgerEntry hcall hw₂ hclear)
        (fun _ w₃ hw₃ h₃ => ?_) fun _ _ _ h => h
      -- whether or not the credits are captured, the books are reconciled
      have hcapture : S.protocol.Safe i (fun _ w' => S.ClearBut i input.tenantId w')
          (fun _ w' => S.Clear i w') (catchAll (captureTenantReservedCredits S.env input.tenantId
            (input.requirement S.env S.start).creditsRequired) none) w₃ :=
        Protocol.Safe.tryCatch hw₃ (safe_captureTenantReservedCredits hw₃ h₃.1) fun _ _ _ h => h
      have hkeep := Protocol.Safe.keep
        (A := fun w' => w'.store.HasDebit input.tenantId input.outboundJobId)
        (fun _ _ hk h => h.imp fun e he => ⟨hk.ledger he.1, he.2⟩) hcapture h₃.2
      exact Protocol.Safe.bind hw₃ hkeep (fun _ w₄ hw₄ h₄ => safe_reconcileSettled hw₄ h₄.1 h₄.2)
        fun _ _ _ h => h.1
  · next hrequires => exact ⟨hclear, fun h => absurd h hrequires⟩

/-- A move of credits owes nothing. -/
theorem safe_moveCredits_clear {l : Nat → Label} {guard : BillingAccountRow → Bool}
    {available reserved : Int} (hl : ∀ n, (l n).plain = true)
    (htable : ∀ n, (l n).table = some .accounts) (hsum : available + reserved = 0)
    (hw : S.Inv w) (hclear : S.Clear i w) :
    S.protocol.Safe i (fun _ w' => S.Clear i w') (fun _ w' => S.Clear i w')
      (moveCredits env l t guard available reserved) w := by
  have htouches : Touches [.accounts] (moveCredits env l t guard available reserved) :=
    touches_moveCredits (by simp) fun n t h => by
      obtain rfl := Option.some.inj ((htable n).symm.trans h)
      simp
  exact Protocol.Safe.mono hw
    (frame_later htouches (by simp) (by simp) (safe_moveCredits hl hsum hw) hw)
    (fun _ _ _ h => hclear.later h.2) fun _ _ _ h => hclear.later h.2

theorem safe_reserveTenantAvailableCredits {credits : Int} (hw : S.Inv w)
    (hclear : S.Clear i w) :
    S.protocol.Safe i (fun _ w' => S.Clear i w') (fun _ w' => S.Clear i w')
      (reserveTenantAvailableCredits env t credits) w :=
  safe_moveCredits_clear (fun _ => rfl) (fun _ => rfl) (by omega) hw hclear

theorem safe_releaseOutboundUsageReservation {recipients : Recipients}
    {sourceMessageId createdVia : Option String} (hw : S.Inv w) (hclear : S.Clear i w) :
    S.protocol.Safe i (fun _ w' => S.Clear i w') (fun _ w' => S.Clear i w')
      (releaseOutboundUsageReservation env t sourceMessageId createdVia recipients) w := by
  refine Protocol.Safe.bind hw (safe_getOutboundCreditRequirement hw) (fun requirement w₁ hw₁ h₁ =>
    ?_) fun _ _ _ h => hclear.later h.1
  have hclear := hclear.later h₁.1
  split
  · exact Protocol.Safe.bind hw₁ (safe_moveCredits_clear (fun _ => rfl) (fun _ => rfl) (by omega) hw₁
      hclear)
      (fun _ _ _ h => h) fun _ _ _ h => h
  · exact hclear

end Setting

end MailRuntime
