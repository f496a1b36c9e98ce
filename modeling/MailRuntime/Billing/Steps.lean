import MailRuntime.Billing.Protocol

/-!
# The steps of billing calls

The rules by which a billing call is shown to keep to the protocol, one for each kind of
step. Most steps are *calm*: whatever they change, no thread's books and no thread's view
of a receipt are affected, so that a stable assertion goes through them. What is left are
the statements that the protocol is about: those that change a ledger, take reserved
credits, set an account from its ledger, or write a receipt.
-/

namespace MailRuntime

open Js X402 Interaction

/-- A statement after which nobody owes a reconciliation and no view of a receipt is old. -/
def Label.quiet : Label → Bool
  | insertLedger _ _ | captureCredits _ _ | setAvailable _ | writeReceipt _ _ _ => false
  | _ => true

/-- A statement that the conditions on runs do not speak of. -/
def Label.plain : Label → Bool
  | sumLedger _ | loadReceipt _ => false
  | l => l.quiet

theorem Label.quiet_of_plain {l : Label} (h : l.plain = true) : l.quiet = true := by
  cases l <;> first | rfl | cases h

theorem Label.owes_of_quiet {l : Label} (h : l.quiet = true) (t : String) : l.owes t = none := by
  cases l <;> first | rfl | cases h

theorem Label.opens_of_plain {l : Label} (h : l.plain = true) (t : String) :
    l.opens t = none := by
  cases l <;> first | rfl | cases h

variable {ι : Type} [DecidableEq ι] {i k : ι} {l : Label} {o : Outcome} {t rid : String}
  {trace : List (Event ι Label)}

theorem viewOf_of_plain (h : l.plain = true) : viewOf k rid ⟨i, l, o⟩ = none := by
  cases l <;> first | rfl | cases h

/-- What a thread does is no news of another's books. -/
theorem owing_cons_of_ne (hk : k ≠ i) : owing t k (⟨i, l, o⟩ :: trace) = owing t k trace :=
  latest_cons_none (if_neg (Ne.symm hk)) trace

theorem reconciling_cons_of_ne (hk : k ≠ i) :
    reconciling t k (⟨i, l, o⟩ :: trace) = reconciling t k trace :=
  latest_cons_none (if_neg (Ne.symm hk)) trace

theorem owing_cons_self : owing t i (⟨i, l, o⟩ :: trace) =
    (l.owes t).getD (owing t i trace) := by
  rw [owing, latest_cons, if_pos rfl]
  rfl

theorem reconciling_cons_self : reconciling t i (⟨i, l, o⟩ :: trace) =
    (l.opens t).getD (reconciling t i trace) := by
  rw [reconciling, latest_cons, if_pos rfl]
  rfl

theorem owing_cons_quiet (h : l.quiet = true) :
    owing t k (⟨i, l, o⟩ :: trace) = owing t k trace := by
  by_cases hk : k = i
  · subst hk
    rw [owing_cons_self, Label.owes_of_quiet h, Option.getD_none]
  · exact owing_cons_of_ne hk

theorem reconciling_cons_plain (h : l.plain = true) :
    reconciling t k (⟨i, l, o⟩ :: trace) = reconciling t k trace := by
  by_cases hk : k = i
  · subst hk
    rw [reconciling_cons_self, Label.opens_of_plain h, Option.getD_none]
  · exact reconciling_cons_of_ne hk

theorem undisturbed_cons_plain (h : l.plain = true) :
    undisturbed k rid (⟨i, l, o⟩ :: trace) = undisturbed k rid trace :=
  latest_cons_none (viewOf_of_plain h) trace

/-- Another thread's statement never makes a view current. -/
theorem undisturbed_of_cons_ne (hk : k ≠ i)
    (h : undisturbed k rid (⟨i, l, o⟩ :: trace) = true) : undisturbed k rid trace = true := by
  rw [undisturbed, latest_cons] at h
  have hview : viewOf k rid (⟨i, l, o⟩ : Event ι Label) ≠ some true := by
    cases l <;> simp [viewOf, Ne.symm hk]
  rcases hv : viewOf k rid (⟨i, l, o⟩ : Event ι Label) with _ | b
  · rw [hv, Option.getD_none] at h
    exact h
  · rw [hv, Option.getD_some] at h
    subst h
    exact absurd hv hview

namespace Setting

variable {S : Setting ι} {w : World ι Db Label} {s s' : Db}

/-- A change of the store that no thread's books and no view of a receipt are affected by. -/
structure Calm (S : Setting ι) (w : World ι Db Label) (s' : Db) : Prop where
  inv : S.Inv ⟨s', w.trace⟩
  grows : Grows S.current w.store s'
  ledgerSum : ∀ t, s'.ledgerSum t = w.store.ledgerSum t
  receipt : ∀ t rid r, w.store.receipt t rid = some r → s'.receipt t rid = some r

omit [DecidableEq ι] in
theorem settledBefore_cons (hl : ∀ n, l ≠ .writeReceipt rid .settled n) :
    SettledBefore S.start rid (⟨i, l, o⟩ :: trace) → SettledBefore S.start rid trace := by
  rintro (h | ⟨e, he, heff, n, hn, hlabel⟩)
  · exact .inl h
  · rcases List.mem_cons.1 he with rfl | he
    · exact absurd hlabel (hl n)
    · exact .inr ⟨e, he, heff, n, hn, hlabel⟩

omit [DecidableEq ι] in
theorem settledBefore_cons_quiet (hl : l.quiet = true) :
    SettledBefore S.start rid (⟨i, l, o⟩ :: trace) → SettledBefore S.start rid trace :=
  settledBefore_cons fun n h => by
    rw [h] at hl
    cases hl

/-- A quiet statement that changes nothing keeps the invariant. -/
theorem Inv.cons (h : S.Inv ⟨s, trace⟩) (hl : l.quiet = true) :
    S.Inv ⟨s, ⟨i, l, o⟩ :: trace⟩ where
  mailboxes := h.mailboxes
  agents := h.agents
  keyed := h.keyed
  justified := h.justified
  balanced ha t ht hi := h.balanced ha t ht fun k => by
    rw [← owing_cons_quiet (l := l) (i := i) (o := o) hl]
    exact hi k
  consistent := h.consistent
  settled hc rid hs := h.settled hc rid (settledBefore_cons_quiet hl hs)

theorem Calm.rely (h : S.Calm w s') (k : ι) : S.Rely k w ⟨s', w.trace⟩ :=
  ⟨fun _ => rfl, fun _ => rfl, fun _ t _ => h.ledgerSum t, fun _ hu => hu,
    fun t rid r _ hr => h.receipt t rid r hr⟩

theorem rely_cons_of_ne (hk : k ≠ i) : S.Rely k ⟨s, trace⟩ ⟨s, ⟨i, l, o⟩ :: trace⟩ :=
  ⟨fun _ => owing_cons_of_ne hk, fun _ => reconciling_cons_of_ne hk, fun _ _ _ => rfl,
    fun _ hu => undisturbed_of_cons_ne hk hu, fun _ _ _ _ hr => hr⟩

theorem rely_cons_plain (hl : l.plain = true) (k : ι) :
    S.Rely k ⟨s, trace⟩ ⟨s, ⟨i, l, o⟩ :: trace⟩ :=
  ⟨fun _ => owing_cons_quiet (Label.quiet_of_plain hl), fun _ => reconciling_cons_plain hl,
    fun _ _ _ => rfl, fun _ hu => (undisturbed_cons_plain hl).symm.trans hu,
    fun _ _ _ _ hr => hr⟩

/-- A quiet statement with a calm effect is a good step. -/
theorem Calm.good (h : S.Calm w s') (hl : l.quiet = true) :
    S.protocol.Good i w ⟨s', ⟨i, l, o⟩ :: w.trace⟩ :=
  ⟨h.inv.cons hl, h.grows, fun k hk =>
    S.protocol.rely_trans k w ⟨s', w.trace⟩ _ (h.rely k) (rely_cons_of_ne hk)⟩

/-- A plain statement with a calm effect might as well be another thread's. -/
theorem Calm.later (h : S.Calm w s') (hl : l.plain = true) :
    S.protocol.Later i w ⟨s', ⟨i, l, o⟩ :: w.trace⟩ :=
  ⟨h.inv.cons (Label.quiet_of_plain hl), h.grows,
    S.protocol.rely_trans i w ⟨s', w.trace⟩ _ (h.rely i) (rely_cons_plain hl i)⟩

theorem Calm.silent_good (h : S.Calm w s') : S.protocol.Good i w ⟨s', w.trace⟩ :=
  ⟨h.inv, h.grows, fun k _ => h.rely k⟩

theorem Calm.silent_later (h : S.Calm w s') : S.protocol.Later i w ⟨s', w.trace⟩ :=
  ⟨h.inv, h.grows, h.rely i⟩

theorem Calm.refl (h : S.Inv w) : S.Calm w w.store :=
  ⟨h, Grows.refl _ _, fun _ => rfl, fun _ _ _ hr => hr⟩

/-- A change of other tables is calm. -/
theorem Calm.of_same (h : S.Inv w) (hm : s'.mailboxes = w.store.mailboxes)
    (ha : s'.agents = w.store.agents) (hacc : s'.accounts = w.store.accounts)
    (hled : s'.ledger = w.store.ledger) (hrec : s'.receipts = w.store.receipts)
    (hsend : ∀ t, (w.store.sendPolicies.any fun p => p.tenantId == t) = true →
      (s'.sendPolicies.any fun p => p.tenantId == t) = true)
    (hpol : ∀ a, (w.store.agentPolicy a).isSome → (s'.agentPolicy a).isSome) :
    S.Calm w s' := by
  have hreceipt : ∀ t rid, s'.receipt t rid = w.store.receipt t rid := fun t rid => by
    rw [Db.receipt, hrec]
    rfl
  have hterms : ∀ t rid, s'.terms t rid = w.store.terms t rid := fun t rid => by
    rw [Db.terms, hreceipt]
    rfl
  have hsum : ∀ t, s'.ledgerSum t = w.store.ledgerSum t := fun t => by
    rw [Db.ledgerSum, hled]
    rfl
  have haccount : ∀ t, s'.account t = w.store.account t := fun t => by
    rw [Db.account, hacc]
    rfl
  have hok : ∀ r, w.store.ReceiptOk S.reference r → s'.ReceiptOk S.reference r := fun r hr =>
    hr.mono (hled ▸ List.Subset.refl _)
  refine ⟨⟨hm.trans h.mailboxes, ha.trans h.agents, ?_, ?_, ?_, ?_, ?_⟩, ?_, hsum, ?_⟩
  · exact ⟨hacc ▸ h.keyed.accounts, hled ▸ h.keyed.ledger, hrec ▸ h.keyed.receipts⟩
  · intro e he
    rcases h.justified e (hled ▸ he) with hstart | hdebit | ⟨rid, ty, p, hid, ht, hc⟩
    · exact .inl hstart
    · exact .inr (.inl hdebit)
    · exact .inr (.inr ⟨rid, ty, p, hid, (hterms _ _).trans ht, hc⟩)
  · intro halone t ht hi
    have hb := h.balanced halone t ht hi
    rw [Db.Balanced, Db.credits, haccount, hsum]
    exact hb
  · intro hc
    have hcons := h.consistent hc
    refine ⟨fun e he rid hrid => ?_, fun r hr => hok r (hcons.receipts r (hrec ▸ hr))⟩
    obtain ⟨r, hr, hrs⟩ := hcons.credited e (hled ▸ he) rid hrid
    exact ⟨r, (hreceipt _ _).trans hr, hrs⟩
  · intro hc rid hs
    obtain ⟨r, hr, hkey⟩ := h.settled hc rid hs
    exact ⟨r, hrec ▸ hr, hkey⟩
  · refine ⟨fun t ht => (haccount t).symm ▸ ht, hsend, hpol, hled ▸ List.Subset.refl _,
      fun t rid x hx => (hterms t rid).trans hx, ?_⟩
    rintro - t rid ⟨r, hr, hrs⟩
    exact ⟨r, (hreceipt t rid).trans hr, hrs⟩
  · exact fun t rid r hr => (hreceipt t rid).trans hr

/-- A change of one account that moves credits about, or of no credits at all, is calm. -/
theorem Calm.updateAccount (h : S.Inv w) {guard : BillingAccountRow → Bool}
    {set : BillingAccountRow → BillingAccountRow} (hset : ∀ r, (set r).tenantId = r.tenantId)
    (hsum : ∀ r, (set r).availableCredits + (set r).reservedCredits =
      r.availableCredits + r.reservedCredits) :
    S.Calm w (w.store.updateAccount t guard set).2 := by
  refine ⟨⟨h.mailboxes, h.agents, h.keyed.updateAccount hset, h.justified, ?_, ?_, h.settled⟩,
    ⟨?_, fun _ h => h, fun _ h => h, List.Subset.refl _, fun _ _ _ h => h, fun _ _ _ h => h⟩,
    fun _ => rfl, fun _ _ _ hr => hr⟩
  · intro ha t' ht' hi
    have hb := h.balanced ha t' ht' hi
    rw [Db.Balanced, Db.credits_updateAccount hset hsum]
    exact hb
  · intro hc
    exact ⟨(h.consistent hc).credited, fun r hr =>
      ((h.consistent hc).receipts r hr).mono (List.Subset.refl _)⟩
  · intro t' ht'
    exact (Db.isSome_account_updateAccount hset).2 ht'

/-! ### Rules for calm steps -/

variable {α β : Type} {Q : β → World ι Db Label → Prop} {E : Exn → World ι Db Label → Prop}

/-- A silent step with a calm effect, and what comes after it. -/
theorem safe_draw {f : Db → α × Db} {next : α → Op β} (hf : S.Calm w (f w.store).2)
    (hnext : ∀ w', S.protocol.Later i w w' → S.protocol.Safe i Q E (next (f w.store).1) w') :
    S.protocol.Safe i Q E (Prog.draw f >>= next) w :=
  ⟨hf.silent_good, fun w' hl => hnext w' (hf.silent_later.trans hl)⟩

/-- A statement that only reads, and what comes after it. -/
theorem safe_read {f : Db → α} {next : α → Op β} (hl : l.plain = true) (hw : S.Inv w)
    (hnext : ∀ w', S.protocol.Later i w w' → S.protocol.Safe i Q E (next (f w.store)) w')
    (hfail : ¬S.alone → ∀ w', S.protocol.Later i w w' → E Exn.d1 w') :
    S.protocol.Safe i Q E (query l f >>= next) w := by
  intro o ho
  have hstore : w.after i (fun _ => l) (fun s => s) o = ⟨w.store, ⟨i, l, o⟩ :: w.trace⟩ := by
    cases o <;> rfl
  have hlater : S.protocol.Later i w ⟨w.store, ⟨i, l, o⟩ :: w.trace⟩ := (Calm.refl hw).later hl
  refine ⟨?_, fun w' h' => ?_⟩
  · exact hstore ▸ (Calm.refl hw).good (Label.quiet_of_plain hl)
  · have hw' := hlater.trans (hstore ▸ h')
    have hfail' : o ≠ .done → E Exn.d1 w' := fun hne =>
      hfail (fun halone => hne (ho.1 halone).1) w' hw'
    cases o with
    | done => exact hnext w' hw'
    | refused => exact hfail' (by decide)
    | lost => exact hfail' (by decide)

/-- A statement with a calm effect, and what comes after it. -/
theorem safe_write {l : Nat → Label} {f : Db → Nat × Db} {next : Nat → Op β}
    (hl : ∀ n, (l n).plain = true) (hw : S.Inv w) (hf : S.Calm w (f w.store).2)
    (hnext : ∀ w', S.protocol.Later i ⟨(f w.store).2, w.trace⟩ w' → S.protocol.Later i w w' →
      S.protocol.Safe i Q E (next (f w.store).1) w')
    (hfail : ¬S.alone → ∀ w', S.protocol.Later i w w' → E Exn.d1 w') :
    S.protocol.Safe i Q E (execute l f >>= next) w := by
  intro o ho
  have hfail' : o ≠ .done → ∀ w', S.protocol.Later i w w' → E Exn.d1 w' := fun hne =>
    hfail fun halone => hne (ho.1 halone).1
  -- the statement is plain: it is as if its effect had come without it
  have heff : S.Calm ⟨(f w.store).2, w.trace⟩ (f w.store).2 := Calm.refl hf.inv
  cases o with
  | done =>
    refine ⟨hf.good (Label.quiet_of_plain (hl _)), fun w' h' => ?_⟩
    have hlater := (heff.later (hl _)).trans h'
    exact hnext w' hlater (hf.silent_later.trans hlater)
  | refused =>
    refine ⟨(Calm.refl hw).good (Label.quiet_of_plain (hl _)), fun w' h' => ?_⟩
    exact hfail' (by decide) w' (((Calm.refl hw).later (hl _)).trans h')
  | lost =>
    refine ⟨hf.good (Label.quiet_of_plain (hl _)), fun w' h' => ?_⟩
    exact hfail' (by decide) w' (hf.silent_later.trans ((heff.later (hl _)).trans h'))

/-- Any statement that keeps to the protocol, and what comes after it. -/
theorem safe_perform {name : Db → Label} {f : Db → α × Db} {next : α → Op β}
    (hgood : ∀ o, S.Allow i w (name w.store) o → S.protocol.Good i w
      ⟨if o.effective then (f w.store).2 else w.store, ⟨i, name w.store, o⟩ :: w.trace⟩)
    (hnext : ∀ w', S.protocol.Later i ⟨(f w.store).2, ⟨i, name w.store, .done⟩ :: w.trace⟩ w' →
      S.protocol.Safe i Q E (next (f w.store).1) w')
    (hfail : ¬S.alone → ∀ w', S.Inv w' → E Exn.d1 w') :
    S.protocol.Safe i Q E (Prog.perform name f Exn.d1 >>= next) w := by
  intro o ho
  have hfail' : o ≠ .done → ∀ w', S.Inv w' → E Exn.d1 w' := fun hne =>
    hfail fun halone => hne (ho.1 halone).1
  cases o with
  | done => exact ⟨hgood .done ho, hnext⟩
  | refused => exact ⟨hgood .refused ho, fun w' h' => hfail' (by decide) w' h'.inv⟩
  | lost => exact ⟨hgood .lost ho, fun w' h' => hfail' (by decide) w' h'.inv⟩

/-- A read whose label says what is read, and what comes after it. -/
theorem safe_load {l : α → Label} {f : Db → α} {next : α → Op β}
    (hl : (l (f w.store)).quiet = true) (hw : S.Inv w)
    (hnext : ∀ w', S.protocol.Later i ⟨w.store, ⟨i, l (f w.store), .done⟩ :: w.trace⟩ w' →
      S.protocol.Safe i Q E (next (f w.store)) w')
    (hfail : ¬S.alone → ∀ o w',
      S.protocol.Later i ⟨w.store, ⟨i, l (f w.store), o⟩ :: w.trace⟩ w' → E Exn.d1 w') :
    S.protocol.Safe i Q E (queryAs l f >>= next) w := by
  intro o ho
  have hfail' : o ≠ .done → ∀ w',
      S.protocol.Later i ⟨w.store, ⟨i, l (f w.store), o⟩ :: w.trace⟩ w' → E Exn.d1 w' :=
    fun hne => hfail (fun halone => hne (ho.1 halone).1) o
  cases o with
  | done => exact ⟨(Calm.refl hw).good hl, hnext⟩
  | refused => exact ⟨(Calm.refl hw).good hl, hfail' (by decide)⟩
  | lost => exact ⟨(Calm.refl hw).good hl, hfail' (by decide)⟩

/-- A call of something outside takes a draw and is calm. -/
theorem Calm.draws (h : S.Inv w) (n : Nat) : S.Calm w { w.store with draws := n } :=
  Calm.of_same h rfl rfl rfl rfl rfl (fun _ h => h) fun _ h => h

theorem safe_call {l : α → Label} {f : Nat → α} {next : α → Op β} (hl : ∀ a, (l a).plain = true)
    (hw : S.Inv w)
    (hnext : ∀ w', S.protocol.Later i w w' → S.protocol.Safe i Q E (next (f w.store.draws)) w')
    (hfail : ¬S.alone → ∀ w', S.protocol.Later i w w' → E Exn.d1 w') :
    S.protocol.Safe i Q E (call l f >>= next) w := by
  intro o ho
  have hfail' : o ≠ .done → ∀ w', S.protocol.Later i w w' → E Exn.d1 w' := fun hne =>
    hfail fun halone => hne (ho.1 halone).1
  have hcalm := Calm.draws hw (w.store.draws + 1)
  cases o with
  | done => exact ⟨hcalm.good (Label.quiet_of_plain (hl _)), fun w' h' =>
      hnext w' ((hcalm.later (hl _)).trans h')⟩
  | refused => exact ⟨(Calm.refl hw).good (Label.quiet_of_plain (hl _)), fun w' h' =>
      hfail' (by decide) w' (((Calm.refl hw).later (hl _)).trans h')⟩
  | lost => exact ⟨hcalm.good (Label.quiet_of_plain (hl _)), fun w' h' =>
      hfail' (by decide) w' ((hcalm.later (hl _)).trans h')⟩

/-- A read with a constant label, and what comes after it. -/
theorem safe_query {f : Db → α} {next : α → Op β} (hl : l.quiet = true) (hw : S.Inv w)
    (hnext : ∀ w', S.protocol.Later i ⟨w.store, ⟨i, l, .done⟩ :: w.trace⟩ w' →
      S.protocol.Safe i Q E (next (f w.store)) w')
    (hfail : ¬S.alone → ∀ o w',
      S.protocol.Later i ⟨w.store, ⟨i, l, o⟩ :: w.trace⟩ w' → E Exn.d1 w') :
    S.protocol.Safe i Q E (query l f >>= next) w := by
  show S.protocol.Safe i Q E (queryAs (fun _ => l) f >>= next) w
  exact safe_load hl hw hnext hfail

theorem safe_nowIso {env : Env} {next : Nat → Op β} (hw : S.Inv w)
    (hnext : ∀ n w', S.protocol.Later i w w' → S.protocol.Safe i Q E (next n) w') :
    S.protocol.Safe i Q E (nowIso env >>= next) w :=
  safe_draw (Calm.draws hw _) (hnext _)

theorem safe_createId {env : Env} {kind : String} {next : String → Op β} (hw : S.Inv w)
    (hnext : ∀ id w', S.protocol.Later i w w' → S.protocol.Safe i Q E (next id) w') :
    S.protocol.Safe i Q E (createId env kind >>= next) w :=
  safe_draw (Calm.draws hw _) (hnext _)

/-! ### Frames -/

/-- What a thread's own statements keep, where they write no receipts, and others do: the
receipts of which its view is current. -/
structure Views (i : ι) (w w' : World ι Db Label) : Prop where
  undisturbed : ∀ rid, undisturbed i rid w'.trace = true → undisturbed i rid w.trace = true
  receipt : ∀ t rid r, MailRuntime.undisturbed i rid w'.trace = true →
    w.store.receipt t rid = some r → w'.store.receipt t rid = some r

omit [DecidableEq ι] in
theorem Label.owes_of_table (h : l.table ≠ some .ledger) : l.owes t = none := by
  cases l <;> first | rfl | exact absurd rfl h

omit [DecidableEq ι] in
theorem Label.opens_of_table (h : l.table ≠ some .ledger) : l.opens t = none := by
  cases l <;> first | rfl | exact absurd rfl h

theorem viewOf_of_table (h : l.table ≠ some .receipts) : viewOf k rid ⟨i, l, o⟩ = none := by
  cases l <;> first | rfl | exact absurd rfl h

variable {ts : List Table} {p : Op β}

theorem Views.refl (i : ι) (w : World ι Db Label) : Views i w w :=
  ⟨fun _ h => h, fun _ _ _ _ h => h⟩

theorem Views.trans {w' w'' : World ι Db Label} (h : Views i w w') (h' : Views i w' w'') :
    Views i w w'' :=
  ⟨fun rid hu => h.undisturbed rid (h'.undisturbed rid hu),
    fun t rid r hu hr => h'.receipt t rid r hu (h.receipt t rid r (h'.undisturbed rid hu) hr)⟩

theorem Rely.views {w' : World ι Db Label} (h : S.Rely i w w') : Views i w w' :=
  ⟨h.undisturbed, h.receipt⟩

/-- A program that writes no receipts leaves current views current. -/
theorem frame_views (hp : Touches ts p) (hts : .receipts ∉ ts)
    (h : S.protocol.Safe i Q E p w) :
    S.protocol.Safe i (fun a w' => Q a w' ∧ Views i w w') (fun e w' => E e w' ∧ Views i w w')
      p w := by
  have hreceipt : ∀ {s s' : Db}, Table.Same .receipts s s' → ∀ t rid r,
      s.receipt t rid = some r → s'.receipt t rid = some r := by
    intro s s' hs t rid r hr
    rw [Db.receipt, ← hs]
    exact hr
  refine Protocol.Safe.frame (A := Views i w) (fun w₁ w₂ h₁ h₂ => h₁.trans (Rely.views (S := S) h₂.rely))
    (fun run hrun w₁ h₁ => h₁.trans ⟨fun _ hu => hu, fun t rid r _ hr => ?_⟩)
    (fun name run hrun w₁ o h₁ => h₁.trans ?_) hp h (Views.refl i w)
  · exact hreceipt (hrun w₁.store .receipts) t rid r hr
  · obtain ⟨hsame, hlabel⟩ := hrun w₁.store
    have hview : ∀ rid, viewOf i rid ⟨i, name w₁.store, o⟩ = none := fun rid =>
      viewOf_of_table fun hl => hts (hlabel _ hl)
    refine ⟨fun rid hu => ?_, fun t rid r _ hr => ?_⟩
    · rw [World.after_trace, undisturbed, latest_cons_none (hview rid)] at hu
      exact hu
    · exact World.after_store_of (p := fun s => s.receipt t rid = some r) w₁ i name run hr
        (hreceipt (hsame .receipts hts) t rid r hr)

/-- A program that bears on no ledger owes what it owed. -/
theorem frame_owing (hp : Touches ts p) (hts : .ledger ∉ ts)
    (h : S.protocol.Safe i Q E p w) :
    S.protocol.Safe i (fun a w' => Q a w' ∧ ∀ t, owing t i w'.trace = owing t i w.trace)
      (fun e w' => E e w' ∧ ∀ t, owing t i w'.trace = owing t i w.trace) p w := by
  refine Protocol.Safe.frame (A := fun w' => ∀ t, owing t i w'.trace = owing t i w.trace)
    (fun w₁ w₂ h₁ h₂ t => (h₂.rely.owing t).trans (h₁ t)) (fun run _ w₁ h₁ => h₁)
    (fun name run hrun w₁ o h₁ t => ?_) hp h fun _ => rfl
  have howes : (name w₁.store).owes t = none :=
    Label.owes_of_table fun hl => hts ((hrun w₁.store).2 _ hl)
  rw [World.after_trace, owing_cons_self, howes, Option.getD_none]
  exact h₁ t

/-- What comes after a program that bears on no ledger and writes no receipts might as well
come after other threads' steps. -/
theorem frame_later (hp : Touches ts p) (hledger : .ledger ∉ ts) (hreceipts : .receipts ∉ ts)
    (h : S.protocol.Safe i Q E p w) (hw : S.Inv w) :
    S.protocol.Safe i (fun a w' => Q a w' ∧ S.protocol.Later i w w')
      (fun e w' => E e w' ∧ S.protocol.Later i w w') p w := by
  have hbooks : S.protocol.Safe i
      (fun a w' => Q a w' ∧ (∀ t, reconciling t i w'.trace = reconciling t i w.trace) ∧
        (S.alone → ∀ t, reconciling t i w.trace = true →
          w'.store.ledgerSum t = w.store.ledgerSum t))
      (fun e w' => E e w' ∧ (∀ t, reconciling t i w'.trace = reconciling t i w.trace) ∧
        (S.alone → ∀ t, reconciling t i w.trace = true →
          w'.store.ledgerSum t = w.store.ledgerSum t)) p w := by
    refine Protocol.Safe.frame
      (A := fun w' => (∀ t, reconciling t i w'.trace = reconciling t i w.trace) ∧
        (S.alone → ∀ t, reconciling t i w.trace = true →
          w'.store.ledgerSum t = w.store.ledgerSum t))
      (fun w₁ w₂ h₁ h₂ => ⟨fun t => (h₂.rely.reconciling t).trans (h₁.1 t), fun ha t ht => ?_⟩)
      (fun run hrun w₁ h₁ => ⟨h₁.1, fun ha t ht => ?_⟩)
      (fun name run hrun w₁ o h₁ => ⟨fun t => ?_, fun ha t ht => ?_⟩) hp h
      ⟨fun _ => rfl, fun _ _ _ => rfl⟩
    · exact (h₂.rely.ledgerSum ha t ((h₁.1 t).trans ht)).trans (h₁.2 ha t ht)
    · rw [World.silent_store, Db.ledgerSum, ← hrun w₁.store .ledger]
      exact h₁.2 ha t ht
    · have hopens : (name w₁.store).opens t = none :=
        Label.opens_of_table fun hl => hledger ((hrun w₁.store).2 _ hl)
      rw [World.after_trace, reconciling_cons_self, hopens, Option.getD_none]
      exact h₁.1 t
    · refine World.after_store_of (p := fun s => s.ledgerSum t = w.store.ledgerSum t) w₁ i name run
        (h₁.2 ha t ht) ?_
      rw [Db.ledgerSum, ← (hrun w₁.store).1 .ledger hledger]
      exact h₁.2 ha t ht
  have hall := frame_views hp hreceipts (frame_owing hp hledger hbooks)
  have hkeep := Protocol.Safe.keep (A := fun w' => Grows S.current w.store w'.store)
    (fun w₁ w₂ hk hg => hg.trans hk) hall (Grows.refl _ _)
  refine Protocol.Safe.mono hw hkeep (fun a w' hw' hq => ?_) fun e w' hw' hq => ?_
  · obtain ⟨⟨⟨⟨hq, hrec, hsum⟩, howing⟩, hviews⟩, hg⟩ := hq
    exact ⟨hq, hw', hg, howing, hrec, hsum, hviews.undisturbed, hviews.receipt⟩
  · obtain ⟨⟨⟨⟨hq, hrec, hsum⟩, howing⟩, hviews⟩, hg⟩ := hq
    exact ⟨hq, hw', hg, howing, hrec, hsum, hviews.undisturbed, hviews.receipt⟩

/-- A program that changes nothing but draws is safe. -/
theorem safe_of_touches_nil (hp : Touches [] p) (hw : S.Inv w) :
    S.protocol.Safe i (fun _ _ => True) (fun _ _ => True) p w := by
  have hsame : ∀ {w : World ι Db Label} {s' : Db}, S.Inv w → (∀ t, Table.Same t w.store s') →
      S.Calm w s' := fun {w s'} hw hs =>
    Calm.of_same hw (hs .mailboxes).symm (hs .agents).symm (hs .accounts).symm (hs .ledger).symm
      (hs .receipts).symm
      (fun t ht => by rw [← hs .sendPolicies]; exact ht)
      (fun a ha => by rw [Db.agentPolicy, ← hs .agentPolicies, ← hs .agents]; exact ha)
  refine Protocol.Safe.quiet Protocol.stable_pure (fun run hrun w hw _ => ⟨?_, trivial⟩)
    (fun name run hrun w o hw _ _ => ⟨?_, trivial⟩) hp hw trivial
  · exact (hsame hw (hrun w.store)).silent_good
  · obtain ⟨hs, hlabel⟩ := hrun w.store
    have hquiet : (name w.store).quiet = true := by
      cases hl : name w.store <;> first | rfl | exact absurd (hlabel _ (by rw [hl]; rfl)) (by simp)
    have hcalm := hsame hw fun t => hs t (by simp)
    cases o with
    | done => exact hcalm.good hquiet
    | refused => exact (Calm.refl hw).good hquiet
    | lost => exact hcalm.good hquiet

end Setting

end MailRuntime
