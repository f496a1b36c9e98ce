import MailRuntime.Billing.Requests

/-!
# Runs of billing calls

What holds after any schedule of settlements, reservations, releases and payment
requests. In all runs the ledger has one entry at most for a job or a receipt, and each
is for what it should be. Accounts say what the ledger says where nobody enters a row
while another reconciles; receipts and ledger agree where receipts are written by who
has read them last. The runs at the end of each section show that the conditions are
needed.
-/

namespace MailRuntime

open Js X402 Interaction

namespace Setting

variable {ι : Type} [DecidableEq ι] {S : Setting ι} {i : ι} {w : World ι Db Label}

/-- What a call has come to when it answers. -/
structure Ends (S : Setting ι) (i : ι) (answer : Answer) (w : World ι Db Label) : Prop where
  clear : S.Clear i w
  debit : ∀ input, S.calls i = .settle input →
    (input.requirement S.env S.start).requiresCredits = true →
    w.store.HasDebit input.tenantId input.outboundJobId
  credit : ∀ st, answer = .response (.settled st) →
    w.store.HasCredit st.receipt.row.tenantId st.receipt.row.id

/-- Every call keeps to the protocol. -/
theorem safe_prog (hw : S.Inv w) (hclear : S.Clear i w) :
    S.protocol.Safe i (fun a w' => S.Ends i a w') (fun _ w' => S.Clear i w')
      ((S.calls i).prog S.env) w := by
  have hresponse : ∀ {p : Op PaymentResponse},
      (∀ input, S.calls i ≠ .settle input) →
      S.protocol.Safe i (fun r w' => S.Answers i r w') (fun _ w' => S.Clear i w') p w →
      S.protocol.Safe i (fun a w' => S.Ends i a w') (fun _ w' => S.Clear i w')
        (Answer.response <$> p) w := by
    intro p hcall hp
    refine Protocol.Safe.map hw (Protocol.Safe.mono hw hp (fun r w' _ hr => ?_) fun _ _ _ h => h)
    refine ⟨hr.1, fun input h => absurd h (hcall input), fun st hst => hr.2 st ?_⟩
    injection hst
  cases hcall : S.calls i with
  | settle input =>
    refine Protocol.Safe.map hw (Protocol.Safe.mono hw (safe_settleOutboundUsageDebit hcall hw
      hclear) (fun a w' _ h => ?_) fun _ _ _ h => h)
    refine ⟨h.1, fun input' h' => ?_, fun st hst => (by cases hst)⟩
    obtain rfl := Call.settle.inj (hcall.symm.trans h')
    exact h.2
  | reserve tenantId credits =>
    refine Protocol.Safe.map hw (Protocol.Safe.mono hw (safe_reserveTenantAvailableCredits hw
      hclear) (fun a w' _ h => ?_) fun _ _ _ h => h)
    exact ⟨h, fun input h' => by simp [hcall] at h', fun st hst => (by cases hst)⟩
  | release tenantId sourceMessageId draftCreatedVia recipients =>
    refine Protocol.Safe.map hw (Protocol.Safe.mono hw (safe_releaseOutboundUsageReservation hw
      hclear) (fun a w' _ h => ?_) fun _ _ _ h => h)
    exact ⟨h, fun input h' => by simp [hcall] at h', fun st hst => (by cases hst)⟩
  | topup request credits => exact hresponse (by simp [hcall]) (safe_topup hw hclear)
  | upgradeIntent request tier =>
    exact hresponse (by simp [hcall]) (safe_upgradeIntent hw hclear)
  | confirm tenantId receiptId manual =>
    exact hresponse (by simp [hcall]) (safe_confirmPayment hw hclear)

/-- **Runs**: after any schedule that the setting allows the invariant holds, and every call
that is over has come to what it should. -/
theorem run (S : Setting ι) (hstart : S.Inv ⟨S.start, []⟩) {schedule : List (ι × Outcome)}
    (hmeets : (startCalls S.env S.calls S.start).Meets S.Allow schedule) :
    S.Inv ((startCalls S.env S.calls S.start).exec schedule).world ∧
      (∀ i a, ((startCalls S.env S.calls S.start).exec schedule).threads i = .ret a →
        S.Ends i a ((startCalls S.env S.calls S.start).exec schedule).world) ∧
      ∀ i e, ((startCalls S.env S.calls S.start).exec schedule).threads i = .throw e →
        S.Clear i ((startCalls S.env S.calls S.start).exec schedule).world := by
  have hsafe : ∀ i, S.protocol.Holds i (fun a w => S.Ends i a w) (fun _ w => S.Clear i w)
      ((startCalls S.env S.calls S.start).threads i) ⟨S.start, []⟩ := fun i w hw =>
    safe_prog hw.inv fun _ t => hw.rely.owing t
  obtain ⟨hinv, hthreads⟩ := Protocol.exec (c := startCalls S.env S.calls S.start) hstart hsafe
    hmeets
  refine ⟨hinv, fun i a ha => ?_, fun i e he => ?_⟩
  · have h := (hthreads i).now hinv
    rwa [ha] at h
  · have h := (hthreads i).now hinv
    rwa [he] at h

/-- The database at the start, if its tables are in order. -/
theorem inv_start (hkeyed : S.start.Keyed)
    (hconsistent : S.current → S.start.Consistent S.reference) : S.Inv ⟨S.start, []⟩ where
  mailboxes := rfl
  agents := rfl
  keyed := hkeyed
  justified _ he := .inl he
  balanced _ _ ht _ := ht
  consistent := hconsistent
  settled _ rid hs := by
    rcases hs with ⟨r, hr, hkey⟩ | ⟨e, he, -⟩
    · exact ⟨r, hr, hkey⟩
    · cases he

end Setting

variable {ι : Type} [DecidableEq ι] {env : Env} {calls : ι → Call} {start : Db}
  {schedule : List (ι × Outcome)}

/-! ### The ledger -/

/-- The entries of a tenant with a reference. -/
def Db.debits (s : Db) (tenantId outboundJobId : String) : List CreditLedgerRow :=
  s.ledger.filter fun e => e.tenantId == tenantId && e.referenceId == some outboundJobId

/-- The entries of a tenant for a receipt. -/
def Db.grants (s : Db) (tenantId receiptId : String) : List CreditLedgerRow :=
  s.ledger.filter fun e => e.tenantId == tenantId && e.paymentReceiptId == some receiptId

theorem Db.Keyed.debits_length (h : start.Keyed) (t job : String) :
    (start.debits t job).length ≤ 1 ∧
      (start.HasDebit t job → (start.debits t job).length = 1) := by
  have hone : start.HasDebit t job → (start.debits t job).length = 1 := by
    rintro ⟨e, he, rfl, hjob⟩
    rw [debits, h.reference_entry he hjob, List.length_singleton]
  refine ⟨?_, hone⟩
  rcases hrows : start.debits t job with _ | ⟨e, rest⟩
  · exact Nat.zero_le 1
  · have he : e ∈ start.debits t job := by simp [hrows]
    obtain ⟨hmem, hkey⟩ := List.mem_filter.1 he
    rw [Bool.and_eq_true, beq_iff_eq, beq_iff_eq] at hkey
    exact hrows ▸ (hone ⟨e, hmem, hkey⟩).le

theorem Db.Keyed.grants_length (h : start.Keyed) (t rid : String) :
    (start.grants t rid).length ≤ 1 ∧
      (start.HasCredit t rid → (start.grants t rid).length = 1) := by
  have hone : start.HasCredit t rid → (start.grants t rid).length = 1 := by
    rintro ⟨e, he, rfl, hrid⟩
    rw [grants, h.receipt_entry he hrid, List.length_singleton]
  refine ⟨?_, hone⟩
  rcases hrows : start.grants t rid with _ | ⟨e, rest⟩
  · exact Nat.zero_le 1
  · have he : e ∈ start.grants t rid := by simp [hrows]
    obtain ⟨hmem, hkey⟩ := List.mem_filter.1 he
    rw [Bool.and_eq_true, beq_iff_eq, beq_iff_eq] at hkey
    exact hrows ▸ (hone ⟨e, hmem, hkey⟩).le

/-- The settlement of a job that was sent to one external recipient. -/
def sampleSettlement (job : String) : UsageInput where
  tenantId := "tnt"
  messageId := "msg"
  outboundJobId := job
  draftId := none
  draftCreatedVia := none
  sourceMessageId := none
  recipients := ⟨["user@example.com"], [], []⟩

/-- Two jobs of one tenant are settled. -/
def twoSettlements : Bool → Call
  | false => .settle (sampleSettlement "job1")
  | true => .settle (sampleSettlement "job2")

/-- A tenant with two credits, both reserved. -/
def reservedDb : Db where
  accounts := [⟨"tnt", .active, .free, none, none, 0, 2, 0⟩]
  ledger := [⟨"led", "tnt", .topup, 2, "topup", some "prc", none, none, 0⟩]

theorem keyed_reservedDb : reservedDb.Keyed := ⟨by decide, by decide, by decide⟩

/-- **Every settlement is in the ledger once.** After any schedule, whatever statements
fail, a job and a receipt have one entry at most; an entry that was not there before is the
debit of a settlement or the credit of a receipt; and a settlement that has returned, of a
job whose send needs credits or of a receipt, has its entry. -/
theorem settled_once (env : Env) (calls : ι → Call) (schedule : List (ι × Outcome))
    (hkeyed : start.Keyed) :
    let c := (startCalls env calls start).exec schedule
    (∀ t job, (c.world.store.debits t job).length ≤ 1) ∧
      (∀ t rid, (c.world.store.grants t rid).length ≤ 1) ∧
      (∀ e ∈ c.world.store.ledger, e ∈ start.ledger ∨
        (∃ i input, calls i = .settle input ∧ IsDebit env start input e) ∨
        IsCredit c.world.store e) ∧
      (∀ i input a, calls i = .settle input →
        (input.requirement env start).requiresCredits = true → c.threads i = .ret a →
        (c.world.store.debits input.tenantId input.outboundJobId).length = 1) ∧
      ∀ i st, c.threads i = .ret (.response (.settled st)) →
        (c.world.store.grants st.receipt.row.tenantId st.receipt.row.id).length = 1 := by
  intro c
  let S : Setting ι := ⟨env, calls, start, False, False, none, fun _ h => by cases h⟩
  have hmeets : (startCalls S.env S.calls S.start).Meets S.Allow schedule :=
    Config.meets_of_all (fun _ _ _ _ => ⟨False.elim, False.elim⟩) _ _
  obtain ⟨hinv, hret, -⟩ := S.run (S.inv_start hkeyed False.elim) hmeets
  refine ⟨fun t job => (hinv.keyed.debits_length t job).1,
    fun t rid => (hinv.keyed.grants_length t rid).1, hinv.justified,
    fun i input a hcall hrequires ha => ?_, fun i st hst => ?_⟩
  · exact (hinv.keyed.debits_length _ _).2 ((hret i a ha).debit input hcall hrequires)
  · exact (hinv.keyed.grants_length _ _).2 ((hret i _ hst).credit st rfl)

set_option maxRecDepth 4000 in
/-- Two settlements, one step of each at a time. -/
theorem settled_once_twoSettlements :
    let c := (startCalls Env.bare twoSettlements reservedDb).exec
      (List.replicate 30 [(false, .done), (true, .done)]).flatten
    (c.world.store.debits "tnt" "job1").length = 1 ∧
      (c.world.store.debits "tnt" "job2").length = 1 := by
  have h := settled_once Env.bare twoSettlements
    (List.replicate 30 [(false, .done), (true, .done)]).flatten keyed_reservedDb
  exact ⟨h.2.2.2.1 false _ .done rfl (by decide) rfl, h.2.2.2.1 true _ .done rfl (by decide) rfl⟩

/-- The settlement of a send without external recipients returns, and there is no entry. -/
theorem internal_send_has_no_entry :
    let c := (startCalls Env.bare (fun _ : Unit => .settle
      { sampleSettlement "job1" with recipients := ⟨[], [], []⟩ }) reservedDb).exec (turns () 4)
    c.threads () = .ret .done ∧ (c.world.store.debits "tnt" "job1").length = 0 :=
  ⟨rfl, by decide⟩

/-! ### Accounts and ledger -/

/-- **Accounts say what the ledger says**, once all calls are over, if no row enters a ledger
while another call reconciles its account. -/
theorem balanced_of_reconcilesAlone (hkeyed : start.Keyed)
    (halone : (startCalls env calls start).Meets ReconcilesAlone schedule)
    (hfinished : ((startCalls env calls start).exec schedule).Finished) (t : String)
    (ht : start.Balanced t) :
    ((startCalls env calls start).exec schedule).world.store.Balanced t := by
  let S : Setting ι := ⟨env, calls, start, True, False, none, fun _ h => by cases h⟩
  have hmeets : (startCalls S.env S.calls S.start).Meets S.Allow schedule :=
    halone.mono fun _ _ _ _ h => ⟨fun _ => h, False.elim⟩
  obtain ⟨hinv, hret, hthrow⟩ := S.run (S.inv_start hkeyed False.elim) hmeets
  refine hinv.balanced trivial t ht fun i => ?_
  rcases Prog.ended_cases (hfinished i) with ⟨a, ha⟩ | ⟨e, he⟩
  · exact (hret i a ha).clear trivial t
  · exact hthrow i e he trivial t

/-- Two settlements, one after the other. -/
theorem balanced_twoSettlements :
    ((startCalls Env.bare twoSettlements reservedDb).exec
      (turns false 30 ++ turns true 30)).world.store.Balanced "tnt" :=
  balanced_of_reconcilesAlone keyed_reservedDb (by decide +kernel) (by decide +kernel)
    "tnt" (by decide)

/-- One settlement reads the sum of the ledger, the other enters its debit and reconciles, and
the first sets the account from the sum it read. -/
theorem reconcile_loses_update :
    let c := (startCalls Env.bare twoSettlements reservedDb).exec
      (turns false 11 ++ turns true 30 ++ turns false 30)
    reservedDb.Balanced "tnt" ∧ c.Finished ∧ ¬c.world.store.Balanced "tnt" := by
  decide +kernel

/-! ### Receipts and ledger -/

/-- A payment proof for the quote of a topup; no two notes are fields of one proof. -/
def sampleProof (note : String) : Json := .obj [
  ("x402Version", .num 2),
  ("resource", .obj [("url", .str "/v1/billing/topup")]),
  ("accepted", .obj [("scheme", .str "exact"), ("network", .str "eip155:84532"),
    ("asset", .str "eurc"), ("amount", .str "50000"), ("payTo", .str "0x01")]),
  ("payload", .obj [("signature", .str "0x02")]),
  ("note", .str note)]

/-- The note of a proof. -/
def noteOf (proof : Json) : String :=
  ((asRecord (some proof)).bind fun fields => string (fields.lookup "note")).getD ""

/-- An environment in which payment is possible. The header of a proof is its note, and the
facilitator settles everything by one reference, except that the `refused`-th call is
refused. -/
def payingEnv (refused : Option Nat) : Env where
  __ := Env.bare
  stringify := noteOf
  decodeProof header := some (sampleProof header)
  price _ := ("0.05", "50000")
  X402_DEFAULT_ASSET := some "eurc"
  X402_PAY_TO := some "0x01"
  X402_FACILITATOR_URL := some "https://facilitator.example"
  fetchFacilitator n _ _ :=
    if refused = some n then some (402, .blank)
    else some (200, .json (.obj [("settlementReference", .str "0x03")]))

/-- A topup of five credits. -/
def sampleTopup (header : String) : Call :=
  .topup ⟨"tnt", none, "", none, none, none, some header⟩ (some (.num 5))

theorem keyed_empty : Db.Keyed {} := ⟨.nil, .nil, .nil⟩

theorem consistent_empty {reference : Option (Json → String)} : Db.Consistent {} reference :=
  ⟨fun _ he => (by cases he), fun _ hr => (by cases hr)⟩

/-- **Receipts and ledger agree**, at every moment, if receipts are written by who has read
them last: what has been settled stays settled, what is settled has its credits, and what has
failed has none. -/
theorem receipts_of_actsOnCurrent (hkeyed : start.Keyed) (hconsistent : start.Consistent none)
    (hcurrent : (startCalls env calls start).Meets ActsOnCurrent schedule) :
    let w := ((startCalls env calls start).exec schedule).world
    ∀ r ∈ w.store.receipts,
      (SettledBefore start r.id w.trace → r.status = .settled) ∧
        (r.status = .settled → w.store.HasCredit r.tenantId r.id) ∧
        (r.status = .failed → ¬w.store.HasCredit r.tenantId r.id) := by
  intro w r hr
  let S : Setting ι := ⟨env, calls, start, False, True, none, fun _ h => by cases h⟩
  have hmeets : (startCalls S.env S.calls S.start).Meets S.Allow schedule :=
    hcurrent.mono fun _ _ _ _ h => ⟨False.elim, fun _ => h⟩
  obtain ⟨hinv, -, -⟩ := S.run (S.inv_start hkeyed fun _ => hconsistent) hmeets
  have hcons := hinv.consistent trivial
  refine ⟨fun hsettled => ?_, fun hs => ((hcons.receipts r hr).settled hs).2, fun hf hc => ?_⟩
  · obtain ⟨r', hr', hid, hs⟩ := hinv.settled trivial r.id hsettled
    rw [← hinv.keyed.eq_of_id hr' hr hid]
    exact hs
  · rcases hcons.status_of_credit (hinv.keyed.receipt_of_mem hr) hc with h | h <;>
      rw [hf] at h <;> cases h

/-- One topup after another with the same proof. -/
theorem receipts_sampleTopup :
    let w := ((startCalls (payingEnv none) (fun _ : Bool => sampleTopup "a") {}).exec
      (turns false 60 ++ turns true 60)).world
    w.store.receipts.map PaymentReceiptRow.status = [.settled] ∧
      ∀ r ∈ w.store.receipts, r.status = .settled → w.store.HasCredit r.tenantId r.id :=
  ⟨by decide +kernel, fun r hr => (receipts_of_actsOnCurrent keyed_empty consistent_empty
    (by decide +kernel) r hr).2.1⟩

/-- The first topup asks the facilitator to verify the proof; the second, with the same proof,
settles the receipt; and the first writes that verification has failed. -/
theorem settled_receipt_fails :
    let c := (startCalls (payingEnv (some 4)) (fun _ : Bool => sampleTopup "a") {}).exec
      (turns false 12 ++ turns true 60 ++ turns false 60)
    c.Finished ∧
      (∃ e ∈ c.world.trace, e = ⟨true, .writeReceipt (drawId 2) .settled 1, .done⟩) ∧
      ∃ r ∈ c.world.store.receipts, r.id = drawId 2 ∧ r.status = .failed ∧
        c.world.store.HasCredit r.tenantId r.id := by
  decide +kernel

/-- **One authorization, one receipt**: if the facilitator's settlement reference is a function
of what is signed, and receipts are written by who has read them last, then receipts whose
payloads have one reference never both have credits. -/
theorem one_credit_of_actsOnCurrent {reference : Json → String} (hkeyed : start.Keyed)
    (hconsistent : start.Consistent (some reference)) (hsettles : SettlesBy env reference)
    (hcurrent : (startCalls env calls start).Meets ActsOnCurrent schedule) :
    let s := ((startCalls env calls start).exec schedule).world.store
    ∀ r ∈ s.receipts, ∀ r' ∈ s.receipts, s.HasCredit r.tenantId r.id →
      s.HasCredit r'.tenantId r'.id → ∀ payload payload', r.payload = some payload →
        r'.payload = some payload' → reference payload = reference payload' → r = r' := by
  intro s r hr r' hr' hc hc' payload payload' hp hp' hsame
  let S : Setting ι := ⟨env, calls, start, False, True, some reference,
    fun f hf => Option.some.inj hf ▸ hsettles⟩
  have hmeets : (startCalls S.env S.calls S.start).Meets S.Allow schedule :=
    hcurrent.mono fun _ _ _ _ h => ⟨False.elim, fun _ => h⟩
  obtain ⟨hinv, -, -⟩ := S.run (S.inv_start hkeyed fun _ => hconsistent) hmeets
  have hcons := hinv.consistent trivial
  have hbacked : ∀ r ∈ s.receipts, s.HasCredit r.tenantId r.id →
      ∀ payload, r.payload = some payload → r.settlementReference = some (reference payload) := by
    intro r hr hc payload hp
    obtain ⟨e, he, ht, hrid⟩ := hc
    obtain ⟨row, hrow, hstored⟩ := hcons.credited e he r.id hrid
    rw [ht, hinv.keyed.receipt_of_mem hr] at hrow
    obtain rfl := Option.some.inj hrow
    obtain ⟨m, hm, hpayload⟩ := Option.bind_eq_some_iff.1 hp
    exact (hcons.receipts r hr).backed hstored reference rfl m payload hm hpayload
  -- no two receipts have one settlement reference
  refine eq_of_pairwise PaymentReceiptRow.clashes_comm hinv.keyed.receipts hr hr' ?_
  have h := hbacked r hr hc payload hp
  have h' := hbacked r' hr' hc' payload' hp'
  rw [← hsame] at h'
  simp [PaymentReceiptRow.clashes, h, h', clash]

theorem settlesBy_payingEnv (refused : Option Nat) :
    SettlesBy (payingEnv refused) fun _ => "0x03" := by
  refine ⟨rfl, fun config _ n payload requirements key status body h => ?_⟩
  simp only [payingEnv] at h
  split at h
  · obtain ⟨rfl, rfl⟩ := Prod.mk.inj (Option.some.inj h)
    intro response hsettled
    cases hsettled
  · obtain ⟨rfl, rfl⟩ := Prod.mk.inj (Option.some.inj h)
    intro response hsettled
    rfl

/-- Two topups with one authorization, one after the other. -/
theorem one_credit_sampleTopups :
    let s := ((startCalls (payingEnv none) (fun second : Bool => sampleTopup
      (if second then "b" else "a")) {}).exec (turns false 60 ++ turns true 60)).world.store
    s.receipts.length = 2 ∧
      ∀ r ∈ s.receipts, ∀ r' ∈ s.receipts, s.HasCredit r.tenantId r.id →
        s.HasCredit r'.tenantId r'.id → ∀ payload payload', r.payload = some payload →
          r'.payload = some payload' → r = r' :=
  ⟨by decide +kernel, fun r hr r' hr' hc hc' payload payload' hp hp' =>
    one_credit_of_actsOnCurrent keyed_empty consistent_empty (settlesBy_payingEnv none)
      (by decide +kernel) r hr r' hr' hc hc' payload payload' hp hp' rfl⟩

/-- The first topup is about to write that the proof is verified; the second, with the same
proof, writes the settlement reference, which the first then takes away; the second grants
the credits all the same; and a third, with another note beside the same authorization, finds
the reference free. -/
theorem one_authorization_credited_twice :
    let c := (startCalls (payingEnv none) (fun i : Fin 3 => sampleTopup
      (if i = 2 then "b" else "a")) {}).exec
      (turns 0 14 ++ turns 1 15 ++ turns 0 2 ++ turns 1 60 ++ turns 2 60 ++ turns 0 60)
    c.Finished ∧
      ∃ r ∈ c.world.store.receipts, ∃ r' ∈ c.world.store.receipts, r.id ≠ r'.id ∧
        c.world.store.HasCredit r.tenantId r.id ∧ c.world.store.HasCredit r'.tenantId r'.id ∧
        r.payload.isSome ∧ r'.payload.isSome := by
  decide +kernel

end MailRuntime
