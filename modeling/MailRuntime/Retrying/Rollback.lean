import MailRuntime.Interaction.Alone
import MailRuntime.Retrying.Snapshots

/-!
# What a retry that fails leaves behind

A retry that runs alone, any of whose statements may fail. It reserves the credits before its
`try` block, by an `UPDATE` and a look at the account. If that `UPDATE` does not lose its
answer, and the look does not fail, then every later failure is taken back: provided that the
compensating statements succeed, the statuses and the balances are what they were.
-/

namespace MailRuntime

open Js Interaction

/-! ### Before the reservation -/

/-- A retry that runs alone. -/
abbrev request : Protocol Unit Db Label :=
  alone (fun _ => True) fun w l o => ReservationAnswered w l o ∧ Compensates w o

/-- No table a retry reads differs, and no balance. -/
structure Db.Prepared (s s' : Db) : Prop where
  jobs : s'.outboundJobs = s.outboundJobs
  messages : s'.messages = s.messages
  drafts : s'.drafts = s.drafts
  mailboxes : s'.mailboxes = s.mailboxes
  agents : s'.agents = s.agents
  objects : s'.objects = s.objects
  funds : s.SameFunds s'

theorem Db.Prepared.refl (s : Db) : s.Prepared s := ⟨rfl, rfl, rfl, rfl, rfl, rfl, .refl s⟩

theorem Db.Prepared.draws {s s' : Db} {run : Db → Db} (h : s.Prepared s') (hrun : Draws run) :
    s.Prepared (run s') :=
  ⟨(hrun s' .outboundJobs).symm.trans h.jobs, (hrun s' .messages).symm.trans h.messages,
    (hrun s' .drafts).symm.trans h.drafts, (hrun s' .mailboxes).symm.trans h.mailboxes,
    (hrun s' .agents).symm.trans h.agents, (hrun s' .objects).symm.trans h.objects,
    h.funds.trans (.of_accounts (hrun s' .accounts).symm)⟩

theorem Db.Prepared.checks {s s' : Db} {name : Db → Label} {run : Db → Db} (h : s.Prepared s')
    (hrun : Checks name run) : s.Prepared (run s') := by
  have hsame : ∀ t, t ∉ [Table.sendPolicies, .accounts] → t.Same s' (run s') :=
    (hrun.within s').1
  exact ⟨(hsame .outboundJobs (by simp)).symm.trans h.jobs,
    (hsame .messages (by simp)).symm.trans h.messages,
    (hsame .drafts (by simp)).symm.trans h.drafts,
    (hsame .mailboxes (by simp)).symm.trans h.mailboxes,
    (hsame .agents (by simp)).symm.trans h.agents,
    (hsame .objects (by simp)).symm.trans h.objects, h.funds.trans (hrun.funds s')⟩

/-- Nothing has been reserved, and the database is the one the retry found. -/
def Fresh (s : Db) (w : World Unit Db Label) : Prop :=
  s.Prepared w.store ∧ reserved w.trace = false

variable {α : Type} {s s' : Db} {job : OutboundJobRow} {message : MessageRow} {draft : DraftRow}
  {w : World Unit Db Label} {env : Env}

theorem reserving_of_movesCredits {ι : Type} {e : Event ι Label} (h : e.label.movesCredits = false) :
    reserving e = false := by
  obtain ⟨i, l, o⟩ := e
  cases l <;> first | rfl | cases h

theorem Fresh.checks {name : Db → Label} {run : Db → Db} (h : Fresh s w) (hrun : Checks name run)
    (o : Outcome) : Fresh s (w.after () name run o) := by
  constructor
  · exact w.after_store_of () name run h.1 (h.1.checks hrun)
  · rw [World.after_trace, reserved_cons, h.2, reserving_of_movesCredits (hrun.moves w.store)]
    rfl

/-- What comes before the reservation leaves things as they are, however it ends. -/
theorem safe_prepares {p : Op α} (hp : Prepares p) (hw : Fresh s w) :
    request.Safe () (fun _ => Fresh s) (fun _ => Fresh s) p w := by
  refine safe_alone_of_each (A := Fresh s) ?_ ?_ hp trivial hw
  · intro run hrun w _ hw
    exact ⟨trivial, hw.1.draws hrun, hw.2⟩
  · intro name run hstmt w o _ hw _
    exact ⟨trivial, hw.checks hstmt o⟩

/-- A program of the checks that only reads answers what the database says. -/
theorem safe_reads {p : Op α} (hp : Prepares p) (hreads : p.Reads) (hw : Fresh s w) :
    request.Safe () (fun a w' => p.run w.store = (.ok a, w.store) ∧ Fresh s w')
      (fun _ => Fresh s) p w := by
  refine Protocol.Safe.mono trivial (safe_frame_alone (A := Fresh s)
    (fun run hrun w hw => ⟨hw.1.draws hrun, hw.2⟩) (fun name run hstmt w o hw => hw.checks hstmt o)
    hp (safe_alone_of_reads (fun _ => trivial) hreads rfl) hw) (fun a w' _ h => ⟨h.1.2, h.2⟩)
    fun e w' _ h => h.2

/-! ### The reservation -/

/-- An update that finds one finds the tenant's. -/
theorem Db.updateAccount_nonzero {t : String} {guard : BillingAccountRow → Bool}
    {set : BillingAccountRow → BillingAccountRow} (hs : s.AccountsKeyed)
    (h : (s.updateAccount t guard set).1 ≠ 0) : ∃ r, s.account t = some r ∧ guard r = true := by
  obtain ⟨r, hr, hguard⟩ := List.countP_pos_iff.1 (Nat.pos_of_ne_zero h)
  simp only [Bool.and_eq_true, beq_iff_eq] at hguard
  obtain ⟨ht, hguard⟩ := hguard
  have hsome : (s.account t).isSome := List.find?_isSome.2 ⟨r, hr, by simp [ht]⟩
  obtain ⟨r', hr'⟩ := Option.isSome_iff_exists.1 hsome
  obtain ⟨hmem, ht'⟩ := Db.account_mem hr'
  have hsame : r' = r := by
    by_contra hne
    have hsymm : Std.Symm fun a b : BillingAccountRow => a.tenantId ≠ b.tenantId :=
      ⟨fun _ _ h => Ne.symm h⟩
    exact hs.forall hmem hr hne (ht'.trans ht.symm)
  exact ⟨r', hr', hsame ▸ hguard⟩

/-- An account to which credits are moved. -/
def BillingAccountRow.moved (available reserved : Int) (updatedAt : Nat) (r : BillingAccountRow) :
    BillingAccountRow :=
  { r with
    availableCredits := r.availableCredits + available
    reservedCredits := r.reservedCredits + reserved
    updatedAt := updatedAt }

/-- A move of credits on an account that is there. -/
theorem Db.updateAccount_moved {t : String} {guard : BillingAccountRow → Bool}
    {r : BillingAccountRow} (hr : s.account t = some r) (hguard : guard r = true)
    (available reserved : Int) (updatedAt : Nat) (t' : String) :
    let s' := (s.updateAccount t guard (.moved available reserved updatedAt)).2
    s'.availableCredits t' = s.availableCredits t' + (if t' = t then available else 0) ∧
      s'.reservedCredits t' = s.reservedCredits t' + (if t' = t then reserved else 0) := by
  have haccount : (s.updateAccount t guard (.moved available reserved updatedAt)).2.account t' =
      (s.account t').map fun r =>
        if t' = t ∧ guard r = true then r.moved available reserved updatedAt else r :=
    Db.account_updateAccount (by intro _; rfl) t'
  simp only [Db.availableCredits, Db.reservedCredits, haccount]
  by_cases ht : t' = t
  · subst ht
    simp [hr, hguard, BillingAccountRow.moved]
  · cases s.account t' <;> simp [ht]

/-- The statuses and the balances are what they were, but for a credit that is reserved. -/
def Held (s : Db) (job : OutboundJobRow) (message : MessageRow) (draft : DraftRow)
    (w : World Unit Db Label) : Prop :=
  Astray s job message draft 1 w.store ∧ reserved w.trace = true

theorem Fresh.reserve (h : Fresh s w) {guard : BillingAccountRow → Bool} {r : BillingAccountRow}
    (hr : w.store.account draft.tenantId = some r) (hguard : guard r = true) (updatedAt : Nat) :
    Astray s job message draft 1
      (w.store.updateAccount draft.tenantId guard (.moved (-1) 1 updatedAt)).2 := by
  obtain ⟨hstore, -⟩ := h
  have hmoved := Db.updateAccount_moved hr hguard (-1) 1 updatedAt
  refine ⟨?_, ?_, ?_, hstore.mailboxes, hstore.agents, fun t => ?_, fun t => ?_⟩
  · show jobStatuses.SameBut job.id s.outboundJobs w.store.outboundJobs
    rw [hstore.jobs]
    exact .refl _ _
  · show messageStatuses.SameBut message.id s.messages w.store.messages
    rw [hstore.messages]
    exact .refl _ _
  · show draftStatuses.SameBut draft.id s.drafts w.store.drafts
    rw [hstore.drafts]
    exact .refl _ _
  · rw [(hmoved t).1, hstore.funds.available]
    split <;> omega
  · rw [(hmoved t).2, hstore.funds.reserved]

/-- What the reserving `UPDATE` leaves: a credit is reserved, or nothing has happened. -/
def Reserved (s : Db) (job : OutboundJobRow) (message : MessageRow) (draft : DraftRow)
    (changes : Nat) (w : World Unit Db Label) : Prop :=
  if changes = 0 then Fresh s w
  else Held s job message draft w ∧ (w.store.account draft.tenantId).isSome ∧
    w.trace.head?.any reserving = true

/-- The reservation of a credit of a tenant, if it has one. -/
def Db.reserveCredit (tenantId : String) (updatedAt : Nat) (s : Db) : Nat × Db :=
  s.updateAccount tenantId (fun r => 1 ≤ r.availableCredits) (.moved (-1) 1 updatedAt)

/-- The reserving `UPDATE`. -/
theorem safe_reserveCredit (job : OutboundJobRow) (message : MessageRow) (hkeys : s.AccountsKeyed) (hw : Fresh s w) (updatedAt : Nat) :
    request.Safe () (Reserved s job message draft) (fun _ => Fresh s)
      (execute (.reserveCredits draft.tenantId 1) (Db.reserveCredit draft.tenantId updatedAt)) w := by
  refine safe_perform_alone fun o ho => ⟨trivial, ?_⟩
  have hkeyed : w.store.AccountsKeyed := hw.1.funds.keyed hkeys
  by_cases hn : (w.store.reserveCredit draft.tenantId updatedAt).1 = 0
  · have hfresh : Fresh s (w.after ()
        (fun s => .reserveCredits draft.tenantId 1 (s.reserveCredit draft.tenantId updatedAt).1)
        (fun s => (s.reserveCredit draft.tenantId updatedAt).2) o) := by
      constructor
      · refine w.after_store_of (p := s.Prepared) () _ _ hw.1 ?_
        rw [Db.reserveCredit, Db.updateAccount_zero hn]
        exact hw.1
      · rw [World.after_trace, reserved_cons, hw.2]
        simp [reserving, hn]
    split
    · rw [Reserved, if_pos hn]
      exact hfresh
    · exact hfresh
  · obtain ⟨r, hr, hguard⟩ := Db.updateAccount_nonzero hkeyed hn
    cases o with
    | done =>
      have hreserving : reserving (⟨(), .reserveCredits draft.tenantId 1
          (w.store.reserveCredit draft.tenantId updatedAt).1, .done⟩ : Event Unit Label) = true := by
        simp [reserving, Outcome.effective, Nat.pos_of_ne_zero hn]
      rw [if_pos rfl, Reserved, if_neg hn]
      refine ⟨⟨?_, ?_⟩, ?_, hreserving⟩
      · exact hw.reserve hr hguard updatedAt
      · rw [World.after_trace, reserved_cons]
        exact Bool.or_eq_true_iff.2 (.inl hreserving)
      · refine (Db.isSome_account_updateAccount (by intro _; rfl)).2 ?_
        rw [hr]
        rfl
    | refused =>
      refine ⟨hw.1, ?_⟩
      rw [World.after_trace, reserved_cons, hw.2]
      simp [reserving, Outcome.effective]
    | lost => exact absurd (ho.1 rfl) hn

/-- Credits are reserved and the account is looked at, or nothing has happened. -/
theorem safe_reserveTenantAvailableCredits (job : OutboundJobRow) (message : MessageRow)
    (hkeys : s.AccountsKeyed) (hw : Fresh s w) :
    request.Safe ()
      (fun account w' => if account.isSome then Held s job message draft w' else Fresh s w')
      (fun _ => Fresh s) (reserveTenantAvailableCredits env draft.tenantId 1) w := by
  refine .bind trivial (safe_prepares (prepares_reads touches_nowIso) hw)
    (fun updatedAt w₁ _ hw₁ => ?_) fun _ _ _ h => h
  refine .bind trivial (safe_reserveCredit job message hkeys hw₁ updatedAt)
    (fun changes w₂ _ hw₂ => ?_) fun _ _ _ h => h
  rw [Reserved] at hw₂
  split at hw₂
  · next h0 =>
    rw [if_pos h0]
    exact hw₂
  · next h0 =>
    rw [if_neg h0]
    obtain ⟨hheld, hsome, hhead⟩ := hw₂
    obtain ⟨r, hr⟩ := Option.isSome_iff_exists.1 hsome
    refine .bind (Q := fun account w' => account = some r ∧ Held s job message draft w') trivial
      (safe_perform_alone fun o ho => ⟨trivial, ?_⟩) (fun account w₃ _ hw₃ => ?_)
      fun _ _ _ h => h
    · obtain rfl := ho.1 hhead
      rw [if_pos rfl]
      exact ⟨hr, hheld.1, reserved_cons_of_reserved hheld.2 _⟩
    · obtain ⟨rfl, hw₃⟩ := hw₃
      exact hw₃

/-- What the send of the draft needs. -/
def Snapshot.requirement (env : Env) (s : Db) (draft : DraftRow) (recipients : Recipients) :
    CreditRequirement :=
  creditRequirement env (s.route env recipients) draft.sourceMessageId draft.createdVia

/-- What needs credits needs one. -/
theorem creditsRequired_of_requiresCredits {routed : RoutedRecipients}
    {sourceMessageId createdVia : Option String}
    (h : (creditRequirement env routed sourceMessageId createdVia).requiresCredits = true) :
    (creditRequirement env routed sourceMessageId createdVia).creditsRequired = 1 := by
  simp only [creditRequirement, Bool.and_eq_true, Bool.not_eq_true'] at h ⊢
  rw [if_neg (by simp [h.1])]
  rfl

theorem Snapshot.creditsRequired {recipients : Recipients}
    (h : (Snapshot.requirement env s draft recipients).requiresCredits = true) :
    (Snapshot.requirement env s draft recipients).creditsRequired = 1 :=
  creditsRequired_of_requiresCredits h

theorem safe_readDraftRecipients {missing invalid : Exn} {draftR2Key : String} (hw : Fresh s w) :
    request.Safe ()
      (fun recipients w' =>
        (s.payloadFields draftR2Key).bind parseDraftRecipients = some recipients ∧ Fresh s w')
      (fun _ => Fresh s) (readDraftRecipients missing invalid draftR2Key) w := by
  have hpayload : w.store.payloadFields draftR2Key = s.payloadFields draftR2Key := by
    rw [Db.payloadFields, Db.object, hw.1.objects, Db.payloadFields, Db.object]
  refine Protocol.Safe.mono trivial
    (safe_reads (prepares_reads touches_readDraftRecipients) reads_readDraftRecipients hw)
    (fun recipients w' _ h => ⟨?_, h.2⟩) fun _ _ _ h => h
  rw [← hpayload]
  exact recipients_of_run h.1

theorem safe_checkOutboundCreditRequirement {recipients : Recipients} (hw : Fresh s w) :
    request.Safe ()
      (fun check w' => check.requirement = Snapshot.requirement env s draft recipients ∧ Fresh s w')
      (fun _ => Fresh s)
      (checkOutboundCreditRequirement env draft.tenantId recipients draft.sourceMessageId
        draft.createdVia) w := by
  refine .bind trivial (safe_reads (prepares_reads touches_getOutboundCreditRequirement)
    reads_getOutboundCreditRequirement hw) (fun requirement w₁ _ h => ?_) fun _ _ _ h => h
  obtain ⟨hrun, hw₁⟩ := h
  rw [run_getOutboundCreditRequirement, Db.route_congr hw.1.mailboxes] at hrun
  obtain rfl := Except.ok.inj (Prod.mk.inj hrun).1
  split
  · exact .bind trivial (safe_prepares prepares_ensureTenantBillingAccount hw₁)
      (fun _ _ _ hw₂ => ⟨rfl, hw₂⟩) fun _ _ _ h => h
  · exact ⟨rfl, hw₁⟩

/-- **Reservation**: a credit is reserved, if the send needs one, or nothing has happened. -/
theorem safe_reserveDraftSendCredits (job : OutboundJobRow) (message : MessageRow)
    {recipients : Recipients} (hkeys : s.AccountsKeyed)
    (hrecipients : (s.payloadFields draft.draftR2Key).bind parseDraftRecipients = some recipients)
    (hw : Fresh s w) :
    request.Safe ()
      (fun _ w' => if (Snapshot.requirement env s draft recipients).requiresCredits then
        Held s job message draft w' else Fresh s w')
      (fun _ => Fresh s) (reserveDraftSendCredits env draft) w := by
  refine .bind trivial (safe_readDraftRecipients hw) (fun found w₁ _ h => ?_) fun _ _ _ h => h
  obtain ⟨hfound, hw₁⟩ := h
  obtain rfl := Option.some.inj (hrecipients.symm.trans hfound)
  refine .bind trivial (safe_checkOutboundCreditRequirement hw₁) (fun check w₂ _ h => ?_)
    fun _ _ _ h => h
  obtain ⟨hcheck, hw₂⟩ := h
  unfold reserveChecked
  rw [hcheck]
  by_cases hsufficient : check.hasSufficientCredits = true
  · rw [if_neg (by simp [hsufficient])]
    by_cases hneeds : (Snapshot.requirement env s draft recipients).requiresCredits = true
    · simp only [if_pos hneeds]
      rw [Snapshot.creditsRequired hneeds]
      refine .bind trivial (safe_reserveTenantAvailableCredits job message hkeys hw₂)
        (fun account w₃ _ hw₃ => ?_) fun _ _ _ h => h
      cases account with
      | none => exact hw₃
      | some account => exact hw₃
    · simp only [if_neg hneeds]
      exact hw₂
  · rw [if_pos (by simp [hsufficient])]
    exact hw₂

/-! ### The writes -/

/-- A statement has failed since a credit was reserved. -/
def Failed (s : Db) (job : OutboundJobRow) (message : MessageRow) (draft : DraftRow)
    (w : World Unit Db Label) : Prop :=
  Astray s job message draft 1 w.store ∧ troubled w.trace = true

/-- A write after the reservation is answered, or has failed. -/
theorem safe_execute {l : Nat → Label} {f : Db → Nat × Db} {Q : Nat → World Unit Db Label → Prop}
    (hw : Held s job message draft w) (hrun : Astray s job message draft 1 (f w.store).2)
    (hQ : ∀ w', Held s job message draft w' → Q (f w.store).1 w') :
    request.Safe () Q (fun _ => Failed s job message draft) (execute l f) w := by
  refine safe_perform_alone fun o _ => ⟨trivial, ?_⟩
  have hstore : Astray s job message draft 1
      (w.after () (fun s => l (f s).1) (fun s => (f s).2) o).store :=
    w.after_store_of () _ _ hw.1 hrun
  split
  · exact hQ _ ⟨hstore, reserved_cons_of_reserved hw.2 _⟩
  · next ho => exact ⟨hstore, troubled_cons_of_failed hw.2 ho⟩

theorem Astray.draws {held : Int} {n : Nat} (h : Astray s job message draft held s') :
    Astray s job message draft held { s' with draws := n } :=
  ⟨h.jobs, h.messages, h.drafts, h.mailboxes, h.agents, h.available, h.reserved⟩

theorem safe_nowIso (hw : Held s job message draft w) :
    request.Safe () (fun _ => Held s job message draft) (fun _ => Failed s job message draft)
      (nowIso env) w :=
  safe_draw_alone trivial ⟨hw.1.draws, hw.2⟩

/-- An `UPDATE` that finds its row passes the check that follows it. -/
theorem safe_updateApplied {l : Nat → Label} {f : Db → Nat × Db} {target : String}
    (hw : Held s job message draft w) (hrun : Astray s job message draft 1 (f w.store).2)
    (hpos : (f w.store).1 ≠ 0) :
    request.Safe () (fun _ => Held s job message draft) (fun _ => Failed s job message draft)
      (execute l f >>= fun changes => requireStateUpdateApplied changes target) w := by
  refine .bind trivial (safe_execute (Q := fun changes w' =>
    changes ≠ 0 ∧ Held s job message draft w') hw hrun fun w' hw' => ⟨hpos, hw'⟩)
    (fun changes w₁ _ h => ?_) fun _ _ _ h => h
  rw [requireStateUpdateApplied, if_neg h.1]
  exact h.2

section Writes

variable {held : Int}

/-- An `UPDATE` of the job. -/
theorem Astray.updateJob (h : Astray s job message draft held s') {target : OutboundJobRow → Bool}
    {set : OutboundJobRow → OutboundJobRow} {st : JobStatus}
    (htarget : ∀ r, target r = true → r.id = job.id) (hset : jobStatuses.Sets set st) :
    Astray s job message draft held (jobRows.updated s' target set).2 :=
  ⟨h.jobs.update hset htarget, h.messages, h.drafts, h.mailboxes, h.agents, h.available, h.reserved⟩

theorem Astray.updateMessage (h : Astray s job message draft held s') {target : MessageRow → Bool}
    {set : MessageRow → MessageRow} {st : MessageStatus}
    (htarget : ∀ r, target r = true → r.id = message.id) (hset : messageStatuses.Sets set st) :
    Astray s job message draft held (messageRows.updated s' target set).2 :=
  ⟨h.jobs, h.messages.update hset htarget, h.drafts, h.mailboxes, h.agents, h.available, h.reserved⟩

theorem Astray.updateDraft (h : Astray s job message draft held s') {target : DraftRow → Bool}
    {set : DraftRow → DraftRow} {st : DraftStatus}
    (htarget : ∀ r, target r = true → r.id = draft.id) (hset : draftStatuses.Sets set st) :
    Astray s job message draft held (draftRows.updated s' target set).2 :=
  ⟨h.jobs, h.messages, h.drafts.update hset htarget, h.mailboxes, h.agents, h.available, h.reserved⟩

end Writes

/-- The first component of a conjunction of tests on a row. -/
theorem id_of_target {ρ : Type} {id : String} {key : ρ → String} {visible : ρ → Bool} (r : ρ)
    (h : (key r == id && visible r) = true) : key r = id := by
  simp only [Bool.and_eq_true, beq_iff_eq] at h
  exact h.1

variable (hsnap : Snapshot s job message draft)

include hsnap

theorem safe_updateOutboundJobStatus {status : JobStatus} {lastError : Option String}
    {retryCount nextRetryAt : Option Nat} (hw : Held s job message draft w) :
    request.Safe () (fun _ => Held s job message draft) (fun _ => Failed s job message draft)
      (updateOutboundJobStatus env job.id status lastError retryCount nextRetryAt) w := by
  refine .bind trivial (safe_nowIso hw) (fun updatedAt w₁ _ hw₁ => ?_) fun _ _ _ h => h
  refine safe_updateApplied hw₁ (hw₁.1.updateJob (fun r hr => id_of_target r hr)
    ⟨fun _ => rfl, fun _ => rfl, fun _ => rfl⟩) ?_
  obtain ⟨r, hr, hid, hkeys⟩ := hw₁.1.jobs.exists_row hsnap.jobMem
  exact Nat.pos_iff_ne_zero.1 (List.countP_pos_iff.2 ⟨r, hr, hw₁.1.job_target hsnap r hid hkeys⟩)

theorem safe_updateMessageStatus {status : MessageStatus} (hw : Held s job message draft w) :
    request.Safe () (fun _ => Held s job message draft) (fun _ => Failed s job message draft)
      (updateMessageStatus job.messageId status) w := by
  let write (s : Db) : Nat × Db := messageRows.updated s
    (fun m => m.id == job.messageId && s.messageVisible m) fun m => { m with status := status }
  show request.Safe () _ _ (execute (fun _ => .write .messages) write >>= fun changes =>
    requireStateUpdateApplied changes ("Message " ++ job.messageId)) w
  refine safe_updateApplied hw (hw.1.updateMessage
    (fun r hr => (id_of_target r hr).trans hsnap.messageId.symm)
    ⟨fun _ => rfl, fun _ => rfl, fun _ => rfl⟩) ?_
  obtain ⟨r, hr, hid, hkeys⟩ := hw.1.messages.exists_row hsnap.messageMem
  exact Nat.pos_iff_ne_zero.1 (List.countP_pos_iff.2 ⟨r, hr, hw.1.message_target hsnap r hid hkeys⟩)

theorem safe_markDraftStatus {status : DraftStatus} (hw : Held s job message draft w) :
    request.Safe () (fun _ => Held s job message draft) (fun _ => Failed s job message draft)
      (markDraftStatus env draft.id status) w := by
  refine .bind trivial (safe_nowIso hw) (fun updatedAt w₁ _ hw₁ => ?_) fun _ _ _ h => h
  refine safe_updateApplied hw₁ (hw₁.1.updateDraft (fun r hr => id_of_target r hr)
    ⟨fun _ => rfl, fun _ => rfl, fun _ => rfl⟩) ?_
  obtain ⟨r, hr, hid, hkeys⟩ := hw₁.1.drafts.exists_row hsnap.draftMem
  exact Nat.pos_iff_ne_zero.1 (List.countP_pos_iff.2 ⟨r, hr, hw₁.1.draft_target hsnap r hid hkeys⟩)

/-- The writes are all made, or one has failed. -/
theorem safe_requeue (hw : Held s job message draft w) :
    request.Safe () (fun _ => Held s job message draft) (fun _ => Failed s job message draft)
      (requeue env job draft) w := by
  refine .bind trivial (safe_updateOutboundJobStatus hsnap hw) (fun _ w₁ _ hw₁ => ?_)
    fun _ _ _ h => h
  refine .bind trivial (safe_updateMessageStatus hsnap hw₁) (fun _ w₂ _ hw₂ => ?_)
    fun _ _ _ h => h
  refine .bind trivial (safe_markDraftStatus hsnap hw₂) (fun _ w₃ _ hw₃ => ?_) fun _ _ _ h => h
  have hqueued : Astray s job message draft 1
      { w₃.store with outboundQueue := w₃.store.outboundQueue ++ [job.id] } :=
    ⟨hw₃.1.jobs, hw₃.1.messages, hw₃.1.drafts, hw₃.1.mailboxes, hw₃.1.agents, hw₃.1.available,
      hw₃.1.reserved⟩
  exact .bind trivial (safe_execute (Q := fun _ => Held s job message draft) hw₃ hqueued
    fun _ hw' => hw') (fun _ _ _ h => h) fun _ _ _ h => h

/-! ### What takes them back -/

omit hsnap in
theorem run_catchAll_unit (p : Op Unit) (s : Db) : (catchAll p ()).run s = (.ok (), (p.run s).2) := by
  rw [catchAll, Prog.tryCatch_eq, Prog.run_tryCatch]
  rcases p.run s with ⟨_ | _, s'⟩ <;> rfl

omit hsnap in
theorem run_requireStateUpdateApplied_snd (changes : Nat) (target : String) (s : Db) :
    ((requireStateUpdateApplied changes target).run s).2 = s := by
  rw [requireStateUpdateApplied]
  split <;> rfl

/-- The job's snapshot is restored. -/
theorem Astray.restoreJob (env : Env) (hkeys : s.SendsKeyed) {held : Int}
    (h : Astray s job message draft held s') :
    let s'' := ((updateOutboundJobStatus env job.id job.status job.lastError (some job.retryCount)
      job.nextRetryAt).run s').2
    Astray s job message draft held s'' ∧
      jobStatuses.statuses s''.outboundJobs = jobStatuses.statuses s.outboundJobs := by
  intro s''
  let now := env.clock s'.draws
  let drawn : Db := { s' with draws := s'.draws + 1 }
  let target (o : OutboundJobRow) : Bool := o.id == job.id && drawn.jobVisible o
  let set (o : OutboundJobRow) : OutboundJobRow := { o with
    status := job.status, retryCount := job.retryCount, nextRetryAt := job.nextRetryAt
    lastError := job.lastError, updatedAt := now }
  have hset : jobStatuses.Sets set job.status := ⟨fun _ => rfl, fun _ => rfl, fun _ => rfl⟩
  have hs'' : s'' = (jobRows.updated drawn target set).2 :=
    run_requireStateUpdateApplied_snd _ _ (jobRows.updated drawn target set).2
  have hdrawn : Astray s job message draft held drawn := h.draws
  rw [hs'']
  refine ⟨hdrawn.updateJob (fun r hr => id_of_target r hr) hset, ?_⟩
  exact hdrawn.jobs.restore hkeys.jobs hsnap.jobMem rfl hset
    (fun r hid hrow => hdrawn.job_target hsnap r hid hrow) fun r hr => id_of_target r hr

/-- The message's is. -/
theorem Astray.restoreMessage (hkeys : s.SendsKeyed) {held : Int}
    (h : Astray s job message draft held s') :
    let s'' := ((updateMessageStatus job.messageId message.status).run s').2
    Astray s job message draft held s'' ∧
      messageStatuses.statuses s''.messages = messageStatuses.statuses s.messages ∧
      s''.outboundJobs = s'.outboundJobs := by
  intro s''
  let target (m : MessageRow) : Bool := m.id == job.messageId && s'.messageVisible m
  let set (m : MessageRow) : MessageRow := { m with status := message.status }
  have hset : messageStatuses.Sets set message.status := ⟨fun _ => rfl, fun _ => rfl, fun _ => rfl⟩
  have hs'' : s'' = (messageRows.updated s' target set).2 :=
    run_requireStateUpdateApplied_snd _ _ (messageRows.updated s' target set).2
  have htarget : ∀ r, target r = true → r.id = message.id := fun r hr =>
    (id_of_target r hr).trans hsnap.messageId.symm
  rw [hs'']
  refine ⟨h.updateMessage htarget hset, ?_, rfl⟩
  exact h.messages.restore hkeys.messages hsnap.messageMem rfl hset
    (fun r hid hrow => h.message_target hsnap r hid hrow) htarget

/-- The draft's is. -/
theorem Astray.restoreDraft (env : Env) (hkeys : s.SendsKeyed) {held : Int}
    (h : Astray s job message draft held s') :
    let s'' := ((markDraftStatus env draft.id draft.status).run s').2
    Astray s job message draft held s'' ∧
      draftStatuses.statuses s''.drafts = draftStatuses.statuses s.drafts ∧
      s''.outboundJobs = s'.outboundJobs ∧ s''.messages = s'.messages := by
  intro s''
  let now := env.clock s'.draws
  let drawn : Db := { s' with draws := s'.draws + 1 }
  let target (d : DraftRow) : Bool := d.id == draft.id && drawn.draftOwned d
  let set (d : DraftRow) : DraftRow := { d with status := draft.status, updatedAt := now }
  have hset : draftStatuses.Sets set draft.status := ⟨fun _ => rfl, fun _ => rfl, fun _ => rfl⟩
  have hs'' : s'' = (draftRows.updated drawn target set).2 :=
    run_requireStateUpdateApplied_snd _ _ (draftRows.updated drawn target set).2
  have hdrawn : Astray s job message draft held drawn := h.draws
  rw [hs'']
  refine ⟨hdrawn.updateDraft (fun r hr => id_of_target r hr) hset, ?_, rfl, rfl⟩
  exact hdrawn.drafts.restore hkeys.drafts hsnap.draftMem rfl hset
    (fun r hid hrow => hdrawn.draft_target hsnap r hid hrow) fun r hr => id_of_target r hr

omit hsnap in
/-- A move of credits leaves what its `UPDATE` does. -/
theorem run_releaseTenantReservedCredits (env : Env) (tenantId : String) (credits : Int) (s : Db) :
    ((releaseTenantReservedCredits env tenantId credits).run s).2 =
      (Db.updateAccount { s with draws := s.draws + 1 } tenantId
        (fun r => credits ≤ r.reservedCredits) (.moved credits (-credits) (env.clock s.draws))).2 := by
  let updated := Db.updateAccount { s with draws := s.draws + 1 } tenantId
    (fun r => credits ≤ r.reservedCredits) (.moved credits (-credits) (env.clock s.draws))
  let rest : Op (Option BillingAccountRow) :=
    if updated.1 = 0 then pure none
    else do
      let account ← requireRow (← getTenantBillingAccount tenantId)
        ("Failed to load tenant billing account " ++ tenantId)
      pure (some account)
  have hrest : (rest.run updated.2).2 = updated.2 := by
    unfold rest
    split
    · rfl
    · simp only [getTenantBillingAccount, Prog.run_bind, run_query, Prog.andThen_ok]
      cases Db.account updated.2 tenantId <;> rfl
  exact hrest

omit hsnap in
/-- The credit is released. -/
theorem Astray.release {recipients : Recipients} (hkeys : s.SendsKeyed)
    (hneeds : (Snapshot.requirement env s draft recipients).requiresCredits = true)
    (h : Astray s job message draft 1 s') :
    let s'' := ((releaseOutboundUsageReservation env draft.tenantId draft.sourceMessageId
      draft.createdVia recipients).run s').2
    Astray s job message draft 0 s'' ∧ s''.outboundJobs = s'.outboundJobs ∧
      s''.messages = s'.messages ∧ s''.drafts = s'.drafts := by
  intro s''
  let drawn : Db := { s' with draws := s'.draws + 1 }
  let released := (drawn.updateAccount draft.tenantId (fun r => 1 ≤ r.reservedCredits)
    (.moved 1 (-1) (env.clock s'.draws))).2
  have hrequirement : creditRequirement env (s'.route env recipients) draft.sourceMessageId
      draft.createdVia = Snapshot.requirement env s draft recipients := by
    rw [Db.route_congr h.mailboxes]
    rfl
  have hs'' : s'' = released := by
    unfold s''
    rw [releaseOutboundUsageReservation, Prog.run_bind, run_getOutboundCreditRequirement,
      Prog.andThen_ok, hrequirement, if_pos hneeds, Snapshot.creditsRequired hneeds,
      Prog.run_bind]
    have hrun := run_releaseTenantReservedCredits env draft.tenantId 1 s'
    rcases hr : (releaseTenantReservedCredits env draft.tenantId 1).run s' with ⟨e | a, s₁⟩
    · rw [hr] at hrun
      exact hrun
    · rw [hr] at hrun
      exact hrun
  have hreserved : 1 ≤ s'.reservedCredits draft.tenantId := by
    have hle := hkeys.reserved draft.tenantId
    rw [h.reserved, if_pos rfl]
    omega
  obtain ⟨r, hr, hguard⟩ : ∃ r, drawn.account draft.tenantId = some r ∧
      decide (1 ≤ r.reservedCredits) = true := by
    rw [Db.reservedCredits] at hreserved
    rcases hacc : s'.account draft.tenantId with _ | r
    · rw [hacc] at hreserved
      simp at hreserved
    · rw [hacc] at hreserved
      exact ⟨r, hacc, decide_eq_true hreserved⟩
  have hmoved : ∀ t, released.availableCredits t = _ ∧ released.reservedCredits t = _ :=
    Db.updateAccount_moved hr (by exact hguard) 1 (-1) (env.clock s'.draws)
  rw [hs'']
  refine ⟨⟨h.jobs, h.messages, h.drafts, h.mailboxes, h.agents, fun t => ?_, fun t => ?_⟩,
    rfl, rfl, rfl⟩
  · rw [(hmoved t).1]
    have hdrawn : drawn.availableCredits t = _ := h.available t
    rw [hdrawn]
    split <;> omega
  · rw [(hmoved t).2]
    have hdrawn : drawn.reservedCredits t = _ := h.reserved t
    rw [hdrawn]
    split <;> omega

omit hsnap in
theorem Astray.sameSends (h : Astray s job message draft 0 s')
    (hjobs : jobStatuses.statuses s'.outboundJobs = jobStatuses.statuses s.outboundJobs)
    (hmessages : messageStatuses.statuses s'.messages = messageStatuses.statuses s.messages)
    (hdrafts : draftStatuses.statuses s'.drafts = draftStatuses.statuses s.drafts) :
    s.SameSends s' := by
  refine ⟨hjobs, hmessages, hdrafts, fun t => ?_, fun t => ?_⟩
  · rw [h.available, ite_self, Int.sub_zero]
  · rw [h.reserved, ite_self, Int.add_zero]

/-- **Compensation**: what a failed retry has written is taken back. -/
theorem Astray.unqueue {recipients : Recipients} (hkeys : s.SendsKeyed)
    (hneeds : (Snapshot.requirement env s draft recipients).requiresCredits = true)
    (h : Astray s job message draft 1 s') :
    ∃ s'', (unqueue env job message draft recipients).run s' = (.ok (), s'') ∧ s.SameSends s'' := by
  obtain ⟨h₁, hjobs⟩ := h.restoreJob hsnap env hkeys
  obtain ⟨h₂, hmessages, hjobs₂⟩ := h₁.restoreMessage hsnap hkeys
  obtain ⟨h₃, hdrafts, hjobs₃, hmessages₃⟩ := h₂.restoreDraft hsnap env hkeys
  obtain ⟨h₄, hjobs₄, hmessages₄, hdrafts₄⟩ := h₃.release hkeys hneeds
  refine ⟨_, ?_, h₄.sameSends ?_ ?_ ?_⟩
  · simp only [MailRuntime.unqueue, Prog.run_bind, run_catchAll_unit, Prog.andThen_ok]
  · rw [hjobs₄, hjobs₃, hjobs₂, hjobs]
  · rw [hmessages₄, hmessages₃, hmessages]
  · rw [hdrafts₄, hdrafts]

/-- The writes are made, or taken back. -/
theorem safe_requeueOrRestore {recipients : Recipients} (hkeys : s.SendsKeyed)
    (hneeds : (Snapshot.requirement env s draft recipients).requiresCredits = true)
    (hw : Held s job message draft w) :
    request.Safe () (fun _ _ => True) (fun _ w' => s.SameSends w'.store)
      (requeueOrRestore env job message draft recipients) w := by
  refine .tryCatch trivial (Protocol.Safe.mono trivial (safe_requeue hsnap hw)
    (fun _ _ _ _ => trivial) fun _ _ _ h => h) fun error w₁ _ hfailed => ?_
  refine safe_alone_of_run (D := fun w => troubled w.trace = true) (fun _ _ => trivial)
    (fun _ _ h => h) (fun _ _ _ h => troubled_cons_of_troubled h _) (fun _ _ _ h ho => ho.2 h)
    hfailed.2 fun w' _ hstore => ?_
  obtain ⟨s'', hrun, hsame⟩ := hfailed.1.unqueue hsnap hkeys hneeds
  rw [Prog.run_bind, hrun, Prog.andThen_ok] at hstore ⊢
  show s.SameSends w'.store
  rw [hstore]
  exact hsame

omit hsnap

/-! ### The whole request -/

/-- The statement is a reservation. -/
def Label.reserves : Label → Bool
  | reserveCredits _ _ _ => true
  | _ => false

/-- No statement of the program is a reservation. -/
def Unreserving {α : Type} (p : Op α) : Prop :=
  p.Each (fun _ => True) fun name _ => ∀ s, (name s).reserves = false

theorem Label.reserves_of_table {l : Label} (h : l.table ≠ some .accounts) : l.reserves = false := by
  cases l <;> first | rfl | exact absurd rfl h

theorem reserving_of_reserves {ι : Type} {e : Event ι Label} (h : e.label.reserves = false) :
    reserving e = false := by
  obtain ⟨i, l, o⟩ := e
  cases l <;> first | rfl | cases h

theorem unreserving_of_touches {ts : List Table} {p : Op α} (hp : Touches ts p)
    (haccounts : Table.accounts ∉ ts) : Unreserving p :=
  Prog.Each.mono hp (fun _ _ => trivial) fun _ _ h s =>
    Label.reserves_of_table fun ht => haccounts ((h s).2 _ ht)

theorem unreserving_reads {p : Op α} (hp : Touches [] p) : Unreserving p :=
  unreserving_of_touches hp (by simp)

theorem unreserving_releaseTenantReservedCredits {tenantId : String} {credits : Int} :
    Unreserving (releaseTenantReservedCredits env tenantId credits) := by
  refine Prog.Each.bind (unreserving_reads touches_nowIso) fun _ =>
    Prog.Each.bind (Prog.each_perform.2 fun _ => rfl) fun changes => ?_
  split
  · trivial
  · exact Prog.Each.bind (unreserving_reads touches_getTenantBillingAccount) fun _ =>
      Prog.Each.bind (unreserving_reads touches_requireRow) fun _ => trivial

theorem unreserving_releaseOutboundUsageReservation {tenantId : String}
    {sourceMessageId createdVia : Option String} {recipients : Recipients} :
    Unreserving (releaseOutboundUsageReservation env tenantId sourceMessageId createdVia
      recipients) := by
  refine Prog.Each.bind (unreserving_reads touches_getOutboundCreditRequirement)
    fun requirement => ?_
  split
  · exact Prog.Each.bind unreserving_releaseTenantReservedCredits fun _ => trivial
  · trivial

theorem Unreserving.catchAll {p : Op α} {value : α} (hp : Unreserving p) :
    Unreserving (catchAll p value) := Prog.Each.tryCatch hp fun _ => trivial

theorem unreserving_requeueOrRestore {recipients : Recipients} :
    Unreserving (requeueOrRestore env job message draft recipients) := by
  have hjob : ∀ {status : JobStatus} {lastError : Option String} {retryCount next : Option Nat},
      Unreserving (updateOutboundJobStatus env job.id status lastError retryCount next) :=
    unreserving_of_touches touches_updateOutboundJobStatus (by simp)
  have hmessage : ∀ {status : MessageStatus},
      Unreserving (updateMessageStatus job.messageId status) :=
    unreserving_of_touches touches_updateMessageStatus (by simp)
  have hdraft : ∀ {status : DraftStatus}, Unreserving (markDraftStatus env draft.id status) :=
    unreserving_of_touches touches_markDraftStatus (by simp)
  refine Prog.Each.tryCatch (Prog.Each.bind hjob fun _ => Prog.Each.bind hmessage fun _ =>
    Prog.Each.bind hdraft fun _ => unreserving_of_touches touches_sendToOutboundQueue (by simp))
    fun error => ?_
  exact Prog.Each.bind (Prog.Each.bind hjob.catchAll fun _ => Prog.Each.bind hmessage.catchAll
    fun _ => Prog.Each.bind hdraft.catchAll fun _ =>
      unreserving_releaseOutboundUsageReservation.catchAll) fun _ => trivial

/-- What reserves nothing goes on so. -/
theorem safe_unreserving {p : Op α} (hp : Unreserving p) (hw : reserved w.trace = false) :
    request.Safe () (fun _ w' => reserved w'.trace = false) (fun _ w' => reserved w'.trace = false)
      p w := by
  refine safe_alone_of_each (A := fun w => reserved w.trace = false) ?_ ?_ hp trivial hw
  · intro run _ w _ hw
    exact ⟨trivial, hw⟩
  · intro name run hname w o _ hw _
    refine ⟨trivial, ?_⟩
    rw [World.after_trace, reserved_cons, hw, reserving_of_reserves (hname w.store)]
    rfl

/-- If credits have been reserved, everything is as it was. -/
def Restored (s : Db) (w : World Unit Db Label) : Prop :=
  reserved w.trace = true → s.SameSends w.store

theorem Restored.of_unreserved (h : reserved w.trace = false) : Restored s w := by
  intro hreserved
  rw [h] at hreserved
  cases hreserved

theorem safe_retryFailedJob (hkeys : s.SendsKeyed) (hsnap : Snapshot s job message draft)
    (hw : Fresh s w) :
    request.Safe () (fun response w' => response = .queued job.id ∨ Restored s w')
      (fun _ => Restored s) (retryFailedJob env job message draft) w := by
  have hfresh : ∀ (e : Exn) (w' : World Unit Db Label), request.inv w' → Fresh s w' →
      Restored s w' := fun _ _ _ h => .of_unreserved h.2
  refine .bind trivial (safe_prepares prepares_ensureDraftSendAllowed hw) (fun _ w₁ _ hw₁ => ?_)
    hfresh
  refine .bind trivial (safe_readDraftRecipients hw₁) (fun recipients w₂ _ h => ?_) hfresh
  obtain ⟨hrecipients, hw₂⟩ := h
  rw [← hsnap.draftR2Key] at hrecipients
  refine .bind trivial (safe_reserveDraftSendCredits job message hkeys.accounts hrecipients hw₂)
    (fun _ w₃ _ hw₃ => ?_) hfresh
  by_cases hneeds : (Snapshot.requirement env s draft recipients).requiresCredits = true
  · rw [if_pos hneeds] at hw₃
    exact .bind trivial (safe_requeueOrRestore hsnap hkeys hneeds hw₃) (fun _ _ _ _ => .inl rfl)
      fun _ _ _ h _ => h
  · rw [if_neg hneeds] at hw₃
    exact .bind trivial (safe_unreserving unreserving_requeueOrRestore hw₃.2)
      (fun _ _ _ _ => .inl rfl) fun _ _ _ h => .of_unreserved h

/-- The database is as the retry found it. -/
def Untouched (s : Db) (w : World Unit Db Label) : Prop :=
  w.store = s ∧ reserved w.trace = false

/-- A query answers what the database says. -/
theorem safe_look {l : Label} {f : Db → α} (hl : l.reserves = false) (hw : Untouched s w) :
    request.Safe () (fun a w' => a = f s ∧ Untouched s w') (fun _ => Restored s) (query l f) w := by
  obtain ⟨rfl, hnone⟩ := hw
  refine safe_perform_alone fun o _ => ⟨trivial, ?_⟩
  have htrace : reserved (w.after () (fun _ => l) (fun s => s) o).trace = false := by
    rw [World.after_trace, reserved_cons, hnone, reserving_of_reserves hl]
    rfl
  split
  · exact ⟨rfl, w.after_id_store () _ o, htrace⟩
  · exact .of_unreserved htrace

theorem Untouched.fresh (hw : Untouched s w) : Fresh s w := by
  obtain ⟨rfl, hnone⟩ := hw
  exact ⟨.refl _, hnone⟩

theorem only_mem {ρ : Type} {rows : List ρ} {row : ρ} (h : only rows = some row) : row ∈ rows := by
  match rows, h with
  | [r], h =>
    obtain rfl := Option.some.inj h
    exact List.mem_singleton_self r

/-- What the retry read. -/
theorem snapshot_of_reads {outboundJobId : String} (hjob : s.outboundJob outboundJobId = some job)
    (hdraft : only (s.lifecycleDrafts job.draftR2Key) = some draft)
    (hmessage : s.message job.messageId = some message) : Snapshot s job message draft := by
  have hjobTest := List.find?_some hjob
  have hmessageTest := List.find?_some hmessage
  obtain ⟨hdraftMem, hdraftTest⟩ := List.mem_filter.1 (only_mem hdraft)
  simp only [Bool.and_eq_true, beq_iff_eq] at hjobTest hmessageTest hdraftTest
  exact ⟨List.mem_of_find?_eq_some hjob, hjobTest.2, List.mem_of_find?_eq_some hmessage,
    hmessageTest.1, hmessageTest.2, hdraftMem, hdraftTest.2, hdraftTest.1⟩

theorem safe_retryJob (hkeys : s.SendsKeyed) {outboundJobId : String} (hw : Untouched s w) :
    request.Safe () (fun response w' => response = .queued outboundJobId ∨ Restored s w')
      (fun _ => Restored s) (retryJob env outboundJobId) w := by
  refine .bind trivial (safe_look rfl hw) (fun row w₁ _ h => ?_) fun _ _ _ h => h
  obtain ⟨hjob, hw₁⟩ := h
  cases row with
  | none => exact .inr (.of_unreserved hw₁.2)
  | some job =>
    refine .bind trivial (safe_look rfl hw₁) (fun row w₂ _ h => ?_) fun _ _ _ h => h
    obtain ⟨hdraft, hw₂⟩ := h
    cases row with
    | none => exact .inr (.of_unreserved hw₂.2)
    | some draft =>
      refine .bind trivial (safe_look rfl hw₂) (fun row w₃ _ h => ?_) fun _ _ _ h => h
      obtain ⟨hmessage, hw₃⟩ := h
      cases row with
      | none => exact .inr (.of_unreserved hw₃.2)
      | some message =>
        refine .bind trivial (safe_look rfl hw₃) (fun events w₄ _ h => ?_) fun _ _ _ h => h
        obtain ⟨-, hw₄⟩ := h
        split
        · exact .inr (.of_unreserved hw₄.2)
        · have hid : job.id = outboundJobId := by
            have htest := List.find?_some hjob.symm
            simp only [Bool.and_eq_true, beq_iff_eq] at htest
            exact htest.1
          rw [← hid]
          exact safe_retryFailedJob hkeys (snapshot_of_reads hjob.symm hdraft.symm hmessage.symm)
            hw₄.fresh

/-- A request that has reserved credits and does not answer that the job is queued leaves
everything as it was. -/
theorem safe_retryOutboundJob (hkeys : s.SendsKeyed) {outboundJobId : String}
    (hw : Untouched s w) :
    request.Safe () (fun response w' => response = .queued outboundJobId ∨ Restored s w')
      (fun (_ : Exn) _ => True) (retryOutboundJob env outboundJobId) w :=
  .tryCatch trivial (safe_retryJob hkeys hw) fun _ _ _ h => .inr h

end MailRuntime
