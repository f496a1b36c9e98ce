import MailRuntime.Retrying.Rollback
import MailRuntime.Sending.Claims

/-!
# Retries of one job side by side

Any number of requests to retry one job. Each looks at the job's status in one statement,
reserves a credit in another and writes the status in a third, so that several may reserve for
the job before the first writes it. If, whenever one reserves, the job is still failed and no
other has reserved for it without having written its status, then only one credit is reserved,
as long as no request fails.
-/

namespace MailRuntime

open Js Interaction

/-! ### What the trace says -/

/-- The job is put back to `failed`. -/
def Label.rollsBack (jobId : String) : Label → Bool
  | writeJob job .failed _ _ => job = jobId
  | _ => false

section Trace

variable {ι : Type}

/-- A request has failed after it had begun to write. -/
def rolledBack (jobId : String) (trace : List (Event ι Label)) : Bool :=
  trace.any fun e => e.label.rollsBack jobId

/-- How many reservations there have been. -/
def reservations (trace : List (Event ι Label)) : Nat := trace.countP reserving

/-- What a statement says of a reservation for the job: that there is one, or, when the job's
status is written, that it is accounted for. -/
def reservationNews (jobId : String) (e : Event ι Label) : Option Bool :=
  if reserving e then some true
  else match e.label with
    | .writeJob job .queued _ n =>
      if job = jobId ∧ 0 < n ∧ e.outcome.effective = true then some false else none
    | _ => none

/-- Credits have been reserved and the job's status has not been written since. -/
def pendingReservation (jobId : String) (trace : List (Event ι Label)) : Bool :=
  latest (reservationNews jobId) trace

end Trace

/-- Credits are reserved only while the job is still failed and no other reservation for it is
pending. -/
def ReservesAlone {ι : Type} (jobId : String) (w : World ι Db Label) (l : Label) (o : Outcome) :
    Prop :=
  match l with
  | .reserveCredits _ _ n => o = .refused ∨ n = 0 ∨
      ((∃ row ∈ w.store.outboundJobs, row.id = jobId ∧ row.status = .failed) ∧
        pendingReservation jobId w.trace = false)
  | _ => True

instance {ι : Type} (jobId : String) (w : World ι Db Label) (l : Label) (o : Outcome) :
    Decidable (ReservesAlone jobId w l o) := by
  apply Label.casesOn (motive := fun l => Decidable (ReservesAlone jobId w l o)) l
  all_goals
    intros
    unfold ReservesAlone
    infer_instance

/-! ### What a statement of a retry can do -/

/-- The status of the job is written, on so many rows. -/
def JobWritten (jobId : String) (status : JobStatus) (n : Nat) (s s' : Db) : Prop :=
  ∃ target set, s'.outboundJobs = s.outboundJobs.map (StatusColumn.updateRow target set) ∧
    n = s.outboundJobs.countP target ∧ (∀ r, target r = true → r.id = jobId) ∧
    jobStatuses.Sets set status

/-- What a statement of a retry of the job does to the jobs and to the reserved credits. -/
def RetryStep (jobId : String) (s : Db) (l : Label) (s' : Db) : Prop :=
  match l with
  | .reserveCredits _ _ n => s'.outboundJobs = s.outboundJobs ∧
      ∀ t, s'.reservedCredits t ≤ s.reservedCredits t + if n = 0 then 0 else 1
  | .writeJob job status _ n => job = jobId ∧ JobWritten jobId status n s s' ∧
      ∀ t, s'.reservedCredits t = s.reservedCredits t
  | _ => s'.outboundJobs = s.outboundJobs ∧ ∀ t, s'.reservedCredits t ≤ s.reservedCredits t

/-- The statement is neither a reservation nor a write of a job's status. -/
def Label.aside : Label → Bool
  | reserveCredits _ _ _ | writeJob _ _ _ _ => false
  | _ => true

theorem retryStep_of_aside {jobId : String} {s s' : Db} {l : Label} (hl : l.aside = true)
    (hjobs : s'.outboundJobs = s.outboundJobs)
    (hfunds : ∀ t, s'.reservedCredits t ≤ s.reservedCredits t) : RetryStep jobId s l s' := by
  cases l <;> first | exact ⟨hjobs, hfunds⟩ | cases hl

theorem Label.aside_of_table {l : Label} (haccounts : l.table ≠ some .accounts)
    (hjobs : l.table ≠ some .outboundJobs) : l.aside = true := by
  cases l <;> first | rfl | exact absurd rfl haccounts | exact absurd rfl hjobs

theorem Label.aside_of_movesCredits {l : Label} (hcredits : l.movesCredits = false)
    (hjobs : l.table ≠ some .outboundJobs) : l.aside = true := by
  cases l <;> first | rfl | exact absurd rfl hjobs | cases hcredits

theorem Label.rollsBack_of_table {l : Label} {jobId : String}
    (hjobs : l.table ≠ some .outboundJobs) : l.rollsBack jobId = false := by
  cases l <;> first | rfl | exact absurd rfl hjobs

/-- Every statement of the program is one of a retry of the job. -/
def Retries {ε α : Type} (jobId : String) (p : Prog Db Label ε α) : Prop :=
  p.Each Draws fun name run => ∀ s, RetryStep jobId s (name s) (run s)

/-- And none puts the job back. -/
def Advances {ε α : Type} (jobId : String) (p : Prog Db Label ε α) : Prop :=
  p.Each Draws fun name run =>
    ∀ s, RetryStep jobId s (name s) (run s) ∧ (name s).rollsBack jobId = false

variable {α β : Type} {env : Env} {jobId : String} {job : OutboundJobRow} {message : MessageRow}
  {draft : DraftRow} {ts : List Table}

theorem Advances.retries {p : Op α} (h : Advances jobId p) : Retries jobId p :=
  Prog.Each.mono h (fun _ h => h) fun _ _ h s => (h s).1

theorem Advances.bind {p : Op α} {f : α → Op β} (hp : Advances jobId p)
    (hf : ∀ a, Advances jobId (f a)) : Advances jobId (p >>= f) := Prog.Each.bind hp hf

theorem advances_of_touches {p : Op α} (hp : Touches ts p) (haccounts : Table.accounts ∉ ts)
    (hjobs : Table.outboundJobs ∉ ts) : Advances jobId p := by
  refine Prog.Each.mono hp (fun _ h => h) fun name run h s => ?_
  obtain ⟨hsame, htable⟩ := h s
  have hnot : ∀ t, t ∉ ts → (name s).table ≠ some t := fun t ht h => ht (htable t h)
  refine ⟨retryStep_of_aside (Label.aside_of_table (hnot _ haccounts) (hnot _ hjobs))
    (hsame .outboundJobs hjobs).symm fun t => ?_, Label.rollsBack_of_table (hnot _ hjobs)⟩
  exact le_of_eq ((Db.SameFunds.of_accounts (hsame .accounts haccounts).symm).reserved t)

theorem advances_reads {p : Op α} (hp : Touches [] p) : Advances jobId p :=
  advances_of_touches hp (by simp) (by simp)

/-- So is what a retry checks. -/
theorem Prepares.advances {p : Op α} (hp : Prepares p) : Advances jobId p := by
  refine Prog.Each.mono hp (fun _ h => h) fun name run h s => ?_
  obtain ⟨hsame, htable⟩ := h.within s
  have hjobs : (name s).table ≠ some .outboundJobs := fun ht => by simpa using htable _ ht
  exact ⟨retryStep_of_aside (Label.aside_of_movesCredits (h.moves s) hjobs)
    (hsame .outboundJobs (by simp)).symm fun t => le_of_eq ((h.funds s).reserved t),
    Label.rollsBack_of_table hjobs⟩

/-- A move of credits, of which only so many become reserved. -/
theorem advances_moveCredits {l : Nat → Label} {tenantId : String}
    {guard : BillingAccountRow → Bool} {available reserved : Int}
    (hl : ∀ n, (l n).rollsBack jobId = false)
    (hstep : ∀ (s : Db) updatedAt,
      RetryStep jobId s
        (l (s.updateAccount tenantId guard (.moved available reserved updatedAt)).1)
        (s.updateAccount tenantId guard (.moved available reserved updatedAt)).2) :
    Advances jobId (moveCredits env l tenantId guard available reserved) := by
  refine .bind (advances_reads touches_nowIso) fun updatedAt =>
    .bind (Prog.each_perform.2 fun s => ⟨hstep s updatedAt, hl _⟩) fun changes => ?_
  split
  · trivial
  · exact .bind (advances_reads touches_getTenantBillingAccount) fun _ =>
      .bind (advances_reads touches_requireRow) fun _ => trivial

theorem reservedCredits_updateAccount_le (s : Db) (tenantId : String)
    (guard : BillingAccountRow → Bool) (available reserved : Int) (updatedAt : Nat) (t : String) :
    (s.updateAccount tenantId guard (.moved available reserved updatedAt)).2.reservedCredits t ≤
      s.reservedCredits t + max reserved 0 := by
  have haccount : (s.updateAccount tenantId guard (.moved available reserved updatedAt)).2.account t =
      (s.account t).map fun r =>
        if t = tenantId ∧ guard r = true then r.moved available reserved updatedAt else r :=
    Db.account_updateAccount (by intro _; rfl) t
  rw [Db.reservedCredits, haccount, Db.reservedCredits]
  cases s.account t with
  | none => simp
  | some r =>
    simp only [Option.map_some, Option.getD_some]
    split
    · show r.reservedCredits + reserved ≤ _
      omega
    · omega

theorem advances_releaseTenantReservedCredits {tenantId : String} :
    Advances jobId (releaseTenantReservedCredits env tenantId 1) := by
  refine advances_moveCredits (fun _ => rfl) fun s updatedAt => ⟨rfl, fun t => ?_⟩
  have hle := reservedCredits_updateAccount_le s tenantId (fun r => 1 ≤ r.reservedCredits) 1 (-1)
    updatedAt t
  omega

theorem advances_reserveTenantAvailableCredits {tenantId : String} :
    Advances jobId (reserveTenantAvailableCredits env tenantId 1) := by
  refine advances_moveCredits (fun _ => rfl) fun s updatedAt => ⟨rfl, fun t => ?_⟩
  split
  · next h => rw [Db.updateAccount_zero h, Int.add_zero]
  · have hle := reservedCredits_updateAccount_le s tenantId (fun r => 1 ≤ r.availableCredits) (-1) 1
      updatedAt t
    omega

theorem returns_checkOutboundCreditRequirement {tenantId : String} {recipients : Recipients}
    {sourceMessageId createdVia : Option String} :
    (checkOutboundCreditRequirement env tenantId recipients sourceMessageId createdVia).Returns
      fun check => check.requirement.requiresCredits = true →
        check.requirement.creditsRequired = 1 := by
  have hrequirement : (getOutboundCreditRequirement env recipients sourceMessageId
      createdVia).Returns fun requirement =>
        requirement.requiresCredits = true → requirement.creditsRequired = 1 :=
    .bind (Prog.returns_true _) fun _ _ h => creditsRequired_of_requiresCredits h
  refine hrequirement.bind fun requirement h => ?_
  split
  · exact .bind (Prog.returns_true _) fun _ _ => h
  · exact h

theorem advances_reserveDraftSendCredits : Advances jobId (reserveDraftSendCredits env draft) := by
  refine .bind (advances_reads touches_readDraftRecipients) fun recipients => ?_
  refine Prog.Each.bind_returns prepares_checkOutboundCreditRequirement.advances
    returns_checkOutboundCreditRequirement fun check hcheck => ?_
  unfold reserveChecked
  split
  · trivial
  · split
    · next hneeds =>
      rw [hcheck hneeds]
      refine .bind advances_reserveTenantAvailableCredits fun account => ?_
      cases account <;> trivial
    · trivial

/-- The status of a job is written. -/
theorem retries_updateOutboundJobStatus {status : JobStatus} {lastError : Option String}
    {retryCount nextRetryAt : Option Nat} :
    Retries jobId (updateOutboundJobStatus env jobId status lastError retryCount nextRetryAt) := by
  refine .bind (advances_reads touches_nowIso).retries fun updatedAt =>
    .bind (Prog.each_perform.2 fun s => ⟨rfl, ?_, fun _ => rfl⟩) fun _ =>
    (advances_reads touches_requireStateUpdateApplied).retries
  exact ⟨_, _, rfl, rfl, fun r hr => id_of_target r hr,
    ⟨fun _ => rfl, fun _ => rfl, fun _ => rfl⟩⟩

theorem advances_updateOutboundJobStatus {lastError : Option String}
    {retryCount nextRetryAt : Option Nat} :
    Advances jobId (updateOutboundJobStatus env jobId .queued lastError retryCount nextRetryAt) := by
  refine .bind (advances_reads touches_nowIso) fun updatedAt =>
    .bind (Prog.each_perform.2 fun s => ⟨⟨rfl, ?_, fun _ => rfl⟩, rfl⟩) fun _ =>
    advances_reads touches_requireStateUpdateApplied
  exact ⟨_, _, rfl, rfl, fun r hr => id_of_target r hr,
    ⟨fun _ => rfl, fun _ => rfl, fun _ => rfl⟩⟩

theorem advances_requeue (hid : job.id = jobId) : Advances jobId (requeue env job draft) := by
  subst hid
  exact .bind advances_updateOutboundJobStatus fun _ =>
    .bind (advances_of_touches touches_updateMessageStatus (by simp) (by simp)) fun _ =>
    .bind (advances_of_touches touches_markDraftStatus (by simp) (by simp)) fun _ =>
    advances_of_touches touches_sendToOutboundQueue (by simp) (by simp)

theorem retries_releaseOutboundUsageReservation {tenantId : String}
    {sourceMessageId createdVia : Option String} {recipients : Recipients} :
    Retries jobId (releaseOutboundUsageReservation env tenantId sourceMessageId createdVia
      recipients) := by
  have hrequirement : (getOutboundCreditRequirement env recipients sourceMessageId
      createdVia).Returns fun requirement =>
        requirement.requiresCredits = true → requirement.creditsRequired = 1 :=
    .bind (Prog.returns_true _) fun _ _ h => creditsRequired_of_requiresCredits h
  refine Prog.Each.bind_returns (advances_reads touches_getOutboundCreditRequirement).retries
    hrequirement fun requirement h => ?_
  split
  · next hneeds =>
    rw [h hneeds]
    exact .bind advances_releaseTenantReservedCredits.retries fun _ => trivial
  · trivial

theorem Retries.catchAll {p : Op α} {value : α} (hp : Retries jobId p) :
    Retries jobId (catchAll p value) := Prog.Each.tryCatch hp fun _ => trivial

theorem retries_unqueue {recipients : Recipients} (hid : job.id = jobId) :
    Retries jobId (unqueue env job message draft recipients) := by
  subst hid
  exact .bind retries_updateOutboundJobStatus.catchAll fun _ =>
    .bind (advances_of_touches touches_updateMessageStatus (by simp) (by simp)).retries.catchAll
    fun _ =>
    .bind (advances_of_touches touches_markDraftStatus (by simp) (by simp)).retries.catchAll
    fun _ => retries_releaseOutboundUsageReservation.catchAll

theorem retries_retryFailedJob (hid : job.id = jobId) :
    Retries jobId (retryFailedJob env job message draft) :=
  .bind prepares_ensureDraftSendAllowed.advances.retries fun _ =>
    .bind (advances_reads touches_readDraftRecipients).retries fun _ =>
    .bind advances_reserveDraftSendCredits.retries fun _ =>
    .bind (.tryCatch (advances_requeue hid).retries fun _ =>
      .bind (retries_unqueue hid) fun _ => trivial) fun _ => trivial

theorem retryStep_refl {l : Label} (hl : l.aside = true) (s : Db) : RetryStep jobId s l s :=
  retryStep_of_aside hl rfl fun _ => le_rfl

/-- Every statement of a retry of the job is one of a retry of the job. -/
theorem retries_retryOutboundJob : Retries jobId (retryOutboundJob env jobId) := by
  refine Prog.Each.tryCatch ?_ fun _ => trivial
  refine Prog.Each.bind_perform (fun s => retryStep_refl rfl s) fun s => ?_
  dsimp only
  cases hjob : s.outboundJob jobId with
  | none => trivial
  | some job =>
    have hid : job.id = jobId := by
      have htest := List.find?_some hjob
      simp only [Bool.and_eq_true, beq_iff_eq] at htest
      exact htest.1
    refine Prog.Each.bind_perform (fun s => retryStep_refl rfl s) fun s => ?_
    dsimp only
    cases only (s.lifecycleDrafts job.draftR2Key) with
    | none => trivial
    | some draft =>
      refine Prog.Each.bind_perform (fun s => retryStep_refl rfl s) fun s => ?_
      dsimp only
      cases s.message job.messageId with
      | none => trivial
      | some message =>
        refine Prog.Each.bind_perform (fun s => retryStep_refl rfl s) fun s => ?_
        dsimp only
        cases retryRefusal job message (s.deliveryEventsOf message.id) with
        | some error => trivial
        | none => exact retries_retryFailedJob hid

/-! ### The invariant -/

section Invariant

variable {ι : Type} {w : World ι Db Label} {s : Db}

/-- No job has another identifier twice, and as long as no request fails, no more is reserved
than what has been reserved for the job; that is one credit at most, and once it is reserved no
other can be before the job is no longer failed. -/
structure RetryInv (jobId : String) (s : Db) (w : World ι Db Label) : Prop where
  ids : (w.store.outboundJobs.map OutboundJobRow.id).Nodup
  funds : rolledBack jobId w.trace = false →
    ∀ t, w.store.reservedCredits t ≤ s.reservedCredits t + reservations w.trace
  once : rolledBack jobId w.trace = false → reservations w.trace ≤ 1
  pending : rolledBack jobId w.trace = false → 0 < reservations w.trace →
    pendingReservation jobId w.trace = true ∨
      ∀ row ∈ w.store.outboundJobs, row.id = jobId → row.status ≠ .failed

theorem rolledBack_cons (e : Event ι Label) (trace : List (Event ι Label)) :
    rolledBack jobId (e :: trace) = (e.label.rollsBack jobId || rolledBack jobId trace) := rfl

theorem rolledBack_of_cons {e : Event ι Label} {trace : List (Event ι Label)}
    (h : rolledBack jobId (e :: trace) = false) :
    e.label.rollsBack jobId = false ∧ rolledBack jobId trace = false := by
  rw [rolledBack_cons, Bool.or_eq_false_iff] at h
  exact h

theorem reservations_cons (e : Event ι Label) (trace : List (Event ι Label)) :
    reservations (e :: trace) = reservations trace + if reserving e then 1 else 0 :=
  List.countP_cons ..

/-- A statement that reserves nothing, and accounts for no reservation. -/
theorem RetryInv.of_idle (h : RetryInv jobId s w) {w' : World ι Db Label} {e : Event ι Label}
    (htrace : w'.trace = e :: w.trace) (hreserving : reserving e = false)
    (hnews : reservationNews jobId e = none) (hjobs : w'.store.outboundJobs = w.store.outboundJobs)
    (hfunds : ∀ t, w'.store.reservedCredits t ≤ w.store.reservedCredits t) : RetryInv jobId s w' := by
  have hcount : reservations w'.trace = reservations w.trace := by
    rw [htrace, reservations_cons, hreserving]
    rfl
  have hback : rolledBack jobId w'.trace = false → rolledBack jobId w.trace = false := by
    rw [htrace]
    exact fun hback => (rolledBack_of_cons hback).2
  have hpending : pendingReservation jobId w'.trace = pendingReservation jobId w.trace := by
    rw [htrace]
    exact latest_cons_none hnews _
  refine ⟨?_, fun hw' t => ?_, fun hw' => ?_, fun hw' => ?_⟩
  · rw [hjobs]
    exact h.ids
  · rw [hcount]
    exact (hfunds t).trans (h.funds (hback hw') t)
  · rw [hcount]
    exact h.once (hback hw')
  · rw [hcount, hpending, hjobs]
    exact h.pending (hback hw')

theorem reserving_of_refused {e : Event ι Label} (h : e.outcome = .refused) :
    reserving e = false := by
  rw [reserving, h]
  split
  · exact Bool.and_false _
  · rfl

theorem news_of_refused {e : Event ι Label} (h : e.outcome = .refused) :
    reservationNews jobId e = none := by
  rw [reservationNews, reserving_of_refused h, h]
  split
  · next hfalse => cases hfalse
  · split
    · exact if_neg fun hand => by cases hand.2.2
    · rfl

theorem quiet_of_aside {e : Event ι Label} (h : e.label.aside = true) :
    reserving e = false ∧ reservationNews jobId e = none := by
  obtain ⟨i, l, o⟩ := e
  cases l <;> first | exact ⟨rfl, rfl⟩ | cases h

/-- A credit is reserved. -/
theorem RetryInv.reserve (h : RetryInv jobId s w) {w' : World ι Db Label} {e : Event ι Label}
    (htrace : w'.trace = e :: w.trace) (hreserving : reserving e = true)
    (hfailed : ∃ row ∈ w.store.outboundJobs, row.id = jobId ∧ row.status = .failed)
    (hnone : pendingReservation jobId w.trace = false)
    (hjobs : w'.store.outboundJobs = w.store.outboundJobs)
    (hfunds : ∀ t, w'.store.reservedCredits t ≤ w.store.reservedCredits t + 1) :
    RetryInv jobId s w' := by
  have hcount : reservations w'.trace = reservations w.trace + 1 := by
    rw [htrace, reservations_cons, hreserving]
    rfl
  have hback : rolledBack jobId w'.trace = false → rolledBack jobId w.trace = false := by
    rw [htrace]
    exact fun hback => (rolledBack_of_cons hback).2
  have hzero : rolledBack jobId w.trace = false → reservations w.trace = 0 := by
    intro hw
    by_contra hne
    rcases h.pending hw (Nat.pos_of_ne_zero hne) with hpending | hall
    · rw [hnone] at hpending
      cases hpending
    · obtain ⟨row, hrow, hid, hstatus⟩ := hfailed
      exact hall row hrow hid hstatus
  refine ⟨?_, fun hw' t => ?_, fun hw' => ?_, fun hw' _ => .inl ?_⟩
  · rw [hjobs]
    exact h.ids
  · have hle := h.funds (hback hw') t
    have hle' := hfunds t
    rw [hcount]
    push_cast
    omega
  · rw [hcount, hzero (hback hw')]
  · rw [htrace]
    refine latest_cons_some ?_ _
    rw [reservationNews, if_pos hreserving]

/-- The job's status is written. -/
theorem RetryInv.write (h : RetryInv jobId s w) {w' : World ι Db Label} {i : ι} {o : Outcome}
    {status : JobStatus} {retryCount : Option Nat} {n : Nat}
    (htrace : w'.trace = ⟨i, .writeJob jobId status retryCount n, o⟩ :: w.trace)
    (hjobs : JobWritten jobId status n w.store w'.store)
    (hfunds : ∀ t, w'.store.reservedCredits t = w.store.reservedCredits t) : RetryInv jobId s w' := by
  obtain ⟨target, set, hrows, hn, htarget, hset⟩ := hjobs
  have hcount : reservations w'.trace = reservations w.trace := by
    rw [htrace, reservations_cons]
    rfl
  refine ⟨?_, fun hw' t => ?_, fun hw' => ?_, fun hw' hpos => ?_⟩
  · rw [hrows]
    have hids : (w.store.outboundJobs.map (StatusColumn.updateRow target set)).map OutboundJobRow.id =
        w.store.outboundJobs.map OutboundJobRow.id := map_ids hset.id
    exact hids ▸ h.ids
  · rw [htrace] at hw'
    rw [hcount, hfunds]
    exact h.funds (rolledBack_of_cons hw').2 t
  · rw [htrace] at hw'
    rw [hcount]
    exact h.once (rolledBack_of_cons hw').2
  · rw [hcount] at hpos
    rw [htrace] at hw' ⊢
    obtain ⟨hlabel, hback⟩ := rolledBack_of_cons hw'
    rcases Nat.eq_zero_or_pos n with hzero | hwritten
    · -- no row was written
      have hnews : reservationNews jobId
          (⟨i, .writeJob jobId status retryCount n, o⟩ : Event ι Label) = none := by
        subst hzero
        cases status <;> simp [reservationNews, reserving]
      have hsame : w'.store.outboundJobs = w.store.outboundJobs := by
        rw [hrows]
        exact map_of_countP_zero (hn.symm.trans hzero)
      rw [pendingReservation, latest_cons_none hnews, hsame]
      exact h.pending hback hpos
    · refine .inr fun row hrow hid => ?_
      rw [hrows] at hrow
      obtain ⟨row', -, rfl⟩ := eq_set_of_mem_map h.ids htarget hset.id (hn ▸ hwritten) hid hrow
      have hstatus : (set row').status = status := hset.status row'
      rw [hstatus]
      rintro rfl
      simp [Label.rollsBack] at hlabel

/-- **Step**: a statement of a retry keeps the invariant, if credits are reserved only while no
other reservation stands. -/
theorem RetryInv.after (h : RetryInv jobId s w) {name : Db → Label} {run : Db → Db}
    (hstmt : ∀ s, RetryStep jobId s (name s) (run s)) (i : ι) {o : Outcome}
    (hallow : ReservesAlone jobId w (name w.store) o) :
    RetryInv jobId s (w.after i name run o) := by
  have hstep := hstmt w.store
  have htrace := w.after_trace i name run o
  by_cases ho : o = .refused
  · subst ho
    exact h.of_idle htrace (reserving_of_refused rfl) (news_of_refused rfl) rfl fun _ => le_rfl
  have heffective : o.effective = true := by
    cases o <;> first | rfl | exact absurd rfl ho
  have hstore : (w.after i name run o).store = run w.store := by
    rw [World.after_store, if_pos heffective]
  by_cases haside : (name w.store).aside = true
  · obtain ⟨hreserving, hnews⟩ : reserving (⟨i, name w.store, o⟩ : Event ι Label) = false ∧
        reservationNews jobId (⟨i, name w.store, o⟩ : Event ι Label) = none :=
      quiet_of_aside haside
    have hwhole : (run w.store).outboundJobs = w.store.outboundJobs ∧
        ∀ t, (run w.store).reservedCredits t ≤ w.store.reservedCredits t := by
      cases hl : name w.store <;> simp only [hl] at hstep haside <;>
        first | exact hstep | cases haside
    exact h.of_idle htrace hreserving hnews (hstore ▸ hwhole.1) (hstore ▸ hwhole.2)
  cases hl : name w.store with
  | reserveCredits tenantId credits n =>
    rw [hl] at hstep hallow htrace
    obtain ⟨hjobs, hfunds⟩ := hstep
    rcases Nat.eq_zero_or_pos n with hzero | hpos
    · subst hzero
      refine h.of_idle htrace rfl rfl (hstore ▸ hjobs) fun t => ?_
      have hle := hfunds t
      rw [hstore]
      rw [if_pos rfl] at hle
      omega
    · have hreserving : reserving (⟨i, .reserveCredits tenantId credits n, o⟩ : Event ι Label) =
          true := by
        simp [reserving, hpos, heffective]
      rcases hallow with hrefused | hzero | ⟨hfailed, hnone⟩
      · exact absurd hrefused ho
      · omega
      · refine h.reserve htrace hreserving hfailed hnone (hstore ▸ hjobs) fun t => ?_
        have hle := hfunds t
        rw [hstore]
        rw [if_neg (by omega)] at hle
        exact hle
  | writeJob job status retryCount n =>
    rw [hl] at hstep htrace
    obtain ⟨rfl, hjobs, hfunds⟩ := hstep
    exact h.write htrace (hstore ▸ hjobs) (hstore ▸ hfunds)
  | _ =>
    rw [hl] at haside
    exact absurd rfl haside

theorem RetryInv.silent (h : RetryInv jobId s w) {run : Db → Db} (hrun : Draws run) :
    RetryInv jobId s (w.silent run) := by
  have hjobs : (run w.store).outboundJobs = w.store.outboundJobs := (hrun w.store .outboundJobs).symm
  have hfunds : ∀ t, (run w.store).reservedCredits t = w.store.reservedCredits t :=
    (Db.SameFunds.of_accounts (hrun w.store .accounts).symm).reserved
  refine ⟨hjobs ▸ h.ids, fun hw t => ?_, h.once, fun hw hpos => ?_⟩
  · show (run w.store).reservedCredits t ≤ _
    rw [hfunds]
    exact h.funds hw t
  · show _ ∨ ∀ row ∈ (run w.store).outboundJobs, _
    rw [hjobs]
    exact h.pending hw hpos

end Invariant

end MailRuntime
