import MailRuntime.Enqueueing.Compensations
import MailRuntime.Outbound.Authorization

/-!
# The writes of a send that is hit once at most

The statements of the `try` block of `enqueueDraftSend`, where nothing has gone wrong before them.

## What is proved

For each part of the block, how far the send has come if it returns and if it throws: the thread
(`once_createSendThread`), the draft's thread and its attachments (`once_attachSendThread`), the
credits (`once_reserveSendCredits`), and the message, the job and the queue
(`once_writeOutboundJob`).
-/

namespace MailRuntime

open Js Interaction

variable {env : Env} {s s' : Db} {draft : DraftRow} {ids : SendIds} {x : SendProgress}
  {created : Option ThreadRow} {held : Int} {plan : SendPlan}

/-! ### Statements of the send -/

variable {α : Type} {A : Bool → Db → Prop} {Q : α → Bool → Db → Prop} {E : Exn → Bool → Db → Prop}

theorem once_query {l : Label} {f : Db → α} (hdone : ∀ c s, A c s → Q (f s) c s)
    (hhit : ∀ s, A true s → E Exn.d1 false s) : Once A (query l f) Q E :=
  Once.perform hdone fun s hs => ⟨hhit s hs, hhit s hs⟩

theorem once_insert {ρ : Type} {R : Rows ρ} {free : Db → Bool} {row : ρ}
    {Q : Unit → Bool → Db → Prop} (hfree : ∀ c s, A c s → free s = true)
    (hdone : ∀ c s, A c s → Q () c (R.inserted s row))
    (hhit : ∀ s, A true s → E Exn.d1 false s ∧ E Exn.d1 false (R.inserted s row)) :
    Once A (R.insert free row) Q E := by
  refine Once.bind (Q := fun changes c s => changes = 1 ∧ Q () c s) (Once.perform ?_ ?_)
    fun changes => ?_
  · intro c s hs
    simp only [hfree c s hs, if_true]
    exact ⟨trivial, hdone c s hs⟩
  · intro s hs
    simp only [hfree true s hs, if_true]
    exact hhit s hs
  · split
    · next hzero => exact Once.throw fun c s hs => absurd (hs.1.symm.trans hzero) (by decide)
    · exact Once.ret fun c s hs => hs.2

/-- A row that is there is found. -/
theorem once_requireRow {row : Option α} {message : String} {B : Bool → Db → Prop}
    (h : ∀ c s, A c s → row.isSome = true ∧ B c s) :
    Once A (requireRow row message) (fun _ => B) E := by
  cases row with
  | none => exact Once.throw fun c s hw => absurd (h c s hw).1 Bool.false_ne_true
  | some a => exact Once.ret fun c s hw => (h c s hw).2

/-! ### The thread -/

/-- The thread that was created has an identifier that was unused, and is the draft's
mailbox's. -/
def Created (s : Db) (draft : DraftRow) (created : Option ThreadRow) : Prop :=
  ∀ t ∈ created, s.Unused t.id ∧ t.tenantId = draft.tenantId ∧ t.mailboxId = draft.mailboxId

/-- The draft is claimed, and a thread may have been created. -/
def Claimed (s : Db) (draft : DraftRow) (created : Option ThreadRow) (c : Bool) (s' : Db) : Prop :=
  c = true ∧ s.At draft { claimed := true, thread := created } s'

/-- An exception of the creation of a thread, which may have been created all the same. -/
def NoThread (s : Db) (draft : DraftRow) (created : Option ThreadRow) (c : Bool) (s' : Db) : Prop :=
  s.At draft { claimed := true } s' ∨
    (c = false ∧ s.At draft { claimed := true, thread := created } s')

theorem once_insertThreadOrLoad {row : ThreadRow} (hunused : s.Unused row.id)
    (hkey : ∀ t ∈ s.threads, t.threadKey ≠ row.threadKey) :
    Once (Claimed s draft none) (insertThreadOrLoad env row)
      (fun found c s' => found = none ∧ Claimed s draft (some row) c s')
      fun _ => NoThread s draft (some row) := by
  refine Once.tryCatch (E := fun e c s' => e.isUniqueConstraintError = false ∧
    NoThread s draft (some row) c s') (Once.bind (Q := fun _ => Claimed s draft (some row))
      (Once.bind (Q := fun _ => Claimed s draft none)
        (Once.draw fun c s' hw => ⟨hw.1, hw.2.tick⟩) fun _ => once_insert ?_ ?_ ?_)
      fun _ => Once.ret fun c s' hw => ⟨rfl, hw⟩) fun error => ?_
  · rintro c s' ⟨-, hat⟩
    rw [Db.threadFree, hat.threads, Option.toList_none, List.append_nil, Bool.not_eq_true',
      List.any_eq_false]
    intro t ht
    simp [(hunused.thread t ht).1, hkey t ht]
  · exact fun c s' hw => ⟨hw.1, hw.2.insertThread rfl row⟩
  · rintro s' ⟨-, hat⟩
    exact ⟨⟨rfl, .inl hat⟩, ⟨rfl, .inr ⟨rfl, hat.insertThread rfl row⟩⟩⟩
  · split
    · next hunique =>
      rintro w ⟨hnot, -⟩
      rw [hunique] at hnot
      cases hnot
    · exact Once.throw fun c s' hw => hw.2

theorem once_finalizeThread {row : ThreadRow} (hdraft : s.draft draft.id = some draft)
    (hcreated : Created s draft (some row)) :
    Once (Claimed s draft (some row)) (finalizeThread row)
      (fun found c s' => found = row ∧ Claimed s draft (some row) c s')
      fun _ => NoThread s draft (some row) := by
  obtain ⟨hunused, htenant, hmailbox⟩ := hcreated row rfl
  have hvisible := List.find?_some hdraft
  simp only [Bool.and_eq_true, Db.draftVisible, Db.draftOwned] at hvisible
  have hhit : ∀ s', Claimed s draft (some row) true s' → NoThread s draft (some row) false s' :=
    fun s' hw => .inr ⟨rfl, hw.2⟩
  refine Once.bind (Q := fun mailbox c s' => mailbox = true ∧ Claimed s draft (some row) c s')
    (once_query (fun c s' hw => ⟨?_, hw⟩) hhit) fun mailbox => ?_
  · rw [hw.2.ownsMailbox, htenant, hmailbox]
    exact hvisible.2.1.2
  · split
    · next hnot =>
      rintro w ⟨hmailbox, -⟩
      simp [hmailbox] at hnot
    · refine Once.bind (Q := fun found c s' => found = some row ∧ Claimed s draft (some row) c s')
        (once_query (fun c s' hw => ⟨?_, hw.2⟩) fun s' hw => hhit s' hw.2) fun found => ?_
      · have hnone : s.threads.find? (fun t => t.id == row.id && t.tenantId == row.tenantId &&
            t.mailboxId == row.mailboxId) = none := by
          rw [List.find?_eq_none]
          intro t ht
          simp [(hunused.thread t ht).1]
        have hthreads : threadRows.get s' = s.threads ++ [row] := hw.2.2.threads
        rw [hthreads, List.find?_append, hnone]
        simp
      · cases found with
        | none =>
          rintro w ⟨hnone, -⟩
          cases hnone
        | some found =>
          exact Once.ret fun c s' hw => ⟨Option.some.inj hw.1, hw.2⟩

theorem Db.Sendable.created_sendThread (hs : s.Sendable env) :
    Created s draft (s.sendThread env draft plan) := by
  intro t ht
  rw [Option.mem_def, Db.sendThread] at ht
  split at ht
  · obtain rfl := Option.some.inj ht
    exact ⟨hs.unused _ _ (by omega), rfl, rfl⟩
  · cases ht

theorem once_createSendThread (hs : s.Sendable env) (hdraft : s.draft draft.id = some draft) :
    Once (fun c s' => s'.draws = s.draws + 3 ∧ Claimed s draft none c s')
      (createSendThread env draft plan.subject (s.sendIds env).outboundMessageId)
      (fun created c s' => created = s.sendThread env draft plan ∧ Claimed s draft created c s')
      fun _ => NoThread s draft (s.sendThread env draft plan) := by
  have hcreated : Created s draft (s.sendThread env draft plan) := hs.created_sendThread
  have hmessage : s.Unused (s.sendIds env).outboundMessageId := hs.unused _ _ (by omega)
  rw [createSendThread]
  rw [Db.sendThread] at hcreated ⊢
  split
  · next hwanted =>
    rw [if_pos hwanted] at hcreated
    refine Once.bind (Q := fun t c s' => some t = some _ ∧ Claimed s draft (some t) c s')
      (Once.bind (Q := fun existing c s' => existing = none ∧ s'.draws = s.draws + 3 ∧
          Claimed s draft none c s')
        (once_query (fun c s' hw => ⟨?_, hw⟩) fun s' hw => .inl hw.2.2) fun existing => ?_)
      fun t => Once.ret fun c s' hw => hw
    · have hthreads : threadRows.get s' = s.threads ++ [] := hw.2.2.threads
      rw [hthreads, List.append_nil, List.find?_eq_none]
      intro t ht
      simp [(hmessage.thread t ht).2]
    · cases existing with
      | some t =>
        rintro w ⟨hnone, -⟩
        cases hnone
      | none =>
        refine Once.bind (Q := fun id c s' => id = env.createId "thr" (s.draws + 3) ∧
            Claimed s draft none c s')
          (Once.draw fun c s' hw => ⟨by rw [hw.2.1], hw.2.2.1, hw.2.2.2.tick⟩) fun id =>
          Once.of_fact fun hid => ?_
        subst hid
        refine Once.bind (once_insertThreadOrLoad (hcreated _ rfl).1 fun t ht =>
          (hmessage.thread t ht).2) fun found => Once.of_fact fun hnone => ?_
        subst hnone
        exact (once_finalizeThread hdraft hcreated).mono (fun _ _ hw => hw)
          (fun found c s' hw => by rw [hw.1]; exact ⟨rfl, hw.2⟩) fun _ _ _ hw => hw
  · exact Once.ret fun c s' hw => ⟨rfl, hw.2⟩

/-! ### The draft's thread and the credits -/

/-- How far the send has come once the draft has its thread. -/
def stage (created : Option ThreadRow) (held : Int) (message : Option MessageRow)
    (job : Option OutboundJobRow) (announced : Option String) : SendProgress where
  claimed := true
  filed := created.map ThreadRow.id
  thread := created
  reserved := held
  message := message
  job := job
  announced := announced

/-- The draft has its thread, and nothing has gone wrong. -/
def Filed (s : Db) (draft : DraftRow) (created : Option ThreadRow) (c : Bool) (s' : Db) : Prop :=
  c = true ∧ s.At draft (stage created 0 none none none) s'

/-- An exception between the creation of the thread and the message. -/
def Unreserved (s : Db) (draft : DraftRow) (created : Option ThreadRow) (held : Int) (c : Bool)
    (s' : Db) : Prop :=
  s.At draft (stage created 0 none none none) s' ∨
    (c = false ∧ (s.At draft { claimed := true, thread := created } s' ∨
      s.At draft (stage created held none none none) s'))

theorem once_assignSendThread (hs : s.Sendable env) (hdraft : s.draft draft.id = some draft)
    (hcreated : Created s draft created) :
    Once (Claimed s draft created) (assignSendThread env draft.id (created.map ThreadRow.id))
      (fun _ => Filed s draft created) fun _ => Unreserved s draft created held := by
  cases created with
  | none => exact Once.ret fun c s' hw => hw
  | some t =>
    obtain ⟨-, htenant, hmailbox⟩ := hcreated t rfl
    refine Once.bind (Q := fun _ => Claimed s draft (some t))
      (Once.draw fun c s' hw => ⟨hw.1, hw.2.tick⟩) fun updatedAt => ?_
    have hassign : ∀ s', s.At draft { claimed := true, thread := some t } s' → _ := fun s' hat =>
      hat.assign hs hdraft rfl htenant hmailbox updatedAt
    refine Once.bind (Q := fun changes c s' => changes ≠ 0 ∧ Filed s draft (some t) c s')
      (Once.perform (fun c s' hw => ⟨(hassign s' hw.2).1, hw.1, (hassign s' hw.2).2⟩)
        fun s' hw => ⟨.inr ⟨rfl, .inl hw.2⟩, .inl (hassign s' hw.2).2⟩) fun changes => ?_
    rw [requireStateUpdateApplied]
    split
    · next hzero => exact Once.throw fun c s' hw => absurd hzero hw.1
    · exact Once.ret fun c s' hw => hw.2

theorem reads_checkDraftAttachments {tenantId mailboxId : String} (keys : List String) :
    (checkDraftAttachments tenantId mailboxId keys).Reads := by
  induction keys with
  | nil => trivial
  | cons key rest ih =>
    refine .bind (reads_ensure _ _) fun _ => .bind (reads_query _ _) fun owner => ?_
    cases owner with
    | none => trivial
    | some owner => exact .bind (reads_ensure _ _) fun _ => .bind (reads_ensure _ _) fun _ => ih

theorem once_attachSendThread (hs : s.Sendable env)
    (hdraft : s.draft draft.id = some draft) (hcreated : Created s draft created) :
    Once (Claimed s draft created)
      (attachSendThread env draft plan (created.map ThreadRow.id))
      (fun _ => Filed s draft created) fun _ => Unreserved s draft created held :=
  Once.bind (once_assignSendThread hs hdraft hcreated) fun _ =>
    (Once.reads (reads_checkDraftAttachments _) (fun _ _ hw => .inl hw.2)
      fun _ hw => .inl hw.2).mono (fun _ _ hw => hw) (fun _ _ _ hw => hw.1) fun _ _ _ hw => hw

/-- The tenant has so many credits. -/
def Affords (s : Db) (draft : DraftRow) (held : Int) : Prop :=
  ∃ a ∈ s.accounts, a.tenantId = draft.tenantId ∧ held ≤ a.availableCredits

/-- So many credits of the tenant are reserved, and nothing has gone wrong. -/
def Funded (s : Db) (draft : DraftRow) (created : Option ThreadRow) (held : Int) (c : Bool)
    (s' : Db) : Prop :=
  (0 < held → Affords s draft held) ∧ c = true ∧ s.At draft (stage created held none none none) s'

/-- The tenant's account is found again. -/
theorem Db.At.account_isSome {a : BillingAccountRow} (h : s.At draft x s') (ha : a ∈ s.accounts)
    (htenant : a.tenantId = draft.tenantId) : (s'.account draft.tenantId).isSome := by
  obtain ⟨t, ht⟩ := h.accounts
  rw [Db.account, ht, List.find?_isSome]
  refine ⟨_, List.mem_map_of_mem ha, ?_⟩
  simp [SendProgress.account, htenant]

/-- What the answer of a reservation says. -/
def AfterReservation (s : Db) (draft : DraftRow) (created : Option ThreadRow) (n : Int) :
    Option BillingAccountRow → Bool → Db → Prop
  | some _, c, s' => Affords s draft n ∧ c = true ∧ s.At draft (stage created n none none none) s'
  | none, c, s' => Filed s draft created c s'

theorem once_reserveTenantAvailableCredits {n : Int} (hs : s.Sendable env) :
    Once (Filed s draft created) (reserveTenantAvailableCredits env draft.tenantId n)
      (AfterReservation s draft created n) fun _ => Unreserved s draft created n := by
  refine Once.bind (Q := fun _ => Filed s draft created)
    (Once.draw fun c s' hw => ⟨hw.1, hw.2.tick⟩) fun updatedAt => ?_
  have hreserve : ∀ s', s.At draft (stage created 0 none none none) s' →
      let stmt := s'.updateAccount draft.tenantId (fun r => n ≤ r.availableCredits) fun r =>
        { r with
          availableCredits := r.availableCredits + -n
          reservedCredits := r.reservedCredits + n
          updatedAt := updatedAt }
      (stmt.1 ≠ 0 ∧ Affords s draft n ∧ s.At draft (stage created n none none none) stmt.2) ∨
        (stmt.1 = 0 ∧ s.At draft (stage created 0 none none none) stmt.2) := by
    intro s' hat stmt
    by_cases hfound : Affords s draft n
    · obtain ⟨a, ha, htenant, hn⟩ := id hfound
      obtain ⟨hne, hmoved⟩ := hat.moveCredits (fun r => n ≤ r.availableCredits) n hs ha htenant
        (fun t => by simpa [SendProgress.account, htenant, stage] using hn) rfl updatedAt
      have hreserved : (stage created 0 none none none).reserved + n = n := zero_add n
      rw [hreserved] at hmoved
      exact .inl ⟨hne, hfound, hmoved⟩
    · have hzero : stmt.1 = 0 := by
        obtain ⟨t, ht⟩ := hat.accounts
        refine List.countP_eq_zero.2 fun r hr => ?_
        rw [ht, List.mem_map] at hr
        obtain ⟨a, ha, rfl⟩ := hr
        intro hguard
        simp only [Bool.and_eq_true, beq_iff_eq, decide_eq_true_eq] at hguard
        refine hfound ⟨a, ha, ?_⟩
        by_cases htenant : a.tenantId = draft.tenantId
        · simpa [SendProgress.account, htenant, stage] using hguard
        · simp [SendProgress.account, htenant] at hguard
      exact .inr ⟨hzero, by rw [Db.updateAccount_zero hzero]; exact hat⟩
  refine Once.bind (Q := fun changes c s' =>
      (changes ≠ 0 ∧ Affords s draft n ∧ c = true ∧
        s.At draft (stage created n none none none) s') ∨
      (changes = 0 ∧ Filed s draft created c s')) (Once.perform ?_ ?_) fun changes => ?_
  · rintro c s' ⟨hc, hat⟩
    rcases hreserve s' hat with ⟨hne, haccount, hat'⟩ | ⟨hzero, hat'⟩
    · exact .inl ⟨hne, haccount, hc, hat'⟩
    · exact .inr ⟨hzero, hc, hat'⟩
  · rintro s' ⟨-, hat⟩
    refine ⟨.inl hat, ?_⟩
    rcases hreserve s' hat with ⟨-, -, hat'⟩ | ⟨-, hat'⟩
    · exact .inr ⟨rfl, .inr hat'⟩
    · exact .inl hat'
  · split
    · next hzero =>
      refine Once.ret fun c s' hw => ?_
      rcases hw with ⟨hne, -⟩ | ⟨-, hw⟩
      · exact absurd hzero hne
      · exact hw
    · next hne =>
      refine Once.bind (Q := fun account c s' => account.isSome = true ∧
        Affords s draft n ∧ c = true ∧ s.At draft (stage created n none none none) s')
        (once_query ?_ ?_) fun account => ?_
      · rintro c s' (⟨-, ⟨a, ha, htenant, hn⟩, hc, hat⟩ | ⟨hzero, -⟩)
        · exact ⟨hat.account_isSome ha htenant, ⟨a, ha, htenant, hn⟩, hc, hat⟩
        · exact absurd hzero hne
      · rintro s' (⟨-, -, -, hat⟩ | ⟨hzero, -⟩)
        · exact .inr ⟨rfl, .inr hat⟩
        · exact absurd hzero hne
      · cases account with
        | none =>
          rintro w ⟨hnone, -⟩
          cases hnone
        | some account => exact Once.ret fun c s' hw => hw.2

theorem once_reserveSendCredits (hs : s.Sendable env) :
    Once (Filed s draft created) (reserveSendCredits env draft.tenantId plan.requirement)
      (fun held c s' => held = plan.credits ∧ Funded s draft created held c s')
      fun _ => Unreserved s draft created plan.credits := by
  rw [reserveSendCredits, SendPlan.credits]
  split
  · refine Once.bind (once_reserveTenantAvailableCredits hs) fun account => ?_
    cases account with
    | none => exact Once.throw fun c s' hw => .inl hw.2
    | some account => exact Once.ret fun c s' hw => ⟨rfl, fun _ => hw.1, hw.2⟩
  · exact Once.ret fun c s' hw => ⟨rfl, fun h => absurd h (lt_irrefl _), hw⟩

/-! ### The message and the job -/

/-- An exception from the message on. -/
def Unwritten (env : Env) (s : Db) (draft : DraftRow) (plan : SendPlan) (ids : SendIds)
    (created : Option ThreadRow) (held : Int) (c : Bool) (s' : Db) : Prop :=
  let message := ids.message env draft plan created
  let job := outboundJobRow env draft ids
  s.At draft (stage created held (some message) none none) s' ∨
    (c = false ∧ (s.At draft (stage created held none none none) s' ∨
      s.At draft (stage created held (some message) (some job) none) s' ∨
      s.At draft (stage created held (some message) (some job) (some ids.outboundJobId)) s'))

/-- The message is there, and nothing has gone wrong. -/
def Messaged (env : Env) (s : Db) (draft : DraftRow) (plan : SendPlan) (ids : SendIds)
    (created : Option ThreadRow) (held : Int) (job : Option OutboundJobRow) (c : Bool) (s' : Db) :
    Prop :=
  c = true ∧ s.At draft (stage created held (some (ids.message env draft plan created)) job none) s'

theorem once_insertOutboundJob (hunused : s.Unused ids.outboundJobId) :
    Once (Messaged env s draft plan ids created held none) (insertOutboundJob env draft ids)
      (fun changes c s' => (changes ≠ 0 ∧
          Messaged env s draft plan ids created held (some (outboundJobRow env draft ids)) c s') ∨
        (changes = 0 ∧ s'.jobsOfDraft draft.draftR2Key ≠ [] ∧
          Messaged env s draft plan ids created held none c s'))
      fun _ => Unwritten env s draft plan ids created held := by
  have hfree : ∀ c s', Messaged env s draft plan ids created held none c s' →
      (!s'.outboundJobs.any fun o => o.id == ids.outboundJobId) = true := by
    rintro c s' ⟨-, hat⟩
    rw [hat.jobs, Bool.not_eq_true', List.any_eq_false]
    intro o ho
    have hold : o ∈ s.outboundJobs := by simpa [stage] using ho
    simp [(hunused.job o hold).1]
  refine Once.bind (Q := fun outcome c s' => (outcome = some 1 ∧
      Messaged env s draft plan ids created held (some (outboundJobRow env draft ids)) c s') ∨
    (outcome = some 0 ∧ s'.jobsOfDraft draft.draftR2Key ≠ [] ∧
      Messaged env s draft plan ids created held none c s')) (Once.perform ?_ ?_) fun outcome => ?_
  · intro c s' hw
    by_cases hwanted : (s'.jobsOfDraft draft.draftR2Key).isEmpty = true
    · simp only [hfree c s' hw, hwanted, if_true]
      exact .inl ⟨trivial, hw.1, hw.2.insertJob rfl _⟩
    · simp only [hwanted, Bool.false_eq_true, if_false]
      refine .inr ⟨trivial, fun hempty => hwanted ?_, hw⟩
      rw [hempty]
      rfl
  · intro s' hw
    by_cases hwanted : (s'.jobsOfDraft draft.draftR2Key).isEmpty = true
    · simp only [hfree true s' hw, hwanted, if_true]
      exact ⟨.inl hw.2, .inr ⟨rfl, .inr (.inl (hw.2.insertJob rfl _))⟩⟩
    · simp only [hwanted, Bool.false_eq_true, if_false]
      exact ⟨.inl hw.2, .inl hw.2⟩
  · cases outcome with
    | none => exact Once.throw fun c s' hw => by simp at hw
    | some changes =>
      refine Once.ret fun c s' hw => ?_
      rcases hw with ⟨hone, hw⟩ | ⟨hzero, hw⟩
      · obtain rfl := Option.some.inj hone
        exact .inl ⟨by decide, hw⟩
      · exact .inr ⟨Option.some.inj hzero, hw⟩

theorem once_refuseVisibleJobs {jobs : List OutboundJobRow} {A : Bool → Db → Prop} {B : Prop}
    (hjobs : ∀ c s, A c s → jobs ≠ []) : Once A (refuseVisibleJobs draft.id jobs)
      (fun _ _ _ => B) fun _ => A := by
  unfold refuseVisibleJobs
  split
  · exact Once.ret fun c s hw => absurd rfl (hjobs c s hw)
  · exact Once.throw fun c s hw => hw
  · exact Once.throw fun c s hw => hw

theorem once_createOutboundJob (hunused : s.Unused ids.outboundJobId) :
    Once (Messaged env s draft plan ids created held none) (createOutboundJob env draft ids)
      (fun _ => Messaged env s draft plan ids created held (some (outboundJobRow env draft ids)))
      fun _ => Unwritten env s draft plan ids created held := by
  refine Once.bind (once_insertOutboundJob hunused) fun changes => ?_
  split
  · next hzero =>
    refine Once.bind (Q := fun jobs c s' => jobs ≠ [] ∧
        Messaged env s draft plan ids created held none c s') (once_query ?_ ?_) fun jobs => ?_
    · rintro c s' (⟨hne, -⟩ | ⟨-, hw⟩)
      · exact absurd hzero hne
      · exact hw
    · rintro s' (⟨hne, -⟩ | ⟨-, -, hw⟩)
      · exact absurd hzero hne
      · exact .inl hw.2
    · refine Once.bind (Q := fun _ _ _ => False)
        ((once_refuseVisibleJobs fun c s' hw => hw.1).mono (fun _ _ hw => hw)
          (fun _ _ _ hw => hw) fun _ _ _ hw => .inl hw.2.2) fun _ w hw => hw.elim
  · next hne =>
    refine Once.ret fun c s' hw => ?_
    rcases hw with ⟨-, hw⟩ | ⟨hzero, -⟩
    · exact hw
    · exact absurd hzero hne

/-- Everything is written. -/
def AllWritten (env : Env) (s : Db) (draft : DraftRow) (plan : SendPlan) (ids : SendIds)
    (created : Option ThreadRow) (held : Int) (s' : Db) : Prop :=
  s.At draft (stage created held (some (ids.message env draft plan created))
    (some (outboundJobRow env draft ids)) (some ids.outboundJobId)) s'

theorem once_writeOutboundJob (hdraft : s.draft draft.id = some draft)
    (hids : ids.Unused s draft created) :
    Once (fun c s' => c = true ∧ s.At draft (stage created held none none none) s')
      (writeOutboundJob env draft plan ids (created.map ThreadRow.id <|> draft.threadId))
      (fun _ _ s' => AllWritten env s draft plan ids created held s')
      fun _ => Unwritten env s draft plan ids created held := by
  have hvisible := List.find?_some hdraft
  simp only [Bool.and_eq_true, Db.draftVisible, Db.draftOwned] at hvisible
  have hfound : ∀ s', s.At draft (stage created held (some (ids.message env draft plan created))
      (some (outboundJobRow env draft ids)) none) s' →
      (s'.message ids.outboundMessageId).isSome = true ∧
        (s'.outboundJob ids.outboundJobId).isSome = true := by
    intro s' hat
    have hmessage : ids.message env draft plan created ∈ s'.messages := by
      rw [hat.messages]
      exact List.mem_append_right _ (List.mem_singleton_self _)
    have hmessageVisible : s'.messageVisible (ids.message env draft plan created) = true := by
      rw [Db.messageVisible, hat.ownsMailbox]
      exact hvisible.2.1.2
    have hjob : outboundJobRow env draft ids ∈ s'.outboundJobs := by
      rw [hat.jobs]
      exact List.mem_append_right _ (List.mem_singleton_self _)
    have hhas : s'.hasMessage ids.outboundMessageId = true :=
      List.any_eq_true.2 ⟨_, hmessage, by rw [hmessageVisible]; simp [outboundMessageRow]⟩
    constructor
    · rw [Db.message, List.find?_isSome]
      exact ⟨_, hmessage, by rw [hmessageVisible]; simp [outboundMessageRow]⟩
    · rw [Db.outboundJob, List.find?_isSome]
      refine ⟨_, hjob, ?_⟩
      rw [Db.jobVisible]
      simpa [outboundJobRow] using hhas
  have hhit : ∀ s', Messaged env s draft plan ids created held
      (some (outboundJobRow env draft ids)) true s' →
      Unwritten env s draft plan ids created held false s' :=
    fun s' hw => .inr ⟨rfl, .inr (.inl hw.2)⟩
  refine Once.bind (Q := fun _ => Messaged env s draft plan ids created held none)
    (once_insert ?_ ?_ ?_) fun _ => Once.bind (once_createOutboundJob hids.job) fun _ => ?_
  · rintro c s' ⟨-, hat⟩
    rw [Db.messageIdFree, hat.messages, Bool.not_eq_true', List.any_eq_false]
    intro m hm
    have hold : m ∈ s.messages := by simpa [stage] using hm
    simp [(hids.message.message m hold).1]
  · exact fun c s' hw => ⟨hw.1, hw.2.insertMessage rfl _⟩
  · exact fun s' hw => ⟨.inr ⟨rfl, .inl hw.2⟩, .inl (hw.2.insertMessage rfl _)⟩
  refine Once.bind (Q := fun message c s' => message.isSome = true ∧ Messaged env s draft plan ids
    created held (some (outboundJobRow env draft ids)) c s')
    (once_query (fun c s' hw => ⟨(hfound s' hw.2).1, hw⟩) hhit) fun message => ?_
  refine Once.bind (Q := fun _ => Messaged env s draft plan ids created held
    (some (outboundJobRow env draft ids))) (once_requireRow fun c s' hw => hw) fun _ => ?_
  refine Once.bind (Q := fun job c s' => job.isSome = true ∧ Messaged env s draft plan ids
    created held (some (outboundJobRow env draft ids)) c s')
    (once_query (fun c s' hw => ⟨(hfound s' hw.2).2, hw⟩) hhit) fun job => ?_
  refine Once.bind (Q := fun _ => Messaged env s draft plan ids created held
    (some (outboundJobRow env draft ids))) (once_requireRow fun c s' hw => hw) fun _ => ?_
  refine Once.bind (Q := fun _ _ s' => AllWritten env s draft plan ids created held s')
    (Once.perform ?_ ?_) fun _ => Once.ret fun _ _ hw => hw
  · exact fun c s' hw => hw.2.announce rfl _
  · exact fun s' hw => ⟨hhit s' hw, .inr ⟨rfl, .inr (.inr (hw.2.announce rfl _))⟩⟩

end MailRuntime
