import MailRuntime.Enqueueing.Progress
import MailRuntime.Interaction.OneFault

/-!
# The compensations of a send

`enqueueDraftSend` has no transaction: an exception after the claim is followed by five statements
that take back one by one what was written, each of whose own exceptions is ignored.

What the call reads and the identifiers it draws are those of the database it is begun in: its plan
(`Planned`), its identifiers (`Db.sendIds`), and with them the thread, the credits and the message
that it may write.

## What is proved

Each of the five is a compensation (`undoes_deleteJob`, `undoes_deleteMessage`, `undoes_restore`,
`undoes_thread`, `undoes_reservation`), and the `catch` block is bearable where they are
(`once_undoDraftSend`).
-/

namespace MailRuntime

open Js Interaction

/-! ### What the call has to write -/

section Writing

variable (env : Env) (s : Db) (draft : DraftRow) (plan : SendPlan)

/-- What the call reads before its first write. -/
def Planned : Prop := (planDraftSend env draft).run s = (.ok plan, s)

/-- The identifiers that the call draws, and its time. -/
def Db.sendIds : SendIds where
  outboundJobId := env.createId "obj" s.draws
  outboundMessageId := env.createId "msg" (s.draws + 2)
  timestamp := env.clock (s.draws + 1)

/-- The thread that the call creates, for a draft without one whose subject is not blank. -/
def Db.sendThread : Option ThreadRow :=
  let normalizedSubject := normalizeSubject env (some plan.subject)
  if draft.sendThread.isNone && truthy normalizedSubject then
    some ⟨env.createId "thr" (s.draws + 3), draft.tenantId, draft.mailboxId,
      "outbound:" ++ (s.sendIds env).outboundMessageId, some normalizedSubject⟩
  else none

/-- The credits that the send requires. -/
def SendPlan.credits : Int :=
  if plan.requirement.requiresCredits then plan.requirement.creditsRequired else 0

/-- The message of the send. -/
abbrev SendIds.message (ids : SendIds) (created : Option ThreadRow) : MessageRow :=
  outboundMessageRow env draft plan ids (created.map ThreadRow.id <|> draft.threadId)

/-- The message that the call writes. -/
abbrev Db.sendMessage : MessageRow :=
  (s.sendIds env).message env draft plan (s.sendThread env draft plan)

end Writing

/-! ### What may be left -/

/-- What a call that throws may leave behind: nothing, or one of the things it has written. -/
inductive Db.Residue (env : Env) (s : Db) (draft : DraftRow) : SendProgress → Prop where
  | nothing : s.Residue env draft {}
  /-- The draft is queued still. -/
  | claim : s.Residue env draft { claimed := true }
  /-- The draft is queued still, and has the thread that was created for it. -/
  | filing {plan : SendPlan} (hplan : Planned env s draft plan) :
    s.Residue env draft {
      claimed := true
      filed := (s.sendThread env draft plan).map ThreadRow.id
      thread := s.sendThread env draft plan }
  /-- The thread that was created, which nothing refers to. -/
  | thread {plan : SendPlan} (hplan : Planned env s draft plan) :
    s.Residue env draft { thread := s.sendThread env draft plan }
  /-- The credits are reserved still. -/
  | credits {plan : SendPlan} (hplan : Planned env s draft plan) :
    s.Residue env draft { reserved := plan.credits }
  /-- The message is there, with its thread if one was created, but no job of it. -/
  | message {plan : SendPlan} (hplan : Planned env s draft plan) :
    s.Residue env draft {
      message := some (s.sendMessage env draft plan)
      thread := s.sendThread env draft plan }
  /-- The queue holds the identifier of the job, which is not there. -/
  | announcement : s.Residue env draft { announced := some (s.sendIds env).outboundJobId }

theorem Db.Residue.of_eq {env : Env} {s : Db} {draft : DraftRow} {x y : SendProgress}
    (h : s.Residue env draft x) (hxy : y = x) : s.Residue env draft y := hxy ▸ h

/-! ### The compensations -/

/-- What `undoSendThread` does. -/
def takeThread (created : Option ThreadRow) (x : SendProgress) : SendProgress :=
  if created.isSome = true ∧ x.filed = none ∧ x.message = none then { x with thread := none }
  else x

/-- What the `catch` block does, one statement after the other. -/
def compensations (created : Option ThreadRow) (held : Int) :
    List (SendProgress → SendProgress) :=
  [fun x => { x with job := none }, fun x => { x with message := none },
    fun x => { x with claimed := false, filed := none }, takeThread created,
    fun x => { x with reserved := x.reserved - held }]

variable {env : Env} {s s' : Db} {draft : DraftRow} {ids : SendIds} {x : SendProgress}
  {created : Option ThreadRow} {held : Int}

/-- What is there is what the send has written. -/
structure SendProgress.Fits (s : Db) (draft : DraftRow) (ids : SendIds)
    (created : Option ThreadRow) (held : Int) (x : SendProgress) : Prop where
  job : ∀ o ∈ x.job, o.id = ids.outboundJobId
  message : ∀ m ∈ x.message, m.id = ids.outboundMessageId ∧ m.tenantId = draft.tenantId ∧
    m.mailboxId = draft.mailboxId ∧ ∀ t ∈ created, m.threadId = some t.id
  thread : created.isSome = true → x.thread = created
  filed : x.filed = none ∨ x.filed = created.map ThreadRow.id
  reserved : 0 < held → x.reserved = held ∧ ∃ a ∈ s.accounts, a.tenantId = draft.tenantId

/-- The database shows what the send has written. -/
def Shows (s : Db) (draft : DraftRow) (ids : SendIds) (created : Option ThreadRow) (held : Int)
    (x : SendProgress) (s' : Db) : Prop :=
  s.At draft x s' ∧ x.Fits s draft ids created held

/-- The identifiers of the send and of the thread it created are unused. -/
structure SendIds.Unused (s : Db) (draft : DraftRow) (ids : SendIds)
    (created : Option ThreadRow) : Prop where
  job : s.Unused ids.outboundJobId
  message : s.Unused ids.outboundMessageId
  thread : ∀ t ∈ created, s.Unused t.id ∧ t.tenantId = draft.tenantId ∧
    t.mailboxId = draft.mailboxId

theorem undoes_deleteJob (hids : ids.Unused s draft created) :
    Undoes (Shows s draft ids created held) (Shows s draft ids created held)
      (fun x => { x with job := none })
      (jobRows.discardAs (.undo .outboundJobs) fun o => o.id == ids.outboundJobId) := by
  refine undoes_perform (fun x s' h => ⟨h.1.deleteJob hids.job h.2.job, ?_⟩) fun _ _ h => h
  exact ⟨by simp, h.2.message, h.2.thread, h.2.filed, h.2.reserved⟩

theorem undoes_deleteMessage (hids : ids.Unused s draft created) :
    Undoes (Shows s draft ids created held) (Shows s draft ids created held)
      (fun x => { x with message := none })
      (messageRows.discardAs (.undo .messages) fun m => m.id == ids.outboundMessageId) := by
  refine undoes_perform (fun x s' h => ⟨h.1.deleteMessage hids.message fun m hm =>
    (h.2.message m hm).1, ?_⟩) fun _ _ h => h
  exact ⟨h.2.job, by simp, h.2.thread, h.2.filed, h.2.reserved⟩

theorem undoes_restore (hs : s.Sendable env) (hdraft : s.draft draft.id = some draft) :
    Undoes (Shows s draft ids created held) (Shows s draft ids created held)
      (fun x => { x with claimed := false, filed := none })
      (catchAll (restoreDraftSendState env draft.id draft.status draft.threadId) ()) := by
  intro x before
  refine Once.tryCatch (E := fun _ c s' => before = true ∧ c = false ∧
      (Shows s draft ids created held x s' ∨
        Shows s draft ids created held { x with claimed := false, filed := none } s'))
    (Once.bind (Q := fun _ c s' => c = before ∧ Shows s draft ids created held x s')
      (Once.draw fun c s' hw => ⟨hw.1, hw.2.1.tick, hw.2.2⟩)
      fun updatedAt => Once.bind (Q := fun changes c s' => changes ≠ 0 ∧ c = before ∧
        Shows s draft ids created held { x with claimed := false, filed := none } s')
        (Once.perform ?_ ?_) fun changes => ?_) fun _ => Once.ret fun c s' hw => .inr hw
  · rintro c s' ⟨hc, hat, hfits⟩
    obtain ⟨hne, hat⟩ := hat.restore hs hdraft updatedAt
    exact ⟨hne, hc, hat, hfits.job, hfits.message, hfits.thread, .inl rfl, hfits.reserved⟩
  · rintro s' ⟨hc, hat, hfits⟩
    obtain ⟨-, hrestored⟩ := hat.restore hs hdraft updatedAt
    exact ⟨⟨hc.symm, rfl, .inl ⟨hat, hfits⟩⟩, ⟨hc.symm, rfl, .inr
      ⟨hrestored, hfits.job, hfits.message, hfits.thread, .inl rfl, hfits.reserved⟩⟩⟩
  · rw [requireStateUpdateApplied]
    split
    · next hzero => exact Once.throw fun c s' hw => absurd hzero hw.1
    · exact Once.ret fun c s' hw => .inl hw.2

/-- The database shows how far the send has come, and the credits that it reserved. -/
def Holding (s : Db) (draft : DraftRow) (held : Int) (x : SendProgress) (s' : Db) : Prop :=
  s.At draft x s' ∧
    (0 < held → x.reserved = held ∧ ∃ a ∈ s.accounts, a.tenantId = draft.tenantId)

theorem undoes_thread (hdraft : s.draft draft.id = some draft)
    (hids : ids.Unused s draft created) :
    Undoes (Shows s draft ids created held) (Holding s draft held) (takeThread created)
      (undoSendThread draft (created.map ThreadRow.id)) := by
  cases hcreated : created with
  | none =>
    have htake : takeThread none = id := by
      funext x
      simp [takeThread]
    rw [htake]
    exact undoes_ret fun x s' h => ⟨h.1, h.2.reserved⟩
  | some t =>
    subst hcreated
    obtain ⟨hunused, htenant, hmailbox⟩ := hids.thread t rfl
    have hother : draft.threadId ≠ some t.id :=
      hunused.draft draft (List.mem_of_find?_eq_some hdraft)
    have hguard : (truthy t.id && draft.threadId != some t.id) = true := by
      simp [hunused.nonempty, hother]
    rw [Option.map_some, undoSendThread, if_pos hguard]
    refine undoes_perform (fun x s' h => ?_) fun x s' h => ⟨h.1, h.2.reserved⟩
    have hthread : x.thread = some t := h.2.thread rfl
    rw [takeThread]
    split
    · next hnone =>
      refine ⟨h.1.deleteThread hunused (fun r hr => ?_) hnone.2.1 hnone.2.2, h.2.reserved⟩
      rw [hthread] at hr
      cases hr
      rfl
    · next hsome =>
      refine ⟨h.1.keepThread hdraft ?_, h.2.reserved⟩
      rcases h.2.filed with hfiled | hfiled
      · cases hmessage : x.message with
        | none => exact absurd ⟨rfl, hfiled, hmessage⟩ hsome
        | some m =>
          obtain ⟨-, htenant, hmailbox, hm⟩ := h.2.message m hmessage
          exact .inr ⟨m, rfl, hm t rfl, htenant, hmailbox⟩
      · exact .inl hfiled

/-- The credits were released, or the release was hit. -/
def Released (s : Db) (draft : DraftRow) (x : SendProgress) (held : Int) (before c : Bool)
    (s' : Db) : Prop :=
  (c = before ∧ s.At draft { x with reserved := x.reserved - held } s') ∨
    (before = true ∧ c = false ∧ (s.At draft x s' ∨
      s.At draft { x with reserved := x.reserved - held } s'))

theorem undoes_reservation (hs : s.Sendable env) (hheld : 0 ≤ held) :
    Undoes (Holding s draft held) (s.At draft)
      (fun x => { x with reserved := x.reserved - held })
      (undoReservation env draft.tenantId held) := by
  rw [undoReservation]
  split
  · next hpos =>
    intro x before
    have hstep : ∀ s', Holding s draft held x s' → ∀ updatedAt,
        let stmt := s'.updateAccount draft.tenantId (fun r => held ≤ r.reservedCredits) fun r =>
          { r with
            availableCredits := r.availableCredits + held
            reservedCredits := r.reservedCredits + -held
            updatedAt := updatedAt }
        stmt.1 ≠ 0 ∧ s.At draft { x with reserved := x.reserved - held } stmt.2 := by
      rintro s' ⟨hat, hreserved⟩ updatedAt
      obtain ⟨hx, a, ha, htenant⟩ := hreserved hpos
      refine hat.moveCredits (fun r => held ≤ r.reservedCredits) (-held) hs ha htenant
        (fun t => ?_) (by simp) updatedAt
      have hnonneg := hs.reserved a ha
      simp [SendProgress.account, htenant, hx]
      omega
    have hrelease : Once (fun c s' => c = before ∧ Holding s draft held x s')
        (releaseTenantReservedCredits env draft.tenantId held)
        (fun _ => Released s draft x held before) fun _ => Released s draft x held before := by
      refine Once.bind (Q := fun _ c s' => c = before ∧ Holding s draft held x s')
        (Once.draw fun c s' hw => ⟨hw.1, hw.2.1.tick, hw.2.2⟩) fun updatedAt => ?_
      refine Once.bind (Q := fun changes c s' => changes ≠ 0 ∧ c = before ∧
        s.At draft { x with reserved := x.reserved - held } s') (Once.perform ?_ ?_)
        fun changes => ?_
      · rintro c s' ⟨hc, hw⟩
        exact ⟨(hstep s' hw updatedAt).1, hc, (hstep s' hw updatedAt).2⟩
      · rintro s' ⟨hc, hw⟩
        exact ⟨.inr ⟨hc.symm, rfl, .inl hw.1⟩, .inr ⟨hc.symm, rfl, .inr (hstep s' hw updatedAt).2⟩⟩
      · split
        · next hnone => exact Once.ret fun c s' hw => absurd hnone hw.1
        · refine Once.bind (Q := fun _ c s' => c = before ∧
            s.At draft { x with reserved := x.reserved - held } s')
            (Once.perform (fun c s' hw => hw.2) fun s' hw => ?_) fun account => ?_
          · exact ⟨.inr ⟨hw.2.1.symm, rfl, .inr hw.2.2⟩, .inr ⟨hw.2.1.symm, rfl, .inr hw.2.2⟩⟩
          · cases account with
            | none => exact Once.throw fun c s' hw => .inl hw
            | some account => exact Once.ret fun c s' hw => .inl hw
    exact Once.bind (Once.tryCatch hrelease fun _ => Once.ret fun c s' hw => hw) fun _ =>
      Once.ret fun c s' hw => hw
  · next hzero =>
    obtain rfl : held = 0 := by omega
    have hid : (fun x : SendProgress => { x with reserved := x.reserved - 0 }) = id := by
      funext x
      simp
    rw [hid]
    exact undoes_ret fun x s' h => h.1

/-- A call that threw has left one thing behind at most, and nothing if nothing went wrong. -/
def LeftBehind (env : Env) (s : Db) (draft : DraftRow) (c : Bool) (s' : Db) : Prop :=
  ∃ x, s.Residue env draft x ∧ s.At draft x s' ∧ (c = true → x = {})

/-- The compensations are to come, and can be borne. -/
def Undoable (env : Env) (s : Db) (draft : DraftRow) (ids : SendIds) (created : Option ThreadRow)
    (held : Int) : Bool → Db → Prop :=
  Bearable (Shows s draft ids created held) (· = {}) (s.Residue env draft)
    (compensations created held)

theorem once_undoDraftSend {α : Type} {error : Exn} {Q : α → Bool → Db → Prop}
    (hs : s.Sendable env) (hdraft : s.draft draft.id = some draft)
    (hids : ids.Unused s draft created) (hheld : 0 ≤ held) :
    Once (Undoable env s draft ids created held)
      (undoDraftSend env draft ids (created.map ThreadRow.id) held error : Op α) Q
      fun _ => LeftBehind env s draft := by
  refine Once.bind (undoes_deleteJob hids).once fun _ => ?_
  refine Once.bind (undoes_deleteMessage hids).once fun _ => ?_
  refine Once.bind (undoes_restore hs hdraft).once fun _ => ?_
  refine Once.bind (undoes_thread hdraft hids).once fun _ => ?_
  refine Once.bind (undoes_reservation hs hheld).once fun _ => Once.throw ?_
  exact fun c s' ⟨x, hat, hleft, hgood⟩ => ⟨x, hleft, hat, fun hc => (hgood hc).1⟩

end MailRuntime
