import MailRuntime.Enqueueing.Runs
import MailRuntime.Enqueueing.Writes

/-!
# What a send that fails leaves behind

A call of `enqueueDraftSend` that is alone and of whose statements at most one goes wrong, from
its first statement to its last.

## What is proved

**`send_undone`**: a call that returns has written everything that its plan says (`SentOff`). Where
nothing goes wrong, a call that throws leaves everything as it was, but for the times of the draft
and of the account. Where one statement goes wrong, a call that throws leaves at most one of the
things it has written (`Db.Residue`).
-/

namespace MailRuntime

open Js Interaction

variable {env : Env} {s s' : Db} {draft : DraftRow} {ids : SendIds} {x : SendProgress}
  {created : Option ThreadRow} {held : Int} {plan : SendPlan}

/-! ### What the compensations leave -/

@[simp] theorem takeThread_none : takeThread none x = x := by simp [takeThread]

theorem undoable_claimed {c : Bool} (hat : s.At draft { claimed := true } s') :
    Undoable env s draft ids none 0 c s' := by
  refine ⟨{ claimed := true }, ⟨hat, by simp, by simp, by simp, .inl rfl, by simp⟩,
    .of_eq .nothing ?_, fun _ => ⟨?_, .of_eq .nothing ?_, .of_eq .nothing ?_, .of_eq .claim ?_,
      .of_eq .nothing ?_, .of_eq .nothing ?_, trivial⟩⟩
  all_goals simp [compensations]

theorem undoable_noThread {c : Bool} (hplan : Planned env s draft plan)
    (h : NoThread s draft (s.sendThread env draft plan) c s') :
    Undoable env s draft ids none 0 c s' := by
  rcases h with hat | ⟨rfl, hat⟩
  · exact undoable_claimed hat
  · refine ⟨_, ⟨hat, by simp, by simp, by simp, .inl rfl, by simp⟩, .of_eq (.thread hplan) ?_,
      fun hc => by cases hc⟩
    simp [compensations]

theorem fits_stage {message : Option MessageRow} {job : Option OutboundJobRow}
    {announced : Option String} {n : Int} (hn : 0 < held → n = held)
    (hjob : ∀ o ∈ job, o.id = ids.outboundJobId)
    (hmessage : ∀ m ∈ message, m.id = ids.outboundMessageId ∧ m.tenantId = draft.tenantId ∧
      m.mailboxId = draft.mailboxId ∧ ∀ t ∈ created, m.threadId = some t.id)
    (haccount : 0 < held → ∃ a ∈ s.accounts, a.tenantId = draft.tenantId) :
    (stage created n message job announced).Fits s draft ids created held where
  job := hjob
  message := hmessage
  thread _ := rfl
  filed := .inr rfl
  reserved h := ⟨hn h, haccount h⟩

/-- The compensations undo all that was written but for what was sent to the queue, and for
credits that they do not know of. -/
theorem undone_stage {n : Int} {message : Option MessageRow} {job : Option OutboundJobRow}
    {announced : Option String} :
    undone (compensations created held) (stage created n message job announced) =
      { reserved := n - held, announced := announced } := by
  cases created <;> simp [compensations, stage, takeThread]

/-- Whichever compensation is missing, one thing is left at most. -/
theorem tolerant_stage {message : Option MessageRow} (hplan : Planned env s draft plan)
    (hheld : s.Residue env draft { reserved := held })
    (hmessage : message = none ∨ message = some (s.sendMessage env draft plan)) :
    Tolerant (s.Residue env draft) (compensations (s.sendThread env draft plan) held)
      (stage (s.sendThread env draft plan) held message none none) := by
  refine ⟨.of_eq .nothing ?_, ?_, .of_eq (.filing hplan) ?_, .of_eq (.thread hplan) ?_,
    .of_eq hheld ?_, trivial⟩
  · cases s.sendThread env draft plan <;> simp [stage, takeThread]
  · rcases hmessage with rfl | rfl
    · exact .of_eq .nothing (by cases s.sendThread env draft plan <;> simp [stage, takeThread])
    · refine .of_eq (.message hplan) ?_
      generalize s.sendMessage env draft plan = message
      cases s.sendThread env draft plan <;> simp [stage, takeThread]
  · cases s.sendThread env draft plan <;> simp [stage, takeThread]
  · simp [stage]
  · cases s.sendThread env draft plan <;> simp [stage, takeThread]

theorem undoable_unreserved {c : Bool} (hplan : Planned env s draft plan)
    (h : Unreserved s draft (s.sendThread env draft plan) plan.credits c s') :
    Undoable env s draft ids (s.sendThread env draft plan) 0 c s' := by
  rcases h with hat | ⟨rfl, hat | hat⟩
  · refine ⟨_, ⟨hat, fits_stage (by simp) (by simp) (by simp) (by simp)⟩, .of_eq .nothing ?_,
      fun _ => ⟨?_, tolerant_stage hplan .nothing (.inl rfl)⟩⟩
    all_goals simp [undone_stage]
  · refine ⟨_, ⟨hat, by simp, by simp, fun _ => rfl, .inl rfl, by simp⟩, .of_eq .nothing ?_,
      fun hc => by cases hc⟩
    cases s.sendThread env draft plan <;> simp [compensations, takeThread]
  · refine ⟨_, ⟨hat, fits_stage (by simp) (by simp) (by simp) (by simp)⟩,
      .of_eq (.credits hplan) ?_, fun hc => by cases hc⟩
    simp [undone_stage]

theorem undoable_unwritten {c : Bool} (hplan : Planned env s draft plan)
    (hfunds : 0 < plan.credits → Affords s draft plan.credits)
    (h : Unwritten env s draft plan (s.sendIds env) (s.sendThread env draft plan) plan.credits
      c s') :
    Undoable env s draft (s.sendIds env) (s.sendThread env draft plan) plan.credits c s' := by
  have haccount : 0 < plan.credits → ∃ a ∈ s.accounts, a.tenantId = draft.tenantId := fun hpos =>
    (hfunds hpos).imp fun a ha => ⟨ha.1, ha.2.1⟩
  have hmessage : ∀ m ∈ some (s.sendMessage env draft plan),
      m.id = (s.sendIds env).outboundMessageId ∧ m.tenantId = draft.tenantId ∧
      m.mailboxId = draft.mailboxId ∧
      ∀ t ∈ s.sendThread env draft plan, m.threadId = some t.id := by
    intro m hm
    cases hm
    refine ⟨rfl, rfl, rfl, fun t ht => ?_⟩
    change ((s.sendThread env draft plan).map ThreadRow.id <|> draft.threadId) = some t.id
    rw [Option.mem_def.1 ht]
    rfl
  have hjob : ∀ o ∈ some (outboundJobRow env draft (s.sendIds env)),
      o.id = (s.sendIds env).outboundJobId := fun o ho => by
    cases ho
    rfl
  rcases h with hat | ⟨rfl, hat | hat | hat⟩
  · refine ⟨_, ⟨hat, fits_stage (fun _ => rfl) (by simp) hmessage haccount⟩, .of_eq .nothing ?_,
      fun _ => ⟨?_, tolerant_stage hplan (.credits hplan) (.inr rfl)⟩⟩
    all_goals simp [undone_stage]
  · refine ⟨_, ⟨hat, fits_stage (fun _ => rfl) (by simp) (by simp) haccount⟩, .of_eq .nothing ?_,
      fun hc => by cases hc⟩
    simp [undone_stage]
  · refine ⟨_, ⟨hat, fits_stage (fun _ => rfl) hjob hmessage haccount⟩, .of_eq .nothing ?_,
      fun hc => by cases hc⟩
    simp [undone_stage]
  · refine ⟨_, ⟨hat, fits_stage (fun _ => rfl) hjob hmessage haccount⟩, .of_eq .announcement ?_,
      fun hc => by cases hc⟩
    simp [undone_stage]

/-! ### The whole -/

/-- The plan is read from the draft's payload and the mailboxes. -/
theorem readsOnly_planDraftSend :
    (planDraftSend env draft).ReadsOnly fun s => (s.objects, s.mailboxes) := by
  have hensure : ∀ condition e, (ensure condition e).ReadsOnly fun s : Db =>
      (s.objects, s.mailboxes) := fun condition e => by cases condition <;> exact trivial
  refine .bind (.bind (readsOnly_query fun s s' h => ?_) fun object => ?_) fun payload => ?_
  · simp only [Db.object, (Prod.mk.inj h).1]
  · cases object with
    | none => trivial
    | some object =>
      refine .bind ?_ fun value => ?_
      · cases object <;> trivial
      · cases value <;> trivial
  · split
    · trivial
    · refine .bind (readsOnly_getOutboundCreditRequirement fun s s' h => (Prod.mk.inj h).2) fun _ =>
        .bind (.bind (readsOnly_localMailboxes (fun s s' h => (Prod.mk.inj h).2) _) fun _ =>
          trivial) fun _ => .bind ?_ fun _ => .bind ?_ fun _ => trivial
      · unfold parseDraftAttachments
        split
        · trivial
        · trivial
        · split <;> trivial
        · trivial
      · refine .bind (readsOnly_query fun s s' h => ?_) fun _ => .bind (hensure _ _) fun _ =>
          .bind (hensure _ _) fun _ => .bind (hensure _ _) fun _ => hensure _ _
        simp only [Db.mailbox, (Prod.mk.inj h).2]

/-- What is read after the claim is what there was before it. -/
theorem Db.At.planned (hat : s.At draft x s') (hrun : (planDraftSend env draft).run s' =
    (.ok plan, s')) : Planned env s draft plan := by
  refine readsOnly_planDraftSend.run_of_run (Prod.ext ?_ ?_) hrun
  · exact (hat.same .objects (by decide)).symm
  · exact (hat.same .mailboxes (by decide)).symm

/-- No plan requires a negative number of credits. -/
theorem planned_credits : (planDraftSend env draft).Returns fun plan =>
    0 ≤ plan.requirement.creditsRequired := by
  have hrequirement : ∀ recipients, (getOutboundCreditRequirement env recipients
      draft.sourceMessageId draft.createdVia).Returns fun r => 0 ≤ r.creditsRequired := by
    intro recipients
    refine Prog.Returns.bind (Prog.returns_true _) fun routed _ => ?_
    simp only [creditRequirement, Prog.pure_eq, Prog.Returns]
    split <;> decide
  refine Prog.Returns.bind (Prog.returns_true _) fun payload _ => ?_
  split
  · trivial
  · exact Prog.Returns.bind (hrequirement _) fun requirement h =>
      Prog.Returns.bind (Prog.returns_true _) fun _ _ => Prog.Returns.bind (Prog.returns_true _)
      fun _ _ => Prog.Returns.bind (Prog.returns_true _) fun _ _ => h

theorem Planned.credits_nonneg (hplan : Planned env s draft plan) : 0 ≤ plan.credits := by
  rw [SendPlan.credits]
  split
  · exact planned_credits.of_run hplan
  · exact le_rfl

/-- The call has written everything: the draft is queued and has the thread that was created for
it, the tenant had the credits that the plan requires and they are reserved, and the message, the
job and the job's place in the queue are there. -/
def SentOff (env : Env) (s : Db) (draft : DraftRow) (plan : SendPlan) (s' : Db) : Prop :=
  (0 < plan.credits → Affords s draft plan.credits) ∧
    AllWritten env s draft plan (s.sendIds env) (s.sendThread env draft plan) plan.credits s'

theorem once_sendClaimedDraft (hs : s.Sendable env) (hdraft : s.draft draft.id = some draft) :
    Once (fun c s' => s'.draws = s.draws + 3 ∧ Claimed s draft none c s')
      (sendClaimedDraft env draft (s.sendIds env))
      (fun _ _ s' => ∃ plan, Planned env s draft plan ∧ SentOff env s draft plan s')
      fun _ => LeftBehind env s draft := by
  have hnone : (s.sendIds env).Unused s draft none :=
    ⟨hs.unused _ _ le_rfl, hs.unused _ _ (by omega), by simp⟩
  refine Once.bind (Q := fun plan c s' => Planned env s draft plan ∧ s'.draws = s.draws + 3 ∧
    Claimed s draft none c s') (Once.tryCatch (E := fun _ _ s' => s.At draft { claimed := true } s')
      ((Once.reads readsOnly_planDraftSend.reads (fun _ _ hw => hw.2.2) fun _ hw => hw.2.2).mono
        (fun _ _ hw => hw) (fun plan c s' hw => ⟨hw.1.2.2.planned hw.2, hw.1⟩)
        fun _ _ _ hw => hw) fun error => ?_) fun plan => Once.of_fact fun hplan => ?_
  · exact (once_undoDraftSend hs hdraft hnone le_rfl).mono (fun c s' hat => undoable_claimed hat)
      (fun _ _ _ hw => hw) fun _ _ _ hw => hw
  refine Once.bind (Q := fun created c s' => created = s.sendThread env draft plan ∧
      Claimed s draft created c s')
    (Once.tryCatch (once_createSendThread hs hdraft) fun error => ?_)
    fun created => Once.of_fact fun hcreated => ?_
  · exact (once_undoDraftSend hs hdraft hnone le_rfl).mono
      (fun c s' hw => undoable_noThread hplan hw) (fun _ _ _ hw => hw) fun _ _ _ hw => hw
  subst hcreated
  have hids : (s.sendIds env).Unused s draft (s.sendThread env draft plan) :=
    ⟨hnone.job, hnone.message, hs.created_sendThread⟩
  refine Once.bind (Q := fun held c s' => held = plan.credits ∧
      Funded s draft (s.sendThread env draft plan) held c s') (Once.tryCatch (Once.bind
    (once_attachSendThread hs hdraft hs.created_sendThread) fun _ => once_reserveSendCredits hs)
    fun error => ?_) fun held => Once.of_fact fun hheld => ?_
  · exact (once_undoDraftSend hs hdraft hids le_rfl).mono
      (fun c s' hw => undoable_unreserved hplan hw) (fun _ _ _ hw => hw) fun _ _ _ hw => hw
  subst hheld
  refine Once.of_fact fun hfunds => ?_
  refine Once.tryCatch ((once_writeOutboundJob hdraft hids).mono (fun _ _ hw => hw)
    (fun _ _ s' hw => ⟨plan, hplan, hfunds, hw⟩) fun _ _ _ hw => hw) fun error => ?_
  exact (once_undoDraftSend hs hdraft hids hplan.credits_nonneg).mono
    (fun c s' hw => undoable_unwritten hplan hfunds hw) (fun _ _ _ hw => hw) fun _ _ _ hw => hw

/-- The draft is found again after its claim. -/
theorem Db.At.draft_isSome (hdraft : s.draft draft.id = some draft)
    (hat : s.At draft { claimed := true } s') : (s'.draft draft.id).isSome = true := by
  obtain ⟨t, hmem⟩ := hat.draft_mem hdraft
  have hvisible := List.find?_some hdraft
  simp only [Bool.and_eq_true, Db.draftVisible, Db.draftReferencesValid] at hvisible
  have hthread : (draft.threadId.all fun threadId =>
      s'.hasThread draft.tenantId draft.mailboxId threadId) = true := by
    rw [Option.all_eq_true]
    exact fun threadId h => hat.hasThread ((Option.all_eq_true _ _).1 hvisible.2.2.1 threadId h)
  have hmessages : s'.messages = s.messages := by
    rw [hat.messages, Option.toList_none, List.append_nil]
  have hmessage : s'.messageVisible = s.messageVisible := by
    funext m
    rw [Db.messageVisible, hat.ownsMailbox, Db.messageVisible]
  rw [Db.draft, List.find?_isSome]
  refine ⟨_, hmem, ?_⟩
  rw [Db.draftVisible, hat.draftOwned hdraft t, Db.draftReferencesValid]
  simp only [SendProgress.draft, if_true, beq_self_eq_true, Bool.true_and, Option.none_or,
    Option.orElse_eq_orElse, Option.orElse_eq_or, Bool.and_eq_true]
  rw [hmessages, hmessage]
  exact ⟨hthread, hvisible.2.2.2⟩

theorem once_claimAndEnqueue (hs : s.Sendable env) (hdraft : s.draft draft.id = some draft)
    (hclaimable : draft.claimable = true) :
    Once (fun c s' => c = true ∧ s'.draws = s.draws ∧ s.At draft {} s') (claimAndEnqueue env draft)
      (fun jobId _ s' => jobId = (s.sendIds env).outboundJobId ∧
        ∃ plan, Planned env s draft plan ∧ SentOff env s draft plan s')
      fun _ => LeftBehind env s draft := by
  have hclaimed : ∀ c s', Claimed s draft none true s' → c = false → LeftBehind env s draft c s' :=
    fun c s' hw hc => ⟨_, .claim, hw.2, fun h => by simp [hc] at h⟩
  refine Once.bind (Q := fun jobId c s' => jobId = (s.sendIds env).outboundJobId ∧ c = true ∧
      s'.draws = s.draws + 1 ∧ s.At draft {} s')
    (Once.draw fun c s' hw => ⟨by rw [hw.2.1]; rfl, hw.1, congrArg (· + 1) hw.2.1, hw.2.2.tick⟩)
    fun jobId => Once.of_fact fun hjob => ?_
  subst hjob
  refine Once.bind (Q := fun timestamp c s' => timestamp = (s.sendIds env).timestamp ∧ c = true ∧
      s'.draws = s.draws + 2 ∧ s.At draft {} s')
    (Once.draw fun c s' hw => ⟨by rw [hw.2.1]; rfl, hw.1, congrArg (· + 1) hw.2.1, hw.2.2.tick⟩)
    fun timestamp => Once.of_fact fun htimestamp => ?_
  subst htimestamp
  have hclaim : ∀ s', s.At draft {} s' → _ := fun s' hat =>
    hat.claim hs hdraft hclaimable (s.sendIds env).timestamp
  refine Once.bind (Q := fun claimed c s' => claimed = true ∧ s'.draws = s.draws + 2 ∧
      Claimed s draft none c s')
    (Once.bind (Q := fun changes c s' => changes ≠ 0 ∧ s'.draws = s.draws + 2 ∧
        Claimed s draft none c s')
      (Once.perform
        (fun c s' hw => ⟨(hclaim s' hw.2.2).1, hw.2.1, hw.1, (hclaim s' hw.2.2).2⟩)
        fun s' hw => ⟨⟨_, .nothing, hw.2.2, fun _ => rfl⟩,
          hclaimed _ _ ⟨rfl, (hclaim s' hw.2.2).2⟩ rfl⟩)
      fun changes => Once.ret fun c s' hw => ⟨decide_eq_true (Nat.pos_of_ne_zero hw.1), hw.2⟩)
    fun claimed => ?_
  split
  · refine Once.bind (Q := fun row c s' => row.isSome = true ∧ s'.draws = s.draws + 2 ∧
        Claimed s draft none c s')
      (once_query (fun c s' hw => ⟨hw.2.2.2.draft_isSome hdraft, hw.2⟩)
        fun s' hw => hclaimed _ _ hw.2.2 rfl) fun row => ?_
    cases row with
    | none =>
      rintro w ⟨hnone, -⟩
      cases hnone
    | some row =>
      refine Once.bind (Q := fun messageId c s' => messageId = (s.sendIds env).outboundMessageId ∧
          s'.draws = s.draws + 3 ∧ Claimed s draft none c s')
        (Once.draw fun c s' hw => ⟨by rw [hw.2.1]; rfl, congrArg (· + 1) hw.2.1, hw.2.2.1,
          hw.2.2.2.tick⟩) fun messageId => Once.of_fact fun hmessage => ?_
      subst hmessage
      exact Once.bind (p := sendClaimedDraft env draft (s.sendIds env))
        (once_sendClaimedDraft hs hdraft) fun _ => Once.ret fun c s' hw => ⟨rfl, hw⟩
  · next hnot =>
    rintro w ⟨hclaimed, -⟩
    exact absurd hclaimed hnot

/-- Nothing has been done yet. -/
theorem Db.Sendable.start (hs : s.Sendable env) (hdraft : s.draft draft.id = some draft) :
    s.At draft {} s := by
  refine ⟨fun _ _ => Table.Same.rfl, ⟨draft.updatedAt, ?_⟩, ?_, by simp, by simp, by simp,
    by simp, le_rfl⟩
  · refine (List.map_id s.drafts).symm.trans (List.map_congr_left fun d hd => ?_)
    rw [SendProgress.draft]
    split
    · next hid =>
      obtain rfl := hs.draft_unique hdraft hd hid
      simp
    · rfl
  · by_cases hfound : ∃ a ∈ s.accounts, a.tenantId = draft.tenantId
    · obtain ⟨a, ha, htenant⟩ := hfound
      refine ⟨a.updatedAt, (List.map_id s.accounts).symm.trans
        (List.map_congr_left fun b hb => ?_)⟩
      rw [SendProgress.account]
      split
      · next hid =>
        obtain rfl := hs.account_unique hb ha (hid.trans htenant.symm)
        simp
      · rfl
    · refine ⟨0, (List.map_id s.accounts).symm.trans (List.map_congr_left fun b hb => ?_)⟩
      rw [SendProgress.account, if_neg fun htenant => hfound ⟨b, hb, htenant⟩, id]

theorem once_enqueueDraftSend (hs : s.Sendable env) (hdraft : s.draft draft.id = some draft) :
    Once (fun c s' => c = true ∧ s' = s) (enqueueDraftSend env draft.id)
      (fun jobId _ s' => jobId = (s.sendIds env).outboundJobId ∧
        ∃ plan, Planned env s draft plan ∧ SentOff env s draft plan s')
      fun _ => LeftBehind env s draft := by
  have hstart := hs.start hdraft
  refine Once.bind (Q := fun row c s' => row = some draft ∧ c = true ∧ s'.draws = s.draws ∧
    s.At draft {} s') (once_query ?_ ?_) fun row => Once.of_fact fun hrow => ?_
  · rintro c s' ⟨hc, rfl⟩
    exact ⟨hdraft, hc, rfl, hstart⟩
  · rintro s' ⟨-, rfl⟩
    exact ⟨_, .nothing, hstart, fun _ => rfl⟩
  · subst hrow
    refine Once.bind (Q := fun row c s' => row = draft ∧ c = true ∧ s'.draws = s.draws ∧
      s.At draft {} s') (Once.ret fun c s' hw => ⟨rfl, hw⟩) fun row => Once.of_fact fun hrow => ?_
    subst hrow
    split
    · next hclaimable => exact once_claimAndEnqueue hs hdraft hclaimable
    · exact Once.throw fun c s' hw => ⟨_, .nothing, hw.2.2, fun _ => rfl⟩

/-! ### Runs -/

/-- A call that is alone. -/
def enqueueAlone (env : Env) (draftId : String) (s : Db) : Config Unit Db Label Exn String :=
  ⟨⟨s, []⟩, fun _ => enqueueDraftSend env draftId⟩

theorem send_undone {draftId : String} (hs : s.Sendable env)
    (hdraft : s.draft draftId = some draft) {schedule : List (Unit × Outcome)}
    (hmeets : (enqueueAlone env draftId s).Meets AtMostOne schedule) :
    let c := (enqueueAlone env draftId s).exec schedule
    (∀ jobId, c.threads () = .ret jobId → jobId = (s.sendIds env).outboundJobId ∧
      ∃ plan, Planned env s draft plan ∧ SentOff env s draft plan c.world.store) ∧
    ∀ e, c.threads () = .throw e → ∃ x, s.Residue env draft x ∧ s.At draft x c.world.store ∧
      ((∀ event ∈ c.world.trace, event.outcome = .done) → x = {}) := by
  have hid : draft.id = draftId := by
    have hfound := List.find?_some hdraft
    simp only [Bool.and_eq_true, beq_iff_eq] at hfound
    exact hfound.1
  subst hid
  obtain ⟨hret, hthrow⟩ := (once_enqueueDraftSend hs hdraft).exec ⟨rfl, rfl⟩ hmeets
  refine ⟨hret, fun e he => ?_⟩
  obtain ⟨x, hleft, hat, hnothing⟩ := hthrow e he
  refine ⟨x, hleft, hat, fun hdone => hnothing ?_⟩
  rw [World.sound, List.all_eq_true]
  exact fun event hevent => beq_iff_eq.2 (hdone event hevent)

/-! ### A send that is paid for -/

/-- The draft of a message to another domain. -/
def paidDraft : DraftRow :=
  ⟨"drf", "t", "agt", "mbx", none, none, none, .draft, "drafts/drf.json", 0, 0⟩

/-- Its tenant has credits. -/
def paidDb : Db where
  mailboxes := [⟨"mbx", "t", "a@b", "active"⟩]
  agents := [⟨"agt", "t", .active, none⟩]
  drafts := [paidDraft]
  accounts := [⟨"t", .active, .paidActive, none, none, 3, 0, 0⟩]
  objects := [("drafts/drf.json",
    .json (.obj [("from", .str "a@b"), ("to", .arr [.str "c@d"]), ("subject", .str "Hi")]))]

theorem paidDb_sendable : paidDb.Sendable (pairEnv true) where
  drafts := by decide
  accounts := List.pairwise_singleton _ _
  reserved a ha := by
    rw [List.mem_singleton.1 ha]
  unused kind n _ := {
    nonempty := by simp [truthy, pairEnv]
    thread := fun _ h => by cases h
    message := fun _ h => by cases h
    draft := fun d hd => by
      rw [List.mem_singleton.1 hd]
      simp [paidDraft]
    job := fun _ h => by cases h }

/-- The queue takes the message, and its answer is lost. -/
def queueUnheard : List (Unit × Outcome) := turns () 25 ++ [((), .lost)] ++ turns () 20

/-- A program that has thrown. -/
def thrown {α : Type} : Op α → Option Exn
  | .throw e => some e
  | _ => none

theorem throw_of_thrown {α : Type} {p : Op α} {e : Exn} (h : thrown p = some e) : p = .throw e := by
  unfold thrown at h
  split at h
  · rw [Option.some.inj h]
  · cases h

@[irreducible] def sentPaid : Config Unit Db Label Exn String :=
  (enqueueAlone (pairEnv true) "drf" paidDb).exec (turns () 26)

@[irreducible] def sentUnheard : Config Unit Db Label Exn String :=
  (enqueueAlone (pairEnv true) "drf" paidDb).exec queueUnheard

theorem send_undone_paidDb :
    (sentPaid.threads () = .ret "a" ∧ ∃ plan, Planned (pairEnv true) paidDb paidDraft plan ∧
      plan.credits = 1 ∧ SentOff (pairEnv true) paidDb paidDraft plan sentPaid.world.store) ∧
    sentUnheard.threads () = .throw Exn.d1 ∧ ∃ x, paidDb.Residue (pairEnv true) paidDraft x ∧
      paidDb.At paidDraft x sentUnheard.world.store := by
  have hdraft : paidDb.draft "drf" = some paidDraft := by decide +kernel
  have hcredits : ((planDraftSend (pairEnv true) paidDraft).run paidDb).1.toOption.map
      SendPlan.credits = some 1 := by decide +kernel
  have hret : sentPaid.threads () = .ret "a" := Prog.answer_eq_some.1 (by decide +kernel)
  have hthrow : sentUnheard.threads () = .throw Exn.d1 := throw_of_thrown (by decide +kernel)
  have hdone : (enqueueAlone (pairEnv true) "drf" paidDb).Meets AtMostOne (turns () 26) := by
    decide +kernel
  have hlost : (enqueueAlone (pairEnv true) "drf" paidDb).Meets AtMostOne queueUnheard := by
    decide +kernel
  unfold sentPaid at hret ⊢
  unfold sentUnheard at hthrow ⊢
  obtain ⟨-, plan, hplan, hsent⟩ := (send_undone paidDb_sendable hdraft hdone).1 _ hret
  obtain ⟨x, hleft, hat, -⟩ := (send_undone paidDb_sendable hdraft hlost).2 _ hthrow
  have hrun : (planDraftSend (pairEnv true) paidDraft).run paidDb = (.ok plan, paidDb) := hplan
  rw [hrun] at hcredits
  exact ⟨⟨hret, plan, hplan, Option.some.inj hcredits, hsent⟩, hthrow, x, hleft, hat⟩

end MailRuntime
