import MailRuntime.Sending.Branches
import MailRuntime.Interaction.RelyGuarantee

/-!
# Consumers side by side

What the consumers of outbound jobs do to the jobs, and what has to be shown of a protocol for
runs of any number of them. A consumer claims a job, reads it again, and what it does from there
to the beginning of the send leaves the jobs alone. So a protocol with a notion of being `ready`
to send a job, which a claim gives and which other consumers cannot take away, has only to deal
with single statements (`JobProtocol`): the consumers are safe then, whatever their batches are
(`JobProtocol.safe_handleOutboundSend`).
-/

namespace MailRuntime

open Js Interaction

/-- The consumers, none of which has taken a step. -/
def startSends {ι : Type} (env : Env) (batches : ι → List String) (s : Db) :
    Config ι Db Label Exn (List Verdict) := ⟨⟨s, []⟩, fun i => handleOutboundSend env (batches i)⟩

/-! ### What a statement does to the jobs -/

/-- The label says nothing of who holds a job. -/
def Label.idle : Label → Bool
  | claimJob _ _ | writeJob _ _ _ _ | beginSend _ _ => false
  | _ => true

/-- What a statement other than the beginning of a send does to the jobs. -/
inductive JobEffect (env : Env) (s s' : Db) : Label → Prop where
  /-- Nothing. -/
  | same {l : Label} (hl : l.idle = true) (h : s'.outboundJobs = s.outboundJobs) : JobEffect env s s' l
  /-- Some are deleted. -/
  | discard {l : Label} (hl : l.idle = true) (doomed : OutboundJobRow → Bool)
      (h : s'.outboundJobs = s.outboundJobs.filter fun o => !doomed o) : JobEffect env s s' l
  /-- One is claimed, if it may be. -/
  | claim (jobId : String) (target : OutboundJobRow → Bool) (set : OutboundJobRow → OutboundJobRow)
      (htarget : ∀ o, target o = true → o.id = jobId ∧ o.claimable = true)
      (hset : ∀ o, (set o).id = o.id ∧ (set o).status = .sending ∧
        (set o).retryCount = o.retryCount)
      (h : s'.outboundJobs = s.outboundJobs.map fun o => if target o then set o else o) :
      JobEffect env s s' (.claimJob jobId (s.outboundJobs.countP target))
  /-- One has its status written. -/
  | written (jobId : String) (status : JobStatus) (retryCount : Option Nat)
      (target : OutboundJobRow → Bool) (set : OutboundJobRow → OutboundJobRow)
      (hstatus : Written env status retryCount) (htarget : ∀ o, target o = true → o.id = jobId)
      (hset : ∀ o, (set o).id = o.id ∧ (set o).status = status ∧
        (set o).retryCount = retryCount.getD o.retryCount)
      (h : s'.outboundJobs = s.outboundJobs.map fun o => if target o then set o else o) :
      JobEffect env s s' (.writeJob jobId status retryCount (s.outboundJobs.countP target))

/-- The jobs stay. -/
def KeepsJobs (run : Db → Db) : Prop := ∀ s, (run s).outboundJobs = s.outboundJobs

/-- A statement other than the beginning of a send. -/
def JobStatement (env : Env) (name : Db → Label) (run : Db → Db) : Prop :=
  ∀ s, JobEffect env s (run s) (name s)

section Steps

variable {env : Env} {ts : List Table} {α : Type} {p : Op α}

theorem idle_of_table {l : Label} (h : l.table ≠ some .outboundJobs) : l.idle = true := by
  cases l <;> first | rfl | exact absurd rfl h

theorem orderly_of_touches (hp : Touches ts p) (hjobs : Table.outboundJobs ∉ ts) :
    p.Each KeepsJobs (JobStatement env) := by
  refine Prog.Each.mono hp (fun run hdraws s => (hdraws s .outboundJobs).symm)
    fun name run hwithin s => ?_
  obtain ⟨hsame, htable⟩ := hwithin s
  exact .same (idle_of_table fun h => hjobs (htable _ h)) (hsame .outboundJobs hjobs).symm

theorem orderly_updateOutboundJobStatus {outboundJobId : String} {status : JobStatus}
    {lastError : Option String} {retryCount nextRetryAt : Option Nat}
    (hstatus : Written env status retryCount) :
    (updateOutboundJobStatus env outboundJobId status lastError retryCount nextRetryAt).Each
      KeepsJobs (JobStatement env) := by
  refine .bind (orderly_of_touches touches_nowIso List.not_mem_nil) fun updatedAt =>
    .bind (Prog.each_perform.2 fun s => ?_) fun _ =>
      orderly_of_touches touches_requireStateUpdateApplied List.not_mem_nil
  refine .written outboundJobId status retryCount (fun o => o.id == outboundJobId && s.jobVisible o)
    (fun o => { o with
      status := status, retryCount := retryCount.getD o.retryCount
      nextRetryAt := nextRetryAt, lastError := lastError, updatedAt := updatedAt })
    hstatus (fun o ho => ?_) (fun _ => ⟨rfl, rfl, rfl⟩) rfl
  simpa using (Bool.and_eq_true_iff.1 ho).1

/-- The claim itself. -/
theorem jobStatement_claim {outboundJobId : String} {updatedAt : Nat} :
    JobStatement env
      (fun s => .claimJob outboundJobId (jobRows.updated s
        (fun o => o.id == outboundJobId && o.claimable && s.jobVisible o) fun o =>
          { o with status := .sending, lastError := none, updatedAt := updatedAt }).1)
      fun s => (jobRows.updated s
        (fun o => o.id == outboundJobId && o.claimable && s.jobVisible o) fun o =>
          { o with status := .sending, lastError := none, updatedAt := updatedAt }).2 := by
  intro s
  refine .claim outboundJobId
    (fun o => o.id == outboundJobId && o.claimable && s.jobVisible o)
    (fun o => { o with status := .sending, lastError := none, updatedAt := updatedAt })
    (fun o ho => ?_) (fun _ => ⟨rfl, rfl, rfl⟩) rfl
  simp only [Bool.and_eq_true, beq_iff_eq] at ho
  exact ho.1

theorem orderly_discardJob {outboundJobId : String} :
    (jobRows.discard fun o => o.id == outboundJobId).Each KeepsJobs (JobStatement env) :=
  .tryCatch (.bind (Prog.each_perform.2 fun _ =>
    .discard rfl (fun o => o.id == outboundJobId) rfl) fun _ => trivial) fun _ => trivial

theorem orderly_claimOutboundJobForSend {outboundJobId : String} :
    (claimOutboundJobForSend env outboundJobId).Each KeepsJobs (JobStatement env) := by
  refine .bind (orderly_of_touches touches_nowIso List.not_mem_nil) fun updatedAt =>
    .bind (Prog.each_perform.2 jobStatement_claim) fun changes => ?_
  split
  · trivial
  · refine .bind (orderly_of_touches touches_getOutboundJob List.not_mem_nil) fun row => ?_
    cases row with
    | some _ => trivial
    | none => exact .bind orderly_discardJob fun _ => trivial

theorem covers_orderly (env : Env) : Covers env KeepsJobs (JobStatement env) where
  other hp _ _ hjobs := orderly_of_touches hp hjobs
  writeJob hstatus := orderly_updateOutboundJobStatus hstatus
  claimJob := orderly_claimOutboundJobForSend

/-- The send after its beginning. -/
def sendThrough (env : Env) (outboundJobId : String) (input : OutboundDraftSendInput) :
    Op String :=
  if env.sesMockSend then mockMessageId env outboundJobId "mock-outbound"
  else if getOutboundProvider env = .resend then sendWithResend env outboundJobId input
  else sendWithSes env outboundJobId input

theorem orderly_mockMessageId {outboundJobId kind : String} :
    (mockMessageId env outboundJobId kind).Each KeepsJobs (JobStatement env) :=
  .bind (Prog.Each.bind (f := fun _ => Prog.ret ()) (p := mark (.callProvider outboundJobId true))
    ⟨fun _ => .same rfl rfl, fun _ => trivial, trivial⟩ fun _ => trivial)
    fun _ => Prog.each_draw.2 fun _ => rfl

theorem orderly_postToProvider {outboundJobId name key : String} {body : Json} :
    (postToProvider env outboundJobId name key body).Each KeepsJobs (JobStatement env) := by
  refine .bind (Prog.each_perform.2 fun s => .same rfl rfl) fun answer => ?_
  cases answer with
  | none => trivial
  | some answer =>
    dsimp only
    split
    · refine .bind (orderly_of_touches touches_toJson List.not_mem_nil) fun _ =>
        .bind (orderly_of_touches touches_recordFields List.not_mem_nil) fun _ => ?_
      split <;> trivial
    · trivial

theorem orderly_sendThrough {outboundJobId : String} {input : OutboundDraftSendInput} :
    (sendThrough env outboundJobId input).Each KeepsJobs (JobStatement env) := by
  have hattachments : ∀ refs, (loadAttachments env refs).Each KeepsJobs (JobStatement env) := fun refs =>
    orderly_of_touches (touches_loadAttachments refs) List.not_mem_nil
  have hpayload : ∀ body, (sendSesPayload env outboundJobId body).Each KeepsJobs (JobStatement env) := by
    intro body
    rw [sendSesPayload]
    split
    · exact orderly_mockMessageId
    · split
      · exact orderly_postToProvider
      · trivial
  rw [sendThrough]
  split
  · exact orderly_mockMessageId
  · split
    · rw [sendWithResend]
      split
      · trivial
      · exact .bind (hattachments _) fun _ => orderly_postToProvider
    · rw [sendWithSes]
      split
      · exact .bind (hattachments _) fun _ =>
          .bind (orderly_of_touches touches_buildRawMimeMessage List.not_mem_nil) fun _ =>
            hpayload _
      · exact hpayload _

end Steps

/-! ### Protocols of consumers -/

/-- A protocol that statements other than the beginning of a send keep, with what a consumer is
that may begin one: its claim makes it so, and it stays so until it writes the job or begins the
send. -/
structure JobProtocol (ι : Type) [DecidableEq ι] (env : Env) where
  protocol : Protocol ι Db Label
  ready : ι → String → List (Event ι Label) → Prop
  good_silent : ∀ {i w run}, KeepsJobs run → protocol.inv w → protocol.Good i w (w.silent run)
  good_step : ∀ {i w name run o}, JobStatement env name run → protocol.inv w →
    protocol.allow i w (name w.store) o → protocol.Good i w (w.after i name run o)
  good_begin : ∀ {i w jobId draftR2Key o}, protocol.inv w → ready i jobId w.trace →
    protocol.Good i w (w.after i (fun _ => .beginSend jobId draftR2Key) id o)
  stable_ready : ∀ {i jobId}, protocol.Stable i fun w => ready i jobId w.trace
  ready_idle : ∀ {i jobId e trace}, e.label.idle = true → ready i jobId trace →
    ready i jobId (e :: trace)
  ready_claim : ∀ {i jobId n trace}, 0 < n → ready i jobId (⟨i, .claimJob jobId n, .done⟩ :: trace)

namespace JobProtocol

variable {ι : Type} [DecidableEq ι] {env : Env} (R : JobProtocol ι env) {i : ι} {jobId : String}
  {α : Type} {w : World ι Db Label} {ts : List Table}

include R

/-- A program that begins no send is safe. -/
theorem safe_orderly {ε : Type} {p : Prog Db Label ε α} (hp : p.Each KeepsJobs (JobStatement env))
    (hw : R.protocol.inv w) :
    R.protocol.Safe i (fun _ _ => True) (fun _ _ => True) p w :=
  Protocol.Safe.quiet (A := fun _ => True) (fun _ _ _ _ => trivial)
    (fun _ hrun _ hw _ => ⟨R.good_silent hrun hw, trivial⟩)
    (fun _ _ hstmt _ _ hw _ hallow => ⟨R.good_step hstmt hw hallow, trivial⟩) hp hw trivial

/-- A program that leaves the jobs alone leaves a consumer ready. -/
theorem safe_ready {p : Op α} (hp : Touches ts p) (hjobs : Table.outboundJobs ∉ ts)
    (hw : R.protocol.inv w) (hready : R.ready i jobId w.trace) :
    R.protocol.Safe i (fun _ w => R.ready i jobId w.trace) (fun _ _ => True) p w := by
  have hsafe : R.protocol.Safe i (fun _ w => R.ready i jobId w.trace)
      (fun _ w => R.ready i jobId w.trace) p w := by
    refine Protocol.Safe.quiet (T := Draws) (S := Within ts) R.stable_ready ?_ ?_ hp hw hready
    · intro run hrun w hw hready
      exact ⟨R.good_silent (fun s => (hrun s .outboundJobs).symm) hw, hready⟩
    · intro name run hwithin w o hw hready hallow
      have hidle : ∀ s, (name s).idle = true := fun s =>
        idle_of_table fun h => hjobs ((hwithin s).2 _ h)
      have hstmt : JobStatement env name run := fun s =>
        .same (hidle s) ((hwithin s).1 _ hjobs).symm
      exact ⟨R.good_step hstmt hw hallow, R.ready_idle (hidle w.store) hready⟩
  exact hsafe.mono hw (fun _ _ _ h => h) fun _ _ _ _ => trivial

theorem safe_sendStep {a : Assigned} {p : Op α} {Q : α → World ι Db Label → Prop}
    (hw : R.protocol.inv w) (h : R.protocol.Safe i Q (fun _ _ => True) p w) :
    R.protocol.Safe i Q (fun _ _ => True) (a.step p) w :=
  .tryCatch hw h fun _ _ _ _ => trivial

/-- The job that is read has the identifier it is read by. -/
theorem safe_getOutboundJob (hw : R.protocol.inv w) (hready : R.ready i jobId w.trace) :
    R.protocol.Safe i
      (fun row w => (∀ job, row = some job → job.id = jobId) ∧ R.ready i jobId w.trace)
      (fun _ _ => True) (getOutboundJob jobId) w := by
  have hread : JobStatement env (fun _ => .read .outboundJobs) fun s => s := fun s => .same rfl rfl
  refine .perform fun o ho => ⟨R.good_step hread hw ho, fun w' hl => ?_⟩
  split
  · refine ⟨fun job hjob => ?_, ?_⟩
    · have hfound := List.find?_some hjob
      simpa using (Bool.and_eq_true_iff.1 hfound).1
    · exact R.stable_ready _ _ (R.ready_idle (e := ⟨i, .read .outboundJobs, o⟩) rfl hready) hl
  · trivial

/-- A consumer whose claim succeeds is ready. -/
theorem safe_claim (hw : R.protocol.inv w) :
    R.protocol.Safe i (fun claimed w => claimed = true → R.ready i jobId w.trace)
      (fun _ _ => True) (claimOutboundJobForSend env jobId) w := by
  refine .bind hw (R.safe_orderly (orderly_of_touches touches_nowIso List.not_mem_nil) hw)
    (fun updatedAt w₁ hw₁ _ => ?_) fun _ _ _ h => h
  refine .bind (Q := fun changes w => changes ≠ 0 → R.ready i jobId w.trace) hw₁
    (.perform fun o ho => ⟨R.good_step jobStatement_claim hw₁ ho, fun w' hl => ?_⟩)
    (fun changes w₂ hw₂ hchanges => ?_) fun _ _ _ h => h
  · split
    · next hdone =>
      intro hne
      subst hdone
      exact R.stable_ready _ _ (R.ready_claim (Nat.pos_of_ne_zero hne)) hl
    · trivial
  · split
    · exact fun h => absurd h (by simp)
    · next hne =>
      refine .bind hw₂ (R.safe_getOutboundJob hw₂ (hchanges hne)) (fun row w₃ hw₃ hrow => ?_)
        fun _ _ _ h => h
      cases row with
      | some job => exact fun _ => hrow.2
      | none =>
        refine .bind hw₃ (R.safe_orderly orderly_discardJob hw₃) (fun _ _ _ _ => ?_)
          fun _ _ _ h => h
        exact fun h => absurd h (by simp)

/-- The send of a job begins, by a consumer that is ready. -/
theorem safe_sendOutboundDraft {draftR2Key : String} {input : OutboundDraftSendInput}
    (hw : R.protocol.inv w) (hready : R.ready i jobId w.trace) :
    R.protocol.Safe i (fun _ _ => True) (fun _ _ => True)
      (sendOutboundDraft env jobId draftR2Key input) w := by
  have hbegin : R.protocol.Safe i (fun _ _ => True) (fun _ _ => True)
      (mark (.beginSend jobId draftR2Key)) w := by
    intro o ho
    refine ⟨R.good_begin hw hready, fun w' _ => ?_⟩
    cases o <;> trivial
  exact .bind hw hbegin (fun _ _ hw' _ => R.safe_orderly orderly_sendThrough hw')
    fun _ _ _ h => h

theorem safe_deliver {c : SendContext} {recipients : Recipients} {content : PayloadContent}
    {mailboxAddress : String} {routed : RoutedRecipients} (hw : R.protocol.inv w)
    (hready : R.ready i c.job.id w.trace) :
    R.protocol.Safe i (fun _ _ => True) (fun _ _ => True)
      (deliver env c recipients content mailboxAddress routed) w := by
  have hdelivers : Touches (.ingestQueue :: ingestTables)
      (deliverLocallyToMailboxes env (c.delivery recipients content routed)) :=
    touches_deliverLocallyToMailboxes
  have hlocal := R.safe_ready hdelivers (by simp [ingestTables]) hw hready
  by_cases hexternal : routed.externalAddresses ≠ []
  · rw [deliver, if_pos hexternal]
    split
    · exact .bind hw hlocal (fun _ _ hw' hready' => R.safe_sendOutboundDraft hw' hready')
        fun _ _ _ h => h
    · exact R.safe_sendOutboundDraft hw hready
  · rw [deliver, if_neg hexternal]
    split
    · exact .bind hw hlocal (fun _ _ _ _ => trivial) fun _ _ _ h => h
    · trivial

/-- The send of a job by a consumer that is ready. -/
theorem safe_sendClaimed {c : SendContext} (hw : R.protocol.inv w)
    (hready : R.ready i c.job.id w.trace) :
    R.protocol.Safe i (fun _ _ => True) (fun _ _ => True) (sendClaimed env c) w := by
  have hreads : Touches [] (do
      let mailbox ← getMailboxById c.message.mailboxId
      let mailbox ← requireRow mailbox "Mailbox not found"
      let fields ← recordFields c.payload
      pure (mailbox.address, fields)) :=
    .bind touches_getMailboxById fun _ => .bind touches_requireRow fun _ =>
      .bind touches_recordFields fun _ => trivial
  refine .bind hw (R.safe_sendStep hw (R.safe_ready hreads (by simp) hw hready))
    (fun found w₁ hw₁ hready₁ => ?_) fun _ _ _ h => h
  obtain ⟨mailboxAddress, fields⟩ := found
  have hallowed : Touches [.sendPolicies, .accounts] (ensureDraftAllowed env c.draft) := by
    cases c.draft with
    | none => trivial
    | some draft => exact touches_ensureDraftSendAllowed
  refine R.safe_sendStep hw₁ (.bind hw₁ (R.safe_ready hallowed (by simp) hw₁ hready₁)
    (fun _ w₂ hw₂ hready₂ => ?_) fun _ _ _ h => h)
  have hadmits : Touches [] (admitRecipients env (sendRecipients fields)) :=
    touches_admitRecipients
  refine .bind hw₂ (R.safe_ready hadmits (by simp) hw₂ hready₂)
    (fun routed w₃ hw₃ hready₃ => ?_) fun _ _ _ h => h
  exact .bind hw₃ (R.safe_deliver hw₃ hready₃)
    (fun _ w₄ hw₄ _ => R.safe_orderly (covers_orderly env).finishSend hw₄) fun _ _ _ h => h

/-- An attempt at a job. -/
theorem safe_attemptSend (outboundJobId : String) (hw : R.protocol.inv w) :
    R.protocol.Safe i (fun _ _ => True) (fun _ _ => True) (attemptSend env outboundJobId) w := by
  have hcovers := covers_orderly env
  refine .bind hw (R.safe_orderly hcovers.loadSend hw) (fun c w₁ hw₁ _ => ?_) fun _ _ _ h => h
  split
  · exact R.safe_orderly hcovers.resumeSent hw₁
  split
  · split
    · exact R.safe_orderly hcovers.resumeKnownSent hw₁
    split
    · exact R.safe_orderly hcovers.resumeKnownFailed hw₁
    · exact R.safe_orderly hcovers.resumeInDoubt hw₁
  refine .bind hw₁ (R.safe_sendStep hw₁ (R.safe_claim hw₁))
    (fun claimed w₂ hw₂ hclaimed => ?_) fun _ _ _ h => h
  split
  · next hyes =>
    refine .bind hw₂ (R.safe_sendStep hw₂ (R.safe_getOutboundJob hw₂ (hclaimed hyes)))
      (fun row w₃ hw₃ hrow => ?_) fun _ _ _ h => h
    cases row with
    | none => trivial
    | some job =>
      have hid : job.id = c.job.id := hrow.1 job rfl
      have hready : R.ready i job.id w₃.trace := by
        rw [hid]
        exact hrow.2
      exact R.safe_sendClaimed hw₃ hready
  · trivial

/-- A batch of jobs. -/
theorem safe_handleOutboundSend (batch : List String) (hw : R.protocol.inv w) :
    R.protocol.Safe i (fun _ _ => True) (fun _ _ => True) (handleOutboundSend env batch) w := by
  induction batch generalizing w with
  | nil => trivial
  | cons outboundJobId rest ih =>
    have hone : R.protocol.Safe i (fun _ _ => True) (fun _ _ => True)
        (processOutboundSend env outboundJobId) w :=
      .tryCatch hw (R.safe_attemptSend outboundJobId hw) fun _ _ hw' _ =>
        R.safe_orderly (covers_orderly env).failSend hw'
    refine .bind hw hone (fun verdict w₁ hw₁ _ => ?_) fun _ _ _ h => h
    exact .bind hw₁ (ih hw₁) (fun _ _ _ _ => trivial) fun _ _ _ h => h

theorem holds_start (batches : ι → List String) (s : Db) (k : ι) :
    R.protocol.Holds k (fun _ _ => True) (fun _ _ => True)
      ((startSends env batches s).threads k) (startSends env batches s).world :=
  fun _ hl => R.safe_handleOutboundSend (batches k) hl.inv

/-- **Run rule**: the invariant holds in every state that consumers come to. -/
theorem inv_of_meets {batches : ι → List String} {s : Db} {schedule : List (ι × Outcome)}
    (hs : R.protocol.inv ⟨s, []⟩)
    (h : (startSends env batches s).Meets R.protocol.allow schedule) :
    R.protocol.inv ((startSends env batches s).exec schedule).world :=
  (Protocol.exec hs (R.holds_start batches s) h).1

/-- From one such state to a later one the consumers keep to the protocol. -/
theorem keeps_of_meets {batches : ι → List String} {s : Db} {schedule later : List (ι × Outcome)}
    (hs : R.protocol.inv ⟨s, []⟩)
    (h : (startSends env batches s).Meets R.protocol.allow (schedule ++ later)) :
    R.protocol.keeps ((startSends env batches s).exec schedule).world
      ((startSends env batches s).exec (schedule ++ later)).world :=
  Protocol.exec_keeps hs (R.holds_start batches s) h

end JobProtocol

end MailRuntime
