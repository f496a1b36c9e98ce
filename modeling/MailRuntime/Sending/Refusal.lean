import MailRuntime.Mail.Parser
import MailRuntime.Sending.Calm

/-!
# What the consumer refuses

The consumer looks up each external recipient among the suppressions under its whole text,
trimmed and in lower case, and refuses the job if one is there. The results are about the
mailboxes and the suppressions of a database and three lists of recipients, whatever the rest of
the database is and whatever becomes of the statements of the attempt: a job whose recipients
are refused is not sent (`neverSent_of_refuses`).
-/

namespace MailRuntime

open Js Interaction

/-- A recipient that is routed externally denotes an address that is suppressed. -/
def Db.DenotesSuppressed (s : Db) (env : Env) (recipients : Recipients) : Prop :=
  ∃ v ∈ recipients.toList ++ recipients.ccList ++ recipients.bccList,
    normalizeRecipientAddress env v ∈ (s.route env recipients).externalAddresses ∧
    ∃ address, extractPrimaryAddress env (some v.toList) = some address ∧
      (s.suppression env address).isSome = true

/-- The fields of the payload under a key, as far as it has any. -/
def Db.payloadFields (s : Db) (draftR2Key : String) : Option Fields :=
  match s.object draftR2Key with
  | some (.json .null) => none
  | some (.json (.obj fields)) => some fields
  | some (.json _) => some []
  | some (.bytes _ _) | none => none

/-- One attempt at a job, before it begins. -/
def startSend (env : Env) (s : Db) (outboundJobId : String) : Config Unit Db Label Exn Verdict :=
  ⟨⟨s, []⟩, fun _ => processOutboundSend env outboundJobId⟩

/-- The databases with the same mailboxes and suppressions, and in them every job whose payload
has those recipients: no attempt at it hands it to `sendOutboundDraft`. -/
def Db.NeverSent (s : Db) (env : Env) (recipients : Recipients) : Prop :=
  ∀ (s' : Db) (outboundJobId : String) (job : OutboundJobRow) (fields : Fields),
    s'.mailboxes = s.mailboxes → s'.suppressions = s.suppressions →
    s'.outboundJob outboundJobId = some job → s'.payloadFields job.draftR2Key = some fields →
    sendRecipients fields = recipients → ∀ schedule,
      ∀ e ∈ ((startSend env s' outboundJobId).exec schedule).world.trace, e.label.sends = false

/-- The whole text of a recipient, trimmed and in lower case, is suppressed. -/
def Db.blocks (s : Db) (env : Env) (recipient : String) : Bool :=
  let normalized := normalizeRecipientAddress env recipient
  truthy normalized && (s.suppression env normalized).isSome

/-- The consumer refuses to send to those recipients. -/
def Db.refuses (s : Db) (env : Env) (recipients : Recipients) : Bool :=
  (s.route env recipients).externalAddresses.any (s.blocks env) ||
  (getOutboundRecipientRoutingValidationError (s.route env recipients)).isSome

/-! ### A refusal keeps a job from being sent -/

section Refusal

variable {env : Env} {s : Db} {α : Type}

/-- The mailboxes and the suppressions are those, and no job has been handed over. -/
def Unsent (s : Db) (w : World Unit Db Label) : Prop :=
  w.store.mailboxes = s.mailboxes ∧ w.store.suppressions = s.suppressions ∧
    ∀ e ∈ w.trace, e.label.sends = false

/-- An attempt, whatever becomes of its statements. -/
abbrev attempt (s : Db) : Protocol Unit Db Label := alone (Unsent s) fun _ _ _ => True

theorem Unsent.silent {w : World Unit Db Label} {run : Db → Db} (hw : Unsent s w)
    (hrun : Steady run) : Unsent s (w.silent run) := by
  obtain ⟨hmailboxes, hsuppressions, htrace⟩ := hw
  exact ⟨(hrun _).1.trans hmailboxes, (hrun _).2.trans hsuppressions, htrace⟩

theorem Unsent.after {w : World Unit Db Label} {name : Db → Label} {run : Db → Db}
    (hw : Unsent s w) (hstmt : CalmStatement name run) (o : Outcome) :
    Unsent s (w.after () name run o) := by
  obtain ⟨hmailboxes, hsuppressions, htrace⟩ := hw
  obtain ⟨hrun, hname⟩ := hstmt
  refine ⟨?_, ?_, ?_⟩
  · rw [World.after_store]
    split
    · exact (hrun _).1.trans hmailboxes
    · exact hmailboxes
  · rw [World.after_store]
    split
    · exact (hrun _).2.trans hsuppressions
    · exact hsuppressions
  · intro e he
    rcases List.mem_cons.1 he with rfl | he
    · exact hname _
    · exact htrace e he

/-- A calm program is safe. -/
theorem Calm.safe {ε : Type} {p : Prog Db Label ε α} (hp : Calm p) {w : World Unit Db Label}
    (hw : Unsent s w) : (attempt s).Safe () (fun _ _ => True) (fun _ _ => True) p w :=
  safe_alone_of_each (A := fun _ => True) (fun _ hrun _ hw _ => ⟨hw.silent hrun, trivial⟩)
    (fun _ _ hstmt _ o hw _ _ => ⟨hw.after hstmt o, trivial⟩) hp hw trivial

/-- A query answers what the database says, and leaves it so. -/
theorem safe_query {l : Label} {f : Db → α} {Q : α → World Unit Db Label → Prop}
    {w : World Unit Db Label} (hl : l.sends = false) (hw : Unsent s w)
    (hQ : ∀ w', w'.store = w.store → Q (f w.store) w') :
    (attempt s).Safe () Q (fun _ _ => True) (query l f) w := by
  refine safe_perform_alone fun o _ => ⟨hw.after ⟨fun _ => ⟨rfl, rfl⟩, fun _ => hl⟩ o, ?_⟩
  split
  · refine hQ _ ?_
    rw [World.after_store]
    split <;> rfl
  · trivial

theorem safe_step {a : Assigned} {p : Op α} {Q : α → World Unit Db Label → Prop}
    {w : World Unit Db Label} (hw : Unsent s w)
    (h : (attempt s).Safe () Q (fun _ _ => True) p w) :
    (attempt s).Safe () Q (fun _ _ => True) (a.step p) w :=
  .tryCatch hw h fun _ _ _ _ => trivial

theorem safe_localMailboxes (addresses : List String) {w : World Unit Db Label}
    (hw : Unsent s w) :
    (attempt s).Safe () (fun found _ => found = s.localMailboxes env addresses) (fun _ _ => True)
      (localMailboxes env addresses) w := by
  induction addresses generalizing w with
  | nil => rfl
  | cons address rest ih =>
    refine .bind hw (safe_query (Q := fun mailbox _ => mailbox = s.mailboxByAddress env address)
      rfl hw fun w' _ => ?_) (fun mailbox w' hw' hmailbox => ?_) fun _ _ _ h => h
    · rw [Db.mailboxByAddress, hw.1, Db.mailboxByAddress]
    · refine .bind hw' (ih hw') (fun others _ _ hothers => ?_) fun _ _ _ h => h
      rw [hmailbox, hothers]
      rfl

theorem safe_routeOutboundRecipients (recipients : Recipients) {w : World Unit Db Label}
    (hw : Unsent s w) :
    (attempt s).Safe () (fun routed _ => routed = s.route env recipients) (fun _ _ => True)
      (routeOutboundRecipients env recipients) w := by
  refine .bind hw (safe_localMailboxes _ hw) (fun found _ _ hfound => ?_) fun _ _ _ h => h
  rw [hfound]
  rfl

theorem safe_suppressedAmong (recipients : List String) {w : World Unit Db Label}
    (hw : Unsent s w) :
    (attempt s).Safe ()
      (fun found _ => found = recipients.filter fun r => (s.suppression env r).isSome)
      (fun _ _ => True) (suppressedAmong env recipients) w := by
  induction recipients generalizing w with
  | nil => rfl
  | cons recipient rest ih =>
    refine .bind hw (safe_query (Q := fun row _ => row = s.suppression env recipient) rfl hw
      fun w' _ => ?_) (fun row w' hw' hrow => ?_) fun _ _ _ h => h
    · rw [Db.suppression, hw.2.1, Db.suppression]
    · refine .bind hw' (ih hw') (fun others _ _ hothers => ?_) fun _ _ _ h => h
      rw [hrow, hothers, List.filter_cons]
      rfl

/-- The recipients that the consumer finds suppressed. -/
def Db.suppressedRecipients (s : Db) (env : Env) (recipients : List String) : List String :=
  ((recipients.map (normalizeRecipientAddress env)).filter truthy).eraseDups.filter
    fun r => (s.suppression env r).isSome

/-- There are some exactly if one of the recipients is blocked. -/
theorem suppressedRecipients_isEmpty (recipients : List String) :
    (s.suppressedRecipients env recipients).isEmpty = !recipients.any (s.blocks env) := by
  have hiff : (s.suppressedRecipients env recipients).isEmpty = true ↔
      recipients.any (s.blocks env) = false := by
    rw [List.isEmpty_iff, Db.suppressedRecipients, List.filter_eq_nil_iff, List.any_eq_false]
    constructor
    · intro h r hr hblocks
      simp only [Db.blocks, Bool.and_eq_true] at hblocks
      refine h (normalizeRecipientAddress env r) ?_ hblocks.2
      rw [List.mem_eraseDups, List.mem_filter]
      exact ⟨List.mem_map_of_mem hr, hblocks.1⟩
    · intro h r hr
      rw [List.mem_eraseDups, List.mem_filter, List.mem_map] at hr
      obtain ⟨⟨v, hv, rfl⟩, htruthy⟩ := hr
      intro hsome
      exact h v hv (by simp [Db.blocks, htruthy, hsome])
  cases h : recipients.any (s.blocks env) with
  | false => simpa using hiff.2 h
  | true =>
    rw [Bool.not_true, ← Bool.not_eq_true]
    intro hempty
    rw [hiff.1 hempty] at h
    cases h

/-- Recipients that are refused are not admitted. -/
theorem safe_admitRecipients {recipients : Recipients} (h : s.refuses env recipients = true)
    {w : World Unit Db Label} (hw : Unsent s w) :
    (attempt s).Safe () (fun _ _ => False) (fun _ _ => True) (admitRecipients env recipients) w := by
  refine .bind hw (safe_routeOutboundRecipients recipients hw)
    (fun routed w' hw' hrouted => ?_) fun _ _ _ h => h
  subst hrouted
  refine .bind hw' (safe_suppressedAmong _ hw') (fun suppressed w'' hw'' hsuppressed => ?_)
    fun _ _ _ h => h
  have hempty : suppressed.isEmpty = !(s.route env recipients).externalAddresses.any
      (s.blocks env) := by
    rw [hsuppressed]
    exact suppressedRecipients_isEmpty _
  split
  · trivial
  · next hnone =>
    have hany : (s.route env recipients).externalAddresses.any (s.blocks env) = false := by
      rw [hempty] at hnone
      simpa using hnone
    rw [Db.refuses, hany, Bool.false_or] at h
    split
    · trivial
    · next hvalid =>
      rw [hvalid] at h
      cases h

/-- What an attempt knows after its first reads. -/
def Loaded (s : Db) (outboundJobId : String) (c : SendContext) : Prop :=
  s.outboundJob outboundJobId = some c.job ∧ s.object c.job.draftR2Key = some (.json c.payload)

theorem safe_loadSend (outboundJobId : String) {w : World Unit Db Label} (hw : Unsent s w)
    (hstore : w.store = s) :
    (attempt s).Safe () (fun c _ => Loaded s outboundJobId c) (fun _ _ => True)
      (loadSend outboundJobId) w := by
  refine .bind (Q := fun job w' => s.outboundJob outboundJobId = some job ∧ w'.store = s) hw
    (safe_step hw (.bind hw (safe_query (Q := fun row w' =>
      row = s.outboundJob outboundJobId ∧ w'.store = s) rfl hw fun w' hw' => ?_)
      (fun row w' _ hrow => ?_) fun _ _ _ h => h))
    (fun job w₁ hw₁ hjob => ?_) fun _ _ _ h => h
  · rw [hw', hstore]
    exact ⟨rfl, rfl⟩
  · obtain ⟨hrow, hstore'⟩ := hrow
    cases row with
    | none => trivial
    | some job => exact ⟨hrow.symm, hstore'⟩
  obtain ⟨hjob, hstore₁⟩ := hjob
  refine .bind (Q := fun payload _ => s.object job.draftR2Key = some (.json payload)) hw₁
    (safe_step hw₁ (.bind hw₁ (safe_query (Q := fun object _ =>
      object = s.object job.draftR2Key) rfl hw₁ fun w' _ => ?_)
      (fun object w' _ hobject => ?_) fun _ _ _ h => h))
    (fun payload w₂ hw₂ hpayload => ?_) fun _ _ _ h => h
  · rw [hstore₁]
  · cases object with
    | none => trivial
    | some object =>
      cases object with
      | bytes content contentType => trivial
      | json payload => exact hobject.symm
  refine .bind hw₂ (safe_step hw₂ ((calm_of_reads
      touches_getDraftByR2KeyForOutboundLifecycle).safe hw₂))
    (fun draft w₃ hw₃ _ => ?_) fun _ _ _ h => h
  refine .bind hw₃ (safe_step hw₃ (Calm.safe ?_ hw₃)) (fun message w₄ hw₄ _ => ?_)
    fun _ _ _ h => h
  · exact .bind (calm_of_reads touches_getMessage) fun _ => .bind (calm_of_reads
      touches_requireRow) fun _ => .bind (calm_of_reads touches_listDeliveryEventsByMessageId)
      fun _ => trivial
  · exact ⟨hjob, hpayload⟩

/-- The fields that are read of a loaded payload. -/
theorem recordFields_eq {payload : Json} {fields : Fields} {draftR2Key : String}
    (hobject : s.object draftR2Key = some (.json payload))
    (hfields : s.payloadFields draftR2Key = some fields) :
    recordFields payload = Prog.ret fields := by
  rw [Db.payloadFields, hobject] at hfields
  cases payload with
  | null => cases hfields
  | obj found =>
    obtain rfl := Option.some.inj hfields
    rfl
  | bool _ | num _ | decimal _ | str _ | arr _ =>
    obtain rfl := Option.some.inj hfields
    rfl

/-- A job whose recipients are refused is not sent. -/
theorem safe_attemptSend {outboundJobId : String} {job : OutboundJobRow} {fields : Fields}
    (hjob : s.outboundJob outboundJobId = some job)
    (hfields : s.payloadFields job.draftR2Key = some fields)
    (h : s.refuses env (sendRecipients fields) = true) {w : World Unit Db Label}
    (hw : Unsent s w) (hstore : w.store = s) :
    (attempt s).Safe () (fun _ _ => True) (fun _ _ => True) (attemptSend env outboundJobId) w := by
  have hcovers := covers_calm env
  refine .bind hw (safe_loadSend outboundJobId hw hstore) (fun c w₁ hw₁ hloaded => ?_)
    fun _ _ _ h => h
  obtain ⟨hc, hobject⟩ := hloaded
  obtain rfl : job = c.job := Option.some.inj (hjob.symm.trans hc)
  split
  · exact Calm.safe hcovers.resumeSent hw₁
  split
  · split
    · exact Calm.safe hcovers.resumeKnownSent hw₁
    split
    · exact Calm.safe hcovers.resumeKnownFailed hw₁
    · exact Calm.safe hcovers.resumeInDoubt hw₁
  refine .bind hw₁ (safe_step hw₁ (Calm.safe hcovers.claimJob hw₁))
    (fun claimed w₂ hw₂ _ => ?_) fun _ _ _ h => h
  split
  · refine .bind hw₂ (safe_step hw₂ ((calm_of_reads touches_getOutboundJob).safe hw₂))
      (fun row w₃ hw₃ _ => ?_) fun _ _ _ h => h
    cases row with
    | none => trivial
    | some job =>
      refine .bind (Q := fun found _ => found.2 = fields) hw₃ (safe_step hw₃ (.bind hw₃
        ((calm_of_reads touches_getMailboxById).safe hw₃) (fun mailbox w₄ hw₄ _ => ?_)
        fun _ _ _ h => h)) (fun found w₄ hw₄ hfound => ?_) fun _ _ _ h => h
      · refine .bind hw₄ ((calm_of_reads touches_requireRow).safe hw₄)
          (fun mailbox w₅ hw₅ _ => ?_) fun _ _ _ h => h
        rw [recordFields_eq hobject hfields]
        rfl
      · obtain ⟨mailboxAddress, found⟩ := found
        obtain rfl : found = fields := hfound
        refine safe_step hw₄ (.bind hw₄ (Calm.safe hcovers.ensureDraftAllowed hw₄)
          (fun _ w₅ hw₅ _ => ?_) fun _ _ _ h => h)
        exact .bind hw₅ (safe_admitRecipients h hw₅) (fun _ _ _ hfalse => hfalse.elim)
          fun _ _ _ h => h
  · trivial

/-- No attempt at a job whose recipients are refused hands it to `sendOutboundDraft`. -/
theorem neverSent_of_refuses {recipients : Recipients} (h : s.refuses env recipients = true) :
    s.NeverSent env recipients := by
  intro s' outboundJobId job fields hmailboxes hsuppressions hjob hfields hrecipients schedule
  have hrefuses : s'.refuses env (sendRecipients fields) = true := by
    have hblocks : s'.blocks env = s.blocks env := by
      funext r
      simp only [Db.blocks, Db.suppression, hsuppressions]
    rw [Db.refuses, Db.route_congr hmailboxes, hblocks, hrecipients]
    exact h
  have hstart : Unsent s' ⟨s', []⟩ := ⟨rfl, rfl, fun e he => by cases he⟩
  have hsafe : (attempt s').Safe () (fun _ _ => True) (fun _ _ => True)
      (processOutboundSend env outboundJobId) ⟨s', []⟩ :=
    .tryCatch hstart (safe_attemptSend hjob hfields hrefuses hstart rfl)
      fun _ _ hw' _ => Calm.safe (covers_calm env).failSend hw'
  exact (inv_of_safe_alone hstart hsafe (Config.meets_of_all (fun _ _ _ _ => trivial) _ _)).2.2

end Refusal

end MailRuntime
