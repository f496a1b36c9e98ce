import MailRuntime.Executing.TaskSteps
import MailRuntime.Outbound.Authorization

/-!
# What the parts of ingest and of execution do to the tasks

Most of what ingest and the consumers do leaves the tasks alone, or gives a visible task to
review: such a program is *quiet*. Who is to execute a task is an agent of its mailbox's tenant,
however often the rows it is told by change while it is found out.
-/

namespace MailRuntime

open Js Interaction

variable {start : Db} {messageId : String} {env : Env}

/-! ### Who is to execute -/

section Targets

variable {tenantId mailboxId agentId : String} {roles : List MailboxRole} {cache : TenantMatches}

theorem Db.SameParents.agentOfTenant {s : Db} (h : start.SameParents s) (tenantId agentId : String) :
    s.agentOfTenant tenantId agentId = start.agentOfTenant tenantId agentId := by
  simp only [Db.agentOfTenant, Db.agent, h.agents]

theorem returnsIn_agentMatchesMailboxTenant (hcache : start.Remembers tenantId cache) :
    (agentMatchesMailboxTenant tenantId agentId cache).ReturnsIn start.SameParents fun answer =>
      answer.1 = start.agentOfTenant tenantId agentId ∧ start.Remembers tenantId answer.2 := by
  unfold agentMatchesMailboxTenant
  split
  · next cached hcached => exact ⟨hcache agentId cached hcached, hcache⟩
  · refine Prog.ReturnsIn.bind (B := fun agent =>
      (agent.any fun a => a.tenantId == tenantId) = start.agentOfTenant tenantId agentId)
      (Prog.returnsIn_perform fun s hs => hs.agentOfTenant tenantId agentId) fun agent hagent => ?_
    refine ⟨hagent, fun other found hfound => ?_⟩
    rw [List.lookup_cons] at hfound
    split at hfound
    · next heq =>
      rw [beq_iff_eq.1 heq, ← hagent]
      exact (Option.some.inj hfound).symm
    · exact hcache other found hfound

/-- The deployments that the loop finds are of agents of the tenant. -/
theorem returnsIn_chooseDeployment (rows : List DeploymentRow) (fallback : Option DeploymentRow)
    (hcache : start.Remembers tenantId cache)
    (hfallback : ∀ d, fallback = some d → start.agentOfTenant tenantId d.agentId = true) :
    (chooseDeployment tenantId mailboxId roles fallback cache rows).ReturnsIn start.SameParents
      fun choice => start.Remembers tenantId choice.cache ∧
        (∀ d, choice.chosen = some d → start.agentOfTenant tenantId d.agentId = true) ∧
        ∀ d, choice.fallback = some d → start.agentOfTenant tenantId d.agentId = true := by
  induction rows generalizing fallback cache with
  | nil => exact ⟨hcache, (fun d h => nomatch h), hfallback⟩
  | cons d rest ih =>
    refine (returnsIn_agentMatchesMailboxTenant hcache).bind ?_
    rintro ⟨found, cache'⟩ ⟨hfound, hcache'⟩
    dsimp only at hfound hcache' ⊢
    split
    · next htrue =>
      have hd : start.agentOfTenant tenantId d.agentId = true := hfound.symm.trans htrue
      refine .bind_any fun bound => ?_
      split
      · refine ⟨hcache', fun d' h => ?_, hfallback⟩
        obtain rfl := Option.some.inj h
        exact hd
      · refine .bind_any fun other => ih _ hcache' fun d' h => ?_
        split at h
        · obtain rfl := Option.some.inj h
          exact hd
        · exact hfallback d' h
    · exact ih _ hcache' hfallback

theorem returnsIn_chooseBinding (agentIds : List String) (hcache : start.Remembers tenantId cache) :
    (chooseBinding tenantId cache agentIds).ReturnsIn start.SameParents fun answer =>
      (∀ agentId, answer.1 = some agentId → start.agentOfTenant tenantId agentId = true) ∧
        start.Remembers tenantId answer.2 := by
  induction agentIds generalizing cache with
  | nil => exact ⟨(fun _ h => nomatch h), hcache⟩
  | cons agentId rest ih =>
    refine (returnsIn_agentMatchesMailboxTenant hcache).bind ?_
    rintro ⟨found, cache'⟩ ⟨hfound, hcache'⟩
    dsimp only at hfound hcache' ⊢
    split
    · next htrue =>
      refine ⟨fun other h => ?_, hcache'⟩
      obtain rfl := Option.some.inj h
      exact hfound.symm.trans htrue
    · exact ih hcache'

theorem returnsIn_resolveMailboxTarget :
    (resolveMailboxTarget tenantId mailboxId roles).ReturnsIn start.SameParents fun answer =>
      ∀ target, answer = some target → start.agentOfTenant tenantId target.agentId = true := by
  refine .bind_any fun rows => (returnsIn_chooseDeployment rows none remembers_nil
    fun d h => nomatch h).bind ?_
  rintro choice ⟨hcache, hchosen, hfallback⟩
  split
  · next d hd =>
    intro target h
    obtain rfl := Option.some.inj h
    exact hchosen d hd
  · refine .bind_any fun bindings => (returnsIn_chooseBinding bindings hcache).bind ?_
    rintro ⟨bound, cache'⟩ ⟨hbound, hcache'⟩
    dsimp only at hbound hcache' ⊢
    split
    · next agentId =>
      intro target h
      obtain rfl := Option.some.inj h
      exact hbound agentId rfl
    · next d hd =>
      intro target h
      obtain rfl := Option.some.inj h
      exact hfallback d hd
    · refine .bind_any fun bindings => (returnsIn_chooseBinding bindings hcache').bind ?_
      rintro ⟨bound, _⟩ ⟨hbound, -⟩
      intro target h
      obtain ⟨agentId, hagent, rfl⟩ := Option.map_eq_some_iff.1 h
      exact hbound agentId hagent

/-- What follows the loop, for a requested agent. -/
def targetOfChoice (agentId : String) (bound : Bool) (choice : DeploymentChoice) :
    Op (Option ExecutionTarget) :=
  match choice.chosen <|> choice.fallback with
  | some d => pure (some d.target)
  | none =>
    if bound then
      query (.read .agents) fun s => (s.agent agentId).map fun agent =>
        ⟨agentId, s.defaultVersionId agent, none⟩
    else pure none

theorem returnsIn_resolveRequestedTarget (hcache : start.Remembers tenantId cache)
    (hagent : start.agentOfTenant tenantId agentId = true) :
    (resolveRequestedTarget tenantId mailboxId roles agentId cache).ReturnsIn start.SameParents
      fun answer => ∀ target, answer = some target →
        start.agentOfTenant tenantId target.agentId = true := by
  refine .bind_any fun bound => ?_
  have hdeployed : (do
      let rows ← query (.read .agentDeployments) fun s =>
        s.mailboxDeployments tenantId mailboxId (some agentId)
      let choice ← chooseDeployment tenantId mailboxId roles none cache rows
      targetOfChoice agentId bound choice : Op (Option ExecutionTarget)).ReturnsIn
        start.SameParents fun answer => ∀ target, answer = some target →
          start.agentOfTenant tenantId target.agentId = true := by
    refine .bind_any fun rows => (returnsIn_chooseDeployment rows none hcache
      fun d h => nomatch h).bind ?_
    rintro choice ⟨-, hchosen, hfallback⟩
    unfold targetOfChoice
    split
    · next d hd =>
      intro target h
      obtain rfl := Option.some.inj h
      cases hc : choice.chosen with
      | some d' =>
        rw [hc] at hd
        obtain rfl := Option.some.inj hd
        exact hchosen d' hc
      | none =>
        rw [hc] at hd
        exact hfallback d hd
    · split
      · refine Prog.returnsIn_perform fun s _ target h => ?_
        obtain ⟨agent, -, rfl⟩ := Option.map_eq_some_iff.1 h
        exact hagent
      · exact fun target h => nomatch h
  cases bound with
  | true => exact hdeployed
  | false =>
    refine .bind_any fun other => ?_
    cases other with
    | true => exact fun target h => nomatch h
    | false => exact hdeployed

/-- Whoever is to execute is an agent of the mailbox's tenant. -/
theorem returnsIn_resolveAgentExecutionTarget {requestedAgentId : Option String} :
    (resolveAgentExecutionTarget mailboxId requestedAgentId roles).ReturnsIn start.SameParents
      fun answer => ∀ target, answer = some target → ∃ mailbox,
        start.mailbox mailboxId = some mailbox ∧
          start.ownsAgent mailbox.tenantId target.agentId = true := by
  refine Prog.ReturnsIn.bind (B := fun mailbox => mailbox = start.mailbox mailboxId)
    (Prog.returnsIn_perform fun s hs => ?_) fun answer hanswer => ?_
  · simp only [Db.mailbox, hs.mailboxes]
  · cases answer with
    | none =>
      intro target h
      cases h
    | some mailbox =>
      have howns : ∀ agentId, start.agentOfTenant mailbox.tenantId agentId = true →
          ∃ m, start.mailbox mailboxId = some m ∧ start.ownsAgent m.tenantId agentId = true :=
        fun agentId h => ⟨mailbox, hanswer.symm, Db.ownsAgent_of_agentOfTenant h⟩
      dsimp only
      split
      · rw [← bind_pure (resolveMailboxTarget _ _ _)]
        exact returnsIn_resolveMailboxTarget.bind fun answer h target ht =>
          howns _ (h target ht)
      · refine (returnsIn_agentMatchesMailboxTenant remembers_nil).bind ?_
        rintro ⟨found, cache'⟩ ⟨hfound, hcache'⟩
        dsimp only at hfound hcache' ⊢
        split
        · next htrue =>
          rw [← bind_pure (resolveRequestedTarget _ _ _ _ _)]
          exact (returnsIn_resolveRequestedTarget hcache' (hfound.symm.trans htrue)).bind
            fun answer h target ht => howns _ (h target ht)
        · intro target h
          cases h

end Targets

/-! ### Quiet programs -/

section Quiet

variable {α β : Type} {ts : List Table}

/-- The statement has one of the effects on the tasks, and leaves alone what makes them visible. -/
def QuietStep (start : Db) (messageId : String) (name : Db → Label) (run : Db → Db) : Prop :=
  ∀ s, start.SameParents s →
    TaskEffect start messageId s (run s) (name s) ∧ start.SameParents (run s)

/-- So do all statements of the program. -/
def Quiet (start : Db) (messageId : String) (p : Op α) : Prop :=
  p.Each Draws (QuietStep start messageId)

theorem Quiet.bind {p : Op α} {f : α → Op β} (hp : Quiet start messageId p)
    (hf : ∀ a, Quiet start messageId (f a)) : Quiet start messageId (p >>= f) :=
  Prog.Each.bind hp hf

theorem Quiet.tryCatch {p : Op α} {f : Exn → Op α} (hp : Quiet start messageId p)
    (hf : ∀ e, Quiet start messageId (f e)) : Quiet start messageId (tryCatch p f) :=
  Prog.Each.tryCatch hp hf

theorem Quiet.catchAll {p : Op α} {value : α} (hp : Quiet start messageId p) :
    Quiet start messageId (catchAll p value) := Prog.Each.tryCatch hp fun _ => trivial

theorem Label.ofTask_of_table {l : Label} (h : l.table ≠ some .tasks) : l.ofTask = false := by
  cases l <;> first | rfl | exact absurd rfl h

/-- What touches neither the tasks nor their parents is quiet. -/
theorem quiet_of_touches {p : Op α} (hp : Touches ts p)
    (h : ∀ t ∈ [Table.tasks, .mailboxes, .agents, .messages], t ∉ ts) :
    Quiet start messageId p := by
  refine Prog.Each.mono hp (fun _ hrun => hrun) fun name run hwithin s hs => ?_
  obtain ⟨hsame, htable⟩ := hwithin s
  have htasks : Table.tasks.Same s (run s) := hsame _ (h _ (by simp))
  have hmailboxes : Table.mailboxes.Same s (run s) := hsame _ (h _ (by simp))
  have hagents : Table.agents.Same s (run s) := hsame _ (h _ (by simp))
  have hmessages : Table.messages.Same s (run s) := hsame _ (h _ (by simp))
  refine ⟨.same (Label.ofTask_of_table fun ht => h _ (by simp) (htable _ ht)) htasks.symm,
    hmailboxes.symm.trans hs.mailboxes, hagents.symm.trans hs.agents, ?_⟩
  intro tenantId mailboxId id
  rw [← hs.messages]
  simp only [Db.ownsMessage, show (run s).messages = s.messages from hmessages.symm]

theorem quiet_reads {p : Op α} (hp : Touches [] p) : Quiet start messageId p :=
  quiet_of_touches hp (by decide)

/-- An update of messages that stay whose they are. -/
theorem quiet_updateMessages {l : Nat → Label} {target : Db → MessageRow → Bool}
    {set : MessageRow → MessageRow} (hl : ∀ n, (l n).ofTask = false)
    (hset : ∀ m, (set m).id = m.id ∧ (set m).tenantId = m.tenantId ∧
      (set m).mailboxId = m.mailboxId) :
    Quiet start messageId (messageRows.updateAs l target set) := by
  refine Prog.each_perform.2 fun s hs => ⟨.same (hl _) rfl, hs.mailboxes, hs.agents, ?_⟩
  intro tenantId mailboxId id
  rw [← hs.messages]
  simp only [Db.ownsMessage, Rows.updated, messageRows, List.any_map]
  congr 1
  funext m
  simp only [Function.comp]
  split
  · obtain ⟨hid, htenant, hmailbox⟩ := hset m
    rw [hid, htenant, hmailbox]
  · rfl

theorem quiet_updateMessageStatus {status : MessageStatus} {id : String} :
    Quiet start messageId (updateMessageStatus id status) := by
  unfold updateMessageStatus updateMessage
  exact .bind (quiet_updateMessages (fun _ => rfl) fun _ => ⟨rfl, rfl, rfl⟩) fun _ =>
    quiet_reads touches_requireStateUpdateApplied

theorem quiet_assignMessageThreadId {id threadId : String} :
    Quiet start messageId (assignMessageThreadId id threadId) :=
  .bind (quiet_updateMessages (fun _ => rfl) fun _ => ⟨rfl, rfl, rfl⟩) fun _ =>
    quiet_reads touches_requireStateUpdateApplied

theorem quiet_updateInboundMessageNormalized {input : NormalizedInput} :
    Quiet start messageId (updateInboundMessageNormalized input) :=
  .bind (quiet_updateMessages (fun _ => rfl) fun _ => ⟨rfl, rfl, rfl⟩) fun _ =>
    quiet_reads touches_requireStateUpdateApplied

theorem Db.SameParents.tasksUpdated {s : Db} (h : start.SameParents s) (target : TaskRow → Bool)
    (set : TaskRow → TaskRow) : start.SameParents (taskRows.updated s target set).2 :=
  ⟨h.mailboxes, h.agents, h.messages⟩

/-- A visible task is given to review. -/
theorem quiet_reviewTask {taskId : String} {resultR2Key : Option String} :
    Quiet start messageId (updateTaskStatus env taskId .needsReview resultR2Key) := by
  refine .bind (quiet_reads touches_nowIso) fun updatedAt => .bind ?_ fun _ =>
    quiet_reads touches_requireStateUpdateApplied
  refine Prog.each_perform.2 fun s hs => ⟨.update taskId _ _ ⟨?_, ?_, ?_⟩
    (.written .needsReview (.inr rfl) fun _ => rfl) rfl, hs.tasksUpdated _ _⟩
  · intro t _ ht
    simpa [hs.taskVisible] using ht
  · intro t _ _
    exact ⟨rfl, rfl, rfl, rfl, rfl⟩
  · intro t _ ht
    rw [Bool.and_eq_true, hs.taskVisible] at ht
    exact ht.2

/-- A queued task is claimed. -/
theorem quiet_claim {taskId : String} {updatedAt : Nat} :
    Quiet start messageId (taskRows.updateAs (.claimTask taskId)
      (fun s t => t.id == taskId && t.status == .queued && s.taskVisible t)
      fun t => { t with status := .running, updatedAt := updatedAt }) := by
  refine Prog.each_perform.2 fun s hs => ⟨.update taskId _ _ ⟨?_, ?_, ?_⟩
    (.claimed ?_ fun _ => rfl) rfl, hs.tasksUpdated _ _⟩
  · intro t _ ht
    simp only [Bool.and_eq_true, beq_iff_eq, hs.taskVisible] at ht
    exact ⟨ht.1.1, ht.2⟩
  · intro t _ _
    exact ⟨rfl, rfl, rfl, rfl, rfl⟩
  · intro t _ ht
    simp only [Bool.and_eq_true, hs.taskVisible] at ht
    exact ht.2
  · intro t ht
    simp only [Bool.and_eq_true, beq_iff_eq] at ht
    exact ht.1.2

/-! ### The parts of ingest -/

theorem quiet_threadOfCandidate {selected : ReplyFallbackCandidate} {subjectNorm : String} :
    Quiet start messageId (threadOfCandidate env selected subjectNorm) := by
  rw [threadOfCandidate]
  split
  · trivial
  · refine .bind (quiet_of_touches touches_getOrCreateThread (by decide)) fun thread =>
      .bind (.tryCatch quiet_assignMessageThreadId fun _ => ?_) fun _ => trivial
    exact .bind (quiet_of_touches (.catchAll touches_deleteThreadIfUnreferenced) (by decide))
      fun _ => trivial

theorem quiet_findThreadByReplyContext {tenantId mailboxId : String} {ids : List String}
    {subject participantAddress : Option String} : Quiet start messageId
      (findThreadByReplyContext env tenantId mailboxId ids subject participantAddress) := by
  refine .bind (quiet_reads (touches_findThreadAmong _)) fun exactThread => ?_
  cases exactThread with
  | some _ => trivial
  | none =>
    dsimp only
    split
    · trivial
    · split
      · refine .bind (quiet_reads (touches_query rfl)) fun rows =>
          .bind (quiet_reads (touches_matchingCandidates rows)) fun candidates => ?_
        split
        · trivial
        · exact .bind quiet_threadOfCandidate fun _ => trivial
      · trivial

theorem quiet_threadOfParsed {job : EmailIngestJob} {parsed : ParsedEmail} :
    Quiet start messageId (threadOfParsed env job parsed) := by
  refine .bind quiet_findThreadByReplyContext fun thread => ?_
  cases thread with
  | some _ => trivial
  | none =>
    refine .bind (quiet_reads ?_) fun threadKey =>
      quiet_of_touches touches_getOrCreateThread (by decide)
    rw [threadKeyOf]
    split
    · trivial
    · exact touches_createId

theorem quiet_storeNormalized {job : EmailIngestJob} {parsed : ParsedEmail} {threadId : String} :
    Quiet start messageId (storeNormalized job parsed threadId) :=
  .bind (quiet_of_touches touches_r2Put (by decide)) fun _ =>
    .tryCatch quiet_updateInboundMessageNormalized fun _ =>
    .bind (quiet_of_touches touches_discardR2Objects (by decide)) fun _ =>
    .bind (quiet_of_touches (.catchAll touches_deleteThreadIfUnreferenced) (by decide))
      fun _ => trivial

theorem quiet_recordTaskNeedsReview {input : ReviewInput} :
    Quiet start messageId (recordTaskNeedsReview env input) := by
  refine .bind (quiet_reads touches_nowIso) fun timestamp => .bind (quiet_reads ?_) fun version =>
    .bind (quiet_of_touches touches_r2Put (by decide)) fun _ =>
    .bind (.tryCatch (.bind (quiet_of_touches touches_replaceAgentRun (by decide)) fun _ =>
      quiet_reviewTask) fun _ => ?_) fun _ => trivial
  · rw [runVersion.eq_def]
    split
    · exact touches_getAgentVersion
    · trivial
  · exact .bind (quiet_of_touches agentRunRows.touches_discard (by decide)) fun _ =>
      .bind (quiet_of_touches touches_discardR2Objects (by decide)) fun _ => trivial

theorem quiet_sendTask {existing : Option MessageRow} {target : ExecutionTarget} {task : TaskRow} :
    Quiet start messageId (sendTask env existing target task) := by
  refine .tryCatch (.bind (quiet_of_touches (touches_execute (u := .executeQueue) ?_ fun _ => rfl)
    (by decide)) fun _ => trivial) fun _ => .bind quiet_recordTaskNeedsReview fun _ =>
      .catchAll (quiet_of_touches touches_enqueueDeadLetter (by decide))
  intro s t ht
  cases t <;> first | rfl | exact absurd rfl ht

end Quiet

end MailRuntime
