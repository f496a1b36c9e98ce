import MailRuntime.Retrying.Reservations
import MailRuntime.Sending.Suppression

/-!
# Requests to retry a job

What becomes of the credits when a job is retried: by a request alone, any of whose statements may
fail, and by any number of requests side by side, none of which fails. A request that fails after
it has begun to write says so by its HTTP status, which is 502.
-/

namespace MailRuntime

open Js Interaction

/-! ### What a request does itself -/

/-- The exception is none of those that the route has a status for. -/
def Exn.Unforeseen (e : Exn) : Prop := e.kind ≠ .siteRequest ∧ e.kind ≠ .draftSendValidation

theorem Exn.Unforeseen.error {e : Exn} (h : e.Unforeseen) : retryError e = .error e.message 502 := by
  simp [retryError, h.1, h.2]

section Unforeseen

variable {α : Type} {env : Env}

theorem throws_nowIso {B : Exn → Prop} : (nowIso env).Throws B := Prog.throws_draw

theorem throws_catchAll {B : Exn → Prop} (p : Op α) (value : α) : (catchAll p value).Throws B := by
  unfold catchAll
  induction p with
  | ret a => trivial
  | throw e => trivial
  | tau run next ih => exact ih
  | stmt name run next refused ihn ihr => exact ⟨ihn, ihr⟩

theorem unforeseen_execute {l : Nat → Label} {f : Db → Nat × Db} :
    (execute l f).Throws Exn.Unforeseen := Prog.throws_perform ⟨by decide, by decide⟩

theorem unforeseen_requireStateUpdateApplied {changes : Nat} {target : String} :
    (requireStateUpdateApplied changes target).Throws Exn.Unforeseen := by
  rw [requireStateUpdateApplied]
  split
  · exact ⟨by simp [Exn.error], by simp [Exn.error]⟩
  · trivial

/-- What a retry throws where it writes. -/
theorem unforeseen_requeue {job : OutboundJobRow} {draft : DraftRow} :
    (requeue env job draft).Throws Exn.Unforeseen := by
  refine .bind (.bind throws_nowIso fun _ => .bind unforeseen_execute fun _ =>
    unforeseen_requireStateUpdateApplied) fun _ => ?_
  refine .bind (.bind (unforeseen_execute (l := fun _ => .write .messages)) fun _ =>
    unforeseen_requireStateUpdateApplied) fun _ => ?_
  refine .bind (.bind throws_nowIso fun _ => .bind unforeseen_execute fun _ =>
    unforeseen_requireStateUpdateApplied) fun _ => ?_
  exact .bind unforeseen_execute fun _ => trivial

theorem throws_unqueue {B : Exn → Prop} {job : OutboundJobRow} {message : MessageRow}
    {draft : DraftRow} {recipients : Recipients} :
    (unqueue env job message draft recipients).Throws B :=
  .bind (throws_catchAll _ _) fun _ => .bind (throws_catchAll _ _) fun _ =>
    .bind (throws_catchAll _ _) fun _ => throws_catchAll _ _

end Unforeseen

section Own

variable {ι : Type} {α : Type} {i : ι} {jobId : String} {w : World ι Db Label} {env : Env}
  {job : OutboundJobRow} {message : MessageRow} {draft : DraftRow}

/-- Requests side by side, of which nobody else makes a statement of `i`. -/
def requests (ι : Type) : Protocol ι Db Label where
  inv _ := True
  keeps _ _ := True
  rely i w w' := ∀ e ∈ w'.trace, e.thread = i → e ∈ w.trace
  allow _ _ _ _ := True
  keeps_refl _ := trivial
  keeps_trans _ _ _ _ _ := trivial
  rely_refl _ _ _ h _ := h
  rely_trans _ _ _ _ h h' e he hi := h e (h' e he hi) hi

/-- The request has not put the job back. -/
def Onward (jobId : String) (i : ι) (w : World ι Db Label) : Prop :=
  ∀ e ∈ w.trace, e.thread = i → e.label.rollsBack jobId = false

theorem stable_onward : (requests ι).Stable i (Onward jobId i) :=
  fun _ _ h hl e he hi => h e (hl.rely e he hi) hi

theorem good_silent {run : Db → Db} : (requests ι).Good i w (w.silent run) :=
  ⟨trivial, trivial, fun _ _ _ he _ => he⟩

theorem good_after {name : Db → Label} {run : Db → Db} {o : Outcome} :
    (requests ι).Good i w (w.after i name run o) := by
  refine ⟨trivial, trivial, fun k hk e he hthread => ?_⟩
  rcases List.mem_cons.1 he with rfl | he
  · exact absurd hthread.symm hk
  · exact he

/-- A program that does not put the job back has not done so when it is over. -/
theorem safe_onward {p : Op α} (hp : Advances jobId p) (hw : Onward jobId i w) :
    (requests ι).Safe i (fun _ => Onward jobId i) (fun _ => Onward jobId i) p w := by
  refine Protocol.Safe.quiet stable_onward (fun run _ w _ hw => ⟨good_silent, hw⟩) ?_ hp trivial hw
  intro name run hstmt w o _ hw _
  refine ⟨good_after, fun e he hi => ?_⟩
  rcases List.mem_cons.1 he with rfl | he
  · exact (hstmt w.store).2
  · exact hw e he hi

/-- Any program does something. -/
theorem safe_anything {p : Op α} (hp : Retries jobId p) :
    (requests ι).Safe i (fun _ _ => True) (fun _ _ => True) p w :=
  Protocol.Safe.quiet (A := fun _ => True) (fun _ _ _ _ => trivial)
    (fun _ _ _ _ _ => ⟨good_silent, trivial⟩) (fun _ _ _ _ _ _ _ _ => ⟨good_after, trivial⟩) hp
    trivial trivial

theorem safe_requeueOrRestore_onward {recipients : Recipients} (hid : job.id = jobId)
    (hw : Onward jobId i w) :
    (requests ι).Safe i (fun _ => Onward jobId i) (fun e _ => e.Unforeseen)
      (requeueOrRestore env job message draft recipients) w := by
  refine .tryCatch trivial (Protocol.Safe.throws unforeseen_requeue
    (safe_onward (advances_requeue hid) hw)) fun error w' _ h => ?_
  exact .bind trivial (Protocol.Safe.throws throws_unqueue (safe_anything (retries_unqueue hid)))
    (fun _ _ _ _ => h.2) fun _ _ _ h' => h'.2

/-- What an exception of a request says: that the job has not been put back, or it is none that
the route has a status for. -/
def Told (jobId : String) (i : ι) (e : Exn) (w : World ι Db Label) : Prop :=
  Onward jobId i w ∨ e.Unforeseen

theorem safe_retryFailedJob_onward (hid : job.id = jobId) (hw : Onward jobId i w) :
    (requests ι).Safe i (fun _ => Onward jobId i) (Told jobId i)
      (retryFailedJob env job message draft) w := by
  have htold : ∀ (e : Exn) (w' : World ι Db Label), (requests ι).inv w' → Onward jobId i w' →
      Told jobId i e w' := fun _ _ _ h => .inl h
  refine .bind trivial (safe_onward prepares_ensureDraftSendAllowed.advances hw)
    (fun _ w₁ _ hw₁ => ?_) htold
  refine .bind trivial (safe_onward (advances_reads touches_readDraftRecipients) hw₁)
    (fun recipients w₂ _ hw₂ => ?_) htold
  refine .bind trivial (safe_onward advances_reserveDraftSendCredits hw₂)
    (fun _ w₃ _ hw₃ => ?_) htold
  exact .bind trivial (safe_requeueOrRestore_onward hid hw₃) (fun _ _ _ h => h)
    fun _ _ _ h => .inr h

/-- A query tells what comes after it of a database. -/
theorem safe_look_onward {β γ : Type} {l : Label} {f : Db → β} {g : β → Op γ}
    {Q : γ → World ι Db Label → Prop} (hl : l.rollsBack jobId = false) (hw : Onward jobId i w)
    (hg : ∀ (s : Db) (w' : World ι Db Label), Onward jobId i w' →
      (requests ι).Safe i Q (Told jobId i) (g (f s)) w') :
    (requests ι).Safe i Q (Told jobId i) (query l f >>= g) w := by
  intro o _
  refine ⟨good_after, fun w' hlater => ?_⟩
  have hw' : Onward jobId i w' := by
    refine stable_onward _ _ (fun e he hi => ?_) hlater
    rcases List.mem_cons.1 he with rfl | he
    · exact hl
    · exact hw e he hi
  cases o with
  | done => exact hg w.store w' hw'
  | refused => exact .inl hw'
  | lost => exact .inl hw'

theorem safe_retryJob_onward (hw : Onward jobId i w) :
    (requests ι).Safe i (fun _ => Onward jobId i) (Told jobId i) (retryJob env jobId) w := by
  refine safe_look_onward rfl hw fun s w₁ hw₁ => ?_
  cases hjob : s.outboundJob jobId with
  | none => exact hw₁
  | some job =>
    have hid : job.id = jobId := by
      have htest := List.find?_some hjob
      simp only [Bool.and_eq_true, beq_iff_eq] at htest
      exact htest.1
    refine safe_look_onward rfl hw₁ fun s w₂ hw₂ => ?_
    cases only (s.lifecycleDrafts job.draftR2Key) with
    | none => exact hw₂
    | some draft =>
      refine safe_look_onward rfl hw₂ fun s w₃ hw₃ => ?_
      cases s.message job.messageId with
      | none => exact hw₃
      | some message =>
        refine safe_look_onward rfl hw₃ fun s w₄ hw₄ => ?_
        cases retryRefusal job message (s.deliveryEventsOf message.id) with
        | some error => exact hw₄
        | none => exact safe_retryFailedJob_onward hid hw₄

/-- A request that has put the job back answers with the status 502. -/
theorem safe_retryOutboundJob_onward (hw : Onward jobId i w) :
    (requests ι).Safe i
      (fun response w' => Onward jobId i w' ∨ ∃ message, response = .error message 502)
      (fun (_ : Exn) _ => True) (retryOutboundJob env jobId) w := by
  refine .tryCatch trivial (Protocol.Safe.mono trivial (safe_retryJob_onward hw)
    (fun _ _ _ h => .inl h) fun _ _ _ h => h) fun e w' _ h => ?_
  rcases h with h | h
  · exact .inl h
  · exact .inr ⟨e.message, h.error⟩

end Own

/-! ### The result -/

/-- Requests to retry a job, one in each thread. -/
def startRetries (ι : Type) (env : Env) (jobId : String) (s : Db) :
    Config ι Db Label Exn RetryResponse :=
  ⟨⟨s, []⟩, fun _ => retryOutboundJob env jobId⟩

section Run

variable {ι : Type} [DecidableEq ι] {env : Env} {jobId : String} {s : Db}
  {schedule : List (ι × Outcome)}

/-- Where no request has failed with the status 502, the job has not been put back. -/
theorem rolledBack_of_answers
    (hanswers : ∀ i, ∃ response,
      ((startRetries ι env jobId s).exec schedule).threads i = .ret response ∧
        ∀ message, response ≠ .error message 502) :
    rolledBack jobId ((startRetries ι env jobId s).exec schedule).world.trace = false := by
  have hholds : ∀ i : ι, (requests ι).Holds i
      (fun response w' => Onward jobId i w' ∨ ∃ message, response = .error message 502)
      (fun (_ : Exn) _ => True) (retryOutboundJob env jobId) ⟨s, []⟩ := by
    intro i w' hl
    refine safe_retryOutboundJob_onward fun e he hi => ?_
    cases hl.rely e he hi
  have hend := (Protocol.exec (c := startRetries ι env jobId s) (l := schedule) trivial hholds
    (Config.meets_of_all (fun _ _ _ _ => trivial) _ _)).2
  rw [rolledBack, List.any_eq_false]
  intro e he
  obtain ⟨response, hret, hgood⟩ := hanswers e.thread
  have hpost := (hend e.thread).now trivial
  rw [hret] at hpost
  rcases hpost with honward | ⟨message, hbad⟩
  · simp [honward e he rfl]
  · exact absurd hbad (hgood message)

/-- The invariant after any schedule. -/
theorem retryInv_exec (hkeys : s.SendsKeyed)
    (hmeets : (startRetries ι env jobId s).Meets (fun _ => ReservesAlone jobId) schedule) :
    RetryInv jobId s ((startRetries ι env jobId s).exec schedule).world := by
  refine hmeets.keep (T := Draws)
    (S := fun name run => ∀ s, RetryStep jobId s (name s) (run s))
    (fun run hrun w hw => hw.silent hrun)
    (fun name run hstmt i w o hallow hw => hw.after hstmt i hallow)
    (fun i => retries_retryOutboundJob) ?_
  refine ⟨hkeys.jobs, fun _ t => ?_, fun _ => Nat.zero_le _, fun _ h => absurd h (Nat.lt_irrefl 0)⟩
  show s.reservedCredits t ≤ s.reservedCredits t + (0 : Nat)
  omega

end Run

/-- **Retries of one job.** A request alone that has reserved credits and does not answer that the
job is queued leaves all statuses and balances as they were, if the reservation did not lose its
answer, the account could be looked at right after it, and the compensating statements succeed.
Of any number of requests side by side, none of which fails, one credit is reserved at most, if
credits are reserved only while the job is still failed and no other reservation for it is
pending. -/
theorem retried_of_reservesAlone (env : Env) (jobId : String) (s : Db) (hkeys : s.SendsKeyed) :
    (∀ (schedule : List (Unit × Outcome)) (response : RetryResponse),
      (startRetries Unit env jobId s).Meets
        (fun _ w l o => ReservationAnswered w l o ∧ Compensates w o) schedule →
      ((startRetries Unit env jobId s).exec schedule).threads () = .ret response →
      response ≠ .queued jobId →
      reserved ((startRetries Unit env jobId s).exec schedule).world.trace = true →
      s.SameSends ((startRetries Unit env jobId s).exec schedule).world.store) ∧
    ∀ (ι : Type) [DecidableEq ι] (schedule : List (ι × Outcome)),
      (startRetries ι env jobId s).Meets (fun _ => ReservesAlone jobId) schedule →
      (∀ i, ∃ response, ((startRetries ι env jobId s).exec schedule).threads i = .ret response ∧
        ∀ message, response ≠ .error message 502) →
      ∀ tenantId, ((startRetries ι env jobId s).exec schedule).world.store.reservedCredits tenantId ≤
        s.reservedCredits tenantId + outboundCreditsPerSend := by
  constructor
  · intro schedule response hmeets hret hresponse hreserved
    have hsafe : request.Safe () (fun response w' => response = .queued jobId ∨ Restored s w')
        (fun (_ : Exn) _ => True) (retryOutboundJob env jobId) ⟨s, []⟩ :=
      safe_retryOutboundJob hkeys ⟨rfl, rfl⟩
    rcases post_of_safe_alone trivial hsafe hmeets hret with hqueued | hrestored
    · exact absurd hqueued hresponse
    · exact hrestored hreserved
  · intro ι _ schedule hmeets hanswers tenantId
    have hback := rolledBack_of_answers hanswers
    have hinv := retryInv_exec hkeys hmeets
    have hfunds := hinv.funds hback tenantId
    have honce := hinv.once hback
    have hone : outboundCreditsPerSend = 1 := rfl
    omega

/-- A tenant with five credits, and a failed job of its agent for one external recipient. -/
def failedDb : Db where
  mailboxes := [⟨"mbx", "t", "a@b", "active"⟩]
  agents := [⟨"agt", "t", .active, none⟩]
  agentMailboxes := [⟨"t", "agt", "mbx", .primary, true⟩]
  accounts := [⟨"t", .trial, .free, none, none, 5, 0, 0⟩]
  messages := [sendableRow ⟨"mbx", "t", "a@b", "active"⟩]
  drafts := [⟨"dft", "t", "agt", "mbx", none, none, none, .failed, "draft", 0, 0⟩]
  outboundJobs := [{ sendableJob with status := .failed }]
  objects := [("draft", .json (.obj (("from", .str "a@b") :: sendablePayload ⟨["x@y"], [], []⟩)))]

theorem failedDb_keyed : failedDb.SendsKeyed := by
  refine ⟨by decide, by decide, by decide, List.pairwise_singleton _ _, fun tenantId => ?_⟩
  rw [Db.reservedCredits, Db.account, failedDb, List.find?_singleton]
  split <;> decide

/-- A request whose last statement, the one that sends the job to its queue, fails. -/
@[irreducible] def unqueuedRetry : Config Unit Db Label Exn RetryResponse :=
  (startRetries Unit mailEnv "job" failedDb).exec (turns () 29 ++ [((), .refused)] ++ turns () 20)

/-- The second comes once the first has written the job's status. -/
def oneByOne : List (Fin 2 × Outcome) :=
  turns ⟨0, Nat.zero_lt_two⟩ 26 ++ turns ⟨1, Nat.one_lt_two⟩ 40 ++ turns ⟨0, Nat.zero_lt_two⟩ 40

/-- Two such requests. -/
@[irreducible] def retriedInTurn : Config (Fin 2) Db Label Exn RetryResponse :=
  (startRetries (Fin 2) mailEnv "job" failedDb).exec oneByOne

theorem retried_failedDb :
    failedDb.SameSends unqueuedRetry.world.store ∧
      retriedInTurn.world.store.reservedCredits "t" ≤
        failedDb.reservedCredits "t" + outboundCreditsPerSend := by
  obtain ⟨halone, hturns⟩ := retried_of_reservesAlone mailEnv "job" failedDb failedDb_keyed
  constructor
  · have hmeets : (startRetries Unit mailEnv "job" failedDb).Meets
        (fun _ w l o => ReservationAnswered w l o ∧ Compensates w o)
        (turns () 29 ++ [((), .refused)] ++ turns () 20) := by
      decide +kernel
    have hanswer : (unqueuedRetry.threads ()).answer = some (.error "D1_ERROR" 502) := by
      decide +kernel
    have hreserved : reserved unqueuedRetry.world.trace = true := by decide +kernel
    unfold unqueuedRetry at hanswer hreserved ⊢
    exact halone _ _ hmeets (Prog.answer_eq_some.1 hanswer) (by decide) hreserved
  · have hmeets : (startRetries (Fin 2) mailEnv "job" failedDb).Meets
        (fun _ => ReservesAlone "job") oneByOne := by
      decide +kernel
    have hfirst : retriedInTurn.threads 0 = .ret (.queued "job") :=
      Prog.answer_eq_some.1 (by decide +kernel)
    have hsecond : retriedInTurn.threads 1 =
        .ret (.error "Outbound job status queued cannot be retried" 409) :=
      Prog.answer_eq_some.1 (by decide +kernel)
    have hanswers : ∀ i, ∃ response, retriedInTurn.threads i = .ret response ∧
        ∀ message, response ≠ .error message 502 := by
      intro i
      obtain rfl | rfl : i = 0 ∨ i = 1 := by omega
      · refine ⟨_, hfirst, fun message h => ?_⟩
        cases h
      · refine ⟨_, hsecond, fun message h => ?_⟩
        cases h
    unfold retriedInTurn at hanswers ⊢
    exact hturns (Fin 2) _ hmeets hanswers "t"

/-- A request whose look at the account, right after the reservation, fails. -/
@[irreducible] def unseenRetry : Config Unit Db Label Exn RetryResponse :=
  (startRetries Unit mailEnv "job" failedDb).exec (turns () 23 ++ [((), .refused)])

/-- Two requests that both look at the job before one of them writes its status. -/
@[irreducible] def retriedTogether : Config (Fin 2) Db Label Exn RetryResponse :=
  (startRetries (Fin 2) mailEnv "job" failedDb).exec
    (turns ⟨0, Nat.zero_lt_two⟩ 20 ++ turns ⟨1, Nat.one_lt_two⟩ 40 ++ turns ⟨0, Nat.zero_lt_two⟩ 40)

/-- The first answers with an error, and its credit stays reserved; the others both answer that
the job is queued, and have reserved a credit each. -/
theorem retry_keeps_credit :
    (unseenRetry.threads ()).answer = some (.error "D1_ERROR" 502) ∧
      unseenRetry.world.store.reservedCredits "t" = failedDb.reservedCredits "t" + 1 ∧
      (∀ i, (retriedTogether.threads i).answer = some (.queued "job")) ∧
      retriedTogether.world.store.reservedCredits "t" = failedDb.reservedCredits "t" + 2 := by
  decide +kernel

end MailRuntime
