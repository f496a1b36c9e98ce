import MailRuntime.Sending.Claims
import MailRuntime.Sending.Suppression

/-!
# A job is sent once

Any number of consumers, each with any batch of jobs, the same job as often as the queue delivers
it, in any interleaving and with any failures. Nothing but the `catch` block of an attempt makes a
job `retry`, and it does so without a look at what the job has become. As long as it does so only
for jobs that its own consumer holds, or that are there to be claimed anyway, a job that was
accepted and marked as sent is never handed over again and stays closed.
-/

namespace MailRuntime

open Js Interaction

/-! ### The protocol -/

section Protocol

variable {ι : Type} [DecidableEq ι] {i : ι} {jobId : String} {w : World ι Db Label}

/-- Another consumer's statement is no news of a hold. -/
theorem claimNews_of_ne {k : ι} {e : Event ι Label} (h : e.thread ≠ k) :
    claimNews k jobId e = none := if_neg fun h' => h h'.1

theorem holds_after {name : Db → Label} {run : Db → Db} {o : Outcome} (k : ι) (hk : k ≠ i) :
    holds k jobId (w.after i name run o).trace = holds k jobId w.trace :=
  holds_cons_of_news (claimNews_of_ne hk.symm)

theorem ClaimsInv.silent {run : Db → Db} (hrun : KeepsJobs run) (hw : ClaimsInv w) :
    ClaimsInv (w.silent run) := by
  have hrows : (w.silent run).store.outboundJobs = w.store.outboundJobs := hrun _
  refine ⟨by rw [hrows]; exact hw.ids, fun jobId hopen k => hw.unheld jobId ?_ k, hw.single,
    fun jobId hjob => ⟨fun o ho => ?_, (hw.closed jobId hjob).2⟩, hw.once⟩
  · rwa [Db.Open, hrows] at hopen
  · rw [hrows] at ho
    exact (hw.closed jobId hjob).1 o ho

/-- The consumers, each of which relies on the others not to end its holds. -/
def claims (ι : Type) [DecidableEq ι] (env : Env) : JobProtocol ι env where
  protocol := {
    inv := ClaimsInv
    keeps := fun _ _ => True
    rely := fun i w w' => ∀ jobId, holds i jobId w'.trace = holds i jobId w.trace
    allow := RetriesOwn
    keeps_refl := fun _ => trivial
    keeps_trans := fun _ _ _ _ _ => trivial
    rely_refl := fun _ _ _ => rfl
    rely_trans := fun _ _ _ _ h h' jobId => (h' jobId).trans (h jobId) }
  ready i jobId trace := holds i jobId trace = true
  good_silent hrun hw := ⟨hw.silent hrun, trivial, fun _ _ _ => rfl⟩
  good_step hstmt hw hallow :=
    ⟨ClaimsInv.step hw (hstmt _) hallow, trivial, fun k hk _ => holds_after k hk⟩
  good_begin hw hready :=
    ⟨ClaimsInv.beginSend hw hready (World.after_id_store ..) rfl, trivial,
      fun k hk _ => holds_after k hk⟩
  stable_ready := fun _ _ hready hl => (hl.rely _).trans hready
  ready_idle hidle hready := (holds_cons_of_news ((silent_of_idle hidle).news _ _)).trans hready
  ready_claim hn := latest_cons_some ((if_pos ⟨rfl, rfl⟩).trans (if_pos ⟨rfl, hn⟩)) _

theorem claimsInv_start {s : Db} (hids : (s.outboundJobs.map OutboundJobRow.id).Nodup) :
    ClaimsInv (⟨s, []⟩ : World ι Db Label) :=
  ⟨hids, fun _ _ _ => rfl, fun _ _ _ h _ => absurd h Bool.false_ne_true,
    fun _ h => absurd h Bool.false_ne_true, fun _ => trivial⟩

end Protocol

/-! ### The result -/

/-- **A job that was accepted and marked as sent is never handed over again and stays closed**, in
every run in which consumers make only jobs `retry` that they hold or that are there to be claimed
anyway. -/
theorem sentOnce_of_retriesOwn {ι : Type} [DecidableEq ι] (env : Env) (batches : ι → List String)
    (s : Db) (hids : (s.outboundJobs.map OutboundJobRow.id).Nodup)
    (schedule : List (ι × Outcome)) (h : (startSends env batches s).Meets RetriesOwn schedule)
    (jobId : String) :
    SentOnce jobId ((startSends env batches s).exec schedule).world.trace ∧
      (completed jobId ((startSends env batches s).exec schedule).world.trace = true →
        ((startSends env batches s).exec schedule).world.store.Closed jobId) := by
  have hinv : ClaimsInv ((startSends env batches s).exec schedule).world :=
    (claims ι env).inv_of_meets (claimsInv_start hids) h
  exact ⟨hinv.once jobId, fun hcompleted => (hinv.closed jobId hcompleted).1⟩

/-- An environment in which a send is made up. -/
def mockEnv : Env := { mailEnv with sesMockSend := true }

/-- A job for one external recipient. -/
def onceDb : Db :=
  ({ mailboxes := [⟨"mbx", "t", "a@b", "active"⟩] } : Db).sendable "" ⟨"mbx", "t", "a@b", "active"⟩
    ⟨["x@y"], [], []⟩

/-- The job is delivered to two consumers, one after the other. -/
@[irreducible] def deliveredTwice : Config (Fin 2) Db Label Exn (List Verdict) :=
  (startSends mockEnv (fun _ => ["job"]) onceDb).exec (turns 0 60 ++ turns 1 60)

theorem delivered_twice_sent_once :
    completed "job" deliveredTwice.world.trace = true ∧
      SentOnce "job" deliveredTwice.world.trace ∧ deliveredTwice.world.store.Closed "job" := by
  have hcompleted : completed "job" deliveredTwice.world.trace = true := by decide +kernel
  have honce : SentOnce "job" deliveredTwice.world.trace ∧
      (completed "job" deliveredTwice.world.trace = true →
        deliveredTwice.world.store.Closed "job") := by
    unfold deliveredTwice
    exact sentOnce_of_retriesOwn mockEnv (fun _ : Fin 2 => ["job"]) onceDb (by decide +kernel)
      (turns 0 60 ++ turns 1 60) (by decide +kernel) "job"
  exact ⟨hcompleted, honce.1, honce.2 hcompleted⟩

/-- The job is sent by one consumer; a second fails at once and makes it `retry`; so a third
sends it again. -/
theorem failed_read_sends_again : ¬ SentOnce "job"
    ((startSends mockEnv (fun _ : Fin 3 => ["job"]) onceDb).exec
      (turns 0 60 ++ [(1, .refused)] ++ turns 1 10 ++ turns 2 60)).world.trace := by
  decide +kernel

end MailRuntime
