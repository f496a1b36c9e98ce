import MailRuntime.Interaction.Alone
import MailRuntime.Sending.Branches

/-!
# What the consumer does short of sending

Of everything an attempt at an outbound job does, only `sendOutboundDraft` hands the job to a
provider, and nothing writes the mailboxes or the suppressions. `Calm` says so of a program; it
covers what the consumer is put together from.
-/

namespace MailRuntime

open Js Interaction

/-- A job is handed to `sendOutboundDraft`. -/
def Label.sends : Label → Bool
  | beginSend _ _ => true
  | _ => false

/-- The mailboxes and the suppressions stay. -/
def Steady (run : Db → Db) : Prop :=
  ∀ s, (run s).mailboxes = s.mailboxes ∧ (run s).suppressions = s.suppressions

/-- The mailboxes and the suppressions stay, and no job is handed to `sendOutboundDraft`. -/
def CalmStatement (name : Db → Label) (run : Db → Db) : Prop :=
  Steady run ∧ ∀ s, (name s).sends = false

/-- No statement of the program hands a job to `sendOutboundDraft`, or writes the mailboxes or
the suppressions. -/
def Calm {ε α : Type} (p : Prog Db Label ε α) : Prop := p.Each Steady CalmStatement

variable {ε ε' α β : Type} {env : Env} {ts : List Table}

theorem Calm.bind {p : Prog Db Label ε α} {f : α → Prog Db Label ε β} (hp : Calm p)
    (hf : ∀ a, Calm (f a)) : Calm (p >>= f) := Prog.Each.bind hp hf

theorem Calm.tryCatch {p : Prog Db Label ε α} {h : ε → Prog Db Label ε' α} (hp : Calm p)
    (hh : ∀ e, Calm (h e)) : Calm (p.tryCatch h) := Prog.Each.tryCatch hp hh

theorem Calm.catchAll {p : Op α} {value : α} (hp : Calm p) : Calm (catchAll p value) :=
  hp.tryCatch fun _ => trivial

/-- The bearing of a send is on the jobs. -/
theorem Label.sends_of_table {l : Label} (h : l.table ≠ some .outboundJobs) : l.sends = false := by
  cases l <;> first | rfl | exact absurd rfl h

theorem calm_of_touches {p : Op α} (hp : Touches ts p) (hmailboxes : Table.mailboxes ∉ ts)
    (hsuppressions : Table.suppressions ∉ ts) (hjobs : Table.outboundJobs ∉ ts) : Calm p := by
  refine Prog.Each.mono hp (fun run hdraws s => ?_) fun name run hwithin => ⟨fun s => ?_,
    fun s => Label.sends_of_table fun h => hjobs ((hwithin s).2 _ h)⟩
  · exact ⟨(hdraws s .mailboxes).symm, (hdraws s .suppressions).symm⟩
  · exact ⟨((hwithin s).1 .mailboxes hmailboxes).symm,
      ((hwithin s).1 .suppressions hsuppressions).symm⟩

/-- A program that writes no table is calm. -/
theorem calm_of_reads {p : Op α} (hp : Touches [] p) : Calm p :=
  calm_of_touches hp (by simp) (by simp) (by simp)

/-! ### Jobs -/

theorem calm_updateJobs {l : Nat → Label} (hl : ∀ n, (l n).sends = false)
    {target : Db → OutboundJobRow → Bool} {set : OutboundJobRow → OutboundJobRow} :
    Calm (jobRows.updateAs l target set) :=
  Prog.each_perform.2 ⟨fun _ => ⟨rfl, rfl⟩, fun _ => hl _⟩

theorem calm_updateOutboundJobStatus {outboundJobId : String} {status : JobStatus}
    {lastError : Option String} {retryCount nextRetryAt : Option Nat} :
    Calm (updateOutboundJobStatus env outboundJobId status lastError retryCount nextRetryAt) :=
  .bind (calm_of_reads touches_nowIso) fun _ => .bind (calm_updateJobs fun _ => rfl) fun _ =>
    calm_of_reads touches_requireStateUpdateApplied

theorem calm_claimOutboundJobForSend {outboundJobId : String} :
    Calm (claimOutboundJobForSend env outboundJobId) := by
  refine .bind (calm_of_reads touches_nowIso) fun _ => .bind (calm_updateJobs fun _ => rfl)
    fun changes => ?_
  split
  · trivial
  · refine .bind (calm_of_reads touches_getOutboundJob) fun row => ?_
    cases row with
    | some _ => trivial
    | none =>
      refine .bind (.catchAll (.bind (Prog.each_perform.2 ⟨fun _ => ⟨rfl, rfl⟩, fun _ => rfl⟩)
        fun _ => trivial)) fun _ => trivial

theorem covers_calm (env : Env) : Covers env Steady CalmStatement where
  other hp hmailboxes hsuppressions hjobs := calm_of_touches hp hmailboxes hsuppressions hjobs
  writeJob _ := calm_updateOutboundJobStatus
  claimJob := calm_claimOutboundJobForSend

end MailRuntime
