import MailRuntime.Sending.Consumers

/-!
# Who holds a job

A consumer that has claimed a job holds it until it writes the job's status. The claim takes only
jobs that are `queued` or `retry`, so nobody holds such a job and at most one consumer holds any
job, as long as nobody makes a job `retry` that another consumer holds. In such runs a job that a
consumer had accepted and marked as `sent` while it held the job stays closed.

## What is proved

The invariant (`ClaimsInv`) and what keeps it: `ClaimsInv.step` for a statement of any kind but the
beginning of a send, `ClaimsInv.beginSend` for that.
-/

namespace MailRuntime

open Js Interaction

/-! ### What the trace says -/

section Trace

variable {ι : Type} [DecidableEq ι]

/-- What the event says of `i`'s hold on the job: that it begins, or ends. -/
def claimNews (i : ι) (jobId : String) (e : Event ι Label) : Option Bool :=
  if e.thread = i ∧ e.outcome.effective = true then
    match e.label with
    | .claimJob job n => if job = jobId ∧ 0 < n then some true else none
    | .writeJob job _ _ n => if job = jobId ∧ 0 < n then some false else none
    | _ => none
  else none

/-- The consumer has claimed the job, and not written its status since. -/
def holds (i : ι) (jobId : String) (trace : List (Event ι Label)) : Bool :=
  latest (claimNews i jobId) trace

/-- `sendOutboundDraft` has had the job's message accepted, for that consumer. -/
def accepted (i : ι) (jobId : String) (trace : List (Event ι Label)) : Bool :=
  trace.any fun e => e.thread = i && e.outcome = .done && e.label = .callProvider jobId true

/-- With this event a consumer that holds the job, and has had it accepted, marks it as sent. -/
def completes (jobId : String) (e : Event ι Label) (older : List (Event ι Label)) : Bool :=
  match e.label with
  | .writeJob job .sent _ n =>
    job = jobId && 0 < n && e.outcome.effective && holds e.thread jobId older &&
      accepted e.thread jobId older
  | _ => false

/-- Some consumer has had the job accepted and marked as sent. -/
def completed (jobId : String) : List (Event ι Label) → Bool
  | [] => false
  | e :: older => completes jobId e older || completed jobId older

/-- The job is handed to `sendOutboundDraft`, or its status is written to one that is not final. -/
def reopens (jobId : String) (e : Event ι Label) : Bool :=
  match e.label with
  | .beginSend job _ => job = jobId
  | .claimJob job n => job = jobId && 0 < n && e.outcome.effective
  | .writeJob job status _ n => job = jobId && 0 < n && e.outcome.effective &&
      (status = .retry || status = .queued || status = .sending)
  | _ => false

/-- Once the job is completed, nothing reopens it. -/
def SentOnce (jobId : String) : List (Event ι Label) → Prop
  | [] => True
  | e :: older => (completed jobId older = true → reopens jobId e = false) ∧ SentOnce jobId older

instance decidableSentOnce (jobId : String) :
    ∀ trace : List (Event ι Label), Decidable (SentOnce jobId trace)
  | [] => isTrue trivial
  | _ :: older =>
    have := decidableSentOnce jobId older
    inferInstanceAs (Decidable (_ ∧ _))

end Trace

/-! ### The condition -/

/-- The job is there to be claimed, if it is visible. -/
def Db.Open (s : Db) (jobId : String) : Prop :=
  ∃ o ∈ s.outboundJobs, o.id = jobId ∧ o.claimable = true

/-- The job is `sent` or `failed`, or it is not there. -/
def Db.Closed (s : Db) (jobId : String) : Prop :=
  ∀ o ∈ s.outboundJobs, o.id = jobId → o.status = .sent ∨ o.status = .failed

instance (s : Db) (jobId : String) : Decidable (s.Open jobId) := by
  unfold Db.Open
  infer_instance

/-- A job is made `retry` only by the consumer that holds it, or while it is there to be claimed
anyway. -/
def RetriesOwn {ι : Type} [DecidableEq ι] (i : ι) (w : World ι Db Label) (l : Label)
    (o : Outcome) : Prop :=
  match l with
  | .writeJob jobId .retry _ n =>
    o = .refused ∨ n = 0 ∨ holds i jobId w.trace = true ∨ w.store.Open jobId
  | _ => True

instance {ι : Type} [DecidableEq ι] (i : ι) (w : World ι Db Label) (l : Label) (o : Outcome) :
    Decidable (RetriesOwn i w l o) := by
  unfold RetriesOwn
  split <;> infer_instance

/-! ### Rows that are written -/

section Rows

variable {rows : List OutboundJobRow} {target : OutboundJobRow → Bool}
  {set : OutboundJobRow → OutboundJobRow} {jobId : String}

theorem map_ids (hset : ∀ o, (set o).id = o.id) :
    (rows.map fun o => if target o then set o else o).map OutboundJobRow.id =
      rows.map OutboundJobRow.id := by
  rw [List.map_map]
  refine List.map_congr_left fun o _ => ?_
  simp only [Function.comp]
  split
  · exact hset o
  · rfl

/-- A row with another identifier stays. -/
theorem mem_map_of_ne (htarget : ∀ o, target o = true → o.id = jobId) (hset : ∀ o, (set o).id = o.id)
    {o : OutboundJobRow} (hne : o.id ≠ jobId) :
    o ∈ (rows.map fun o => if target o then set o else o) ↔ o ∈ rows := by
  constructor
  · intro h
    obtain ⟨p, hp, rfl⟩ := List.mem_map.1 h
    split at hne
    · next ht => exact absurd ((hset p).trans (htarget p ht)) hne
    · next ht => rwa [if_neg ht]
  · intro h
    refine List.mem_map.2 ⟨o, h, if_neg fun ht => hne (htarget o ht)⟩

/-- If a row is written, it is the only one with the identifier. -/
theorem eq_set_of_mem_map (hids : (rows.map OutboundJobRow.id).Nodup)
    (htarget : ∀ o, target o = true → o.id = jobId) (hset : ∀ o, (set o).id = o.id)
    (hcount : 0 < rows.countP target) {o : OutboundJobRow} (hid : o.id = jobId)
    (ho : o ∈ rows.map fun o => if target o then set o else o) : ∃ p ∈ rows, o = set p := by
  obtain ⟨q, hq, htq⟩ := List.countP_pos_iff.1 hcount
  obtain ⟨p, hp, rfl⟩ := List.mem_map.1 ho
  have hpid : p.id = jobId := by
    split at hid
    · exact (hset p).symm.trans hid
    · exact hid
  have hpq : p = q := List.inj_on_of_nodup_map hids hp hq (hpid.trans (htarget q htq).symm)
  subst hpq
  exact ⟨p, hp, if_pos htq⟩

theorem map_of_countP_zero (hcount : rows.countP target = 0) :
    (rows.map fun o => if target o then set o else o) = rows := by
  refine (List.map_congr_left fun o ho => ?_).trans (List.map_id rows)
  rw [if_neg (List.countP_eq_zero.1 hcount o ho), id]

end Rows

/-! ### The invariant -/

section Invariant

variable {ι : Type} [DecidableEq ι] {w : World ι Db Label} {i k : ι} {jobId : String}
  {trace : List (Event ι Label)} {e : Event ι Label}

/-- What holds throughout a run in which consumers make only their own jobs `retry`. -/
structure ClaimsInv (w : World ι Db Label) : Prop where
  ids : (w.store.outboundJobs.map OutboundJobRow.id).Nodup
  unheld : ∀ jobId, w.store.Open jobId → ∀ i, holds i jobId w.trace = false
  single : ∀ jobId i k, holds i jobId w.trace = true → holds k jobId w.trace = true → i = k
  closed : ∀ jobId, completed jobId w.trace = true →
    w.store.Closed jobId ∧ ∀ i, holds i jobId w.trace = false
  once : ∀ jobId, SentOnce jobId w.trace

theorem not_open_of_closed {s : Db} (h : s.Closed jobId) : ¬ s.Open jobId := by
  rintro ⟨o, ho, hid, hclaimable⟩
  rcases h o ho hid with hstatus | hstatus <;> simp [OutboundJobRow.claimable, hstatus] at hclaimable

/-- The event is no news of any hold and neither completes nor reopens a job. -/
structure Silent (e : Event ι Label) : Prop where
  news : ∀ i jobId, claimNews i jobId e = none
  completes : ∀ jobId older, completes jobId e older = false
  reopens : ∀ jobId, reopens jobId e = false

theorem silent_of_idle (hl : e.label.idle = true) : Silent e := by
  obtain ⟨thread, label, outcome⟩ := e
  refine ⟨fun i jobId => ?_, fun jobId older => ?_, fun jobId => ?_⟩
  · rw [claimNews]
    split
    · cases label <;> first | rfl | cases hl
    · rfl
  · cases label <;> first | rfl | cases hl
  · cases label <;> first | rfl | cases hl

/-- A statement that is refused, unless it begins a send. -/
theorem silent_of_refused (ho : e.outcome = .refused) (hl : ∀ job key, e.label ≠ .beginSend job key) :
    Silent e := by
  obtain ⟨thread, label, outcome⟩ := e
  obtain rfl : outcome = .refused := ho
  refine ⟨fun i jobId => if_neg (by simp [Outcome.effective]), fun jobId older => ?_,
    fun jobId => ?_⟩
  · unfold completes
    split <;> simp [Outcome.effective]
  · unfold reopens
    split
    · next job key hlabel => exact absurd hlabel (hl job key)
    · simp [Outcome.effective]
    · simp [Outcome.effective]
    · rfl

/-- A claim or a write that changes nothing. -/
theorem silent_of_unchanged (h : (∃ job, e.label = .claimJob job 0) ∨
    ∃ job status retryCount, e.label = .writeJob job status retryCount 0) : Silent e := by
  obtain ⟨thread, label, outcome⟩ := e
  rcases h with ⟨job, rfl⟩ | ⟨job, status, retryCount, rfl⟩
  · exact ⟨fun _ _ => by simp [claimNews], fun _ _ => rfl, fun _ => by simp [reopens]⟩
  · refine ⟨fun _ _ => by simp [claimNews], fun _ _ => ?_, fun _ => by simp [reopens]⟩
    cases status <;> simp [completes]

theorem holds_cons_of_news (h : claimNews i jobId e = none) :
    holds i jobId (e :: trace) = holds i jobId trace := latest_cons_none h trace

/-- The invariant after an event that is no news, if no job appears or opens. -/
theorem ClaimsInv.of_silent {w' : World ι Db Label} (hw : ClaimsInv w) (he : Silent e)
    (htrace : w'.trace = e :: w.trace)
    (hrows : w'.store.outboundJobs.Sublist w.store.outboundJobs) : ClaimsInv w' := by
  have hholds : ∀ i jobId, holds i jobId w'.trace = holds i jobId w.trace := by
    intro i jobId
    rw [htrace]
    exact holds_cons_of_news (he.news i jobId)
  have hcompleted : ∀ jobId, completed jobId w'.trace = completed jobId w.trace := by
    intro jobId
    rw [htrace, completed, he.completes, Bool.false_or]
  refine ⟨hw.ids.sublist (hrows.map _), ?_, ?_, ?_, ?_⟩
  · rintro jobId ⟨o, ho, hid, hclaimable⟩ i
    rw [hholds]
    exact hw.unheld jobId ⟨o, hrows.subset ho, hid, hclaimable⟩ i
  · intro jobId i k hi hk
    rw [hholds] at hi hk
    exact hw.single jobId i k hi hk
  · intro jobId hjob
    rw [hcompleted] at hjob
    obtain ⟨hclosed, hfree⟩ := hw.closed jobId hjob
    refine ⟨fun o ho => hclosed o (hrows.subset ho), fun i => ?_⟩
    rw [hholds]
    exact hfree i
  · intro jobId
    rw [htrace]
    exact ⟨fun _ => he.reopens jobId, hw.once jobId⟩

/-- The send of a job begins, by the consumer that holds it. -/
theorem ClaimsInv.beginSend {w' : World ι Db Label} (hw : ClaimsInv w) {draftR2Key : String}
    (hholds : holds i jobId w.trace = true) {o : Outcome} (hstore : w'.store = w.store)
    (htrace : w'.trace = ⟨i, .beginSend jobId draftR2Key, o⟩ :: w.trace) : ClaimsInv w' := by
  have hnews : ∀ k job, claimNews k job (⟨i, .beginSend jobId draftR2Key, o⟩ : Event ι Label) =
      none := by
    intro k job
    rw [claimNews]
    split <;> rfl
  have hsame : ∀ k job, holds k job w'.trace = holds k job w.trace := by
    intro k job
    rw [htrace]
    exact holds_cons_of_news (hnews k job)
  have hcompleted : ∀ job, completed job w'.trace = completed job w.trace := by
    intro job
    rw [htrace]
    rfl
  refine ⟨by rw [hstore]; exact hw.ids, ?_, ?_, ?_, ?_⟩
  · intro job hopen k
    rw [hsame]
    rw [hstore] at hopen
    exact hw.unheld job hopen k
  · intro job k k' hk hk'
    rw [hsame] at hk hk'
    exact hw.single job k k' hk hk'
  · intro job hjob
    rw [hcompleted] at hjob
    rw [hstore]
    exact ⟨(hw.closed job hjob).1, fun k => (hsame k job).trans ((hw.closed job hjob).2 k)⟩
  · intro job
    rw [htrace]
    refine ⟨fun hjob => ?_, hw.once job⟩
    by_cases hne : jobId = job
    · subst hne
      rw [(hw.closed jobId hjob).2 i] at hholds
      cases hholds
    · simpa [reopens] using hne

section Written

variable {rows : List OutboundJobRow} {target : OutboundJobRow → Bool}
  {set : OutboundJobRow → OutboundJobRow} {status : JobStatus}

/-- The jobs with that identifier all have the status that was written. -/
theorem status_of_written (hids : (rows.map OutboundJobRow.id).Nodup)
    (htarget : ∀ o, target o = true → o.id = jobId)
    (hset : ∀ o, (set o).id = o.id ∧ (set o).status = status)
    (hcount : 0 < rows.countP target) {o : OutboundJobRow} (hid : o.id = jobId)
    (ho : o ∈ rows.map fun o => if target o then set o else o) : o.status = status := by
  obtain ⟨p, -, rfl⟩ := eq_set_of_mem_map hids htarget (fun o => (hset o).1) hcount hid ho
  exact (hset p).2

/-- A job with another identifier is not opened by the write. -/
theorem open_of_written {s s' : Db}
    (h : s'.outboundJobs = s.outboundJobs.map fun o => if target o then set o else o)
    (htarget : ∀ o, target o = true → o.id = jobId) (hset : ∀ o, (set o).id = o.id)
    {job : String} (hne : job ≠ jobId) (hopen : s'.Open job) : s.Open job := by
  obtain ⟨o, ho, rfl, hclaimable⟩ := hopen
  rw [h, mem_map_of_ne htarget hset hne] at ho
  exact ⟨o, ho, rfl, hclaimable⟩

/-- Nor is it taken up again. -/
theorem closed_of_written {s s' : Db}
    (h : s'.outboundJobs = s.outboundJobs.map fun o => if target o then set o else o)
    (htarget : ∀ o, target o = true → o.id = jobId) (hset : ∀ o, (set o).id = o.id)
    {job : String} (hne : job ≠ jobId) (hclosed : s.Closed job) : s'.Closed job := by
  intro o ho hid
  rw [h, mem_map_of_ne htarget hset (by rwa [hid])] at ho
  exact hclosed o ho hid

/-- **Step lemma**: the invariant after a claim or a write that has an effect, by `i` on one job.
`b` says whether `i` holds the job after it. -/
theorem ClaimsInv.written {w' : World ι Db Label} (hw : ClaimsInv w) (i : ι) (status : JobStatus)
    (b : Bool)
    (hnews : claimNews i jobId e = some b)
    (hother : ∀ k job, k ≠ i ∨ job ≠ jobId → claimNews k job e = none)
    (hquiet : ∀ job, job ≠ jobId → reopens job e = false ∧ ∀ older, completes job e older = false)
    (htrace : w'.trace = e :: w.trace)
    (htarget : ∀ o, target o = true → o.id = jobId)
    (hset : ∀ o, (set o).id = o.id ∧ (set o).status = status)
    (hrows : w'.store.outboundJobs =
      w.store.outboundJobs.map fun o => if target o then set o else o)
    (hcount : 0 < w.store.outboundJobs.countP target)
    (hfree : b = true ∨ status = .retry → ∀ k, k ≠ i → holds k jobId w.trace = false)
    (hopen : status = .retry ∨ status = .queued → b = false ∧ status = .retry)
    (hdone : completed jobId w'.trace = true → (status = .sent ∨ status = .failed) ∧ b = false ∧
      ∀ k, k ≠ i → holds k jobId w.trace = false)
    (hreopens : completed jobId w.trace = true → reopens jobId e = false) : ClaimsInv w' := by
  have hsets : ∀ o, (set o).id = o.id := fun o => (hset o).1
  have hself : holds i jobId w'.trace = b := by
    rw [htrace]
    exact latest_cons_some hnews w.trace
  have hholds : ∀ k job, k ≠ i ∨ job ≠ jobId → holds k job w'.trace = holds k job w.trace := by
    intro k job h
    rw [htrace]
    exact holds_cons_of_news (hother k job h)
  have hcompleted : ∀ job, job ≠ jobId → completed job w'.trace = completed job w.trace := by
    intro job hne
    rw [htrace, completed, (hquiet job hne).2, Bool.false_or]
  have hstatus : ∀ o ∈ w'.store.outboundJobs, o.id = jobId → o.status = status := by
    intro o ho hid
    rw [hrows] at ho
    exact status_of_written hw.ids htarget hset hcount hid ho
  refine ⟨?_, fun job hjob k => ?_, fun job k k' hk hk' => ?_, fun job hjob => ?_, fun job => ?_⟩
  · rw [hrows, map_ids hsets]
    exact hw.ids
  · by_cases hne : job = jobId
    · subst hne
      obtain ⟨o, ho, hid, hclaimable⟩ := hjob
      have hclaimed : status = .retry ∨ status = .queued := by
        rw [← hstatus o ho hid]
        simpa [OutboundJobRow.claimable, or_comm] using hclaimable
      obtain ⟨hb, hretry⟩ := hopen hclaimed
      by_cases hk : k = i
      · rw [hk, hself, hb]
      · rw [hholds k job (.inl hk)]
        exact hfree (.inr hretry) k hk
    · rw [hholds k job (.inr hne)]
      exact hw.unheld job (open_of_written hrows htarget hsets hne hjob) k
  · by_cases hne : job = jobId
    · subst hne
      by_cases hki : k = i
      · by_cases hki' : k' = i
        · rw [hki, hki']
        · rw [hki, hself] at hk
          rw [hholds k' job (.inl hki'), hfree (.inl hk) k' hki'] at hk'
          cases hk'
      · by_cases hki' : k' = i
        · rw [hki', hself] at hk'
          rw [hholds k job (.inl hki), hfree (.inl hk') k hki] at hk
          cases hk
        · rw [hholds _ job (.inl hki)] at hk
          rw [hholds _ job (.inl hki')] at hk'
          exact hw.single job k k' hk hk'
    · rw [hholds _ job (.inr hne)] at hk hk'
      exact hw.single job k k' hk hk'
  · by_cases hne : job = jobId
    · subst hne
      obtain ⟨hfinal, hb, hnobody⟩ := hdone hjob
      refine ⟨fun o ho hid => ?_, fun k => ?_⟩
      · rw [hstatus o ho hid]
        exact hfinal
      · by_cases hk : k = i
        · rw [hk, hself, hb]
        · rw [hholds k job (.inl hk)]
          exact hnobody k hk
    · rw [hcompleted job hne] at hjob
      obtain ⟨hclosed, hnobody⟩ := hw.closed job hjob
      refine ⟨closed_of_written hrows htarget hsets hne hclosed, fun k => ?_⟩
      rw [hholds k job (.inr hne)]
      exact hnobody k
  · rw [htrace]
    refine ⟨fun hjob => ?_, hw.once job⟩
    by_cases hne : job = jobId
    · subst hne
      exact hreopens hjob
    · exact (hquiet job hne).1

end Written

section Effects

variable {o : Outcome} {target : OutboundJobRow → Bool} {set : OutboundJobRow → OutboundJobRow}
  {status : JobStatus} {retryCount : Option Nat} {n : Nat} {w' : World ι Db Label} {env : Env}

theorem claimNews_claim_other {job : String} (hne : k ≠ i ∨ job ≠ jobId) :
    claimNews k job (⟨i, .claimJob jobId n, o⟩ : Event ι Label) = none := by
  rw [claimNews]
  split
  · next h => exact if_neg fun h' => hne.elim (fun hk => hk h.1.symm) fun hjob => hjob h'.1.symm
  · rfl

theorem claimNews_write_other {job : String} (hne : k ≠ i ∨ job ≠ jobId) :
    claimNews k job (⟨i, .writeJob jobId status retryCount n, o⟩ : Event ι Label) = none := by
  rw [claimNews]
  split
  · next h => exact if_neg fun h' => hne.elim (fun hk => hk h.1.symm) fun hjob => hjob h'.1.symm
  · rfl

/-- A claim that has an effect. -/
theorem ClaimsInv.claim (hw : ClaimsInv w) (heff : o.effective = true)
    (htrace : w'.trace = ⟨i, .claimJob jobId (w.store.outboundJobs.countP target), o⟩ :: w.trace)
    (htarget : ∀ o, target o = true → o.id = jobId ∧ o.claimable = true)
    (hset : ∀ o, (set o).id = o.id ∧ (set o).status = .sending)
    (hrows : w'.store.outboundJobs =
      w.store.outboundJobs.map fun o => if target o then set o else o)
    (hcount : 0 < w.store.outboundJobs.countP target) : ClaimsInv w' := by
  -- The job was open, so nobody held it and it was not completed.
  obtain ⟨p, hp, htp⟩ := List.countP_pos_iff.1 hcount
  have hopen : w.store.Open jobId := ⟨p, hp, htarget p htp⟩
  have hincomplete : ¬ completed jobId w.trace = true := fun hjob =>
    not_open_of_closed (hw.closed jobId hjob).1 hopen
  refine hw.written i .sending true ?_ (fun k job hne => claimNews_claim_other hne) ?_ htrace
    (fun o ho => (htarget o ho).1) hset hrows hcount (fun _ k _ => hw.unheld jobId hopen k)
    (by simp) ?_ fun hjob => absurd hjob hincomplete
  · simp [claimNews, heff, hcount]
  · intro job hne
    exact ⟨by simp [reopens, Ne.symm hne], fun _ => rfl⟩
  · rw [htrace]
    exact fun hjob => absurd hjob hincomplete

/-- A consumer that makes a job `retry` has nobody else's job in hand, and none that is
completed. -/
theorem ClaimsInv.free_of_retry (hw : ClaimsInv w)
    (hallow : holds i jobId w.trace = true ∨ w.store.Open jobId) :
    (∀ k, k ≠ i → holds k jobId w.trace = false) ∧ ¬ completed jobId w.trace = true := by
  rcases hallow with h | h
  · refine ⟨fun k hk => ?_, fun hjob => ?_⟩
    · by_contra hheld
      exact hk (hw.single jobId k i (by simpa using hheld) h)
    · rw [(hw.closed jobId hjob).2 i] at h
      cases h
  · exact ⟨fun k _ => hw.unheld jobId h k, fun hjob =>
      not_open_of_closed (hw.closed jobId hjob).1 h⟩

/-- A status that is written with an effect. -/
theorem ClaimsInv.writeStatus (hw : ClaimsInv w) (heff : o.effective = true)
    (hwritten : Written env status retryCount)
    (hallow : status = .retry → holds i jobId w.trace = true ∨ w.store.Open jobId)
    (htrace : w'.trace =
      ⟨i, .writeJob jobId status retryCount (w.store.outboundJobs.countP target), o⟩ :: w.trace)
    (htarget : ∀ o, target o = true → o.id = jobId)
    (hset : ∀ o, (set o).id = o.id ∧ (set o).status = status)
    (hrows : w'.store.outboundJobs =
      w.store.outboundJobs.map fun o => if target o then set o else o)
    (hcount : 0 < w.store.outboundJobs.countP target) : ClaimsInv w' := by
  have hfinal : status = .sent ∨ status = .failed ∨ status = .retry :=
    hwritten.imp_right fun h => h.imp_right And.left
  refine hw.written i status false ?_ (fun k job hne => claimNews_write_other hne) ?_ htrace
    htarget hset hrows hcount ?_ ?_ ?_ ?_
  · simp [claimNews, heff, hcount]
  · intro job hne
    refine ⟨by simp [reopens, Ne.symm hne], fun older => ?_⟩
    unfold completes
    split
    · next hl =>
      obtain ⟨rfl, -, -, -⟩ := Label.writeJob.inj hl
      simp [Ne.symm hne]
    · rfl
  · rintro (h | h) k hk
    · cases h
    · exact (hw.free_of_retry (hallow h)).1 k hk
  · rintro (h | h)
    · exact ⟨rfl, h⟩
    · rcases hfinal with h' | h' | h' <;> rw [h] at h' <;> cases h'
  · intro hjob
    rw [htrace, completed, Bool.or_eq_true] at hjob
    rcases hjob with hjob | hjob
    · unfold completes at hjob
      split at hjob
      · next hl =>
        obtain ⟨-, rfl, -, -⟩ := Label.writeJob.inj hl
        simp only [Bool.and_eq_true] at hjob
        refine ⟨.inl rfl, rfl, fun k hk => ?_⟩
        by_contra hheld
        exact hk (hw.single jobId k i (by simpa using hheld) hjob.1.2)
      · cases hjob
    · refine ⟨?_, rfl, fun k _ => (hw.closed jobId hjob).2 k⟩
      rcases hfinal with h' | h' | h'
      · exact .inl h'
      · exact .inr h'
      · exact absurd hjob (hw.free_of_retry (hallow h')).2
  · intro hjob
    rcases hfinal with rfl | rfl | rfl
    · simp [reopens]
    · simp [reopens]
    · exact absurd hjob (hw.free_of_retry (hallow rfl)).2

end Effects

/-- **Step lemma**: any statement that consumers make, other than the beginning of a send, keeps
the invariant if it is allowed. -/
theorem ClaimsInv.step {env : Env} (hw : ClaimsInv w) {name : Db → Label} {run : Db → Db}
    {o : Outcome} (heffect : JobEffect env w.store (run w.store) (name w.store))
    (hallow : RetriesOwn i w (name w.store) o) : ClaimsInv (w.after i name run o) := by
  have hunchanged : Silent (⟨i, name w.store, o⟩ : Event ι Label) →
      (o.effective = true → (run w.store).outboundJobs.Sublist w.store.outboundJobs) →
      ClaimsInv (w.after i name run o) := by
    intro hsilent hrows
    refine hw.of_silent hsilent rfl ?_
    rw [World.after_store]
    split
    · next heff => exact hrows heff
    · exact List.Sublist.refl _
  by_cases heff : o.effective = true
  · have hstore : (w.after i name run o).store = run w.store := by
      rw [World.after_store, if_pos heff]
    generalize hlabel : name w.store = l at heffect hallow hunchanged
    have htrace : (w.after i name run o).trace = ⟨i, l, o⟩ :: w.trace := by
      rw [World.after_trace, hlabel]
    cases heffect with
    | same hl h =>
      exact hunchanged (silent_of_idle hl) fun _ => by rw [h]
    | discard hl doomed h =>
      exact hunchanged (silent_of_idle hl) fun _ => by
        rw [h]
        exact List.filter_sublist
    | claim job target set htarget hset h =>
      rcases Nat.eq_zero_or_pos (w.store.outboundJobs.countP target) with hcount | hcount
      · rw [hcount] at hunchanged
        refine hunchanged (silent_of_unchanged (.inl ⟨job, rfl⟩)) fun _ => ?_
        rw [h, map_of_countP_zero hcount]
      · exact hw.claim heff htrace htarget (fun o => ⟨(hset o).1, (hset o).2.1⟩) (hstore ▸ h) hcount
    | written job status retryCount target set hwritten htarget hset h =>
      rcases Nat.eq_zero_or_pos (w.store.outboundJobs.countP target) with hcount | hcount
      · rw [hcount] at hunchanged
        refine hunchanged (silent_of_unchanged (.inr ⟨job, status, retryCount, rfl⟩)) fun _ => ?_
        rw [h, map_of_countP_zero hcount]
      · refine hw.writeStatus heff hwritten ?_ htrace htarget
          (fun o => ⟨(hset o).1, (hset o).2.1⟩) (hstore ▸ h) hcount
        rintro rfl
        rcases hallow with rfl | h | h
        · cases heff
        · omega
        · exact h
  · have hrefused : o = .refused := by cases o <;> first | rfl | exact absurd rfl heff
    refine hunchanged (silent_of_refused hrefused fun job key hl => ?_) fun h => absurd h heff
    change name w.store = .beginSend job key at hl
    rw [hl] at heffect
    cases heffect with
    | same hidle _ => cases hidle
    | discard hidle _ _ => cases hidle

end Invariant

end MailRuntime
