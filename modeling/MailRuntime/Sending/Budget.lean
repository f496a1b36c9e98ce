import MailRuntime.Sending.Once

/-!
# How often a job is sent

An attempt that fails counts: it makes the job `retry` with the count it read, plus one, and
gives up beyond the configured maximum. The count is written as a value, not as an increment, so
it is only right if it is still the one that was read when it is written. As long as it is, and a
job is made `retry` only by the consumer that holds it or while it is there to be claimed anyway,
no job is sent more often than the maximum and once more, and its count never goes down.
-/

namespace MailRuntime

open Js Interaction

/-! ### What the trace says -/

section Trace

variable {ι : Type} [DecidableEq ι]

/-- The job is handed to `sendOutboundDraft`. -/
def Label.begins (jobId : String) : Label → Bool
  | .beginSend job _ => job = jobId
  | _ => false

/-- How often `sendOutboundDraft` has been called for the job. -/
def sends (jobId : String) (trace : List (Event ι Label)) : Nat :=
  trace.countP fun e => e.label.begins jobId

/-- What the event says of a send of the job by `i`: that it has begun, or, with a claim, that it
has not. -/
def begunNews (i : ι) (jobId : String) (e : Event ι Label) : Option Bool :=
  if e.thread = i then
    match e.label with
    | .beginSend job _ => if job = jobId then some true else none
    | .claimJob job n => if job = jobId ∧ 0 < n ∧ e.outcome.effective = true then some false else none
    | _ => none
  else none

/-- The consumer has begun to send the job since it last claimed it. -/
def begun (i : ι) (jobId : String) (trace : List (Event ι Label)) : Bool :=
  latest (begunNews i jobId) trace

end Trace

/-! ### The condition -/

/-- A count is written on a job only if it is one more than the count that is there, and a job is
made `retry` only while it is there to be claimed anyway, or with a count by the consumer that
holds it. -/
def CountsCurrent {ι : Type} [DecidableEq ι] (i : ι) (w : World ι Db Label) (l : Label)
    (o : Outcome) : Prop :=
  match l with
  | .writeJob jobId status retryCount n =>
    o = .refused ∨ n = 0 ∨
      ((∀ row ∈ w.store.outboundJobs, row.id = jobId →
          retryCount = none ∨ retryCount = some (row.retryCount + 1)) ∧
        (status = .retry → w.store.Open jobId ∨
          (holds i jobId w.trace = true ∧ retryCount.isSome = true)))
  | _ => True

instance {ι : Type} [DecidableEq ι] (i : ι) (w : World ι Db Label) (l : Label) (o : Outcome) :
    Decidable (CountsCurrent i w l o) := by
  apply Label.casesOn (motive := fun l => Decidable (CountsCurrent i w l o)) l
  all_goals
    intros
    unfold CountsCurrent
    infer_instance

theorem retriesOwn_of_countsCurrent {ι : Type} [DecidableEq ι] {i : ι} {w : World ι Db Label}
    {l : Label} {o : Outcome} (h : CountsCurrent i w l o) : RetriesOwn i w l o := by
  unfold RetriesOwn
  split
  · next jobId retryCount n =>
    rcases h with h | h | ⟨-, h⟩
    · exact .inl h
    · exact .inr (.inl h)
    · rcases h rfl with hopen | ⟨hholds, -⟩
      · exact .inr (.inr (.inr hopen))
      · exact .inr (.inr (.inl hholds))
  · trivial

/-! ### Counts that never go down -/

/-- Every job was there before, with a count no higher. -/
def Db.Grows (s s' : Db) : Prop :=
  ∀ o' ∈ s'.outboundJobs, ∃ o ∈ s.outboundJobs, o.id = o'.id ∧ o.retryCount ≤ o'.retryCount

theorem Db.Grows.refl (s : Db) : s.Grows s := fun o ho => ⟨o, ho, rfl, le_rfl⟩

theorem Db.Grows.trans {s s' s'' : Db} (h : s.Grows s') (h' : s'.Grows s'') : s.Grows s'' := by
  intro o'' ho''
  obtain ⟨o', ho', hid', hle'⟩ := h' o'' ho''
  obtain ⟨o, ho, hid, hle⟩ := h o' ho'
  exact ⟨o, ho, hid.trans hid', by omega⟩

theorem Db.Grows.of_subset {s s' : Db} (h : s'.outboundJobs ⊆ s.outboundJobs) : s.Grows s' :=
  fun o ho => ⟨o, h ho, rfl, le_rfl⟩

/-! ### The invariant -/

section Invariant

variable {ι : Type} [DecidableEq ι] {w w' : World ι Db Label} {i : ι} {jobId : String}
  {e : Event ι Label} {N : Nat}

/-- What is left of the budget: while the job waits, and when it has been claimed, all that its
count leaves; when its send has begun, one less. -/
structure Budget (N : Nat) (jobId : String) (w : World ι Db Label) : Prop where
  waiting : ∀ o ∈ w.store.outboundJobs, o.id = jobId → o.claimable = true →
    sends jobId w.trace ≤ o.retryCount ∧ sends jobId w.trace ≤ N
  claimed : ∀ i, holds i jobId w.trace = true → begun i jobId w.trace = false →
    sends jobId w.trace ≤ N ∧
      ∀ o ∈ w.store.outboundJobs, o.id = jobId → sends jobId w.trace ≤ o.retryCount
  sending : ∀ i, holds i jobId w.trace = true →
    ∀ o ∈ w.store.outboundJobs, o.id = jobId → sends jobId w.trace ≤ o.retryCount + 1
  total : sends jobId w.trace ≤ N + 1

/-- What holds throughout a run in which counts are current. -/
structure BudgetInv (N : Nat) (w : World ι Db Label) : Prop where
  claims : ClaimsInv w
  budget : ∀ jobId, Budget N jobId w

/-- The event says nothing of who holds the job, and does not send it. -/
structure Neutral (jobId : String) (e : Event ι Label) : Prop where
  news : ∀ i, claimNews i jobId e = none
  begun : ∀ i, begunNews i jobId e = none
  sends : e.label.begins jobId = false

theorem neutral_of_idle (hl : e.label.idle = true) : Neutral jobId e := by
  refine ⟨fun i => (silent_of_idle hl).news i jobId, fun i => ?_, ?_⟩
  · obtain ⟨thread, label, outcome⟩ := e
    rw [begunNews]
    split
    · cases label <;> first | rfl | cases hl
    · rfl
  · obtain ⟨thread, label, outcome⟩ := e
    cases label <;> first | rfl | cases hl

theorem neutral_of_refused (ho : e.outcome = .refused)
    (hl : ∀ job key, e.label ≠ .beginSend job key) : Neutral jobId e := by
  refine ⟨fun i => (silent_of_refused ho hl).news i jobId, fun i => ?_, ?_⟩
  · unfold begunNews
    split
    · split
      · next job key hlabel => exact absurd hlabel (hl job key)
      · simp [ho, Outcome.effective]
      · rfl
    · rfl
  · unfold Label.begins
    split
    · next job key hlabel => exact absurd hlabel (hl job key)
    · rfl

theorem neutral_claim {k : ι} {job : String} {n : Nat} {o : Outcome} (h : job ≠ jobId ∨ n = 0) :
    Neutral jobId (⟨k, .claimJob job n, o⟩ : Event ι Label) := by
  have hnews : ¬ (job = jobId ∧ 0 < n) := by
    rintro ⟨hjob, hn⟩
    rcases h with h | h
    · exact h hjob
    · omega
  refine ⟨fun i => ?_, fun i => ?_, rfl⟩
  · rw [claimNews]
    split
    · exact if_neg hnews
    · rfl
  · rw [begunNews]
    split
    · exact if_neg fun h' => hnews ⟨h'.1, h'.2.1⟩
    · rfl

theorem neutral_write {k : ι} {job : String} {status : JobStatus} {retryCount : Option Nat} {n : Nat}
    {o : Outcome} (h : job ≠ jobId ∨ n = 0) :
    Neutral jobId (⟨k, .writeJob job status retryCount n, o⟩ : Event ι Label) := by
  refine ⟨fun i => ?_, fun i => ?_, rfl⟩
  · rw [claimNews]
    split
    · refine if_neg ?_
      rintro ⟨hjob, hn⟩
      rcases h with h | h
      · exact h hjob
      · omega
    · rfl
  · rw [begunNews]
    split <;> rfl

omit [DecidableEq ι] in
theorem sends_cons_of_not (h : e.label.begins jobId = false) (trace : List (Event ι Label)) :
    sends jobId (e :: trace) = sends jobId trace := by
  rw [sends, List.countP_cons_of_neg (by simp [h])]
  rfl

/-- An event that is neutral to the job, after which its rows are rows it had. -/
theorem Budget.of_neutral (hw : Budget N jobId w) (he : Neutral jobId e)
    (htrace : w'.trace = e :: w.trace)
    (hrows : ∀ o ∈ w'.store.outboundJobs, o.id = jobId → o ∈ w.store.outboundJobs) :
    Budget N jobId w' := by
  have hsends : sends jobId w'.trace = sends jobId w.trace := by
    rw [htrace]
    exact sends_cons_of_not he.sends w.trace
  have hholds : ∀ i, holds i jobId w'.trace = holds i jobId w.trace := by
    intro i
    rw [htrace]
    exact holds_cons_of_news (he.news i)
  have hbegun : ∀ i, begun i jobId w'.trace = begun i jobId w.trace := by
    intro i
    rw [htrace]
    exact latest_cons_none (he.begun i) w.trace
  constructor
  · intro o ho hid hclaimable
    rw [hsends]
    exact hw.waiting o (hrows o ho hid) hid hclaimable
  · intro i hi hfresh
    rw [hholds] at hi
    rw [hbegun] at hfresh
    obtain ⟨hN, hcount⟩ := hw.claimed i hi hfresh
    rw [hsends]
    exact ⟨hN, fun o ho hid => hcount o (hrows o ho hid) hid⟩
  · intro i hi o ho hid
    rw [hholds] at hi
    rw [hsends]
    exact hw.sending i hi o (hrows o ho hid) hid
  · rw [hsends]
    exact hw.total

/-- Rows with one identifier are one row. -/
theorem ClaimsInv.row_unique (hw : ClaimsInv w) {o p : OutboundJobRow}
    (ho : o ∈ w.store.outboundJobs) (hp : p ∈ w.store.outboundJobs) (hid : o.id = p.id) : o = p :=
  List.inj_on_of_nodup_map hw.ids ho hp hid

/-- The send of the job begins, by a consumer that has not begun one since its claim. -/
theorem Budget.beginSend (hw : Budget N jobId w) (hclaims : ClaimsInv w) {draftR2Key : String}
    (hholds : holds i jobId w.trace = true) (hfresh : begun i jobId w.trace = false) {o : Outcome}
    (hstore : w'.store = w.store)
    (htrace : w'.trace = ⟨i, .beginSend jobId draftR2Key, o⟩ :: w.trace) : Budget N jobId w' := by
  obtain ⟨hN, hcount⟩ := hw.claimed i hholds hfresh
  have hsends : sends jobId w'.trace = sends jobId w.trace + 1 := by
    rw [htrace, sends, List.countP_cons_of_pos (by simp [Label.begins])]
    rfl
  have hsame : ∀ k, holds k jobId w'.trace = holds k jobId w.trace := by
    intro k
    rw [htrace]
    refine holds_cons_of_news ?_
    rw [claimNews]
    split <;> rfl
  have hself : begun i jobId w'.trace = true := by
    rw [htrace]
    exact latest_cons_some (by simp [begunNews]) w.trace
  constructor
  · intro row hrow hid hclaimable
    rw [hstore] at hrow
    rw [hclaims.unheld jobId ⟨row, hrow, hid, hclaimable⟩ i] at hholds
    cases hholds
  · intro k hk hfresh'
    rw [hsame] at hk
    obtain rfl := hclaims.single jobId k i hk hholds
    rw [hself] at hfresh'
    cases hfresh'
  · intro k hk row hrow hid
    rw [hstore] at hrow
    have hrowCount := hcount row hrow hid
    omega
  · omega

section Written

variable {o : Outcome} {target : OutboundJobRow → Bool} {set : OutboundJobRow → OutboundJobRow}
  {status : JobStatus} {retryCount : Option Nat}

/-- A claim of the job that has an effect. -/
theorem Budget.claim (hw : Budget N jobId w) (hclaims : ClaimsInv w)
    (htrace : w'.trace = ⟨i, .claimJob jobId (w.store.outboundJobs.countP target), o⟩ :: w.trace)
    (htarget : ∀ o, target o = true → o.id = jobId ∧ o.claimable = true)
    (hset : ∀ o, (set o).id = o.id ∧ (set o).status = .sending ∧
      (set o).retryCount = o.retryCount)
    (hrows : w'.store.outboundJobs =
      w.store.outboundJobs.map fun o => if target o then set o else o)
    (hcount : 0 < w.store.outboundJobs.countP target) : Budget N jobId w' := by
  obtain ⟨q, hq, htq⟩ := List.countP_pos_iff.1 hcount
  obtain ⟨hqid, hqclaimable⟩ := htarget q htq
  obtain ⟨hqcount, hN⟩ := hw.waiting q hq hqid hqclaimable
  have hsends : sends jobId w'.trace = sends jobId w.trace := by
    rw [htrace]
    exact sends_cons_of_not rfl w.trace
  -- The job's only row is the one that was waiting, now `sending`.
  have hrow : ∀ o ∈ w'.store.outboundJobs, o.id = jobId →
      o.status = .sending ∧ o.retryCount = q.retryCount := by
    intro o ho hid
    rw [hrows] at ho
    obtain ⟨p, hp, rfl⟩ := eq_set_of_mem_map hclaims.ids (fun o ho => (htarget o ho).1)
      (fun o => (hset o).1) hcount hid ho
    obtain ⟨hpid, hstatus, hpcount⟩ := hset p
    obtain rfl := hclaims.row_unique hp hq ((hpid.symm.trans hid).trans hqid.symm)
    exact ⟨hstatus, hpcount⟩
  constructor
  · intro o ho hid hclaimable
    simp [OutboundJobRow.claimable, (hrow o ho hid).1] at hclaimable
  · intro k _ _
    refine ⟨by omega, fun o ho hid => ?_⟩
    have := (hrow o ho hid).2
    omega
  · intro k _ o ho hid
    have := (hrow o ho hid).2
    omega
  · omega

/-- A status of the job that is written with an effect. -/
theorem Budget.writeStatus (hw : Budget N jobId w) (hclaims : ClaimsInv w)
    (heff : o.effective = true)
    (hcounts : status = .retry → ∀ count ∈ retryCount, count ≤ N)
    (hcurrent : ∀ count ∈ retryCount, ∀ row ∈ w.store.outboundJobs, row.id = jobId →
      row.retryCount + 1 = count)
    (hretry : status = .retry → w.store.Open jobId ∨
      (holds i jobId w.trace = true ∧ retryCount.isSome = true))
    (hwritten : status = .sent ∨ status = .failed ∨ status = .retry)
    (htrace : w'.trace =
      ⟨i, .writeJob jobId status retryCount (w.store.outboundJobs.countP target), o⟩ :: w.trace)
    (htarget : ∀ o, target o = true → o.id = jobId)
    (hset : ∀ o, (set o).id = o.id ∧ (set o).status = status ∧
      (set o).retryCount = retryCount.getD o.retryCount)
    (hrows : w'.store.outboundJobs =
      w.store.outboundJobs.map fun o => if target o then set o else o)
    (hcount : 0 < w.store.outboundJobs.countP target) : Budget N jobId w' := by
  have hsends : sends jobId w'.trace = sends jobId w.trace := by
    rw [htrace]
    exact sends_cons_of_not rfl w.trace
  have hself : holds i jobId w'.trace = false := by
    rw [htrace]
    exact latest_cons_some (by simp [claimNews, heff, hcount]) w.trace
  have hother : ∀ k, k ≠ i → holds k jobId w'.trace = holds k jobId w.trace := by
    intro k hk
    rw [htrace]
    exact holds_cons_of_news (claimNews_write_other (.inl hk))
  have hbegun : ∀ k, begun k jobId w'.trace = begun k jobId w.trace := by
    intro k
    rw [htrace]
    refine latest_cons_none ?_ w.trace
    rw [begunNews]
    split <;> rfl
  have hrow : ∀ o ∈ w'.store.outboundJobs, o.id = jobId → ∃ p ∈ w.store.outboundJobs,
      p.id = jobId ∧ o.status = status ∧ o.retryCount = retryCount.getD p.retryCount ∧
        p.retryCount ≤ o.retryCount := by
    intro o ho hid
    rw [hrows] at ho
    obtain ⟨p, hp, rfl⟩ := eq_set_of_mem_map hclaims.ids htarget (fun o => (hset o).1) hcount hid ho
    obtain ⟨hpid, hstatus, hpcount⟩ := hset p
    refine ⟨p, hp, hpid.symm.trans hid, hstatus, hpcount, ?_⟩
    rw [hpcount]
    cases hcnt : retryCount with
    | none => exact le_rfl
    | some count =>
      have := hcurrent count hcnt p hp (hpid.symm.trans hid)
      rw [Option.getD_some]
      omega
  constructor
  · intro o ho hid hclaimable
    obtain ⟨p, hp, hpid, hstatus, hpcount, hle⟩ := hrow o ho hid
    have hstatus' : status = .retry := by
      rcases hwritten with h | h | h
      · simp [OutboundJobRow.claimable, hstatus, h] at hclaimable
      · simp [OutboundJobRow.claimable, hstatus, h] at hclaimable
      · exact h
    rw [hsends]
    rcases hretry hstatus' with ⟨q, hq, hqid, hqclaimable⟩ | ⟨hholds, hsome⟩
    · obtain rfl := hclaims.row_unique hp hq (hpid.trans hqid.symm)
      obtain ⟨hwait, hN⟩ := hw.waiting p hp hpid hqclaimable
      exact ⟨by omega, hN⟩
    · obtain ⟨count, rfl⟩ := Option.isSome_iff_exists.1 hsome
      have hcur := hcurrent count rfl p hp hpid
      have hN := hcounts hstatus' count rfl
      have hsending := hw.sending i hholds p hp hpid
      rw [Option.getD_some] at hpcount
      exact ⟨by omega, by omega⟩
  · intro k hk hfresh
    have hki : k ≠ i := by
      rintro rfl
      rw [hself] at hk
      cases hk
    rw [hother k hki] at hk
    rw [hbegun] at hfresh
    obtain ⟨hN, hleft⟩ := hw.claimed k hk hfresh
    refine ⟨by omega, fun o ho hid => ?_⟩
    obtain ⟨p, hp, hpid, -, -, hle⟩ := hrow o ho hid
    have := hleft p hp hpid
    omega
  · intro k hk o ho hid
    have hki : k ≠ i := by
      rintro rfl
      rw [hself] at hk
      cases hk
    rw [hother k hki] at hk
    obtain ⟨p, hp, hpid, -, -, hle⟩ := hrow o ho hid
    have := hw.sending k hk p hp hpid
    omega
  · have := hw.total
    omega

end Written

theorem grows_of_map {s s' : Db} {target : OutboundJobRow → Bool}
    {set : OutboundJobRow → OutboundJobRow}
    (hset : ∀ o ∈ s.outboundJobs, target o = true →
      (set o).id = o.id ∧ o.retryCount ≤ (set o).retryCount)
    (h : s'.outboundJobs = s.outboundJobs.map fun o => if target o then set o else o) :
    s.Grows s' := by
  intro o' ho'
  rw [h] at ho'
  obtain ⟨o, ho, rfl⟩ := List.mem_map.1 ho'
  refine ⟨o, ho, ?_⟩
  split
  · next ht =>
    obtain ⟨hid, hle⟩ := hset o ho ht
    exact ⟨hid.symm, hle⟩
  · exact ⟨rfl, le_rfl⟩

/-- **Step lemma**: any statement that consumers make, other than the beginning of a send, keeps
the invariant and lets no count go down if it is allowed. -/
theorem BudgetInv.step {env : Env} (hw : BudgetInv env.outboundSendMaxRetries w)
    {name : Db → Label} {run : Db → Db} {o : Outcome}
    (heffect : JobEffect env w.store (run w.store) (name w.store))
    (hallow : CountsCurrent i w (name w.store) o) :
    BudgetInv env.outboundSendMaxRetries (w.after i name run o) ∧
      w.store.Grows (w.after i name run o).store := by
  have hclaims : ClaimsInv (w.after i name run o) :=
    hw.claims.step heffect (retriesOwn_of_countsCurrent hallow)
  have hunchanged : (∀ job, Neutral job (⟨i, name w.store, o⟩ : Event ι Label)) →
      (w.after i name run o).store.outboundJobs ⊆ w.store.outboundJobs →
      BudgetInv env.outboundSendMaxRetries (w.after i name run o) ∧
        w.store.Grows (w.after i name run o).store := by
    intro hneutral hrows
    exact ⟨⟨hclaims, fun job => (hw.budget job).of_neutral (hneutral job) rfl
      fun o ho _ => hrows ho⟩, .of_subset hrows⟩
  by_cases heff : o.effective = true
  · have hstore : (w.after i name run o).store = run w.store := by
      rw [World.after_store, if_pos heff]
    rw [hstore] at hunchanged ⊢
    have htrace : (w.after i name run o).trace = ⟨i, name w.store, o⟩ :: w.trace := rfl
    generalize name w.store = l at heffect hallow hunchanged htrace
    cases heffect with
    | same hl h =>
      refine hunchanged (fun job => neutral_of_idle hl) ?_
      rw [h]
      exact List.Subset.refl _
    | discard hl doomed h =>
      refine hunchanged (fun job => neutral_of_idle hl) ?_
      rw [h]
      exact List.filter_subset_self _
    | claim jobId target set htarget hset h =>
      rcases Nat.eq_zero_or_pos (w.store.outboundJobs.countP target) with hcount | hcount
      · refine hunchanged (fun job => neutral_claim (.inr hcount)) ?_
        rw [h, map_of_countP_zero hcount]
        exact List.Subset.refl _
      · refine ⟨⟨hclaims, fun job => ?_⟩,
          grows_of_map (fun o _ _ => ⟨(hset o).1, (hset o).2.2.ge⟩) h⟩
        by_cases hjob : jobId = job
        · subst hjob
          exact (hw.budget jobId).claim hw.claims htrace htarget hset (hstore ▸ h) hcount
        · refine (hw.budget job).of_neutral (neutral_claim (.inl hjob)) htrace fun o ho hid => ?_
          rw [hstore, h] at ho
          exact (mem_map_of_ne (fun o ho => (htarget o ho).1) (fun o => (hset o).1)
            (hid.trans_ne (Ne.symm hjob))).1 ho
    | written jobId status retryCount target set hwritten htarget hset h =>
      rcases Nat.eq_zero_or_pos (w.store.outboundJobs.countP target) with hcount | hcount
      · refine hunchanged (fun job => neutral_write (.inr hcount)) ?_
        rw [h, map_of_countP_zero hcount]
        exact List.Subset.refl _
      · obtain ⟨hcurrent, hretry⟩ : (∀ count ∈ retryCount, ∀ row ∈ w.store.outboundJobs,
            row.id = jobId → row.retryCount + 1 = count) ∧
            (status = .retry → w.store.Open jobId ∨
              (holds i jobId w.trace = true ∧ retryCount.isSome = true)) := by
          rcases hallow with rfl | hzero | ⟨hcurrent, hretry⟩
          · cases heff
          · omega
          · refine ⟨fun count hcnt row hrow hid => ?_, hretry⟩
            obtain rfl : retryCount = some count := hcnt
            rcases hcurrent row hrow hid with h | h
            · cases h
            · exact (Option.some.inj h).symm
        refine ⟨⟨hclaims, fun job => ?_⟩, grows_of_map (fun o ho ht => ⟨(hset o).1, ?_⟩) h⟩
        · by_cases hjob : jobId = job
          · subst hjob
            refine (hw.budget jobId).writeStatus hw.claims heff ?_ hcurrent hretry
              (hwritten.imp_right fun h => h.imp_right And.left) htrace htarget hset (hstore ▸ h)
              hcount
            rintro rfl count hcnt
            rcases hwritten with h | h | ⟨-, h⟩
            · cases h
            · cases h
            · exact h count hcnt
          · refine (hw.budget job).of_neutral (neutral_write (.inl hjob)) htrace
              fun o ho hid => ?_
            rw [hstore, h] at ho
            exact (mem_map_of_ne htarget (fun o => (hset o).1) (hid.trans_ne (Ne.symm hjob))).1 ho
        · rw [(hset o).2.2]
          cases hcnt : retryCount with
          | none => exact le_rfl
          | some count =>
            have := hcurrent count hcnt o ho (htarget o ht)
            rw [Option.getD_some]
            omega
  · have hrefused : o = .refused := by cases o <;> first | rfl | exact absurd rfl heff
    refine hunchanged (fun job => neutral_of_refused hrefused fun job key hl => ?_) ?_
    · change name w.store = .beginSend job key at hl
      rw [hl] at heffect
      cases heffect with
      | same hidle _ => cases hidle
      | discard hidle _ _ => cases hidle
    · rw [World.after_store, if_neg heff]
      exact List.Subset.refl _

end Invariant

/-! ### The protocol -/

section Protocol

variable {ι : Type} [DecidableEq ι] {i k : ι} {w : World ι Db Label}

theorem begun_after {name : Db → Label} {run : Db → Db} {o : Outcome} (hk : k ≠ i) (jobId : String) :
    begun k jobId (w.after i name run o).trace = begun k jobId w.trace :=
  latest_cons_none (if_neg hk.symm) w.trace

/-- The send of a job begins, by a consumer that is ready. -/
theorem BudgetInv.beginSend {N : Nat} {w' : World ι Db Label} (hw : BudgetInv N w)
    {jobId draftR2Key : String} (hholds : holds i jobId w.trace = true)
    (hfresh : begun i jobId w.trace = false) {o : Outcome} (hstore : w'.store = w.store)
    (htrace : w'.trace = ⟨i, .beginSend jobId draftR2Key, o⟩ :: w.trace) : BudgetInv N w' := by
  refine ⟨hw.claims.beginSend hholds hstore htrace, fun job => ?_⟩
  by_cases hjob : jobId = job
  · subst hjob
    exact (hw.budget jobId).beginSend hw.claims hholds hfresh hstore htrace
  · refine (hw.budget job).of_neutral ⟨fun k => ?_, fun k => ?_, ?_⟩ htrace fun o ho _ => ?_
    · rw [claimNews]
      split <;> rfl
    · rw [begunNews]
      split
      · exact if_neg hjob
      · rfl
    · simpa [Label.begins] using hjob
    · rwa [hstore] at ho

/-- The consumers, each of which relies on the others to leave it its holds and its sends. -/
def budget (ι : Type) [DecidableEq ι] (env : Env) : JobProtocol ι env where
  protocol := {
    inv := BudgetInv env.outboundSendMaxRetries
    keeps := fun w w' => w.store.Grows w'.store
    rely := fun i w w' => ∀ jobId, holds i jobId w'.trace = holds i jobId w.trace ∧
      begun i jobId w'.trace = begun i jobId w.trace
    allow := CountsCurrent
    keeps_refl := fun w => .refl w.store
    keeps_trans := fun _ _ _ h h' => h.trans h'
    rely_refl := fun _ _ _ => ⟨rfl, rfl⟩
    rely_trans := fun _ _ _ _ h h' jobId =>
      ⟨(h' jobId).1.trans (h jobId).1, (h' jobId).2.trans (h jobId).2⟩ }
  ready i jobId trace := holds i jobId trace = true ∧ begun i jobId trace = false
  good_silent hrun hw := by
    refine ⟨⟨hw.claims.silent hrun, fun jobId => ?_⟩, ?_, fun _ _ _ => ⟨rfl, rfl⟩⟩
    · obtain ⟨hwaiting, hclaimed, hsending, htotal⟩ := hw.budget jobId
      exact ⟨by rwa [World.silent_store, hrun], by rwa [World.silent_store, hrun],
        by rwa [World.silent_store, hrun], htotal⟩
    · exact .of_subset (by rw [World.silent_store, hrun]; exact List.Subset.refl _)
  good_step hstmt hw hallow := by
    obtain ⟨hinv, hgrows⟩ := BudgetInv.step hw (hstmt _) hallow
    exact ⟨hinv, hgrows, fun k hk jobId => ⟨holds_after k hk, begun_after hk jobId⟩⟩
  good_begin hw hready := by
    refine ⟨BudgetInv.beginSend hw hready.1 hready.2 (World.after_id_store ..) rfl,
      .of_subset ?_, fun k hk jobId => ⟨holds_after k hk, begun_after hk jobId⟩⟩
    rw [World.after_id_store]
    exact List.Subset.refl _
  stable_ready := fun _ _ hready hl =>
    ⟨(hl.rely _).1.trans hready.1, (hl.rely _).2.trans hready.2⟩
  ready_idle hidle hready :=
    ⟨(holds_cons_of_news ((neutral_of_idle hidle).news _)).trans hready.1,
      (latest_cons_none ((neutral_of_idle hidle).begun _) _).trans hready.2⟩
  ready_claim hn :=
    ⟨latest_cons_some ((if_pos ⟨rfl, rfl⟩).trans (if_pos ⟨rfl, hn⟩)) _,
      latest_cons_some ((if_pos rfl).trans (if_pos ⟨rfl, hn, rfl⟩)) _⟩

theorem budgetInv_start {s : Db} (hids : (s.outboundJobs.map OutboundJobRow.id).Nodup) (N : Nat) :
    BudgetInv N (⟨s, []⟩ : World ι Db Label) := by
  refine ⟨claimsInv_start hids, fun jobId => ⟨fun o _ _ _ => ?_, ?_, ?_, Nat.zero_le _⟩⟩
  · exact ⟨Nat.zero_le _, Nat.zero_le _⟩
  · exact fun i h => absurd h Bool.false_ne_true
  · exact fun i h => absurd h Bool.false_ne_true

end Protocol

/-! ### The result -/

/-- **A job is sent at most once more than the configured maximum of retries, and its count never
goes down**, in every run in which counts are current when they are written. -/
theorem budget_of_countsCurrent {ι : Type} [DecidableEq ι] (env : Env) (batches : ι → List String)
    (s : Db) (hids : (s.outboundJobs.map OutboundJobRow.id).Nodup)
    (schedule later : List (ι × Outcome))
    (h : (startSends env batches s).Meets CountsCurrent (schedule ++ later)) (jobId : String) :
    sends jobId ((startSends env batches s).exec schedule).world.trace ≤
        env.outboundSendMaxRetries + 1 ∧
      ∀ o ∈ ((startSends env batches s).exec schedule).world.store.outboundJobs, o.id = jobId →
        ∀ o' ∈ ((startSends env batches s).exec (schedule ++ later)).world.store.outboundJobs,
          o'.id = jobId → o.retryCount ≤ o'.retryCount := by
  have hstart : (budget ι env).protocol.inv ⟨s, []⟩ := budgetInv_start hids _
  have hinv : BudgetInv env.outboundSendMaxRetries
      ((startSends env batches s).exec schedule).world :=
    (budget ι env).inv_of_meets hstart (((Config.meets_append _ _ _).1 h).1)
  refine ⟨(hinv.budget jobId).total, fun o ho hid o' ho' hid' => ?_⟩
  have hgrows : Db.Grows ((startSends env batches s).exec schedule).world.store
      ((startSends env batches s).exec (schedule ++ later)).world.store :=
    (budget ι env).keeps_of_meets hstart h
  obtain ⟨p, hp, hpid, hle⟩ := hgrows o' ho'
  obtain rfl := hinv.claims.row_unique hp ho ((hpid.trans hid').trans hid.symm)
  exact hle

/-- The job is delivered five times, one after the other. -/
@[irreducible] def deliveredFiveTimes : Config (Fin 5) Db Label Exn (List Verdict) :=
  (startSends mailEnv (fun _ => ["job"]) onceDb).exec
    (turns 0 40 ++ turns 1 40 ++ turns 2 40 ++ turns 3 40 ++ turns 4 40)

/-- A provider that cannot be reached is called four times, with three retries. -/
theorem five_deliveries_four_sends :
    sends "job" deliveredFiveTimes.world.trace = 4 ∧
      sends "job" deliveredFiveTimes.world.trace ≤ mailEnv.outboundSendMaxRetries + 1 := by
  refine ⟨by decide +kernel, ?_⟩
  unfold deliveredFiveTimes
  exact (budget_of_countsCurrent mailEnv (fun _ : Fin 5 => ["job"]) onceDb (by decide +kernel)
    (turns 0 40 ++ turns 1 40 ++ turns 2 40 ++ turns 3 40 ++ turns 4 40) [] (by decide +kernel)
    "job").1

/-- No retries are configured and the provider cannot be reached. The job has been sent in vain
and is `failed`; the first read of a second consumer fails, and it makes the job `retry`; so a
third sends it again. -/
theorem failed_read_exceeds_budget :
    ¬ (sends "job" ((startSends { mailEnv with outboundSendMaxRetries := 0 }
          (fun _ : Fin 3 => ["job"]) onceDb).exec
        (turns 0 40 ++ [(1, .refused)] ++ turns 1 10 ++ turns 2 40)).world.trace ≤ 0 + 1) ∧
      ∀ e ∈ ((startSends { mailEnv with outboundSendMaxRetries := 0 }
          (fun _ : Fin 3 => ["job"]) onceDb).exec
        (turns 0 40 ++ [(1, .refused)] ++ turns 1 10 ++ turns 2 40)).world.trace,
        e.label ≠ .callProvider "job" true := by
  decide +kernel

end MailRuntime
