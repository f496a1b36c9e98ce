import MailRuntime.Enqueueing.Runs

/-!
# The request that holds a key

A request that inserts the row of its idempotency key holds the key until it records what it has
created, or gives the key back. Nothing in the row says who holds it. What does is the trace:
the last to write the row, of the requests with the key. A request only ever updates or deletes
the row while it holds the key, or completes it once something is recorded in it.

## What is proved

The invariant (`KeysAnswered`), that no two requests hold a key (`holding_unique`), and what
the statements on the row and all others keep and guarantee (`good_keyStatement`,
`good_otherStatement`).
-/

namespace MailRuntime

open Js Interaction

/-! ### Requests with keys -/

/-- The row of the request's key. -/
def DraftCall.slot : DraftCall → Option IdempotencySlot
  | send claims _ key => ((key.map trim).filter truthy).map (draftSendSlot claims.tenantId)
  | createAndSend input =>
    ((input.idempotencyKey.map trim).filter truthy).map (draftSendSlot input.tenantId)
  | _ => none

/-- The fingerprint of the request. -/
def DraftCall.fingerprint (env : Env) : DraftCall → String
  | send _ draftId _ => env.stringify (.obj [("draftId", .str draftId)])
  | createAndSend input => input.requestFingerprint
  | _ => ""

/-- The request creates the draft that it sends. -/
def DraftCall.creates : DraftCall → Bool
  | createAndSend _ => true
  | _ => false

/-- What a response to the request names: the draft it was to create, or else the job. -/
def DraftCall.named (call : DraftCall) (response : Json) : Option String :=
  if call.creates then
    string ((fieldsOf ((fieldsOf (some response)).lookup "draft")).lookup "id")
  else string ((fieldsOf (some response)).lookup "outboundJobId")

section

variable {ι : Type} [DecidableEq ι] (envs : ι → Env) (calls : ι → DraftCall)

/-- What the event says of whether `i` was the last to write the row of its key. -/
def keyNews (i : ι) (e : Event ι Label) : Option Bool :=
  if e.outcome.effective = true ∧ e.label = .write .idempotencyKeys ∧
      (calls e.thread).slot = (calls i).slot then some (decide (e.thread = i))
  else none

/-- Of the requests with its key, `i` was the last to write the key's row. -/
def wroteKeyLast (i : ι) (trace : List (Event ι Label)) : Bool := latest (keyNews calls i) trace

/-- The request holds its key: it has written the row, and nothing is recorded there yet. -/
structure HoldsKey (i : ι) (w : World ι Db Label) : Prop where
  wrote : wroteKeyLast calls i w.trace = true
  row : ∃ r ∈ w.store.idempotencyKeys, (calls i).slot = some r.slot ∧
    r.requestFingerprint = (calls i).fingerprint (envs i) ∧ r.resourceId = none

/-- The row of the request's key is the request's, and something is recorded in it. -/
def RecordedAs (i : ι) (resourceId : String) (w : World ι Db Label) : Prop :=
  ∃ r ∈ w.store.idempotencyKeys, (calls i).slot = some r.slot ∧
    r.requestFingerprint = (calls i).fingerprint (envs i) ∧ r.resourceId = some resourceId

/-- A response stored in the row names what the row records. -/
def AnswersFor (r : IdempotencyRow) : Prop :=
  ∀ i, (calls i).slot = some r.slot → (calls i).fingerprint (envs i) = r.requestFingerprint →
    ∀ response, r.response = some response →
      ∃ resourceId, r.resourceId = some resourceId ∧ (calls i).named response = some resourceId

/-- What holds throughout a run. -/
structure KeysAnswered (w : World ι Db Label) : Prop where
  unique : (w.store.idempotencyKeys.map IdempotencyRow.slot).Nodup
  keyed : w.store.DraftsKeyed
  answers : ∀ r ∈ w.store.idempotencyKeys, AnswersFor envs calls r
  jobs : ∀ i, (calls i).creates = true → (calls i).slot.isSome = true →
    ∀ o ∈ w.store.outboundJobs, (envs i).Mints o.id →
      ∃ resourceId, RecordedAs envs calls i resourceId w ∧ o.draftR2Key = draftR2KeyOf resourceId

/-- What every step keeps to: what is recorded stays. -/
def KeepsRecorded (w w' : World ι Db Label) : Prop :=
  ∀ r ∈ w.store.idempotencyKeys, ∀ resourceId, r.resourceId = some resourceId →
    ∃ r' ∈ w'.store.idempotencyKeys, r'.slot = r.slot ∧
      r'.requestFingerprint = r.requestFingerprint ∧ r'.resourceId = some resourceId

/-- The protocol of the requests. -/
def keyHolding : Protocol ι Db Label where
  inv := KeysAnswered envs calls
  keeps := KeepsRecorded
  rely i w w' := HoldsKey envs calls i w → HoldsKey envs calls i w'
  allow _ _ _ _ := True
  keeps_refl _ r hr _ h := ⟨r, hr, rfl, rfl, h⟩
  keeps_trans _ _ _ h h' r hr id hid := by
    obtain ⟨r', hr', hslot, hfp, hid'⟩ := h r hr id hid
    obtain ⟨r'', hr'', hslot', hfp', hid''⟩ := h' r' hr' id hid'
    exact ⟨r'', hr'', hslot'.trans hslot, hfp'.trans hfp, hid''⟩
  rely_refl _ _ := id
  rely_trans _ _ _ _ h h' := h' ∘ h

variable {envs calls} {w w' : World ι Db Label} {i k : ι} {resourceId : String}

/-! ### Holders -/

theorem keyNews_none {e : Event ι Label} (h : e.label ≠ .write .idempotencyKeys) :
    keyNews calls i e = none := if_neg fun hw => h hw.2.1

theorem keyNews_of_slot {e : Event ι Label} (h : (calls e.thread).slot ≠ (calls i).slot) :
    keyNews calls i e = none := if_neg fun hw => h hw.2.2

/-- Two requests with one key cannot both have been the last. -/
theorem wroteKeyLast_unique (hslot : (calls i).slot = (calls k).slot)
    {trace : List (Event ι Label)} (hi : wroteKeyLast calls i trace = true)
    (hk : wroteKeyLast calls k trace = true) : i = k := by
  induction trace with
  | nil => cases hi
  | cons e rest ih =>
    unfold wroteKeyLast at hi hk ih
    rw [latest_cons] at hi hk
    unfold keyNews at hi hk ih
    rw [hslot] at hi ih
    split at hi
    · next hnews =>
      rw [if_pos hnews] at hk
      simp only [Option.getD_some, decide_eq_true_eq] at hi hk
      exact hi.symm.trans hk
    · next hnews =>
      rw [if_neg hnews] at hk
      exact ih hi hk

/-- No two requests hold a key. -/
theorem holding_unique (hslot : (calls i).slot = (calls k).slot) (hi : HoldsKey envs calls i w)
    (hk : HoldsKey envs calls k w) : i = k := wroteKeyLast_unique hslot hi.wrote hk.wrote

omit [DecidableEq ι] in
/-- Rows with one primary key are one. -/
theorem KeysAnswered.row_unique (h : KeysAnswered envs calls w) {r r' : IdempotencyRow}
    (hr : r ∈ w.store.idempotencyKeys) (hr' : r' ∈ w.store.idempotencyKeys)
    (hslot : r.slot = r'.slot) : r = r' := List.inj_on_of_nodup_map h.unique hr hr' hslot

/-- A key is not held where something is recorded. -/
theorem RecordedAs.not_holdsKey (h : RecordedAs envs calls i resourceId w)
    (hw : KeysAnswered envs calls w) (hslot : (calls k).slot = (calls i).slot) :
    ¬ HoldsKey envs calls k w := by
  intro hk
  obtain ⟨r, hr, hrslot, -, hrecorded⟩ := h
  obtain ⟨r', hr', hrslot', -, hnone⟩ := hk.row
  rw [hslot, hrslot] at hrslot'
  rw [hw.row_unique hr hr' (Option.some.inj hrslot'), hnone] at hrecorded
  cases hrecorded

omit [DecidableEq ι] in
/-- What two requests with one key record is the same. -/
theorem RecordedAs.unique {resourceId' : String} (hw : KeysAnswered envs calls w)
    (hslot : (calls i).slot = (calls k).slot) (h : RecordedAs envs calls i resourceId w)
    (h' : RecordedAs envs calls k resourceId' w) :
    (calls i).fingerprint (envs i) = (calls k).fingerprint (envs k) ∧ resourceId = resourceId' := by
  obtain ⟨r, hr, hrslot, hfp, hid⟩ := h
  obtain ⟨r', hr', hrslot', hfp', hid'⟩ := h'
  rw [hslot, hrslot'] at hrslot
  obtain rfl := hw.row_unique hr' hr (Option.some.inj hrslot)
  exact ⟨hfp.symm.trans hfp', Option.some.inj (hid.symm.trans hid')⟩

omit [DecidableEq ι] in
theorem recordedAs_keeps (hk : KeepsRecorded w w') (h : RecordedAs envs calls i resourceId w) :
    RecordedAs envs calls i resourceId w' := by
  obtain ⟨r, hr, hslot, hfp, hid⟩ := h
  obtain ⟨r', hr', hslot', hfp', hid'⟩ := hk r hr resourceId hid
  exact ⟨r', hr', hslot.trans (congrArg some hslot'.symm), hfp'.trans hfp, hid'⟩

theorem recordedAs_stable : (keyHolding envs calls).Stable i (RecordedAs envs calls i resourceId) :=
  .of_keeps fun _ _ hk h => recordedAs_keeps hk h

theorem holdsKey_stable : (keyHolding envs calls).Stable i (HoldsKey envs calls i) :=
  fun _ _ h hl => hl.rely h

/-! ### Statements on other tables -/

/-- The step leaves the rows of keys alone, and inserts no jobs but those the request may. -/
structure KeepsKeys (env : Env) (may : String → Prop) (s s' : Db) : Prop where
  rows : s'.idempotencyKeys = s.idempotencyKeys
  keyed : s.DraftsKeyed → s'.DraftsKeyed
  jobs : ∀ o ∈ s'.outboundJobs, o ∈ s.outboundJobs ∨ env.Mints o.id ∧ may o.draftR2Key

theorem KeepsKeys.refl {env : Env} {may : String → Prop} (s : Db) : KeepsKeys env may s s :=
  ⟨rfl, id, fun _ ho => .inl ho⟩

/-- The jobs of those drafts are the request's to insert. -/
def MaySend (envs : ι → Env) (calls : ι → DraftCall) (i : ι) (may : String → Prop)
    (w : World ι Db Label) : Prop :=
  (calls i).creates = true → (calls i).slot.isSome = true → ∀ draftR2Key, may draftR2Key →
    ∃ resourceId, RecordedAs envs calls i resourceId w ∧ draftR2Key = draftR2KeyOf resourceId

theorem good_otherStep {may : String → Prop} (hseparate : Separate envs)
    (hw : KeysAnswered envs calls w)
    (htrace : ∀ k, wroteKeyLast calls k w'.trace = wroteKeyLast calls k w.trace)
    (hmay : MaySend envs calls i may w) (h : KeepsKeys (envs i) may w.store w'.store) :
    (keyHolding envs calls).Good i w w' := by
  have hkeeps : KeepsRecorded w w' := by
    intro r hr id hid
    exact ⟨r, by rwa [h.rows], rfl, rfl, hid⟩
  refine ⟨⟨?_, h.keyed hw.keyed, ?_, ?_⟩, hkeeps, fun k _ hk => ⟨?_, ?_⟩⟩
  · rw [h.rows]
    exact hw.unique
  · rw [h.rows]
    exact hw.answers
  · intro k hcreates hslot o ho hmints
    obtain ho | ⟨hown, hmayo⟩ := h.jobs o ho
    · obtain ⟨id, hid, hkey⟩ := hw.jobs k hcreates hslot o ho hmints
      exact ⟨id, recordedAs_keeps hkeeps hid, hkey⟩
    · obtain rfl := hseparate k i _ hmints hown
      obtain ⟨id, hid, hkey⟩ := hmay hcreates hslot _ hmayo
      exact ⟨id, recordedAs_keeps hkeeps hid, hkey⟩
  · rw [htrace]
    exact hk.wrote
  · rw [h.rows]
    exact hk.row

theorem wroteKeyLast_after {name : Db → Label} {run : Db → Db} {o : Outcome}
    (h : name w.store ≠ .write .idempotencyKeys) :
    wroteKeyLast calls k (w.after i name run o).trace = wroteKeyLast calls k w.trace :=
  latest_cons_none (keyNews_none h) _

/-! ### Statements on the row of the request's key -/

/-- The step changes no other row than that of a key, of which what is recorded stays. -/
structure ChangesKey (envs : ι → Env) (calls : ι → DraftCall) (slot : IdempotencySlot)
    (s s' : Db) : Prop where
  drafts : s'.drafts = s.drafts
  jobs : s'.outboundJobs = s.outboundJobs
  unique : (s'.idempotencyKeys.map IdempotencyRow.slot).Nodup
  others : ∀ r, r.slot ≠ slot → (r ∈ s'.idempotencyKeys ↔ r ∈ s.idempotencyKeys)
  answers : ∀ r ∈ s'.idempotencyKeys, r.slot = slot → AnswersFor envs calls r
  recorded : ∀ r ∈ s.idempotencyKeys, r.slot = slot → ∀ resourceId,
    r.resourceId = some resourceId → ∃ r' ∈ s'.idempotencyKeys, r'.slot = slot ∧
      r'.requestFingerprint = r.requestFingerprint ∧ r'.resourceId = some resourceId

omit [DecidableEq ι] in
theorem ChangesKey.keepsRecorded {slot : IdempotencySlot}
    (h : ChangesKey envs calls slot w.store w'.store) : KeepsRecorded w w' := by
  intro r hr id hid
  by_cases hslot : r.slot = slot
  · obtain ⟨r', hr', hslot', hfp, hid'⟩ := h.recorded r hr hslot id hid
    exact ⟨r', hr', hslot'.trans hslot.symm, hfp, hid'⟩
  · exact ⟨r, (h.others r hslot).2 hr, rfl, rfl, hid⟩

/-- A statement on the row of the request's key, which no other request holds. -/
theorem good_keyStatement {slot : IdempotencySlot} {name : Db → Label} {run : Db → Db}
    {o : Outcome} (hw : KeysAnswered envs calls w) (hslot : (calls i).slot = some slot)
    (halone : ∀ k, k ≠ i → (calls k).slot = some slot → ¬ HoldsKey envs calls k w)
    (h : ChangesKey envs calls slot w.store (run w.store)) :
    (keyHolding envs calls).Good i w (w.after i name run o) := by
  have hchanges : ChangesKey envs calls slot w.store (w.after i name run o).store := by
    rw [World.after_store]
    split
    · exact h
    · exact ⟨rfl, rfl, hw.unique, fun _ _ => Iff.rfl, fun r hr _ => hw.answers r hr,
        fun r hr hslot id hid => ⟨r, hr, hslot, rfl, hid⟩⟩
  have hkeeps := hchanges.keepsRecorded
  refine ⟨⟨hchanges.unique, ?_, ?_, ?_⟩, hkeeps, fun k hk hholds => ⟨?_, ?_⟩⟩
  · intro d hd
    rw [hchanges.drafts] at hd
    exact hw.keyed d hd
  · intro r hr
    by_cases hr' : r.slot = slot
    · exact hchanges.answers r hr hr'
    · exact hw.answers r ((hchanges.others r hr').1 hr)
  · intro k hcreates hsome o ho hmints
    rw [hchanges.jobs] at ho
    obtain ⟨id, hid, hkey⟩ := hw.jobs k hcreates hsome o ho hmints
    exact ⟨id, recordedAs_keeps hkeeps hid, hkey⟩
  · have hother : (calls i).slot ≠ (calls k).slot := fun heq =>
      halone k hk (heq ▸ hslot) hholds
    rw [World.after_trace, wroteKeyLast, latest_cons_none (keyNews_of_slot hother)]
    exact hholds.wrote
  · obtain ⟨r, hr, hrslot, hfp, hnone⟩ := hholds.row
    refine ⟨r, (hchanges.others r fun heq => ?_).2 hr, hrslot, hfp, hnone⟩
    exact halone k hk (hrslot.trans (congrArg some heq)) hholds

end

end MailRuntime
