import MailRuntime.Idempotency.Holders

/-!
# Statements on the row of a key

What each function of `repositories/mail.ts` on `idempotency_keys` does for the request that calls
it: the reservation makes it the holder or tells it what is recorded, the others may be called by
the holder (`safe_updateIdempotencyKeyResource`, `safe_releaseIdempotencyKey`) or by whoever knows
what is recorded (`safe_completeIdempotencyKey`).
-/

namespace MailRuntime

open Js Interaction

section

variable {ι : Type} [DecidableEq ι] {envs : ι → Env} {calls : ι → DraftCall}
  {w w' : World ι Db Label} {i k : ι} {α β : Type} {Q : α → World ι Db Label → Prop}
  {R : β → World ι Db Label → Prop}
  {R' : Nat → World ι Db Label → Prop} {A : World ι Db Label → Prop} {slot : IdempotencySlot}
  {resourceId : String} {s s' : Db}

/-- Requests with one key and one fingerprint are of one kind. -/
def KindsApart (envs : ι → Env) (calls : ι → DraftCall) : Prop :=
  ∀ i k, (calls i).slot = (calls k).slot →
    (calls i).fingerprint (envs i) = (calls k).fingerprint (envs k) →
    (calls i).creates = (calls k).creates

omit [DecidableEq ι] in
/-- A response names the same to both. -/
theorem KindsApart.named_eq (h : KindsApart envs calls) (hslot : (calls i).slot = (calls k).slot)
    (hfp : (calls i).fingerprint (envs i) = (calls k).fingerprint (envs k)) (response : Json) :
    (calls i).named response = (calls k).named response := by
  rw [DraftCall.named, DraftCall.named, h i k hslot hfp]

/-! ### Programs that leave keys alone -/

/-- The program leaves the rows of keys alone, and inserts no jobs but of those drafts. -/
def OpKeepsKeys (env : Env) (may : String → Prop) (p : Op α) : Prop :=
  p.Each Draws fun name run => ∀ s, name s ≠ .write .idempotencyKeys ∧ KeepsKeys env may s (run s)

/-- The assertion is about the rows of keys and who holds them, and other requests cannot break
it. -/
structure OfKeys (envs : ι → Env) (calls : ι → DraftCall) (i : ι) (A : World ι Db Label → Prop) :
    Prop where
  stable : (keyHolding envs calls).Stable i A
  congr : ∀ w w' : World ι Db Label, w'.store.idempotencyKeys = w.store.idempotencyKeys →
    (∀ k, wroteKeyLast calls k w'.trace = wroteKeyLast calls k w.trace) → A w → A w'

theorem ofKeys_true : OfKeys envs calls i fun _ => True :=
  ⟨fun _ _ _ _ => trivial, fun _ _ _ _ _ => trivial⟩

theorem ofKeys_holdsKey : OfKeys envs calls i (HoldsKey envs calls i) :=
  ⟨holdsKey_stable, fun _ _ hrows htrace h => ⟨(htrace i).trans h.wrote, hrows ▸ h.row⟩⟩

theorem ofKeys_recordedAs : OfKeys envs calls i (RecordedAs envs calls i resourceId) := by
  refine ⟨recordedAs_stable, fun w w' hrows _ h => ?_⟩
  unfold RecordedAs at h ⊢
  rwa [hrows]

/-- Such a program, where what is said of keys lets it insert the jobs that it may. -/
theorem safe_keepsKeys {p : Op α} {may : String → Prop} (hseparate : Separate envs)
    (hA : OfKeys envs calls i A) (hp : OpKeepsKeys (envs i) may p)
    (hmay : ∀ w, A w → MaySend envs calls i may w) (hw : KeysAnswered envs calls w) (h : A w) :
    (keyHolding envs calls).Safe i (fun _ => A) (fun _ => A) p w := by
  refine Protocol.Safe.quiet hA.stable ?_ ?_ hp hw h
  · intro run hrun w hw h
    have hkeeps : KeepsKeys (envs i) may w.store (run w.store) := by
      have hjobs : w.store.outboundJobs = (run w.store).outboundJobs := hrun w.store .outboundJobs
      have hkeys : w.store.idempotencyKeys = (run w.store).idempotencyKeys :=
        hrun w.store .idempotencyKeys
      have hdrafts : w.store.drafts = (run w.store).drafts := hrun w.store .drafts
      refine ⟨hkeys.symm, fun hkeyed d hd => ?_, fun o ho => .inl (hjobs ▸ ho)⟩
      rw [← hdrafts] at hd
      exact hkeyed d hd
    exact ⟨good_otherStep hseparate hw (fun _ => rfl) (hmay w h) hkeeps,
      hA.congr w _ hkeeps.rows (fun _ => rfl) h⟩
  · intro name run hrun w o hw h _
    obtain ⟨hname, hkeeps⟩ := hrun w.store
    have hafter : KeepsKeys (envs i) may w.store (w.after i name run o).store := by
      rw [World.after_store]
      split
      · exact hkeeps
      · exact KeepsKeys.refl _
    exact ⟨good_otherStep hseparate hw (fun _ => wroteKeyLast_after hname) (hmay w h) hafter,
      hA.congr w _ hafter.rows (fun _ => wroteKeyLast_after hname) h⟩

/-- A program that inserts no jobs at all. -/
theorem safe_asideKeys {p : Op α} (hseparate : Separate envs) (hA : OfKeys envs calls i A)
    (hp : OpKeepsKeys (envs i) (fun _ => False) p) (hw : KeysAnswered envs calls w) (h : A w) :
    (keyHolding envs calls).Safe i (fun _ => A) (fun _ => A) p w :=
  safe_keepsKeys hseparate hA hp (fun _ _ _ _ _ hfalse => hfalse.elim) hw h

/-- What follows such a program. -/
theorem safe_asideKeys_bind {p : Op α} {f : α → Op β} (hseparate : Separate envs)
    (hA : OfKeys envs calls i A) (hp : OpKeepsKeys (envs i) (fun _ => False) p)
    (hw : KeysAnswered envs calls w) (h : A w)
    (hf : ∀ a w', KeysAnswered envs calls w' → A w' →
      (keyHolding envs calls).Safe i R (fun _ _ => True) (f a) w') :
    (keyHolding envs calls).Safe i R (fun _ _ => True) (p >>= f) w :=
  Protocol.Safe.bind hw (safe_asideKeys hseparate hA hp hw h) hf fun _ _ _ _ => trivial

/-- A step that changes nothing. -/
theorem good_sameStore (hseparate : Separate envs) (hw : KeysAnswered envs calls w)
    (hstore : w'.store = w.store)
    (htrace : ∀ k, wroteKeyLast calls k w'.trace = wroteKeyLast calls k w.trace) :
    (keyHolding envs calls).Good i w w' := by
  have hkeeps : KeepsKeys (envs i) (fun _ => False) w.store w'.store := by
    rw [hstore]
    exact KeepsKeys.refl _
  exact good_otherStep hseparate hw htrace (fun _ _ _ h => h.elim) hkeeps

/-- A query, whose answer is about the store it finds. -/
theorem safe_keysQuery {l : Label} {f : Db → α} (hseparate : Separate envs)
    (hw : KeysAnswered envs calls w) (hl : l ≠ .write .idempotencyKeys)
    (h : ∀ w', (keyHolding envs calls).Later i w w' → Q (f w.store) w') :
    (keyHolding envs calls).Safe i Q (fun _ _ => True) (query l f) w := by
  refine Protocol.Safe.perform fun o _ => ?_
  have hstore : (w.after i (fun _ => l) (fun s => s) o).store = w.store := World.after_id_store ..
  have htrace (k : ι) : wroteKeyLast calls k (w.after i (fun _ => l) (fun s => s) o).trace =
      wroteKeyLast calls k w.trace := wroteKeyLast_after hl
  have hgood : (keyHolding envs calls).Good i w (w.after i (fun _ => l) (fun s => s) o) :=
    good_sameStore hseparate hw hstore htrace
  refine ⟨hgood, fun w' hlater => ?_⟩
  split
  · refine h w' (Protocol.Later.trans ⟨hgood.inv, hgood.keeps, fun hholds => ?_⟩ hlater)
    exact ofKeys_holdsKey.congr _ _ (by rw [hstore]) htrace hholds
  · trivial

/-! ### The row of a key -/

/-- The row is the request's: it is as the row in the store was, or says less. -/
structure KnownRow (envs : ι → Env) (calls : ι → DraftCall) (i : ι) (r : IdempotencyRow)
    (w : World ι Db Label) : Prop where
  recorded : ∀ id, r.resourceId = some id → RecordedAs envs calls i id w
  answer : ∀ response, r.response = some response →
    ∃ id, r.resourceId = some id ∧ (calls i).named response = some id

theorem knownRow_stable {r : IdempotencyRow} :
    (keyHolding envs calls).Stable i (KnownRow envs calls i r) := fun _ _ h hl =>
  ⟨fun id hid => recordedAs_stable _ _ (h.recorded id hid) hl, h.answer⟩

theorem ofKeys_knownRow {r : IdempotencyRow} :
    OfKeys envs calls i (KnownRow envs calls i r) :=
  ⟨knownRow_stable, fun w w' hrows htrace h => ⟨fun id hid =>
    ofKeys_recordedAs.congr w w' hrows htrace (h.recorded id hid), h.answer⟩⟩

theorem safe_getIdempotencyRecord (hseparate : Separate envs) (hw : KeysAnswered envs calls w)
    (hslot : (calls i).slot = some slot) :
    (keyHolding envs calls).Safe i
      (fun found w' => ∀ r, found = some r →
        r.requestFingerprint = (calls i).fingerprint (envs i) → KnownRow envs calls i r w')
      (fun _ _ => True) (getIdempotencyRecord slot) w := by
  refine safe_keysQuery hseparate hw nofun fun w' hlater r hr hfp => ?_
  have hmem := List.mem_of_find?_eq_some hr
  have hrslot : r.slot = slot := by simpa using List.find?_some hr
  have hown : (calls i).slot = some r.slot := hrslot ▸ hslot
  exact knownRow_stable _ _ ⟨fun id hid => ⟨r, hmem, hown, hfp, hid⟩,
    hw.answers r hmem i hown hfp.symm⟩ hlater

/-- What a statement on the row of the request's key comes to, where no other request holds it. -/
theorem safe_keyStatement {f : Db → Nat × Db} (hw : KeysAnswered envs calls w)
    (hslot : (calls i).slot = some slot)
    (halone : ∀ k, k ≠ i → (calls k).slot = some slot → ¬ HoldsKey envs calls k w)
    (h : ChangesKey envs calls slot w.store (f w.store).2)
    (hafter : ∀ w', (keyHolding envs calls).Later i
      (w.after i (fun s => keyLabel (f s).1) (fun s => (f s).2) .done) w' →
        R' (f w.store).1 w') :
    (keyHolding envs calls).Safe i R' (fun _ _ => True) (execute keyLabel f) w := by
  refine Protocol.Safe.perform fun o _ => ⟨good_keyStatement hw hslot halone h, fun w' hlater => ?_⟩
  split
  · next hdone =>
    subst hdone
    exact hafter w' hlater
  · trivial

/-- The holder of a key is alone. -/
theorem HoldsKey.alone (h : HoldsKey envs calls i w) (hslot : (calls i).slot = some slot) :
    ∀ k, k ≠ i → (calls k).slot = some slot → ¬ HoldsKey envs calls k w := fun _ hk hkslot hholds =>
  hk (holding_unique (hkslot.trans hslot.symm) hholds h)

/-- Nobody holds a key where something is recorded. -/
theorem RecordedAs.alone (h : RecordedAs envs calls i resourceId w) (hw : KeysAnswered envs calls w)
    (hslot : (calls i).slot = some slot) :
    ∀ k, k ≠ i → (calls k).slot = some slot → ¬ HoldsKey envs calls k w := fun _ _ hkslot =>
  h.not_holdsKey hw (hkslot.trans hslot.symm)

omit [DecidableEq ι] in
/-- The row is inserted, where there is none. -/
theorem changesKey_inserted {row : IdempotencyRow}
    (hunique : (s.idempotencyKeys.map IdempotencyRow.slot).Nodup) (hrow : row.response = none)
    (hfree : ∀ r ∈ s.idempotencyKeys, r.slot ≠ row.slot) :
    ChangesKey envs calls row.slot s (idempotencyRows.inserted s row) := by
  have hmem : ∀ r, r ∈ (idempotencyRows.inserted s row).idempotencyKeys ↔
      r ∈ s.idempotencyKeys ∨ r = row := fun r =>
    List.mem_append.trans (or_congr_right List.mem_singleton)
  refine ⟨rfl, rfl, ?_, fun r hr => ?_, fun r hr hslot k _ _ response hresponse => ?_, ?_⟩
  · simp only [idempotencyRows, Rows.inserted, List.map_append, List.map_cons, List.map_nil]
    refine List.nodup_append.2 ⟨hunique, List.nodup_singleton _, fun a ha b hb => ?_⟩
    obtain ⟨r, hr, rfl⟩ := List.mem_map.1 ha
    rw [List.mem_singleton.1 hb]
    exact hfree r hr
  · rw [hmem]
    refine or_iff_left ?_
    rintro rfl
    exact hr rfl
  · obtain hr | rfl := (hmem r).1 hr
    · exact absurd hslot (hfree r hr)
    · rw [hrow] at hresponse
      cases hresponse
  · exact fun r hr hslot => absurd hslot (hfree r hr)

theorem wroteKeyLast_own {name : Db → Label} {run : Db → Db}
    (h : name w.store = .write .idempotencyKeys) :
    wroteKeyLast calls i (w.after i name run .done).trace = true :=
  latest_cons_some ((if_pos ⟨rfl, h, rfl⟩).trans (by simp)) _

theorem safe_insertIdempotencyKey {row : IdempotencyRow} (hseparate : Separate envs)
    (hw : KeysAnswered envs calls w) (hslot : (calls i).slot = some row.slot)
    (hfp : row.requestFingerprint = (calls i).fingerprint (envs i))
    (hresource : row.resourceId = none) (hresponse : row.response = none) :
    (keyHolding envs calls).Safe i
      (fun changes w' => 0 < changes → HoldsKey envs calls i w') (fun _ _ => True)
      (insertIdempotencyKey row) w := by
  by_cases hfree : ∀ r ∈ w.store.idempotencyKeys, r.slot ≠ row.slot
  · have hany : (w.store.idempotencyKeys.any fun r => r.slot == row.slot) = false := by
      simpa using hfree
    refine safe_keyStatement hw hslot (fun k _ hk hholds => ?_) ?_ fun w' hlater _ => ?_
    · obtain ⟨r, hr, hrslot, -⟩ := hholds.row
      exact hfree r hr (Option.some.inj (hrslot.symm.trans hk))
    · rw [hany]
      exact changesKey_inserted hw.unique hresponse hfree
    · refine holdsKey_stable _ w' ⟨?_, row, ?_, hslot, hfp, hresource⟩ hlater
      · refine wroteKeyLast_own ?_
        rw [hany]
        rfl
      · rw [World.after_done_store, hany]
        exact List.mem_append_right _ (List.mem_singleton_self row)
  · have hany : (w.store.idempotencyKeys.any fun r => r.slot == row.slot) = true := by
      simpa using hfree
    refine Protocol.Safe.perform fun o _ => ⟨good_sameStore hseparate hw ?_ fun k =>
      wroteKeyLast_after ?_, fun w' _ => ?_⟩
    · rw [World.after_store, hany]
      exact ite_self _
    · dsimp only
      rw [hany]
      nofun
    · rw [hany]
      split
      · exact fun hlt => absurd hlt (lt_irrefl 0)
      · trivial

/-! ### The row is updated -/

omit [DecidableEq ι] in
/-- The pending row is updated, and keeps what is recorded in it. -/
theorem changesKey_updated {set : IdempotencyRow → IdempotencyRow}
    (hunique : (s.idempotencyKeys.map IdempotencyRow.slot).Nodup)
    (hset : ∀ r, (set r).slot = r.slot ∧ (set r).requestFingerprint = r.requestFingerprint)
    (hanswers : ∀ r ∈ s.idempotencyKeys, AnswersFor envs calls r)
    (hset_answers : ∀ r ∈ s.idempotencyKeys, r.slot = slot → AnswersFor envs calls (set r))
    (hset_recorded : ∀ r ∈ s.idempotencyKeys, r.slot = slot → ∀ id,
      r.resourceId = some id → (set r).resourceId = some id) :
    ChangesKey envs calls slot s (idempotencyRows.updated s
      (fun r => r.slot == slot && r.status == .pending) set).2 := by
  have hslot : ∀ r, (if (r.slot == slot && r.status == .pending) = true then set r else r).slot =
      r.slot := by
    intro r
    split
    · exact (hset r).1
    · rfl
  refine ⟨rfl, rfl, ?_, fun r hr => ⟨fun hmem => ?_, fun hmem => ?_⟩, fun r hmem hr => ?_,
    fun r hmem hr id hid => ?_⟩
  · simp only [idempotencyRows, Rows.updated, List.map_map, Function.comp_def, hslot]
    exact hunique
  · obtain ⟨r₀, hr₀, rfl⟩ := List.mem_map.1 hmem
    rw [hslot] at hr
    rwa [if_neg (by simp [hr])]
  · exact List.mem_map.2 ⟨r, hmem, by simp [hr]⟩
  · obtain ⟨r₀, hr₀, rfl⟩ := List.mem_map.1 hmem
    rw [hslot] at hr
    split
    · exact hset_answers r₀ hr₀ hr
    · exact hanswers r₀ hr₀
  · refine ⟨_, List.mem_map_of_mem hmem, (hslot r).trans hr, ?_, ?_⟩
    · split
      · exact (hset r).2
      · rfl
    · split
      · exact hset_recorded r hmem hr id hid
      · exact hid

/-- An update of the pending row, and what is known where it changed one. -/
theorem safe_updatePendingKey {set : IdempotencyRow → IdempotencyRow}
    (hw : KeysAnswered envs calls w) (hslot : (calls i).slot = some slot)
    (halone : ∀ k, k ≠ i → (calls k).slot = some slot → ¬ HoldsKey envs calls k w)
    (hchanges : ChangesKey envs calls slot w.store (idempotencyRows.updated w.store
      (fun r => r.slot == slot && r.status == .pending) set).2)
    (hrecords : ∀ r ∈ w.store.idempotencyKeys, r.slot = slot → (set r).slot = slot ∧
      (set r).requestFingerprint = (calls i).fingerprint (envs i) ∧
      (set r).resourceId = some resourceId) :
    (keyHolding envs calls).Safe i (fun _ => RecordedAs envs calls i resourceId) (fun _ _ => True)
      (updatePendingKey slot set) w := by
  refine Protocol.Safe.bind (Q := fun changes w' => changes ≠ 0 →
    RecordedAs envs calls i resourceId w') hw (safe_keyStatement hw hslot halone hchanges
      fun w' hlater hchanged => recordedAs_stable _ w' ?_ hlater) (fun changes w' _ h => ?_)
      fun _ _ _ h => h
  · obtain ⟨r, hr, htarget⟩ := List.countP_pos_iff.1 (Nat.pos_of_ne_zero hchanged)
    have hrslot : r.slot = slot := by simp_all
    obtain ⟨hsetslot, hfp, hid⟩ := hrecords r hr hrslot
    refine ⟨set r, List.mem_map.2 ⟨r, hr, if_pos htarget⟩, ?_, hfp, hid⟩
    rw [hsetslot, hslot]
  · split
    · trivial
    · next hne => exact h hne

/-- The holder of a key finds its own row there. -/
theorem HoldsKey.own_row (h : HoldsKey envs calls i w) (hw : KeysAnswered envs calls w)
    (hslot : (calls i).slot = some slot) {r : IdempotencyRow}
    (hr : r ∈ w.store.idempotencyKeys) (hrslot : r.slot = slot) :
    r.requestFingerprint = (calls i).fingerprint (envs i) ∧ r.resourceId = none := by
  obtain ⟨r', hr', hrslot', hown⟩ := h.row
  rw [hslot] at hrslot'
  rwa [hw.row_unique hr hr' (hrslot.trans (Option.some.inj hrslot'))]

omit [DecidableEq ι] in
/-- What is recorded is in the row. -/
theorem RecordedAs.own_row (h : RecordedAs envs calls i resourceId w)
    (hw : KeysAnswered envs calls w) (hslot : (calls i).slot = some slot) {r : IdempotencyRow}
    (hr : r ∈ w.store.idempotencyKeys) (hrslot : r.slot = slot) :
    r.requestFingerprint = (calls i).fingerprint (envs i) ∧ r.resourceId = some resourceId := by
  obtain ⟨r', hr', hrslot', hown⟩ := h
  rw [hslot] at hrslot'
  rwa [hw.row_unique hr hr' (hrslot.trans (Option.some.inj hrslot'))]

theorem opKeepsKeys_nowIso {env : Env} {may : String → Prop} :
    OpKeepsKeys env may (nowIso env) :=
  Prog.each_draw.2 fun _ t => by cases t <;> rfl

theorem safe_updateIdempotencyKeyResource (hseparate : Separate envs)
    (hw : KeysAnswered envs calls w) (hslot : (calls i).slot = some slot)
    (h : HoldsKey envs calls i w) :
    (keyHolding envs calls).Safe i (fun _ => RecordedAs envs calls i resourceId) (fun _ _ => True)
      (updateIdempotencyKeyResource (envs i) slot resourceId) w := by
  refine safe_asideKeys_bind hseparate ofKeys_holdsKey opKeepsKeys_nowIso hw h ?_
  intro updatedAt w hw h
  refine safe_updatePendingKey hw hslot (h.alone hslot) (changesKey_updated hw.unique
    (fun _ => ⟨rfl, rfl⟩) hw.answers (fun r hr hrslot k hk hfp response hresponse => ?_)
    fun r hr hrslot id hid => ?_) fun r hr hrslot => ⟨hrslot, (h.own_row hw hslot hr hrslot).1, rfl⟩
  · obtain ⟨id, hid, -⟩ := hw.answers r hr k hk hfp response hresponse
    rw [(h.own_row hw hslot hr hrslot).2] at hid
    cases hid
  · rw [(h.own_row hw hslot hr hrslot).2] at hid
    cases hid

theorem safe_completeIdempotencyKey {response : Json} (hseparate : Separate envs)
    (hkinds : KindsApart envs calls) (hw : KeysAnswered envs calls w)
    (hslot : (calls i).slot = some slot) (hnamed : (calls i).named response = some resourceId)
    (h : RecordedAs envs calls i resourceId w) :
    (keyHolding envs calls).Safe i (fun _ => RecordedAs envs calls i resourceId) (fun _ _ => True)
      (completeIdempotencyKey (envs i) slot response (some resourceId)) w := by
  refine safe_asideKeys_bind hseparate ofKeys_recordedAs opKeepsKeys_nowIso hw h ?_
  intro updatedAt w hw h
  refine safe_updatePendingKey hw hslot (h.alone hw hslot) (changesKey_updated hw.unique
    (fun _ => ⟨rfl, rfl⟩) hw.answers (fun r hr hrslot k hk hfp response' hresponse => ?_)
    fun r hr hrslot id hid => ?_) fun r hr hrslot => ⟨hrslot, (h.own_row hw hslot hr hrslot).1, rfl⟩
  · obtain rfl := Option.some.inj hresponse
    refine ⟨resourceId, rfl, ?_⟩
    rw [← hnamed]
    refine hkinds.named_eq ((hk.trans (congrArg some hrslot)).trans hslot.symm) ?_ response
    exact hfp.trans (h.own_row hw hslot hr hrslot).1
  · rw [← hid, (h.own_row hw hslot hr hrslot).2]
    rfl

/-- The holder of a key gives it back. -/
theorem safe_releaseIdempotencyKey (hw : KeysAnswered envs calls w)
    (hslot : (calls i).slot = some slot) (h : HoldsKey envs calls i w) :
    (keyHolding envs calls).Safe i (fun _ _ => True) (fun _ _ => True)
      (releaseIdempotencyKey slot) w := by
  have hdelete (hchanges : ChangesKey envs calls slot w.store (idempotencyRows.deleted w.store
      fun r => r.slot == slot && r.status == .pending).2) :
      (keyHolding envs calls).Safe i (fun _ _ => True) (fun _ _ => True)
        (execute keyLabel fun s => idempotencyRows.deleted s fun r =>
          r.slot == slot && r.status == .pending) w :=
    safe_keyStatement hw hslot (h.alone hslot) hchanges fun _ _ => trivial
  refine Protocol.Safe.bind hw (hdelete ?_) (fun _ _ _ _ => trivial) fun _ _ _ h => h
  have hmem : ∀ r, r ∈ (idempotencyRows.deleted w.store
      fun r => r.slot == slot && r.status == .pending).2.idempotencyKeys →
      r ∈ w.store.idempotencyKeys := fun r hr => List.mem_of_mem_filter hr
  refine ⟨rfl, rfl, hw.unique.sublist (List.filter_sublist.map _),
    fun r hr => ⟨hmem r, fun hr' => ?_⟩, fun r hr _ => hw.answers r (hmem r hr),
    fun r hr hrslot id hid => ?_⟩
  · exact List.mem_filter.2 ⟨hr', by simp [hr]⟩
  · rw [(h.own_row hw hslot hr hrslot).2] at hid
    cases hid

/-! ### Reservations -/

/-- What the request knows of what `reserveIdempotencyKey` has answered. -/
def ReservationKnown (envs : ι → Env) (calls : ι → DraftCall) (i : ι) :
    Reservation → World ι Db Label → Prop
  | .reserved, w => HoldsKey envs calls i w
  | .completed record, w | .pending record, w => KnownRow envs calls i record w
  | .conflict _, _ => True

theorem reservationKnown_ofRecord {r : IdempotencyRow}
    (h : r.requestFingerprint = (calls i).fingerprint (envs i) → KnownRow envs calls i r w) :
    ReservationKnown envs calls i (Reservation.ofRecord ((calls i).fingerprint (envs i)) r) w := by
  unfold Reservation.ofRecord
  split
  · trivial
  · next hfp =>
    have hknown := h (by simpa using hfp)
    split <;> exact hknown

theorem safe_reserveIdempotencyKey (hseparate : Separate envs) (hw : KeysAnswered envs calls w)
    (hslot : (calls i).slot = some slot) :
    (keyHolding envs calls).Safe i (ReservationKnown envs calls i) (fun _ _ => True)
      (reserveIdempotencyKey (envs i) slot ((calls i).fingerprint (envs i))) w := by
  refine Protocol.Safe.bind hw (safe_getIdempotencyRecord hseparate hw hslot) ?_ fun _ _ _ h => h
  intro existing w hw h
  cases existing with
  | some existing => exact reservationKnown_ofRecord (h existing rfl)
  | none =>
    refine safe_asideKeys_bind hseparate ofKeys_true opKeepsKeys_nowIso hw trivial ?_
    intro timestamp w hw _
    refine Protocol.Safe.bind hw (safe_insertIdempotencyKey hseparate hw ?_ rfl rfl rfl) ?_
      fun _ _ _ h => h
    · exact hslot
    · intro changes w hw h
      split
      · next hpos => exact h hpos
      · refine Protocol.Safe.bind hw (safe_getIdempotencyRecord hseparate hw hslot) ?_
          fun _ _ _ h => h
        intro current w hw h
        cases current with
        | none => trivial
        | some current => exact reservationKnown_ofRecord (h current rfl)

end

end MailRuntime
