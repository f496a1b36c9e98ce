import MailRuntime.Storage.Rows

/-!
# Idempotency keys

The part of `repositories/mail.ts` on `idempotency_keys`. A request that carries a key inserts the
key's row, records in it what it has made, and completes it with its answer; a request that finds
the row there is answered from it. A statement that changes no row counts as a read.
-/

namespace MailRuntime

open Js Interaction

/-- The primary key of `idempotency_keys`. -/
structure IdempotencySlot where
  operation : String
  tenantId : String
  idempotencyKey : String
deriving DecidableEq, Repr

/-- The row's primary key. -/
def IdempotencyRow.slot (r : IdempotencyRow) : IdempotencySlot :=
  ⟨r.operation, r.tenantId, r.idempotencyKey⟩

/-- The label of a statement that changed so many rows. -/
def keyLabel (changes : Nat) : Label :=
  if changes = 0 then .read .idempotencyKeys else .write .idempotencyKeys

/-- `getIdempotencyRecord`. -/
def getIdempotencyRecord (slot : IdempotencySlot) : Op (Option IdempotencyRow) :=
  idempotencyRows.first fun _ r => r.slot == slot

/-- What `reserveIdempotencyKey` answers. -/
inductive Reservation where
  | reserved
  | completed (record : IdempotencyRow)
  | pending (record : IdempotencyRow)
  | conflict (record : IdempotencyRow)

/-- The answer where the row is there. -/
def Reservation.ofRecord (requestFingerprint : String) (record : IdempotencyRow) : Reservation :=
  if record.requestFingerprint != requestFingerprint then .conflict record
  else if record.status == .completed then .completed record
  else .pending record

/-- The row of a request that has just begun. -/
def pendingRow (slot : IdempotencySlot) (requestFingerprint : String) (timestamp : Nat) :
    IdempotencyRow where
  operation := slot.operation
  tenantId := slot.tenantId
  idempotencyKey := slot.idempotencyKey
  requestFingerprint := requestFingerprint
  status := .pending
  resourceId := none
  response := none
  createdAt := timestamp
  updatedAt := timestamp

/-- `INSERT OR IGNORE INTO idempotency_keys`. -/
def insertIdempotencyKey (row : IdempotencyRow) : Op Nat :=
  execute keyLabel fun s =>
    if s.idempotencyKeys.any fun r => r.slot == row.slot then (0, s)
    else (1, idempotencyRows.inserted s row)

/-- `reserveIdempotencyKey`; no caller passes a resource. -/
def reserveIdempotencyKey (env : Env) (slot : IdempotencySlot) (requestFingerprint : String) :
    Op Reservation := do
  match ← getIdempotencyRecord slot with
  | some existing => pure (Reservation.ofRecord requestFingerprint existing)
  | none => do
    let timestamp ← nowIso env
    let changes ← insertIdempotencyKey (pendingRow slot requestFingerprint timestamp)
    if 0 < changes then pure .reserved
    else do
      let current ← getIdempotencyRecord slot
      let record ← requireRow current "Idempotency reservation lookup failed"
      pure (Reservation.ofRecord requestFingerprint record)

/-- The exception where the row is not pending any more, or gone. -/
def noLongerPending (slot : IdempotencySlot) : Exn :=
  .error ("Idempotency key " ++ slot.operation ++ "/" ++ slot.tenantId ++ "/" ++
    slot.idempotencyKey ++ " is no longer pending")

/-- An `UPDATE` of the pending row. -/
def updatePendingKey (slot : IdempotencySlot) (set : IdempotencyRow → IdempotencyRow) :
    Op Unit := do
  let changes ← idempotencyRows.updateAs keyLabel
    (fun _ r => r.slot == slot && r.status == .pending) set
  if changes = 0 then throw (noLongerPending slot)

/-- `completeIdempotencyKey`. -/
def completeIdempotencyKey (env : Env) (slot : IdempotencySlot) (response : Json)
    (resourceId : Option String) : Op Unit := do
  let updatedAt ← nowIso env
  updatePendingKey slot fun r => { r with
    status := .completed, response := some response, resourceId := resourceId <|> r.resourceId
    updatedAt := updatedAt }

/-- `updateIdempotencyKeyResource`. -/
def updateIdempotencyKeyResource (env : Env) (slot : IdempotencySlot) (resourceId : String) :
    Op Unit := do
  let updatedAt ← nowIso env
  updatePendingKey slot fun r => { r with resourceId := some resourceId, updatedAt := updatedAt }

/-- `releaseIdempotencyKey`. -/
def releaseIdempotencyKey (slot : IdempotencySlot) : Op Unit := do
  let _ ← execute keyLabel fun s => idempotencyRows.deleted s fun r =>
    r.slot == slot && r.status == .pending

/-! ### Footprints -/

variable {ts : List Table} {env : Env} {slot : IdempotencySlot}

theorem keyLabel_table {n : Nat} {t : Table} (h : (keyLabel n).table = some t) :
    t = .idempotencyKeys := by
  unfold keyLabel at h
  split at h
  · cases h
  · exact (Option.some.inj h).symm

/-- A statement on `idempotency_keys`. -/
theorem touches_keyStatement {f : Db → Nat × Db}
    (h : ∀ (s : Db) (t : Table), t ≠ .idempotencyKeys → t.Same s (f s).2) :
    Touches [.idempotencyKeys] (execute keyLabel f) :=
  Prog.each_perform.2 fun s => ⟨fun t ht => h s t fun heq => ht (by simp [heq]),
    fun t ht => by simp [keyLabel_table ht]⟩

@[simp] theorem touches_getIdempotencyRecord : Touches ts (getIdempotencyRecord slot) :=
  idempotencyRows.touches_first

theorem touches_insertIdempotencyKey {row : IdempotencyRow} :
    Touches [.idempotencyKeys] (insertIdempotencyKey row) := by
  refine touches_keyStatement fun s t ht => ?_
  split
  · exact Table.Same.rfl
  · exact idempotencyRows.frame_inserted ht

theorem touches_reserveIdempotencyKey {requestFingerprint : String} :
    Touches [.idempotencyKeys] (reserveIdempotencyKey env slot requestFingerprint) := by
  refine .bind touches_getIdempotencyRecord fun existing => ?_
  cases existing with
  | some _ => trivial
  | none =>
    refine .bind touches_nowIso fun _ => .bind touches_insertIdempotencyKey fun changes => ?_
    split
    · trivial
    · exact .bind touches_getIdempotencyRecord fun _ => .bind touches_requireRow fun _ => trivial

theorem touches_updatePendingKey {set : IdempotencyRow → IdempotencyRow} :
    Touches [.idempotencyKeys] (updatePendingKey slot set) := by
  refine .bind (touches_keyStatement fun _ _ ht => idempotencyRows.frame_updated ht) fun n => ?_
  split <;> trivial

theorem touches_completeIdempotencyKey {response : Json} {resourceId : Option String} :
    Touches [.idempotencyKeys] (completeIdempotencyKey env slot response resourceId) :=
  .bind touches_nowIso fun _ => touches_updatePendingKey

theorem touches_updateIdempotencyKeyResource {resourceId : String} :
    Touches [.idempotencyKeys] (updateIdempotencyKeyResource env slot resourceId) :=
  .bind touches_nowIso fun _ => touches_updatePendingKey

theorem touches_releaseIdempotencyKey :
    Touches [.idempotencyKeys] (releaseIdempotencyKey slot) :=
  .bind (touches_keyStatement fun _ _ ht => idempotencyRows.frame_deleted ht) fun _ => trivial

end MailRuntime
