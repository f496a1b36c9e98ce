import MailRuntime.Storage.Statements

/-!
# Statements on the rows of one table

Most SQL of the source is an `INSERT`, `UPDATE` or `DELETE` of one table whose `WHERE`
looks at the others. `Rows` is a table as such a statement sees it: how to read its rows,
how to store them, and that storing them changes nothing else. Beside the tables there is
the object store R2, a map from keys to blobs.

## What is proved

The footprint of each kind of statement, and what it does to the database when it runs
alone.
-/

namespace MailRuntime

open Interaction Js

/-- A table as the list of its rows. -/
structure Rows (ρ : Type) where
  table : Table
  get : Db → List ρ
  put : Db → List ρ → Db
  get_put : ∀ s rows, get (put s rows) = rows
  frame : ∀ s rows t, t ≠ table → t.Same s (put s rows)
  congr : ∀ s s', table.Same s s' → get s = get s'

namespace Rows

variable {ρ : Type} (R : Rows ρ)

/-- `UPDATE … SET … WHERE …`: how many rows it changed, and the database. -/
def updated (s : Db) (target : ρ → Bool) (set : ρ → ρ) : Nat × Db :=
  ((R.get s).countP target, R.put s ((R.get s).map fun r => if target r then set r else r))

/-- `DELETE … WHERE …`. -/
def deleted (s : Db) (doomed : ρ → Bool) : Nat × Db :=
  ((R.get s).countP doomed, R.put s ((R.get s).filter fun r => !doomed r))

/-- `INSERT` of a row. -/
def inserted (s : Db) (row : ρ) : Db := R.put s (R.get s ++ [row])

/-- An `UPDATE` statement under a label. -/
def updateAs (l : Nat → Label) (target : Db → ρ → Bool) (set : ρ → ρ) : Op Nat :=
  execute l fun s => R.updated s (target s) set

/-- An `UPDATE` statement. -/
def update (target : Db → ρ → Bool) (set : ρ → ρ) : Op Nat :=
  R.updateAs (fun _ => .write R.table) target set

/-- A `DELETE` statement. -/
def delete (doomed : Db → ρ → Bool) : Op Nat :=
  execute (fun _ => .write R.table) fun s => R.deleted s (doomed s)

/-- An `INSERT` statement, which throws where the row breaks a unique constraint. -/
def insert (free : Db → Bool) (row : ρ) : Op Unit :=
  insertRow (fun _ => .write R.table) free fun s => R.inserted s row

/-- `INSERT … SELECT … WHERE NOT EXISTS` under a label: nothing happens unless `wanted`, and the
statement throws where the row breaks a unique constraint. -/
def insertWhereAs (l : Nat → Label) (wanted free : Db → Bool) (row : ρ) : Op Nat := do
  let outcome ← Prog.perform (fun s => l (if wanted s && free s then 1 else 0))
    (fun s =>
      if wanted s then if free s then (some 1, R.inserted s row) else (none, s) else (some 0, s))
    Exn.d1
  match outcome with
  | some changes => pure changes
  | none => throw Exn.unique

/-- `INSERT … SELECT … WHERE NOT EXISTS`. -/
def insertWhere (wanted free : Db → Bool) (row : ρ) : Op Nat :=
  R.insertWhereAs (fun _ => .write R.table) wanted free row

/-- `DELETE … WHERE …` under a label, `.catch(() => undefined)`. -/
def discardAs (l : Label) (doomed : ρ → Bool) : Op Unit :=
  catchAll (do
    let _ ← execute (fun _ => l) fun s => R.deleted s doomed) ()

/-- `DELETE … WHERE …`, `.catch(() => undefined)`. -/
def discard (doomed : ρ → Bool) : Op Unit := R.discardAs (.write R.table) doomed

/-- `for (const row of rows) …` of such a `DELETE`, by a column. -/
def discardEach (column : ρ → String) : List String → Op Unit
  | [] => pure ()
  | value :: rest => do
    R.discard fun r => column r == value
    discardEach column rest

/-- `SELECT … WHERE …`, all rows. -/
def select (target : Db → ρ → Bool) : Op (List ρ) :=
  query (.read R.table) fun s => (R.get s).filter (target s)

/-- `SELECT … WHERE …`, the first row. -/
def first (target : Db → ρ → Bool) : Op (Option ρ) :=
  query (.read R.table) fun s => (R.get s).find? (target s)

variable {R}

theorem frame_updated {s : Db} {target : ρ → Bool} {set : ρ → ρ} {t : Table} (h : t ≠ R.table) :
    t.Same s (R.updated s target set).2 := R.frame s _ t h

theorem frame_deleted {s : Db} {doomed : ρ → Bool} {t : Table} (h : t ≠ R.table) :
    t.Same s (R.deleted s doomed).2 := R.frame s _ t h

theorem frame_inserted {s : Db} {row : ρ} {t : Table} (h : t ≠ R.table) :
    t.Same s (R.inserted s row) := R.frame s _ t h

@[simp] theorem get_updated {s : Db} {target : ρ → Bool} {set : ρ → ρ} :
    R.get (R.updated s target set).2 = (R.get s).map fun r => if target r then set r else r :=
  R.get_put s _

@[simp] theorem get_deleted {s : Db} {doomed : ρ → Bool} :
    R.get (R.deleted s doomed).2 = (R.get s).filter fun r => !doomed r := R.get_put s _

@[simp] theorem get_inserted {s : Db} {row : ρ} : R.get (R.inserted s row) = R.get s ++ [row] :=
  R.get_put s _

/-! ### Footprints -/

theorem touches_updateAs {l : Nat → Label} {target : Db → ρ → Bool} {set : ρ → ρ}
    (hl : ∀ n, (l n).table = some R.table) : Touches [R.table] (R.updateAs l target set) :=
  touches_execute (fun _ _ ht => frame_updated ht) hl

theorem touches_update {target : Db → ρ → Bool} {set : ρ → ρ} :
    Touches [R.table] (R.update target set) := touches_updateAs fun _ => rfl

theorem touches_delete {doomed : Db → ρ → Bool} : Touches [R.table] (R.delete doomed) :=
  touches_execute (fun _ _ ht => frame_deleted ht) fun _ => rfl

theorem touches_insert {free : Db → Bool} {row : ρ} : Touches [R.table] (R.insert free row) :=
  touches_insertRow (fun _ _ ht => frame_inserted ht) fun _ => rfl

theorem touches_insertWhereAs {l : Nat → Label} {wanted free : Db → Bool} {row : ρ}
    (hl : ∀ n, (l n).table = some R.table) :
    Touches [R.table] (R.insertWhereAs l wanted free row) := by
  refine .bind (Prog.each_perform.2 fun s => ⟨fun t ht => ?_, fun t ht => ?_⟩) fun outcome => ?_
  · have ht : t ≠ R.table := by simpa using ht
    dsimp only
    split
    · split
      · exact frame_inserted ht
      · exact Table.Same.rfl
    · exact Table.Same.rfl
  · rw [hl] at ht
    simpa using (Option.some.inj ht).symm
  · cases outcome <;> trivial

theorem touches_insertWhere {wanted free : Db → Bool} {row : ρ} :
    Touches [R.table] (R.insertWhere wanted free row) := touches_insertWhereAs fun _ => rfl

theorem touches_discardAs {l : Label} {doomed : ρ → Bool} (hl : l.table = some R.table) :
    Touches [R.table] (R.discardAs l doomed) :=
  .catchAll (.bind (touches_execute (fun _ _ ht => frame_deleted ht) fun _ => hl)
    fun _ => trivial)

theorem touches_discard {doomed : ρ → Bool} : Touches [R.table] (R.discard doomed) :=
  touches_discardAs rfl

theorem touches_discardEach {column : ρ → String} (values : List String) :
    Touches [R.table] (R.discardEach column values) := by
  induction values with
  | nil => trivial
  | cons value rest ih => exact .bind touches_discard fun _ => ih

@[simp] theorem touches_select {ts : List Table} {target : Db → ρ → Bool} :
    Touches ts (R.select target) := touches_query rfl

@[simp] theorem touches_first {ts : List Table} {target : Db → ρ → Bool} :
    Touches ts (R.first target) := touches_query rfl

end Rows

/-! ### The tables -/

/-- `threads`. -/
def threadRows : Rows ThreadRow where
  table := .threads
  get := Db.threads
  put s rows := { s with threads := rows }
  get_put _ _ := rfl
  frame _ _ t ht := by cases t <;> first | rfl | exact absurd rfl ht
  congr _ _ h := h

/-- `messages`. -/
def messageRows : Rows MessageRow where
  table := .messages
  get := Db.messages
  put s rows := { s with messages := rows }
  get_put _ _ := rfl
  frame _ _ t ht := by cases t <;> first | rfl | exact absurd rfl ht
  congr _ _ h := h

/-- `attachments`. -/
def attachmentRows : Rows AttachmentRow where
  table := .attachments
  get := Db.attachments
  put s rows := { s with attachments := rows }
  get_put _ _ := rfl
  frame _ _ t ht := by cases t <;> first | rfl | exact absurd rfl ht
  congr _ _ h := h

/-- `tasks`. -/
def taskRows : Rows TaskRow where
  table := .tasks
  get := Db.tasks
  put s rows := { s with tasks := rows }
  get_put _ _ := rfl
  frame _ _ t ht := by cases t <;> first | rfl | exact absurd rfl ht
  congr _ _ h := h

/-- `agent_runs`. -/
def agentRunRows : Rows AgentRunRow where
  table := .agentRuns
  get := Db.agentRuns
  put s rows := { s with agentRuns := rows }
  get_put _ _ := rfl
  frame _ _ t ht := by cases t <;> first | rfl | exact absurd rfl ht
  congr _ _ h := h

/-- `drafts`. -/
def draftRows : Rows DraftRow where
  table := .drafts
  get := Db.drafts
  put s rows := { s with drafts := rows }
  get_put _ _ := rfl
  frame _ _ t ht := by cases t <;> first | rfl | exact absurd rfl ht
  congr _ _ h := h

/-- `outbound_jobs`. -/
def jobRows : Rows OutboundJobRow where
  table := .outboundJobs
  get := Db.outboundJobs
  put s rows := { s with outboundJobs := rows }
  get_put _ _ := rfl
  frame _ _ t ht := by cases t <;> first | rfl | exact absurd rfl ht
  congr _ _ h := h

/-- `delivery_events`. -/
def deliveryEventRows : Rows DeliveryEventRow where
  table := .deliveryEvents
  get := Db.deliveryEvents
  put s rows := { s with deliveryEvents := rows }
  get_put _ _ := rfl
  frame _ _ t ht := by cases t <;> first | rfl | exact absurd rfl ht
  congr _ _ h := h

/-- `suppressions`. -/
def suppressionRows : Rows SuppressionRow where
  table := .suppressions
  get := Db.suppressions
  put s rows := { s with suppressions := rows }
  get_put _ _ := rfl
  frame _ _ t ht := by cases t <;> first | rfl | exact absurd rfl ht
  congr _ _ h := h

/-- `idempotency_keys`. -/
def idempotencyRows : Rows IdempotencyRow where
  table := .idempotencyKeys
  get := Db.idempotencyKeys
  put s rows := { s with idempotencyKeys := rows }
  get_put _ _ := rfl
  frame _ _ t ht := by cases t <;> first | rfl | exact absurd rfl ht
  congr _ _ h := h

/-- `agent_deployments`. -/
def deploymentRows : Rows DeploymentRow where
  table := .agentDeployments
  get := Db.agentDeployments
  put s rows := { s with agentDeployments := rows }
  get_put _ _ := rfl
  frame _ _ t ht := by cases t <;> first | rfl | exact absurd rfl ht
  congr _ _ h := h

/-- `requireStateUpdateApplied(changes, target)`. -/
def requireStateUpdateApplied (changes : Nat) (target : String) : Op Unit :=
  if changes = 0 then throw (Exn.error (target ++ " no longer exists")) else pure ()

@[simp] theorem touches_requireStateUpdateApplied {ts : List Table} {changes : Nat}
    {target : String} : Touches ts (requireStateUpdateApplied changes target) := by
  rw [requireStateUpdateApplied]
  split <;> trivial

/-! ### Objects and queues -/

/-- The object with a key. -/
def Db.object (s : Db) (key : String) : Option Blob := s.objects.lookup key

/-- The objects without one. -/
def Db.withoutObject (s : Db) (key : String) : List (String × Blob) :=
  s.objects.filter fun o => o.1 != key

/-- `env.R2_EMAIL.get(key)`, under a label. -/
def r2GetAs (l : Label) (key : String) : Op (Option Blob) := query l fun s => s.object key

/-- `env.R2_EMAIL.get(key)`. -/
def r2Get (key : String) : Op (Option Blob) := r2GetAs (.read .objects) key

/-- `env.R2_EMAIL.put(key, value)`. -/
def r2Put (key : String) (value : Blob) : Op Unit := do
  let _ ← execute (fun _ => .write .objects) fun s =>
    (1, { s with objects := (key, value) :: s.withoutObject key })

/-- `env.R2_EMAIL.delete(key)`. -/
def r2Delete (key : String) : Op Unit := do
  let _ ← execute (fun _ => .deleteObject key) fun s =>
    (1, { s with objects := s.withoutObject key })

/-- `env.R2_EMAIL.delete(key).catch(() => undefined)`, in a `catch` block. -/
def discardObject (key : String) : Op Unit :=
  catchAll (do
    let _ ← execute (fun _ => .discardObject key) fun s =>
      (1, { s with objects := s.withoutObject key })) ()

/-- `object.json()`. -/
def Blob.parseJson : Blob → Op Json
  | .json value => pure value
  | .bytes _ _ => throw (Exn.error "Unexpected token in JSON")

/-- The fields that are read of a parsed value: reading one of `null` throws, and what is
not an object has none. -/
def recordFields : Json → Op Fields
  | .null => throw (Exn.error "Cannot read properties of null")
  | .obj fields => pure fields
  | _ => pure []

/-- `enqueueDeadLetter`. -/
def enqueueDeadLetter (source refId reason : String) : Op Unit := do
  let _ ← execute (fun _ => .write .deadLetters) fun s =>
    (1, { s with deadLetters := s.deadLetters ++ [⟨source, refId, reason⟩] })

@[simp] theorem touches_r2Get {ts : List Table} {key : String} : Touches ts (r2Get key) :=
  touches_query rfl

theorem touches_r2Put {key : String} {value : Blob} : Touches [.objects] (r2Put key value) := by
  refine .bind (touches_execute ?_ fun _ => rfl) fun _ => trivial
  intro s t ht
  cases t <;> first | rfl | exact absurd rfl ht

theorem touches_r2Delete {key : String} : Touches [.objects] (r2Delete key) := by
  refine .bind (touches_execute ?_ fun _ => rfl) fun _ => trivial
  intro s t ht
  cases t <;> first | rfl | exact absurd rfl ht

theorem touches_discardObject {key : String} : Touches [.objects] (discardObject key) := by
  refine .catchAll (.bind (touches_execute ?_ fun _ => rfl) fun _ => trivial)
  intro s t ht
  cases t <;> first | rfl | exact absurd rfl ht

@[simp] theorem touches_parseJson {ts : List Table} {b : Blob} : Touches ts b.parseJson := by
  cases b <;> trivial

@[simp] theorem touches_recordFields {ts : List Table} {v : Json} :
    Touches ts (recordFields v) := by cases v <;> trivial

theorem touches_enqueueDeadLetter {source refId reason : String} :
    Touches [.deadLetters] (enqueueDeadLetter source refId reason) := by
  refine .bind (touches_execute ?_ fun _ => rfl) fun _ => trivial
  intro s t ht
  cases t <;> first | rfl | exact absurd rfl ht

end MailRuntime
