import MailRuntime.Interaction.Prog
import MailRuntime.Storage.Database
import MailRuntime.Storage.Environment

/-!
# Statements on the database

The programs of the source as `Prog`s: one statement for each SQL statement, R2
operation, queue operation or call of a provider. The label of a statement says what it
does where a property of runs speaks of it, and how many rows it changed; all others
are a `read` or a `write` of a table.

A program's footprint (`Touches`) is what a caller has to know of a function it does
not look into: the tables its statements may change.
-/

namespace MailRuntime

open Interaction Js

/-- What kind of exception. -/
inductive ExnKind where
  /-- An operation of D1, R2, a queue or `fetch` failed. -/
  | io
  /-- A D1 statement broke a unique constraint. -/
  | uniqueConstraint
  /-- `Error`. -/
  | error
  | billingUniqueness
  | routeRequest
  | outboundPolicy
  | draftSendValidation
  | siteRequest
  | deploymentConflict
  | mcpTool
deriving DecidableEq, Repr

/-- A thrown error; `sideEffectCommitted` is the mark that `markSideEffectCommitted` leaves. -/
structure Exn where
  kind : ExnKind
  message : String
  status : Nat := 500
  sideEffectCommitted : Bool := false
deriving DecidableEq, Repr

/-- The exception of an operation that failed. -/
def Exn.d1 : Exn := ⟨.io, "D1_ERROR", 500, false⟩

/-- The exception of a statement that broke a unique constraint. -/
def Exn.unique : Exn := ⟨.uniqueConstraint, "UNIQUE constraint failed", 500, false⟩

/-- `new Error(message)`. -/
def Exn.error (message : String) : Exn := ⟨.error, message, 500, false⟩

/-- `new RouteRequestError(message, status)`. -/
def routeRequestError (message : String) (status : Nat) : Exn :=
  ⟨.routeRequest, message, status, false⟩

/-- `isUniqueConstraintError`. -/
def Exn.isUniqueConstraintError (e : Exn) : Bool := e.kind == .uniqueConstraint

/-- What a statement does. -/
inductive Label where
  | read (t : Table)
  | write (t : Table)
  /-- A write that takes back an earlier one after an exception. -/
  | undo (t : Table)
  /-- The sum of a tenant's ledger is read. -/
  | sumLedger (tenantId : String)
  /-- A row is inserted in a tenant's ledger. -/
  | insertLedger (tenantId : String) (changes : Nat)
  /-- A tenant's available credits are reserved. -/
  | reserveCredits (tenantId : String) (credits : Int) (changes : Nat)
  /-- A tenant's reserved credits are given back. -/
  | releaseCredits (tenantId : String) (credits : Int) (changes : Nat)
  /-- A tenant's reserved credits are taken for good. -/
  | captureCredits (tenantId : String) (changes : Nat)
  /-- A tenant's available credits are set from a sum. -/
  | setAvailable (tenantId : String)
  /-- A receipt is read, to be acted on. -/
  | loadReceipt (receiptId : String)
  /-- A receipt's status is written. -/
  | writeReceipt (receiptId : String) (status : ReceiptStatus) (changes : Nat)
  /-- A job's status is set to `sending` if it is `queued` or `retry`. -/
  | claimJob (jobId : String) (changes : Nat)
  /-- A job's status is written, and its retry count where one is given. -/
  | writeJob (jobId : String) (status : JobStatus) (retryCount : Option Nat) (changes : Nat)
  /-- A draft's status is written. -/
  | writeDraft (draftId : String) (status : DraftStatus) (changes : Nat)
  /-- The `Message-ID` that was parsed is written on a message, unless there is none. -/
  | writeMessageKey (messageId : String) (internetMessageId : Option String) (changes : Nat)
  /-- A task is inserted, unless a visible one of its message is there. -/
  | insertTask (taskId : String) (changes : Nat)
  /-- A task is deleted. -/
  | deleteTask (taskId : String)
  /-- A task's status is set to `running` if it is `queued`. -/
  | claimTask (taskId : String) (changes : Nat)
  /-- A task's status is written. -/
  | writeTask (taskId : String) (status : TaskStatus) (changes : Nat)
  /-- The row of a new attachment is inserted. -/
  | insertAttachment (attachmentId : String)
  /-- An object is deleted. -/
  | deleteObject (key : String)
  /-- An object is deleted after an exception. -/
  | discardObject (key : String)
  /-- The payment facilitator is called. -/
  | callFacilitator
  /-- The send of a job, whose draft has that R2 key, begins. -/
  | beginSend (jobId draftR2Key : String)
  /-- The provider is called for a job, and accepts its message or not. -/
  | callProvider (jobId : String) (accepted : Bool)
deriving DecidableEq, Repr

/-- What a statement bears on, besides the tables it changes: a plain read bears on nothing,
and all statements that a ledger has to be reconciled after, or is reconciled by, on the
ledger. -/
def Label.table : Label → Option Table
  | read _ | callFacilitator => none
  | write t | undo t => some t
  | reserveCredits _ _ _ | releaseCredits _ _ _ => some .accounts
  | sumLedger _ | insertLedger _ _ | captureCredits _ _ | setAvailable _ => some .ledger
  | loadReceipt _ | writeReceipt _ _ _ => some .receipts
  | claimJob _ _ | writeJob _ _ _ _ | beginSend _ _ | callProvider _ _ => some .outboundJobs
  | writeDraft _ _ _ => some .drafts
  | writeMessageKey _ _ _ => some .messages
  | insertTask _ _ | deleteTask _ | claimTask _ _ | writeTask _ _ _ => some .tasks
  | insertAttachment _ => some .attachments
  | deleteObject _ | discardObject _ => some .objects

/-- The programs of the source. -/
abbrev Op (α : Type) := Prog Db Label Exn α

variable {α β : Type}

/-- SQL's `lower`, which knows ASCII letters only. -/
def sqlLower (s : String) : String := s.toLower

/-- A statement that only reads. -/
def query (l : Label) (f : Db → α) : Op α := Prog.perform (fun _ => l) (fun s => (f s, s)) Exn.d1

/-- A statement that only reads, and whose label says what it found. -/
def queryAs (l : α → Label) (f : Db → α) : Op α :=
  Prog.perform (fun s => l (f s)) (fun s => (f s, s)) Exn.d1

/-- A statement that says how many rows it changed. -/
def execute (l : Nat → Label) (f : Db → Nat × Db) : Op Nat :=
  Prog.perform (fun s => l (f s).1) f Exn.d1

/-- An `INSERT`, which throws if it breaks a unique constraint. -/
def insertRow (l : Nat → Label) (free : Db → Bool) (f : Db → Db) : Op Unit := do
  let changes ← execute l fun s => if free s then (1, f s) else (0, s)
  if changes = 0 then throw Exn.unique

/-- A call of something outside: its answer depends on the draw. -/
def call (l : α → Label) (f : Nat → α) : Op α :=
  Prog.perform (fun s => l (f s.draws)) (fun s => (f s.draws, { s with draws := s.draws + 1 })) Exn.d1

/-- A mark in the trace at a point of the program, where nothing is done and nothing can go
wrong. -/
def mark (l : Label) : Op Unit := .stmt (fun _ => l) id (fun _ => .ret ()) (.ret ())

/-- `requireRow(row, message)`. -/
def requireRow (row : Option α) (message : String) : Op α :=
  match row with
  | some a => pure a
  | none => throw (Exn.error message)

/-- `createId(prefix)`. -/
def createId (env : Env) (kind : String) : Op String :=
  Prog.draw fun s => (env.createId kind s.draws, { s with draws := s.draws + 1 })

/-- `nowIso()`. -/
def nowIso (env : Env) : Op Nat :=
  Prog.draw fun s => (env.clock s.draws, { s with draws := s.draws + 1 })

/-- `promise.catch(() => value)`. -/
def catchAll (p : Op α) (value : α) : Op α := tryCatch p fun _ => pure value

/-! ### Running alone -/

theorem reads_query (l : Label) (f : Db → α) : (query l f).Reads :=
  ⟨rfl, ⟨Exn.d1, rfl⟩, fun _ => trivial⟩

theorem readsOnly_query {τ : Type} {view : Db → τ} {l : Label} {f : Db → α}
    (h : ∀ s s', view s = view s' → f s = f s') : (query l f).ReadsOnly view :=
  ⟨rfl, ⟨Exn.d1, rfl⟩, fun s s' hview => congrArg Prog.ret (h s s' hview), fun _ => trivial⟩

theorem run_query (l : Label) (f : Db → α) (s : Db) : (query l f).run s = (.ok (f s), s) := rfl

theorem run_nowIso (env : Env) (s : Db) : (nowIso env).run s =
    (.ok (env.clock s.draws), { s with draws := s.draws + 1 }) := rfl

theorem run_createId (env : Env) (kind : String) (s : Db) : (createId env kind).run s =
    (.ok (env.createId kind s.draws), { s with draws := s.draws + 1 }) := rfl

theorem run_catchAll {p : Op α} {value : α} {s s' : Db} {a : α} (h : p.run s = (.ok a, s')) :
    (catchAll p value).run s = (.ok a, s') := by
  rw [catchAll, Prog.tryCatch_eq, Prog.run_tryCatch, h, Prog.orElse_ok]

/-! ### Footprints -/

/-- A silent step touches no table. -/
def Draws (run : Db → Db) : Prop := ∀ (s : Db) (t : Table), t.Same s (run s)

/-- A statement touches no table outside `ts`, and bears on none. -/
def Within (ts : List Table) (name : Db → Label) (run : Db → Db) : Prop :=
  ∀ s, (∀ t, t ∉ ts → t.Same s (run s)) ∧ ∀ t, (name s).table = some t → t ∈ ts

/-- The program changes no table outside `ts`, and none of its statements bears on one. -/
def Touches (ts : List Table) (p : Op α) : Prop := p.Each Draws (Within ts)

variable {ts ts' : List Table}

@[simp] theorem touches_ret (a : α) : Touches ts (Prog.ret a : Op α) := trivial

@[simp] theorem touches_throw (e : Exn) : Touches ts (Prog.throw e : Op α) := trivial

theorem Touches.bind {p : Op α} {f : α → Op β} (hp : Touches ts p) (hf : ∀ a, Touches ts (f a)) :
    Touches ts (p >>= f) := Prog.Each.bind hp hf

theorem Touches.map {p : Op α} {f : α → β} (hp : Touches ts p) : Touches ts (f <$> p) :=
  Prog.Each.map hp

theorem Touches.tryCatch {p : Op α} {h : Exn → Op α} (hp : Touches ts p)
    (hh : ∀ e, Touches ts (h e)) : Touches ts (p.tryCatch h) := Prog.Each.tryCatch hp hh

theorem Touches.catchAll {p : Op α} {value : α} (hp : Touches ts p) :
    Touches ts (catchAll p value) := hp.tryCatch fun _ => trivial

theorem Touches.mono {p : Op α} (hp : Touches ts p) (h : ∀ t, t ∈ ts → t ∈ ts') :
    Touches ts' p :=
  Prog.Each.mono hp (fun _ h => h) fun _ _ hw s =>
    ⟨fun t ht => (hw s).1 t fun ht' => ht (h t ht'), fun t ht => h t ((hw s).2 t ht)⟩

/-- A run leaves the tables outside the footprint as they were. -/
theorem Touches.run_same {p : Op α} (hp : Touches ts p) {t : Table} (ht : t ∉ ts) (s : Db) :
    t.Same s (p.run s).2 :=
  Prog.Each.run (R := t.Same) (fun _ => Table.Same.rfl) (fun _ _ _ => Table.Same.trans)
    (Prog.Each.mono hp (fun _ h s => h s t) fun _ _ h s => (h s).1 t ht) s

theorem Touches.same_of_run {p : Op α} (hp : Touches ts p) {s s' : Db} {r : Except Exn α}
    (h : p.run s = (r, s')) {t : Table} (ht : t ∉ ts) : t.Same s s' := by
  have hsame := hp.run_same ht s
  rw [h] at hsame
  exact hsame

theorem touches_query {l : Label} {f : Db → α} (h : l.table = none) : Touches ts (query l f) :=
  Prog.each_perform.2 fun _ => ⟨fun _ _ => Table.Same.rfl, fun t ht => by simp [h] at ht⟩

theorem touches_queryAs {l : α → Label} {f : Db → α} {u : Table}
    (h : ∀ a t, (l a).table = some t → t = u) : Touches [u] (queryAs l f) :=
  Prog.each_perform.2 fun _ =>
    ⟨fun _ _ => Table.Same.rfl, fun t ht => List.mem_singleton.2 (h _ t ht)⟩

theorem touches_execute {l : Nat → Label} {f : Db → Nat × Db} {u : Table}
    (h : ∀ s t, t ≠ u → t.Same s (f s).2) (hl : ∀ n, (l n).table = some u) :
    Touches [u] (execute l f) :=
  Prog.each_perform.2 fun s => ⟨fun t ht => h s t (by simpa using ht), fun t ht => by
    rw [hl] at ht
    simpa using ht.symm⟩

theorem touches_insertRow {l : Nat → Label} {free : Db → Bool} {f : Db → Db} {u : Table}
    (h : ∀ s t, t ≠ u → t.Same s (f s)) (hl : ∀ n, (l n).table = some u) :
    Touches [u] (insertRow l free f) := by
  refine Touches.bind (touches_execute (fun s t ht => ?_) hl) fun n => ?_
  · split
    · exact h s t ht
    · exact Table.Same.rfl
  · split <;> trivial

theorem touches_call {l : α → Label} {f : Nat → α} (h : ∀ a, (l a).table = none) :
    Touches ts (call l f) :=
  Prog.each_perform.2 fun s => ⟨fun t _ => by cases t <;> rfl, fun t ht => by simp [h] at ht⟩

@[simp] theorem touches_requireRow {row : Option α} {message : String} :
    Touches ts (requireRow row message) := by cases row <;> trivial

@[simp] theorem touches_createId {env : Env} {kind : String} : Touches ts (createId env kind) :=
  Prog.each_draw.2 fun _ t => by cases t <;> rfl

@[simp] theorem touches_nowIso {env : Env} : Touches ts (nowIso env) :=
  Prog.each_draw.2 fun _ t => by cases t <;> rfl

end MailRuntime
