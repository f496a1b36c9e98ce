import MailRuntime.Inbound.MessageKeys

/-!
# E-mail that comes again

Runs of any number of receipts, local deliveries and ingest batches, in any order and
interleaving, whatever becomes of their statements. While ingest writes no `Message-ID` that
it may not, no mailbox holds a message twice, and an e-mail that comes again is resolved to
the message that is there. The run at the end shows that the condition is needed: a
`Message-ID` with a capital letter is enough.
-/

namespace MailRuntime

open Js Interaction

/-- What brings messages in: the receipt of an e-mail, the local delivery of an outbound job, or
a batch of the ingest queue. -/
inductive InboundTask where
  | receive (email : ForwardableEmailMessage)
  | deliver (delivery : LocalDelivery)
  | ingest (batch : List EmailIngestJob)
deriving DecidableEq, Repr

/-- The program of a task. -/
def InboundTask.prog (env : Env) : InboundTask → Op Unit
  | receive email => do
    let _ ← handleEmail env email
    pure ()
  | deliver delivery => deliverLocallyToMailboxes env delivery
  | ingest batch => do
    let _ ← handleEmailIngest env batch
    pure ()

/-- The tasks before their first step. -/
def startInbound {ι : Type} (env : Env) (tasks : ι → InboundTask) (start : Db) :
    Config ι Db Label Exn Unit :=
  ⟨⟨start, []⟩, fun i => (tasks i).prog env⟩

variable {env : Env} {s : Db}

theorem keyed_prog (hlower : LowersOnce env) (task : InboundTask) :
    OpKeepsKeyed env (task.prog env) := by
  cases task with
  | receive email => exact keyed_bind (keyed_handleEmail hlower email) fun _ => trivial
  | deliver delivery => exact keyed_deliverLocallyToMailboxes hlower delivery
  | ingest batch => exact keyed_bind (keyed_handleEmailIngest batch) fun _ => trivial

/-- The messages of a mailbox under the key of one of them are that one. -/
theorem Db.MessagesKeyed.inboundMessages_eq (h : s.MessagesKeyed env) {mailboxId key : String}
    {m : MessageRow} (hm : m ∈ s.messages) (hheld : s.holds mailboxId m = true)
    (hkey : m.internetMessageId = some key) : s.inboundMessages mailboxId key = [m] := by
  have hiff : ∀ m', (m'.isInbound mailboxId key && s.messageVisible m') = true ↔
      s.holds mailboxId m' = true ∧ m'.internetMessageId = some key := by
    intro m'
    simp only [MessageRow.isInbound, holds, Bool.and_eq_true, beq_iff_eq]
    constructor
    · rintro ⟨⟨⟨hmailbox, hdirection⟩, hid⟩, hvisible⟩
      exact ⟨⟨⟨hmailbox, hdirection⟩, hvisible⟩, hid⟩
    · rintro ⟨⟨⟨hmailbox, hdirection⟩, hvisible⟩, hid⟩
      exact ⟨⟨⟨hmailbox, hdirection⟩, hid⟩, hvisible⟩
  have hall : ∀ m' ∈ s.inboundMessages mailboxId key, m' = m := by
    intro m' hm'
    obtain ⟨hmem, hcond⟩ := List.mem_filter.1 hm'
    obtain ⟨hheld', hkey'⟩ := (hiff m').1 hcond
    refine List.inj_on_of_nodup_map h.messages hmem hm ?_
    exact h.unique mailboxId m' hmem m hm hheld' hheld (hkey'.trans hkey.symm) (by simp [hkey'])
  have hmem : m ∈ s.inboundMessages mailboxId key :=
    List.mem_filter.2 ⟨hm, (hiff m).2 ⟨hheld, hkey⟩⟩
  have hnodup : (s.inboundMessages mailboxId key).Nodup :=
    (List.filter_sublist).nodup (List.Nodup.of_map _ h.messages)
  cases hlist : s.inboundMessages mailboxId key with
  | nil =>
    rw [hlist] at hmem
    cases hmem
  | cons first rest =>
    rw [hlist] at hall hnodup
    have hfirst := hall first List.mem_cons_self
    cases rest with
    | nil => rw [hfirst]
    | cons second rest =>
      have hsecond := hall second (List.mem_cons_of_mem _ List.mem_cons_self)
      rw [List.nodup_cons] at hnodup
      exact absurd (by rw [hfirst, hsecond]; exact List.mem_cons_self) hnodup.1

theorem run_resumeIfPending (m : MessageRow) (s : Db) :
    (resumeIfPending env m).run s =
      (.ok (), { s with ingestQueue := s.ingestQueue ++ m.pendingIngest.toList }) := by
  rw [resumeIfPending]
  split
  · next job hjob =>
    rw [hjob]
    rfl
  · next hnone =>
    rw [hnone]
    simp

theorem Db.MessagesKeyed.resolves (h : s.MessagesKeyed env) : s.Resolves env := by
  intro email mailbox m hm hmailbox hactive hheld hne hkey
  have hnormal := h.normal mailbox.id m hm hheld
  obtain ⟨key, hid⟩ := Option.ne_none_iff_exists'.1 hne
  rw [hid] at hkey hnormal
  have hlist := h.inboundMessages_eq hm hheld hnormal.symm
  have hagain : normalizeInternetMessageId env (some key) = some key := by
    rw [MessageRow.key, ← hnormal] at hid
    exact hid
  have hfound : (existingInboundMessage env mailbox.id (some key)).run s = (.ok (some m), s) := by
    rw [existingInboundMessage, getInboundMessageByInternetMessageId, hagain]
    simp only [query, Prog.run_perform, hlist]
    rfl
  have hlookup : (getMailboxByAddress env (env.toLowerCase email.recipient)).run s =
      (.ok (some mailbox), s) := by
    simp only [getMailboxByAddress, query, Prog.run_perform, hmailbox]
  rw [handleEmail, Prog.run_bind, hlookup, Prog.andThen_ok]
  simp only [hactive, if_true, ← hkey, Prog.run_bind, hfound, Prog.andThen_ok, run_resumeIfPending]
  rfl

variable {ι : Type} [DecidableEq ι]

/-- **Deduplication**: after any schedule of receipts, local deliveries and ingest batches in
which no `Message-ID` is written that may not be, no mailbox holds a message twice, and an
e-mail that comes again is resolved to the message that is there. -/
theorem deduplicated_of_keysKept (env : Env) (hlower : LowersOnce env) (tasks : ι → InboundTask)
    (start : Db) (hstart : start.MessagesKeyed env) (schedule : List (ι × Outcome))
    (hmeets : (startInbound env tasks start).Meets (KeysKept env) schedule) :
    ((startInbound env tasks start).exec schedule).world.store.Deduplicated env ∧
      ((startInbound env tasks start).exec schedule).world.store.Resolves env := by
  have hkeyed : ((startInbound env tasks start).exec schedule).world.store.MessagesKeyed env := by
    refine Config.Meets.keep (A := fun w => w.store.MessagesKeyed env) (S := KeepsKeyed env)
      (T := Draws) (fun run hrun w hw => ?_) (fun name run hrun i w o hallow hw => ?_)
      (fun i => keyed_prog hlower (tasks i)) hstart hmeets
    · exact hw.congr (hrun _ .mailboxes) (hrun _ .messages)
    · rw [World.after_store]
      split
      · next heffective => exact hrun _ hw (hallow heffective)
      · exact hw
  exact ⟨hkeyed.deduplicated, hkeyed.resolves⟩

/-! ### Two runs -/

/-- An environment that lowers the letters of ASCII. -/
def mailEnv : Env :=
  { Env.bare with toLowerCase := fun s => String.ofList (s.toList.map Char.toLower) }

/-- A database with one mailbox. -/
def mailboxDb : Db where
  mailboxes := [⟨"mbx", "t", "a@b", "active"⟩]
  draws := 1

/-- An e-mail for that mailbox under a `Message-ID`. -/
def sampleEmail (messageId : String) : ForwardableEmailMessage where
  sender := "c@d"
  recipient := "a@b"
  messageIdHeader := some messageId
  raw := utf8 ("Message-ID: " ++ messageId ++ "\r\nFrom: c@d\r\nSubject: s\r\n\r\nhi")

/-- The e-mail, its ingest, and the e-mail again. -/
def receivedTwice (messageId : String) : Fin 3 → InboundTask
  | 0 | 2 => .receive (sampleEmail messageId)
  | 1 => .ingest [⟨mailEnv.createId "msg" 1, "t", "mbx",
      rawR2KeyOf mailEnv 2 (mailEnv.createId "msg" 1)⟩]

/-- One after the other, everything carried out. -/
def inTurn : List (Fin 3 × Outcome) := turns 0 40 ++ turns 1 60 ++ turns 2 40

/-- A `Message-ID` with a capital letter is written over its key by ingest, so that the e-mail
that comes again is stored again. -/
theorem capital_received_twice :
    ¬ ((startInbound mailEnv (receivedTwice "<A@d>") mailboxDb).exec inTurn).world.store.Deduplicated
      mailEnv := by
  intro h
  have hpair : ∃ m ∈ ((startInbound mailEnv (receivedTwice "<A@d>") mailboxDb).exec
        inTurn).world.store.messages,
      ∃ m' ∈ ((startInbound mailEnv (receivedTwice "<A@d>") mailboxDb).exec
        inTurn).world.store.messages,
      Db.holds ((startInbound mailEnv (receivedTwice "<A@d>") mailboxDb).exec
        inTurn).world.store "mbx" m = true ∧
      Db.holds ((startInbound mailEnv (receivedTwice "<A@d>") mailboxDb).exec
        inTurn).world.store "mbx" m' = true ∧
      m.key mailEnv = m'.key mailEnv ∧ m.key mailEnv ≠ none ∧ m.id ≠ m'.id := by decide +kernel
  obtain ⟨m, hm, m', hm', hheld, hheld', hkey, hne, hid⟩ := hpair
  exact hid (h "mbx" m hm m' hm' hheld hheld' hkey hne)

theorem mailboxDb_keyed : mailboxDb.MessagesKeyed mailEnv where
  mailboxes := by decide
  messages := by decide
  normal _ _ hm := by cases hm
  unique _ _ hm := by cases hm

/-- `LowersOnce` of that environment. -/
theorem mailEnv_lowersOnce : LowersOnce mailEnv := by
  intro v
  have htrim : ∀ l : List Char, trimChars (l.map Char.toLower) = (trimChars l).map Char.toLower := by
    intro l
    have hspace : isSpace ∘ Char.toLower = isSpace := funext isSpace_toLower
    simp only [trimChars, List.dropWhile_map, ← List.map_reverse, hspace]
  show String.ofList ((trim (String.ofList ((trim v).toList.map Char.toLower))).toList.map
    Char.toLower) = String.ofList ((trim v).toList.map Char.toLower)
  simp only [trim, String.toList_ofList, htrim, trimChars_trimChars, List.map_map]
  congr 1
  refine List.map_congr_left fun c _ => ?_
  exact toLower_toLower c

/-- The same e-mail with small letters is stored once. -/
theorem small_received_twice :
    ((startInbound mailEnv (receivedTwice "<a@d>") mailboxDb).exec inTurn).world.store.Deduplicated
        mailEnv ∧
      ((startInbound mailEnv (receivedTwice "<a@d>") mailboxDb).exec inTurn).world.store.Resolves
        mailEnv :=
  deduplicated_of_keysKept mailEnv mailEnv_lowersOnce (receivedTwice "<a@d>") mailboxDb
    mailboxDb_keyed inTurn (by decide +kernel)

end MailRuntime
