import MailRuntime.Interaction.Schedule
import MailRuntime.Outbound.InternalDelivery

/-!
# The keys of inbound messages

A mailbox knows an inbound message by its `Message-ID`, trimmed and in lower case. Receipt
looks a message up by that key and inserts it under it in one statement; ingest writes the
`Message-ID` it parsed over the key, as it stands in the raw message.

## What is proved

`Db.MessagesKeyed`, that all keys are in their normal form and that no two visible inbound messages
of a mailbox share one, is kept by every statement of receipt, local delivery and ingest,
except where ingest writes something else than the key (`KeysKept`). Hence after any
schedule of any number of these, no mailbox holds a message twice, and a message that comes
again is resolved to the one that is there.
-/

namespace MailRuntime

open Js Interaction

/-- The key of a message, as receipt makes it. -/
def MessageRow.key (env : Env) (m : MessageRow) : Option String :=
  normalizeInternetMessageId env m.internetMessageId

/-- The message is an inbound one of the mailbox, and visible. -/
def Db.holds (s : Db) (mailboxId : String) (m : MessageRow) : Bool :=
  m.mailboxId == mailboxId && m.direction == .inbound && s.messageVisible m

/-- No mailbox holds two messages whose `Message-ID`s are equal after trimming and lowering. -/
def Db.Deduplicated (env : Env) (s : Db) : Prop :=
  ∀ mailboxId, ∀ m ∈ s.messages, ∀ m' ∈ s.messages, s.holds mailboxId m = true →
    s.holds mailboxId m' = true → m.key env = m'.key env → m.key env ≠ none → m.id = m'.id

/-- An e-mail whose `Message-ID` a message of its mailbox has is resolved to that message: it is
accepted, and all that happens is that the message is sent to ingest if it has not got through
it. -/
def Db.Resolves (env : Env) (s : Db) : Prop :=
  ∀ (email : ForwardableEmailMessage) (mailbox : MailboxRow), ∀ m ∈ s.messages,
    s.mailboxByAddress env (env.toLowerCase email.recipient) = some mailbox →
    mailbox.status = "active" → s.holds mailbox.id m = true → m.key env ≠ none →
    m.key env = normalizeInternetMessageId env email.messageIdHeader →
    (handleEmail env email).run s =
      (.ok true, { s with ingestQueue := s.ingestQueue ++ m.pendingIngest.toList })

/-- The keys of the tables are in order, and so are those of the messages. -/
structure Db.MessagesKeyed (env : Env) (s : Db) : Prop where
  mailboxes : (s.mailboxes.map MailboxRow.id).Nodup
  messages : (s.messages.map MessageRow.id).Nodup
  normal : ∀ mailboxId, ∀ m ∈ s.messages, s.holds mailboxId m = true →
    m.key env = m.internetMessageId
  unique : ∀ mailboxId, ∀ m ∈ s.messages, ∀ m' ∈ s.messages, s.holds mailboxId m = true →
    s.holds mailboxId m' = true → m.internetMessageId = m'.internetMessageId →
    m.internetMessageId ≠ none → m.id = m'.id

/-- Lowering twice is lowering once. -/
def LowersOnce (env : Env) : Prop :=
  ∀ v, env.toLowerCase (trim (env.toLowerCase (trim v))) = env.toLowerCase (trim v)

/-- A `Message-ID` may be written on a message: it is the key the message has, or in the normal
form and no other message's of the mailbox. -/
def Db.mayWriteKey (s : Db) (env : Env) (internetMessageId : String) (m : MessageRow) : Bool :=
  m.internetMessageId == some internetMessageId ||
  (normalizeInternetMessageId env (some internetMessageId) == some internetMessageId &&
    (s.inboundMessages m.mailboxId internetMessageId).isEmpty)

/-- If the statement writes a parsed `Message-ID` on a visible inbound message, it may. -/
def Db.keepsKeys (s : Db) (env : Env) : Label → Bool
  | .writeMessageKey messageId (some internetMessageId) _ => s.messages.all fun m =>
      !(m.id == messageId && s.holds m.mailboxId m) || s.mayWriteKey env internetMessageId m
  | _ => true

/-- Ingest writes no `Message-ID` on a message that it may not. -/
def KeysKept {ι : Type} (env : Env) (_ : ι) (w : World ι Db Label) (l : Label) (o : Outcome) :
    Prop := o.effective = true → w.store.keepsKeys env l = true

instance {ι : Type} (env : Env) (i : ι) (w : World ι Db Label) (l : Label) (o : Outcome) :
    Decidable (KeysKept env i w l o) := by
  unfold KeysKept
  infer_instance

variable {env : Env} {s s' : Db}

theorem Db.MessagesKeyed.deduplicated (h : s.MessagesKeyed env) : s.Deduplicated env := by
  intro mailboxId m hm m' hm' hheld hheld' hkey hne
  rw [h.normal mailboxId m hm hheld] at hkey hne
  rw [h.normal mailboxId m' hm' hheld'] at hkey
  exact h.unique mailboxId m hm m' hm' hheld hheld' hkey hne

/-! ### What one statement keeps -/

/-- The statement keeps the keys in order, unless it writes a key it may not. -/
def KeepsKeyed (env : Env) (name : Db → Label) (run : Db → Db) : Prop :=
  ∀ s, s.MessagesKeyed env → s.keepsKeys env (name s) = true → (run s).MessagesKeyed env

/-- All statements of the program do. -/
def OpKeepsKeyed (env : Env) {α : Type} (p : Op α) : Prop := p.Each Draws (KeepsKeyed env)

theorem Db.holds_congr (h : s.mailboxes = s'.mailboxes) (mailboxId : String) (m : MessageRow) :
    s'.holds mailboxId m = s.holds mailboxId m := by
  simp only [Db.holds, Db.messageVisible, Db.ownsMailbox, h]

theorem Db.MessagesKeyed.congr (hmailboxes : s.mailboxes = s'.mailboxes)
    (hmessages : s.messages = s'.messages) (h : s.MessagesKeyed env) : s'.MessagesKeyed env where
  mailboxes := hmailboxes ▸ h.mailboxes
  messages := hmessages ▸ h.messages
  normal mailboxId m hm hheld := by
    rw [← hmessages] at hm
    rw [Db.holds_congr hmailboxes] at hheld
    exact h.normal mailboxId m hm hheld
  unique mailboxId m hm m' hm' hheld hheld' := by
    rw [← hmessages] at hm hm'
    rw [Db.holds_congr hmailboxes] at hheld hheld'
    exact h.unique mailboxId m hm m' hm' hheld hheld'

/-- Fewer messages are in order too. -/
theorem Db.MessagesKeyed.deleted (h : s.MessagesKeyed env) (doomed : MessageRow → Bool) :
    (messageRows.deleted s doomed).2.MessagesKeyed env where
  mailboxes := h.mailboxes
  messages := (List.filter_sublist.map MessageRow.id).nodup h.messages
  normal mailboxId m hm := h.normal mailboxId m (List.mem_filter.1 hm).1
  unique mailboxId m hm m' hm' :=
    h.unique mailboxId m (List.mem_filter.1 hm).1 m' (List.mem_filter.1 hm').1

/-- Messages that keep what they are known by are in order. -/
theorem Db.MessagesKeyed.updated (h : s.MessagesKeyed env) (target : MessageRow → Bool)
    (set : MessageRow → MessageRow)
    (hset : ∀ m, (set m).id = m.id ∧ (set m).tenantId = m.tenantId ∧
      (set m).mailboxId = m.mailboxId ∧ (set m).direction = m.direction ∧
      (set m).internetMessageId = m.internetMessageId) :
    (messageRows.updated s target set).2.MessagesKeyed env := by
  have hfields : ∀ m, let m' := if target m then set m else m
      m'.id = m.id ∧ m'.tenantId = m.tenantId ∧ m'.mailboxId = m.mailboxId ∧
        m'.direction = m.direction ∧ m'.internetMessageId = m.internetMessageId := by
    intro m
    dsimp only
    split
    · exact hset m
    · exact ⟨rfl, rfl, rfl, rfl, rfl⟩
  have hholds : ∀ mailboxId m, (messageRows.updated s target set).2.holds mailboxId
      (if target m then set m else m) = s.holds mailboxId m := by
    intro mailboxId m
    obtain ⟨-, htenant, hmailbox, hdirection, -⟩ := hfields m
    simp only [Db.holds, Db.messageVisible, htenant, hmailbox, hdirection]
    rfl
  refine ⟨h.mailboxes, ?_, ?_, ?_⟩
  · have hids : (messageRows.updated s target set).2.messages.map MessageRow.id =
        s.messages.map MessageRow.id := by
      simp only [Rows.updated, messageRows, List.map_map]
      exact List.map_congr_left fun m _ => (hfields m).1
    rw [hids]
    exact h.messages
  · intro mailboxId m' hm' hheld
    obtain ⟨m, hm, rfl⟩ := List.mem_map.1 hm'
    rw [hholds] at hheld
    have hnormal := h.normal mailboxId m hm hheld
    simp only [MessageRow.key, (hfields m).2.2.2.2] at hnormal ⊢
    exact hnormal
  · intro mailboxId m₁ hm₁ m₂ hm₂ hheld₁ hheld₂ hkey hne
    obtain ⟨m, hm, rfl⟩ := List.mem_map.1 hm₁
    obtain ⟨m', hm', rfl⟩ := List.mem_map.1 hm₂
    rw [hholds] at hheld₁ hheld₂
    rw [(hfields m).2.2.2.2, (hfields m').2.2.2.2] at hkey
    rw [(hfields m).2.2.2.2] at hne
    rw [(hfields m).1, (hfields m').1]
    exact h.unique mailboxId m hm m' hm' hheld₁ hheld₂ hkey hne

/-- A message that no other of its mailbox shares its key with may be inserted. -/
theorem Db.MessagesKeyed.inserted (h : s.MessagesKeyed env) {row : MessageRow}
    (hfree : s.messageIdFree row.id)
    (hnormal : row.key env = row.internetMessageId)
    (hnew : ∀ mailboxId, ∀ m ∈ s.messages, s.holds mailboxId row = true →
      s.holds mailboxId m = true → m.internetMessageId = row.internetMessageId →
      row.internetMessageId = none) :
    (messageRows.inserted s row).MessagesKeyed env := by
  have hmem : ∀ m, m ∈ (messageRows.inserted s row).messages → m ∈ s.messages ∨ m = row := by
    intro m hm
    simpa [Rows.inserted, messageRows] using hm
  refine ⟨h.mailboxes, ?_, ?_, ?_⟩
  · show ((s.messages ++ [row]).map MessageRow.id).Nodup
    rw [List.map_append, List.map_singleton, List.nodup_append]
    refine ⟨h.messages, List.nodup_singleton _, ?_⟩
    intro id hid id' hid' heq
    obtain ⟨m, hm, rfl⟩ := List.mem_map.1 hid
    rw [List.mem_singleton.1 hid'] at heq
    simp only [messageIdFree, Bool.not_eq_true', List.any_eq_false] at hfree
    exact hfree m hm (by simpa using heq)
  · intro mailboxId m hm hheld
    rcases hmem m hm with hm | rfl
    · exact h.normal mailboxId m hm hheld
    · exact hnormal
  · intro mailboxId m hm m' hm' hheld hheld' hkey hne
    rcases hmem m hm with hold | rfl
    · rcases hmem m' hm' with hold' | rfl
      · exact h.unique mailboxId m hold m' hold' hheld hheld' hkey hne
      · exact absurd (hkey.trans (hnew mailboxId m hold hheld' hheld hkey)) hne
    · rcases hmem m' hm' with hold' | rfl
      · exact absurd (hnew mailboxId m' hold' hheld hheld' hkey.symm) hne
      · rfl

/-- A parsed `Message-ID` may be written where it is the message's key, or new. -/
theorem Db.MessagesKeyed.normalized (h : s.MessagesKeyed env) (input : NormalizedInput)
    (hkeeps : s.keepsKeys env (.writeMessageKey input.messageId input.internetMessageId 0) = true)
    (target : MessageRow → Bool) (htarget : ∀ m, target m = true → m.id = input.messageId) :
    (messageRows.updated s target input.set).2.MessagesKeyed env := by
  cases hid : input.internetMessageId with
  | none =>
    refine h.updated target input.set fun m => ⟨rfl, rfl, rfl, rfl, ?_⟩
    simp [NormalizedInput.set, hid]
  | some key =>
    rw [hid] at hkeeps
    have hmay : ∀ m ∈ s.messages, target m = true → ∀ mailboxId, s.holds mailboxId m = true →
        m.internetMessageId = some key ∨
          (normalizeInternetMessageId env (some key) = some key ∧
            ∀ m' ∈ s.messages, s.holds mailboxId m' = true → m'.internetMessageId ≠ some key) := by
      intro m hm ht mailboxId hheld
      have hm' := List.all_eq_true.1 hkeeps m hm
      have hmailbox : m.mailboxId = mailboxId := by
        simp only [holds, Bool.and_eq_true, beq_iff_eq] at hheld
        exact hheld.1.1
      subst hmailbox
      simp only [htarget m ht, beq_self_eq_true, hheld, Bool.and_self, Bool.not_true,
        Bool.false_or, mayWriteKey, Bool.or_eq_true, Bool.and_eq_true, beq_iff_eq,
        List.isEmpty_iff] at hm'
      refine hm'.imp_right fun ⟨hnormal, hnone⟩ => ⟨hnormal, fun m' hm' hheld' hkey => ?_⟩
      have hmem : m' ∈ s.inboundMessages m.mailboxId key := by
        simp only [holds, Bool.and_eq_true, beq_iff_eq] at hheld'
        refine List.mem_filter.2 ⟨hm', ?_⟩
        simp [MessageRow.isInbound, hheld', hkey]
      rw [hnone] at hmem
      cases hmem
    have hset : ∀ m, let m' := if target m then input.set m else m
        m'.id = m.id ∧ m'.tenantId = m.tenantId ∧ m'.mailboxId = m.mailboxId ∧
          m'.direction = m.direction ∧
          m'.internetMessageId = if target m then some key else m.internetMessageId := by
      intro m
      dsimp only
      split
      · exact ⟨rfl, rfl, rfl, rfl, by simp [NormalizedInput.set, hid]⟩
      · exact ⟨rfl, rfl, rfl, rfl, rfl⟩
    have hholds : ∀ mailboxId m, (messageRows.updated s target input.set).2.holds mailboxId
        (if target m then input.set m else m) = s.holds mailboxId m := by
      intro mailboxId m
      obtain ⟨-, htenant, hmailbox, hdirection, -⟩ := hset m
      simp only [holds, messageVisible, htenant, hmailbox, hdirection]
      rfl
    refine ⟨h.mailboxes, ?_, ?_, ?_⟩
    · have hids : (messageRows.updated s target input.set).2.messages.map MessageRow.id =
          s.messages.map MessageRow.id := by
        simp only [Rows.updated, messageRows, List.map_map]
        exact List.map_congr_left fun m _ => (hset m).1
      rw [hids]
      exact h.messages
    · intro mailboxId m' hm' hheld
      obtain ⟨m, hm, rfl⟩ := List.mem_map.1 hm'
      rw [hholds] at hheld
      have hnormal := h.normal mailboxId m hm hheld
      obtain ⟨-, -, -, -, hkey⟩ := hset m
      rw [MessageRow.key, hkey]
      by_cases ht : target m = true
      · rw [if_pos ht]
        rcases hmay m hm ht mailboxId hheld with hsame | ⟨hnew, -⟩
        · rwa [MessageRow.key, hsame] at hnormal
        · exact hnew
      · rw [if_neg ht]
        exact hnormal
    · intro mailboxId m₁ hm₁ m₂ hm₂ hheld₁ hheld₂ hkey hne
      obtain ⟨m, hm, rfl⟩ := List.mem_map.1 hm₁
      obtain ⟨m', hm', rfl⟩ := List.mem_map.1 hm₂
      rw [hholds] at hheld₁ hheld₂
      rw [(hset m).2.2.2.2, (hset m').2.2.2.2] at hkey
      rw [(hset m).2.2.2.2] at hne
      rw [(hset m).1, (hset m').1]
      by_cases ht : target m = true
      · by_cases ht' : target m' = true
        · rw [htarget m ht, htarget m' ht']
        · rw [if_pos ht, if_neg ht'] at hkey
          rcases hmay m hm ht mailboxId hheld₁ with hsame | ⟨-, hnone⟩
          · exact h.unique mailboxId m hm m' hm' hheld₁ hheld₂ (hsame.trans hkey) (by simp [hsame])
          · exact absurd hkey.symm (hnone m' hm' hheld₂)
      · by_cases ht' : target m' = true
        · rw [if_neg ht, if_pos ht'] at hkey
          rcases hmay m' hm' ht' mailboxId hheld₂ with hsame | ⟨-, hnone⟩
          · exact h.unique mailboxId m hm m' hm' hheld₁ hheld₂ (hkey.trans hsame.symm)
              (by simp [hkey])
          · exact absurd hkey (hnone m hm hheld₁)
        · rw [if_neg ht, if_neg ht'] at hkey
          rw [if_neg ht] at hne
          exact h.unique mailboxId m hm m' hm' hheld₁ hheld₂ hkey hne

/-! ### What the programs keep -/

variable {α β : Type} {ts : List Table}

theorem keyed_of_touches {p : Op α} (hp : Touches ts p) (hmailboxes : Table.mailboxes ∉ ts)
    (hmessages : Table.messages ∉ ts) : OpKeepsKeyed env p :=
  Prog.Each.mono hp (fun _ h => h) fun _ _ hw s h _ =>
    h.congr ((hw s).1 _ hmailboxes) ((hw s).1 _ hmessages)

theorem keyed_of_reads {p : Op α} (hp : Touches [] p) : OpKeepsKeyed env p :=
  keyed_of_touches hp (by simp) (by simp)

theorem keyed_bind {p : Op α} {f : α → Op β} (hp : OpKeepsKeyed env p)
    (hf : ∀ a, OpKeepsKeyed env (f a)) : OpKeepsKeyed env (p >>= f) := Prog.Each.bind hp hf

theorem keyed_tryCatch {p : Op α} {f : Exn → Op α} (hp : OpKeepsKeyed env p)
    (hf : ∀ e, OpKeepsKeyed env (f e)) : OpKeepsKeyed env (tryCatch p f) :=
  Prog.Each.tryCatch hp hf

theorem keyed_catchAll {p : Op α} {value : α} (hp : OpKeepsKeyed env p) :
    OpKeepsKeyed env (catchAll p value) := Prog.Each.tryCatch hp fun _ => trivial

theorem keyed_discard (doomed : MessageRow → Bool) :
    OpKeepsKeyed env (messageRows.discard doomed) :=
  keyed_catchAll (keyed_bind (Prog.each_perform.2 fun _ h _ => h.deleted doomed) fun _ => trivial)

theorem keyed_discardEach (ids : List String) :
    OpKeepsKeyed env (messageRows.discardEach MessageRow.id ids) := by
  induction ids with
  | nil => trivial
  | cons id rest ih => exact keyed_bind (keyed_discard _) fun _ => ih

theorem keyed_updateMessageStatus (messageId : String) (status : MessageStatus) :
    OpKeepsKeyed env (updateMessageStatus messageId status) := by
  refine keyed_bind (Prog.each_perform.2 fun s h _ => ?_) fun _ =>
    keyed_of_reads touches_requireStateUpdateApplied
  exact h.updated _ _ fun _ => ⟨rfl, rfl, rfl, rfl, rfl⟩

theorem keyed_assignMessageThreadId (messageId threadId : String) :
    OpKeepsKeyed env (assignMessageThreadId messageId threadId) := by
  refine keyed_bind (Prog.each_perform.2 fun s h _ => ?_) fun _ =>
    keyed_of_reads touches_requireStateUpdateApplied
  exact h.updated _ _ fun _ => ⟨rfl, rfl, rfl, rfl, rfl⟩

theorem keyed_updateInboundMessageNormalized (input : NormalizedInput) :
    OpKeepsKeyed env (updateInboundMessageNormalized input) := by
  refine keyed_bind (Prog.each_perform.2 fun s h hkeeps => ?_) fun _ =>
    keyed_of_reads touches_requireStateUpdateApplied
  refine h.normalized input ?_ _ fun m hm => ?_
  · cases hid : input.internetMessageId with
    | none => rfl
    | some key =>
      rw [hid] at hkeeps
      exact hkeeps
  · simp only [Bool.and_eq_true, beq_iff_eq] at hm
    exact hm.1

/-! ### Receipt -/

theorem keyed_finalizeCreatedInboundMessage (input : InboundMessage) :
    OpKeepsKeyed env (finalizeCreatedInboundMessage input) := by
  refine keyed_bind (keyed_of_reads (touches_query rfl))
    fun mailboxExists => ?_
  split
  · exact keyed_bind (keyed_discard _) fun _ => trivial
  · refine keyed_bind (keyed_of_reads touches_getMessage)
      fun row => ?_
    cases row with
    | none => exact keyed_bind (keyed_discard _) fun _ => trivial
    | some _ => trivial

/-- Two tenants do not own one mailbox. -/
theorem Db.MessagesKeyed.owner (h : s.MessagesKeyed env) {mailboxId t t' : String}
    (ht : s.ownsMailbox t mailboxId = true) (ht' : s.ownsMailbox t' mailboxId = true) : t = t' := by
  obtain ⟨m, hm, hkey⟩ := List.any_eq_true.1 ht
  obtain ⟨m', hm', hkey'⟩ := List.any_eq_true.1 ht'
  simp only [Bool.and_eq_true, beq_iff_eq] at hkey hkey'
  have hsame : m = m' := List.inj_on_of_nodup_map h.mailboxes hm hm' (hkey.1.trans hkey'.1.symm)
  rw [← hkey.2, ← hkey'.2, hsame]

/-- A key that receipt makes is in its normal form. -/
theorem normalize_normalize (hlower : LowersOnce env) {value : Option String} {key : String}
    (h : normalizeInternetMessageId env value = some key) :
    normalizeInternetMessageId env (some key) = some key := by
  simp only [normalizeInternetMessageId, Option.filter_eq_some_iff, Option.map_eq_some_iff] at h ⊢
  obtain ⟨⟨v, -, rfl⟩, htruthy⟩ := h
  exact ⟨⟨_, rfl, hlower v⟩, htruthy⟩

theorem keyed_insertInboundMessage (input : InboundMessage) {key : String}
    (hnormal : normalizeInternetMessageId env (some key) = some key) :
    OpKeepsKeyed env (insertInboundMessage input key) := by
  refine keyed_bind (Prog.each_perform.2 fun s h _ => ?_) fun outcome => ?_
  · dsimp only
    split
    · next hwanted =>
      split
      · next hfree =>
        refine h.inserted hfree hnormal fun mailboxId m hm hheld hheld' hkey => ?_
        -- such a message would be of the mailbox's tenant, and the insertion not wanted
        simp only [Db.holds, InboundMessage.row, Db.messageVisible, Bool.and_eq_true,
          beq_iff_eq] at hheld hheld'
        obtain ⟨⟨rfl, -⟩, hvisible⟩ := hheld
        obtain ⟨⟨hmailbox, hdirection⟩, hvisible'⟩ := hheld'
        rw [hmailbox] at hvisible'
        have htenant := h.owner hvisible' hvisible
        have hmem : m ∈ s.inboundMessages input.mailboxId key := by
          refine List.mem_filter.2 ⟨hm, ?_⟩
          simp only [InboundMessage.row] at hkey
          simp [MessageRow.isInbound, Db.messageVisible, hmailbox, hdirection, hkey, hvisible']
        simp only [Bool.not_eq_true', List.any_eq_false, beq_iff_eq] at hwanted
        exact absurd htenant (hwanted m hmem)
      · exact h
    · exact h
  · cases outcome <;> trivial

theorem keyed_createInboundMessage (hlower : LowersOnce env) (input : InboundMessage) :
    OpKeepsKeyed env (createInboundMessage env input) := by
  have hfound : ∀ key, OpKeepsKeyed env
      (getInboundMessageByInternetMessageId env input.mailboxId key) := fun key =>
    keyed_of_reads touches_getInboundMessageByInternetMessageId
  rw [createInboundMessage]
  split
  · refine keyed_bind (keyed_bind (Prog.each_perform.2 fun s h _ => ?_) fun _ => ?_) fun _ =>
      keyed_bind (keyed_finalizeCreatedInboundMessage input) fun _ => trivial
    · dsimp only
      split
      · next hfree => exact h.inserted hfree rfl fun _ _ _ _ _ _ => rfl
      · exact h
    · split <;> trivial
  · next key hkey =>
    have hnormal := normalize_normalize hlower hkey
    refine keyed_bind (keyed_insertInboundMessage input hnormal) fun changes => ?_
    split
    · refine keyed_bind (hfound key) fun existing => ?_
      cases existing with
      | some _ => trivial
      | none =>
        refine keyed_bind (keyed_bind (keyed_of_reads messageRows.touches_select) fun rows =>
          keyed_bind (keyed_discardEach _) fun _ => trivial) fun deleted => ?_
        split
        · trivial
        · refine keyed_bind (keyed_insertInboundMessage input hnormal) fun changes => ?_
          split
          · refine keyed_bind (hfound key) fun existing => ?_
            cases existing <;> trivial
          · exact keyed_bind (keyed_finalizeCreatedInboundMessage input) fun _ => trivial
    · exact keyed_bind (keyed_finalizeCreatedInboundMessage input) fun _ => trivial

/-! ### Ingest -/

theorem keyed_threadOfCandidate (selected : ReplyFallbackCandidate) (subjectNorm : String) :
    OpKeepsKeyed env (threadOfCandidate env selected subjectNorm) := by
  rw [threadOfCandidate]
  split
  · trivial
  · refine keyed_bind (keyed_of_touches touches_getOrCreateThread (by simp) (by simp))
      fun thread => keyed_bind (keyed_tryCatch (keyed_assignMessageThreadId _ _) fun _ => ?_)
      fun _ => trivial
    exact keyed_bind (keyed_of_touches (.catchAll touches_deleteThreadIfUnreferenced) (by simp)
      (by simp)) fun _ => trivial

theorem keyed_findThreadByReplyContext (tenantId mailboxId : String) (ids : List String)
    (subject participantAddress : Option String) : OpKeepsKeyed env
      (findThreadByReplyContext env tenantId mailboxId ids subject participantAddress) := by
  refine keyed_bind (keyed_of_reads (touches_findThreadAmong _))
    fun exactThread => ?_
  cases exactThread with
  | some _ => trivial
  | none =>
    dsimp only
    split
    · trivial
    · split
      · refine keyed_bind (keyed_of_reads (touches_query rfl))
          fun rows => keyed_bind (keyed_of_reads (touches_matchingCandidates rows))
          fun candidates => ?_
        split
        · trivial
        · exact keyed_bind (keyed_threadOfCandidate _ _) fun _ => trivial
      · trivial

theorem keyed_threadOfParsed (job : EmailIngestJob) (parsed : ParsedEmail) :
    OpKeepsKeyed env (threadOfParsed env job parsed) := by
  refine keyed_bind (keyed_findThreadByReplyContext _ _ _ _ _) fun thread => ?_
  cases thread with
  | some _ => trivial
  | none =>
    refine keyed_bind (keyed_of_reads ?_) fun threadKey =>
      keyed_of_touches touches_getOrCreateThread (by simp) (by simp)
    rw [threadKeyOf]
    split
    · trivial
    · exact touches_createId

theorem keyed_storeNormalized (job : EmailIngestJob) (parsed : ParsedEmail) (threadId : String) :
    OpKeepsKeyed env (storeNormalized job parsed threadId) :=
  keyed_bind (keyed_of_touches touches_r2Put (by simp) (by simp)) fun _ =>
    keyed_tryCatch (keyed_updateInboundMessageNormalized _) fun _ =>
    keyed_bind (keyed_of_touches touches_discardR2Objects (by simp) (by simp)) fun _ =>
    keyed_bind (keyed_of_touches (.catchAll touches_deleteThreadIfUnreferenced) (by simp)
      (by simp)) fun _ => trivial

theorem keyed_finishIngest (job : EmailIngestJob) (existing : Option MessageRow) :
    OpKeepsKeyed env (finishIngest env job existing) := by
  refine keyed_bind (keyed_of_reads touches_resolveAgentExecutionTarget) fun target =>
    keyed_bind (keyed_of_touches touches_taskOfMessage (by simp) (by simp)) fun task => ?_
  dsimp only
  split
  · refine keyed_bind (keyed_updateMessageStatus _ _) fun _ => ?_
    split
    · exact keyed_of_touches touches_sendTask (by simp) (by simp)
    · trivial
  · split
    · exact keyed_of_touches touches_sendTask (by simp) (by simp)
    · trivial

theorem keyed_processEmailIngestJob (job : EmailIngestJob) :
    OpKeepsKeyed env (processEmailIngestJob env job) :=
  keyed_bind (keyed_of_reads touches_getMessage) fun _ =>
    keyed_bind (keyed_of_reads touches_loadParsedEmail) fun _ =>
    keyed_bind (keyed_threadOfParsed _ _) fun _ =>
    keyed_bind (keyed_storeNormalized _ _ _) fun _ =>
    keyed_bind (keyed_of_touches touches_updateThreadTimestamp (by simp) (by simp)) fun _ =>
    keyed_bind (keyed_of_touches touches_storeAttachments (by simp) (by simp)) fun _ =>
    keyed_finishIngest _ _

theorem keyed_handleEmailIngest (batch : List EmailIngestJob) :
    OpKeepsKeyed env (handleEmailIngest env batch) := by
  induction batch with
  | nil => trivial
  | cons job rest ih =>
    refine keyed_bind (keyed_tryCatch (keyed_bind (keyed_processEmailIngestJob job)
      fun _ => trivial) fun _ => ?_) fun _ => keyed_bind ih fun _ => trivial
    exact keyed_bind (keyed_of_touches touches_enqueueDeadLetter (by simp) (by simp))
      fun _ => trivial

theorem keyed_dispatchEmailIngestWithFallback (job : EmailIngestJob) :
    OpKeepsKeyed env (dispatchEmailIngestWithFallback env job) :=
  keyed_tryCatch (keyed_of_touches touches_sendIngestJob (by simp) (by simp)) fun _ =>
    keyed_processEmailIngestJob job

/-! ### The handlers -/

theorem keyed_dispatchOrFail (source : String) (job : EmailIngestJob) :
    OpKeepsKeyed env (dispatchOrFail env source job) :=
  keyed_tryCatch (keyed_dispatchEmailIngestWithFallback job) fun _ =>
    keyed_bind (keyed_bind (keyed_catchAll (keyed_updateMessageStatus _ _)) fun _ =>
      keyed_of_touches (.catchAll touches_enqueueDeadLetter) (by simp) (by simp)) fun _ => trivial

theorem keyed_resumeIfPending (existing : MessageRow) :
    OpKeepsKeyed env (resumeIfPending env existing) := by
  rw [resumeIfPending]
  split
  · exact keyed_dispatchOrFail _ _
  · trivial

theorem touches_existingInboundMessage {mailboxId : String} {internetMessageId : Option String} :
    Touches ts (existingInboundMessage env mailboxId internetMessageId) := by
  cases internetMessageId with
  | none => trivial
  | some _ => exact touches_getInboundMessageByInternetMessageId

theorem keyed_storeEmail (hlower : LowersOnce env) (email : ForwardableEmailMessage)
    (mailbox : MailboxRow) (internetMessageId : Option String) :
    OpKeepsKeyed env (storeEmail env email mailbox internetMessageId) := by
  refine keyed_bind (keyed_of_reads touches_createId) fun _ =>
    keyed_bind (keyed_of_reads touches_nowIso) fun _ =>
    keyed_bind (keyed_of_touches touches_r2Put (by simp) (by simp)) fun _ =>
    keyed_bind (keyed_tryCatch (keyed_createInboundMessage hlower _) fun _ =>
      keyed_bind (keyed_of_touches touches_discardObject (by simp) (by simp)) fun _ => trivial)
    fun created => ?_
  split
  · exact keyed_dispatchOrFail _ _
  · refine keyed_bind (keyed_of_touches (.catchAll touches_r2Delete) (by simp) (by simp)) fun _ =>
      keyed_bind (keyed_of_reads touches_existingInboundMessage)
      fun existing => ?_
    cases existing with
    | some _ => exact keyed_resumeIfPending _
    | none => trivial

theorem keyed_handleEmail (hlower : LowersOnce env) (email : ForwardableEmailMessage) :
    OpKeepsKeyed env (handleEmail env email) := by
  refine keyed_bind (keyed_of_reads touches_getMailboxByAddress)
    fun mailbox => ?_
  cases mailbox with
  | none => trivial
  | some mailbox =>
    dsimp only
    split
    · refine keyed_bind (keyed_of_reads touches_existingInboundMessage) fun existing => ?_
      cases existing with
      | some _ => exact keyed_bind (keyed_resumeIfPending _) fun _ => trivial
      | none => exact keyed_bind (keyed_storeEmail hlower _ _ _) fun _ => trivial
    · trivial

theorem keyed_dispatchLocal (internetMessageId messageId rawR2Key : String)
    (recipient : LocalMailboxRecipient) (created : Bool) : OpKeepsKeyed env
      (dispatchLocal env internetMessageId messageId rawR2Key recipient created) := by
  rw [dispatchLocal]
  split
  · exact keyed_dispatchEmailIngestWithFallback _
  · refine keyed_bind (keyed_of_touches (.catchAll touches_r2Delete) (by simp) (by simp)) fun _ =>
      keyed_bind (keyed_of_reads touches_getInboundMessageByInternetMessageId) fun existing => ?_
    rw [dispatchIfPending]
    split
    · exact keyed_dispatchEmailIngestWithFallback _
    · trivial

theorem keyed_deliverToEach (hlower : LowersOnce env) (sender internetMessageId : String)
    (rawBytes : List UInt8) (recipients : List LocalMailboxRecipient) :
    OpKeepsKeyed env (deliverToEach env sender internetMessageId rawBytes recipients) := by
  have hdiscard : ∀ {γ : Type} (key : String) (e : Exn),
      OpKeepsKeyed env (discardRaw key e : Op γ) := fun _ _ =>
    keyed_of_touches touches_discardRaw (by simp) (by simp)
  induction recipients with
  | nil => trivial
  | cons recipient rest ih =>
    refine keyed_bind (keyed_bind (keyed_of_reads touches_nowIso)
      fun _ => keyed_bind (keyed_of_reads touches_createId)
      fun _ => keyed_bind (keyed_of_touches touches_r2Put (by simp) (by simp)) fun _ =>
      keyed_bind (keyed_tryCatch (keyed_createInboundMessage hlower _) fun _ => hdiscard _ _)
      fun created => ?_) fun _ => ih
    dsimp only
    split
    · exact keyed_dispatchLocal _ _ _ _ _
    · exact keyed_tryCatch (keyed_dispatchLocal _ _ _ _ _) fun _ => hdiscard _ _

theorem keyed_deliverLocallyToMailboxes (hlower : LowersOnce env) (input : LocalDelivery) :
    OpKeepsKeyed env (deliverLocallyToMailboxes env input) := by
  rw [deliverLocallyToMailboxes]
  split
  · trivial
  · exact keyed_bind (keyed_of_reads (touches_loadAttachments _))
      fun _ => keyed_bind (keyed_of_reads touches_nowIso)
      fun _ => keyed_bind (keyed_of_reads touches_buildRawMimeMessage)
      fun _ => keyed_deliverToEach hlower _ _ _ _

end MailRuntime
