import MailRuntime.Inbound.Held

/-!
# Mail that has been delivered

Receipts, local deliveries and ingest batches delete messages: one that was inserted and turns out
not to be visible, and those that stand in the way of a visible one without being visible. Where
the tenants that they are given are those of the mailboxes, no message that a mailbox holds is
among them.

## What is proved

A message that was to be created is there in the end, whether or not it was there before
(`safe_createInboundMessage`). Hence a delivery that is over has reached all its recipients, once
each, however often it was attempted before and whatever is received, delivered and ingested at
the same time (`delivered_once`). The run at the end is of a delivery whose first attempt fails
between two mailboxes.
-/

namespace MailRuntime

open Js Interaction

/-! ### The protocol -/

/-- The protocol of receipts, local deliveries and ingest batches. -/
def delivering (ι : Type) (env : Env) : Protocol ι Db Label where
  inv w := w.store.Receiving env
  keeps w w' := Kept env w.store w'.store
  rely _ _ _ := True
  allow := IdsKept env
  keeps_refl w := .refl w.store
  keeps_trans _ _ _ h h' := h.trans h'
  rely_refl _ _ := trivial
  rely_trans _ _ _ _ _ _ := trivial

section Safe

variable {ι : Type} {env : Env} {w w' : World ι Db Label} {i : ι} {α β : Type} {s : Db}
  {tenantId mailboxId key : String} {input : InboundMessage} {ids : List String}
  {Q : α → World ι Db Label → Prop}

theorem good_of_kept (hw : w.store.Receiving env) (hkeyed : w'.store.MessagesKeyed env)
    (h : Kept env w.store w'.store) : (delivering ι env).Good i w w' :=
  ⟨h.receiving hkeyed hw, h, fun _ _ => trivial⟩

/-- A statement, whatever becomes of it. -/
theorem good_keptStep {name : Db → Label} {run : Db → Db} {o : Outcome}
    (hw : w.store.Receiving env) (hkeyed : (run w.store).MessagesKeyed env)
    (h : Kept env w.store (run w.store)) :
    (delivering ι env).Good i w (w.after i name run o) :=
  good_of_kept hw (World.after_store_of w i name run hw.keyed hkeyed)
    (World.after_store_of (p := Kept env w.store) w i name run (.refl _) h)

/-- A program that keeps what mailboxes hold, and an assertion about that. -/
theorem safe_kept {p : Op α} {A : World ι Db Label → Prop} (hkeyed : OpKeepsKeyed env p)
    (hkept : OpKept env p)
    (hA : ∀ w w' : World ι Db Label, Kept env w.store w'.store → A w → A w')
    (hw : w.store.Receiving env) (h : A w) :
    (delivering ι env).Safe i (fun _ => A) (fun _ => A) p w := by
  refine Protocol.Safe.quiet (.of_keeps hA) ?_ ?_ (Prog.Each.and hkeyed hkept) hw h
  · intro run hrun w hw h
    have hsame : Kept env w.store (run w.store) :=
      .of_messages (hrun.1 _ .mailboxes).symm (hrun.1 _ .messages).symm
    exact ⟨good_of_kept hw (hw.keyed.congr (hrun.1 _ .mailboxes) (hrun.1 _ .messages)) hsame,
      hA _ _ hsame h⟩
  · intro name run hrun w o hw h hallow
    by_cases heffective : o.effective = true
    · have hids := hallow heffective
      have hgood : (delivering ι env).Good i w (w.after i name run o) := good_keptStep hw
        (hrun.1 _ hw.keyed (Db.keepsKeys_of_keepsIds hids)) (hrun.2 _ hids)
      exact ⟨hgood, hA _ _ hgood.keeps h⟩
    · have hstore : (w.after i name run o).store = w.store := by
        rw [World.after_store, if_neg heffective]
      have hkept : Kept env w.store (w.after i name run o).store := hstore ▸ .refl _
      exact ⟨good_of_kept hw (hstore ▸ hw.keyed) hkept, hA _ _ hkept h⟩

/-- A query, whose answer is about the store it finds. -/
theorem safe_inboundQuery {l : Label} {f : Db → α} (hw : w.store.Receiving env)
    (h : ∀ w', (delivering ι env).Later i w w' → Q (f w.store) w') :
    (delivering ι env).Safe i Q (fun _ _ => True) (query l f) w := by
  refine Protocol.Safe.perform fun o _ => ?_
  have hgood : (delivering ι env).Good i w (w.after i (fun _ => l) (fun s => s) o) :=
    good_keptStep hw hw.keyed (.refl _)
  refine ⟨hgood, fun w' hl => ?_⟩
  split
  · exact h w' (Protocol.Later.trans ⟨hgood.inv, hgood.keeps, trivial⟩ hl)
  · trivial

/-- What follows, while the mailbox stays its tenant's. -/
theorem safe_owned_bind {p : Op α} {f : α → Op β} {R : β → World ι Db Label → Prop}
    (hw : w.store.Receiving env) (howns : w.store.ownsMailbox tenantId mailboxId = true)
    (hp : (delivering ι env).Safe i Q (fun _ _ => True) p w)
    (hf : ∀ a w', w'.store.Receiving env → w'.store.ownsMailbox tenantId mailboxId = true →
      Q a w' → (delivering ι env).Safe i R (fun _ _ => True) (f a) w') :
    (delivering ι env).Safe i R (fun _ _ => True) (p >>= f) w :=
  Protocol.Safe.bind hw (Protocol.Safe.keep
    (fun _ _ hk ha => (Kept.ownsMailbox hk tenantId mailboxId).trans ha) hp howns)
    (fun a w' hw' h => hf a w' hw' h.2 h.1) fun _ _ _ _ => trivial

/-- What follows a program that touches no messages. -/
theorem safe_owned_aside {ts : List Table} {p : Op α} {f : α → Op β}
    {R : β → World ι Db Label → Prop} (hp : Touches ts p) (hmailboxes : Table.mailboxes ∉ ts)
    (hmessages : Table.messages ∉ ts) (hw : w.store.Receiving env)
    (howns : w.store.ownsMailbox tenantId mailboxId = true)
    (hf : ∀ a w', w'.store.Receiving env → w'.store.ownsMailbox tenantId mailboxId = true →
      (delivering ι env).Safe i R (fun _ _ => True) (f a) w') :
    (delivering ι env).Safe i R (fun _ _ => True) (p >>= f) w :=
  safe_owned_bind hw howns (safe_kept (A := fun _ => True)
    (keyed_of_touches hp hmailboxes hmessages) (kept_of_touches hp hmailboxes hmessages)
    (fun _ _ _ _ => trivial) hw trivial) fun a w' hw' howns _ => hf a w' hw' howns

theorem safe_createMessageId {kind : String} (hw : w.store.Receiving env) :
    (delivering ι env).Safe i (fun id _ => env.Mints id) (fun _ _ => True)
      (createId env kind) w := by
  refine Protocol.Safe.draw (good_of_kept hw ?_ (.of_messages rfl rfl)) fun _ _ => ⟨kind, _, rfl⟩
  exact @Db.MessagesKeyed.congr env w.store _ rfl rfl hw.keyed

/-! ### Receipt -/

/-- The message is there, and the mailbox holds it. -/
def HoldsMessage (input : InboundMessage) (key : Option String) (w : World ι Db Label) : Prop :=
  ∃ m ∈ w.store.messages, m.id = input.id ∧ w.store.holds input.mailboxId m = true ∧
    ∀ k, key = some k → m.internetMessageId = some k

theorem HoldsMessage.kept {key : Option String} (h : HoldsMessage input key w)
    (hk : Kept env w.store w'.store) : HoldsMessage input key w' := by
  obtain ⟨m, hm, hid, hheld, hkey⟩ := h
  obtain ⟨m', hm', hid', hheld', hkey'⟩ := hk.held _ m hm hheld
  exact ⟨m', hm', hid'.trans hid, hheld', fun k hk => hkey' k (hkey k hk)⟩

theorem HoldsMessage.hasInbound (h : HoldsMessage input (some key) w) :
    w.store.HasInbound input.mailboxId key := by
  obtain ⟨m, hm, -, hheld, hkey⟩ := h
  exact ⟨m, hm, hheld, hkey key rfl⟩

theorem holds_row (howns : s.ownsMailbox input.tenantId input.mailboxId = true)
    (key : Option String) : s.holds input.mailboxId (input.row key) = true := by
  simpa [Db.holds, InboundMessage.row, Db.messageVisible] using howns

theorem holdsMessage_inserted {key : Option String}
    (howns : w.store.ownsMailbox input.tenantId input.mailboxId = true)
    (hstore : w'.store = messageRows.inserted w.store (input.row key)) :
    HoldsMessage input key w' := by
  refine ⟨input.row key, ?_, rfl, ?_, fun k hk => hk⟩
  · rw [hstore]
    exact List.mem_append_right _ (List.mem_singleton_self _)
  · rw [hstore]
    exact holds_row howns key

/-- A message that a mailbox of its tenant holds is not lost again. -/
theorem safe_finalizeCreatedInboundMessage {key : Option String} (hw : w.store.Receiving env)
    (howns : w.store.ownsMailbox input.tenantId input.mailboxId = true)
    (h : HoldsMessage input key w) :
    (delivering ι env).Safe i (fun _ => HoldsMessage input key) (fun _ _ => True)
      (finalizeCreatedInboundMessage input) w := by
  refine Protocol.Safe.bind (Q := fun exist w' => exist = true ∧ HoldsMessage input key w') hw
    (safe_inboundQuery hw fun w' hl => ⟨howns, h.kept hl.keeps⟩) ?_ fun _ _ _ h => h
  rintro exist w hw ⟨rfl, h⟩
  rw [Bool.not_true, if_neg Bool.false_ne_true]
  refine Protocol.Safe.bind
    (Q := fun row w' => row.isSome = true ∧ HoldsMessage input key w') hw
    (safe_inboundQuery hw fun w' hl => ⟨?_, h.kept hl.keeps⟩) ?_ fun _ _ _ h => h
  · obtain ⟨m, hm, hid, hheld, -⟩ := h
    refine List.find?_isSome.2 ⟨m, hm, ?_⟩
    simp only [Db.holds, Bool.and_eq_true] at hheld
    simp [hid, hheld.2]
  · rintro row w hw ⟨hsome, h⟩
    cases row with
    | none => cases hsome
    | some _ => exact h

theorem safe_insertInboundMessage (hw : w.store.Receiving env) (hmints : env.Mints input.id)
    (howns : w.store.ownsMailbox input.tenantId input.mailboxId = true)
    (hnormal : normalizeInternetMessageId env (some key) = some key) :
    (delivering ι env).Safe i (fun changes w' => changes ≠ 0 → HoldsMessage input (some key) w')
      (fun _ _ => True) (insertInboundMessage input key) w := by
  have hkeyed := keyed_insertInboundMessage input hnormal
  refine Protocol.Safe.bind (Q := fun outcome w' => ∀ changes, outcome = some changes →
    changes ≠ 0 → HoldsMessage input (some key) w') hw (Protocol.Safe.perform fun o hallow => ?_) ?_
    fun _ _ _ h => h
  · have hstep : Kept env w.store (if (!(w.store.inboundMessages input.mailboxId key).any
        fun m => m.tenantId == input.tenantId) then
          if w.store.messageIdFree input.id then
            (some 1, messageRows.inserted w.store (input.row (some key)))
          else (none, w.store)
        else (some 0, w.store)).2 := by
      split
      · split
        · exact .inserted hmints howns
        · exact .refl _
      · exact .refl _
    refine ⟨good_keptStep hw (hkeyed.1 _ hw.keyed rfl) hstep, fun w' hl => ?_⟩
    split
    · next hdone =>
      subst hdone
      intro changes houtcome hne
      split at houtcome
      · next hwanted =>
        split at houtcome
        · next hfree =>
          refine (holdsMessage_inserted howns ?_).kept hl.keeps
          rw [World.after_done_store, if_pos hwanted, if_pos hfree]
        · cases houtcome
      · exact absurd (Option.some.inj houtcome).symm hne
    · trivial
  · intro outcome w hw h
    cases outcome with
    | none => trivial
    | some changes => exact h changes rfl

/-- The same of a message without a key. -/
theorem safe_insertKeyless (hw : w.store.Receiving env) (hmints : env.Mints input.id)
    (howns : w.store.ownsMailbox input.tenantId input.mailboxId = true) :
    (delivering ι env).Safe i (fun _ => HoldsMessage input none) (fun _ _ => True)
      (messageRows.insert (fun s => s.messageIdFree input.id) (input.row none)) w := by
  refine Protocol.Safe.bind (Q := fun changes w' => changes ≠ 0 → HoldsMessage input none w') hw
    (Protocol.Safe.perform fun o _ => ?_) ?_ fun _ _ _ h => h
  · refine ⟨good_keptStep hw ?_ ?_, fun w' hl => ?_⟩
    · dsimp only
      split
      · next hfree => exact hw.keyed.inserted hfree rfl fun _ _ _ _ _ _ => rfl
      · exact hw.keyed
    · dsimp only
      split
      · exact .inserted hmints howns
      · exact .refl _
    · split
      · next hdone =>
        subst hdone
        intro hne
        split at hne
        · next hfree =>
          refine (holdsMessage_inserted howns ?_).kept hl.keeps
          rw [World.after_done_store, if_pos hfree]
        · exact absurd rfl hne
      · trivial
  · intro changes w hw h
    split
    · trivial
    · next hne => exact h hne

/-- No message with one of the identifiers is visible, nor will be. -/
def Hidden (env : Env) (ids : List String) (w : World ι Db Label) : Prop :=
  ∀ id ∈ ids, ¬ env.Mints id ∧ ∀ m ∈ w.store.messages, m.id = id → w.store.messageVisible m = false

theorem Hidden.kept (h : Hidden env ids w) (hk : Kept env w.store w'.store) :
    Hidden env ids w' := by
  refine fun id hid => ⟨(h id hid).1, fun m' hm' heq => ?_⟩
  obtain ⟨m, hm, hsame, hmailbox, htenant⟩ | ⟨hmints, -⟩ := hk.known m' hm'
  · exact (Db.messageVisible_congr hk.mailboxes hmailbox htenant).trans
      ((h id hid).2 m hm (hsame.trans heq))
  · exact absurd (heq ▸ hmints) (h id hid).1

theorem safe_discardHidden (ids : List String) (hw : w.store.Receiving env)
    (h : Hidden env ids w) : (delivering ι env).Safe i (fun _ _ => True) (fun _ _ => True)
      (messageRows.discardEach MessageRow.id ids) w := by
  induction ids generalizing w with
  | nil => trivial
  | cons id rest ih =>
    have hgone : ∀ m ∈ w.store.messages, (m.id == id) = true →
        ∀ mailboxId, w.store.holds mailboxId m = false := by
      intro m hm hid mailboxId
      rw [Db.holds, (h id List.mem_cons_self).2 m hm (beq_iff_eq.1 hid), Bool.and_false]
    have hrest : Hidden env rest w := fun id hid => h id (List.mem_cons_of_mem _ hid)
    have hstep : Kept env w.store _ := Kept.deleted hgone
    have hone : (delivering ι env).Safe i (fun _ => Hidden env rest) (fun _ => Hidden env rest)
        (execute (fun _ => .write .messages) fun s =>
          messageRows.deleted s fun m => m.id == id) w := by
      refine Protocol.Safe.perform fun o _ => ?_
      have hgood : (delivering ι env).Good i w (w.after i (fun _ => .write .messages)
          (fun s => (messageRows.deleted s fun m => m.id == id).2) o) :=
        good_keptStep hw (hw.keyed.deleted _) hstep
      exact ⟨hgood, fun w' hl => by split <;> exact (hrest.kept hgood.keeps).kept hl.keeps⟩
    have hdiscard : (delivering ι env).Safe i (fun _ => Hidden env rest) (fun _ _ => True)
        (messageRows.discard fun m => m.id == id) w :=
      Protocol.Safe.tryCatch hw (Protocol.Safe.bind hw hone (fun _ _ _ h => h) fun _ _ _ h => h)
        fun _ _ _ h => h
    exact Protocol.Safe.bind hw hdiscard (fun _ w hw h => ih hw h) fun _ _ _ h => h

/-- What stands in the way of a message of the mailbox's tenant is not visible. -/
theorem safe_deleteInvalidInboundMessageDuplicates (hw : w.store.Receiving env)
    (howns : w.store.ownsMailbox tenantId mailboxId = true) :
    (delivering ι env).Safe i (fun _ _ => True) (fun _ _ => True)
      (deleteInvalidInboundMessageDuplicates tenantId mailboxId key) w := by
  refine Protocol.Safe.bind (Q := fun rows => Hidden env (rows.map MessageRow.id)) hw
    (safe_inboundQuery hw fun w' hl => Hidden.kept ?_ hl.keeps) ?_ fun _ _ _ h => h
  · intro id hid
    obtain ⟨m, hm, rfl⟩ := List.mem_map.1 hid
    obtain ⟨hm, htarget⟩ := List.mem_filter.1 hm
    have hinvisible : w.store.messageVisible m = false := by
      by_contra hvisible
      rw [Bool.not_eq_false] at hvisible
      simp only [MessageRow.isInbound, hvisible, Bool.and_true, Bool.and_eq_true, beq_iff_eq,
        Bool.not_eq_true', beq_eq_false_iff_ne] at htarget
      rw [Db.messageVisible, htarget.1.1.1] at hvisible
      exact htarget.2 (hw.keyed.owner hvisible howns)
    refine ⟨fun hmints => ?_, fun m' hm' heq => ?_⟩
    · rw [hw.hidden m hm hmints] at hinvisible
      cases hinvisible
    · rwa [List.inj_on_of_nodup_map hw.keyed.messages hm' hm heq]
  · exact fun rows w hw h => Protocol.Safe.bind hw (safe_discardHidden _ hw h)
      (fun _ _ _ _ => trivial) fun _ _ _ h => h

theorem safe_getInboundMessage (hw : w.store.Receiving env) :
    (delivering ι env).Safe i
      (fun existing w' => existing.isSome = true →
        normalizeInternetMessageId env (some key) = some key → w'.store.HasInbound mailboxId key)
      (fun _ _ => True) (getInboundMessageByInternetMessageId env mailboxId key) w := by
  unfold getInboundMessageByInternetMessageId
  split
  · exact Protocol.safe_ret.2 nofun
  · next key' hkey' =>
    refine safe_inboundQuery hw fun w' hl hsome hnormal => Kept.hasInbound hl.keeps ?_
    obtain rfl := Option.some.inj (hkey'.symm.trans hnormal)
    obtain ⟨m, hm⟩ := Option.isSome_iff_exists.1 hsome
    have hmem : m ∈ w.store.inboundMessages mailboxId key' := by
      unfold only at hm
      split at hm
      · next row hrow =>
        rw [hrow, Option.some.inj hm]
        exact List.mem_singleton_self _
      · cases hm
    obtain ⟨hmem, hinbound⟩ := List.mem_filter.1 hmem
    simp only [MessageRow.isInbound, Bool.and_eq_true, beq_iff_eq] at hinbound
    exact ⟨m, hmem, by simp [Db.holds, hinbound], hinbound.1.2⟩

/-- Whether or not the message is new, the mailbox has one under its key then. -/
theorem safe_createInboundMessage (hlower : LowersOnce env) (hw : w.store.Receiving env)
    (hmints : env.Mints input.id)
    (howns : w.store.ownsMailbox input.tenantId input.mailboxId = true) :
    (delivering ι env).Safe i
      (fun _ w' => w'.store.HasDelivered env input.mailboxId input.internetMessageId)
      (fun _ _ => True) (createInboundMessage env input) w := by
  unfold createInboundMessage
  split
  · next hnone =>
    refine safe_owned_bind hw howns (safe_insertKeyless hw hmints howns) fun _ w hw howns h => ?_
    refine Protocol.Safe.bind hw (safe_finalizeCreatedInboundMessage hw howns h)
      (fun _ _ _ _ => ?_) fun _ _ _ h => h
    exact Protocol.safe_ret.2 fun key hkey => by simp [hnone] at hkey
  · next key hkey =>
    have hnormal := normalize_normalize hlower hkey
    refine Protocol.Safe.mono hw (Q := fun _ w' => w'.store.HasInbound input.mailboxId key) ?_
      (fun _ _ _ h key' hkey' => Option.some.inj (hkey.symm.trans hkey') ▸ h) fun _ _ _ h => h
    have hfinalize : ∀ {w : World ι Db Label}, w.store.Receiving env →
        w.store.ownsMailbox input.tenantId input.mailboxId = true →
        HoldsMessage input (some key) w → (delivering ι env).Safe i
          (fun _ w' => w'.store.HasInbound input.mailboxId key) (fun _ _ => True)
          (finalizeCreatedInboundMessage input >>= fun _ => pure true) w :=
      fun hw howns h => Protocol.Safe.bind hw (safe_finalizeCreatedInboundMessage hw howns h)
        (fun _ _ _ h => h.hasInbound) fun _ _ _ h => h
    refine safe_owned_bind hw howns (safe_insertInboundMessage hw hmints howns hnormal)
      fun changes w hw howns h => ?_
    split
    · refine safe_owned_bind hw howns (safe_getInboundMessage hw) fun existing w hw howns h => ?_
      cases existing with
      | some _ => exact h rfl hnormal
      | none =>
        refine safe_owned_bind hw howns (safe_deleteInvalidInboundMessageDuplicates hw howns)
          fun deleted w hw howns _ => ?_
        split
        · trivial
        · refine safe_owned_bind hw howns (safe_insertInboundMessage hw hmints howns hnormal)
            fun changes w hw howns h => ?_
          split
          · refine safe_owned_bind hw howns (safe_getInboundMessage hw)
              fun existing w hw howns h => ?_
            cases existing with
            | some _ => exact h rfl hnormal
            | none => trivial
          · next hne => exact hfinalize hw howns (h hne)
    · next hne => exact hfinalize hw howns (h hne)

/-! ### The handlers -/

/-- Nothing follows an exception. -/
theorem safe_discardRaw {rawR2Key : String} {error : Exn} (hw : w.store.Receiving env) :
    (delivering ι env).Safe i Q (fun _ _ => True) (discardRaw rawR2Key error : Op α) w :=
  Protocol.Safe.bind (Q := fun _ _ => True) hw (safe_kept (A := fun _ => True)
    (keyed_of_touches touches_discardObject (by simp) (by simp))
    (kept_of_touches touches_discardObject (by simp) (by simp)) (fun _ _ _ _ => trivial) hw
    trivial) (fun _ _ _ _ => trivial) fun _ _ _ h => h

/-- A recipient's mailbox has the message. -/
theorem safe_deliverToRecipient {sender internetMessageId : String} {rawBytes : List UInt8}
    {recipient : LocalMailboxRecipient} (hlower : LowersOnce env) (hw : w.store.Receiving env)
    (howns : w.store.ownsMailbox recipient.tenantId recipient.mailboxId = true) :
    (delivering ι env).Safe i
      (fun _ w' => w'.store.HasDelivered env recipient.mailboxId (some internetMessageId))
      (fun _ _ => True) (deliverToRecipient env sender internetMessageId rawBytes recipient) w := by
  have hdispatch : ∀ {messageId rawR2Key : String} {created : Bool} {w : World ι Db Label},
      w.store.Receiving env →
      w.store.HasDelivered env recipient.mailboxId (some internetMessageId) →
      (delivering ι env).Safe i
        (fun _ w' => w'.store.HasDelivered env recipient.mailboxId (some internetMessageId))
        (fun _ w' => w'.store.HasDelivered env recipient.mailboxId (some internetMessageId))
        (dispatchLocal env internetMessageId messageId rawR2Key recipient created) w := fun hw h =>
    safe_kept
      (A := fun w => w.store.HasDelivered env recipient.mailboxId (some internetMessageId))
      (keyed_dispatchLocal _ _ _ _ _) (kept_dispatchLocal _ _ _ _ _)
      (fun _ _ hk h => hk.hasDelivered h) hw h
  refine safe_owned_aside (touches_nowIso : Touches [] _) (by simp) (by simp) hw howns
    fun timestamp w hw howns => ?_
  refine safe_owned_bind hw howns (safe_createMessageId hw) fun messageId w hw howns hmints => ?_
  refine safe_owned_bind (Q := fun _ _ => env.Mints messageId) hw howns (Protocol.Safe.mono hw
    (safe_kept (A := fun _ => True) (keyed_of_touches touches_r2Put (by simp) (by simp))
      (kept_of_touches touches_r2Put (by simp) (by simp)) (fun _ _ _ _ => trivial) hw trivial)
    (fun _ _ _ _ => hmints) fun _ _ _ h => h) fun _ w hw howns hmints => ?_
  refine Protocol.Safe.bind hw (Protocol.Safe.tryCatch hw
    (safe_createInboundMessage hlower hw hmints howns) fun _ _ hw _ => safe_discardRaw hw)
    (fun created w hw h => ?_) fun _ _ _ h => h
  dsimp only
  split
  · exact Protocol.Safe.mono hw (hdispatch hw h) (fun _ _ _ h => h) fun _ _ _ _ => trivial
  · exact Protocol.Safe.tryCatch hw (hdispatch hw h) fun _ _ hw _ => safe_discardRaw hw

/-- So have the mailboxes of all recipients in the end. -/
theorem safe_deliverToEach {sender internetMessageId : String} {rawBytes : List UInt8}
    (hlower : LowersOnce env) (recipients : List LocalMailboxRecipient)
    (hw : w.store.Receiving env)
    (howns : ∀ r ∈ recipients, w.store.ownsMailbox r.tenantId r.mailboxId = true) :
    (delivering ι env).Safe i (fun _ w' => ∀ r ∈ recipients,
        w'.store.HasDelivered env r.mailboxId (some internetMessageId)) (fun _ _ => True)
      (deliverToEach env sender internetMessageId rawBytes recipients) w := by
  induction recipients generalizing w with
  | nil => exact Protocol.safe_ret.2 fun _ hr => absurd hr List.not_mem_nil
  | cons recipient rest ih =>
    have hfirst : (delivering ι env).Safe i
        (fun _ w' => w'.store.HasDelivered env recipient.mailboxId (some internetMessageId) ∧
          ∀ r ∈ rest, w'.store.ownsMailbox r.tenantId r.mailboxId = true) (fun _ _ => True)
        (deliverToRecipient env sender internetMessageId rawBytes recipient) w :=
      Protocol.Safe.mono hw (Protocol.Safe.keep
        (fun _ _ hk ha r hr => (Kept.ownsMailbox hk _ _).trans (ha r hr))
        (safe_deliverToRecipient hlower hw (howns _ List.mem_cons_self))
        fun r hr => howns r (List.mem_cons_of_mem _ hr)) (fun _ _ _ h => h) fun _ _ _ _ => trivial
    refine Protocol.Safe.bind hw hfirst (fun _ w hw h => ?_) fun _ _ _ h => h
    refine Protocol.Safe.mono hw (Protocol.Safe.keep (fun _ _ hk h => Kept.hasDelivered hk h)
      (ih hw h.2) h.1) (fun _ _ _ h r hr => ?_) fun _ _ _ _ => trivial
    obtain rfl | hr := List.mem_cons.1 hr
    · exact h.2
    · exact h.1 r hr

/-- The recipients of a delivery have their mailboxes, under their tenants. -/
def Db.Addresses (s : Db) (delivery : LocalDelivery) : Prop :=
  ∀ r ∈ delivery.recipients, s.ownsMailbox r.tenantId r.mailboxId = true

instance (s : Db) (delivery : LocalDelivery) : Decidable (s.Addresses delivery) :=
  inferInstanceAs
    (Decidable (∀ r ∈ delivery.recipients, s.ownsMailbox r.tenantId r.mailboxId = true))

theorem Kept.addresses {s' : Db} {delivery : LocalDelivery} (h : Kept env s s')
    (hs : s.Addresses delivery) : s'.Addresses delivery := fun r hr =>
  (h.ownsMailbox _ _).trans (hs r hr)

/-- All recipients of the delivery have it. -/
def Db.Delivered (s : Db) (env : Env) (delivery : LocalDelivery) : Prop :=
  ∀ r ∈ delivery.recipients, s.HasDelivered env r.mailboxId
    (some (buildDeterministicMessageId env delivery.outboundJobId delivery.sender))

theorem safe_deliverLocallyToMailboxes {delivery : LocalDelivery} (hlower : LowersOnce env)
    (hw : w.store.Receiving env) (howns : w.store.Addresses delivery) :
    (delivering ι env).Safe i (fun _ w' => w'.store.Delivered env delivery) (fun _ _ => True)
      (deliverLocallyToMailboxes env delivery) w := by
  have hreads : ∀ {α : Type} {p : Op α} {w : World ι Db Label}, Touches [] p →
      w.store.Receiving env → w.store.Addresses delivery → (delivering ι env).Safe i
        (fun _ w' => w'.store.Addresses delivery) (fun _ _ => True) p w := fun hp hw howns =>
    Protocol.Safe.mono hw (safe_kept (A := fun w => w.store.Addresses delivery) (keyed_of_reads hp)
      (kept_reads hp) (fun _ _ hk h => hk.addresses h) hw howns) (fun _ _ _ h => h)
      fun _ _ _ _ => trivial
  unfold deliverLocallyToMailboxes
  split
  · next hempty =>
    refine Protocol.safe_ret.2 fun r hr => ?_
    rw [List.isEmpty_iff.1 hempty] at hr
    cases hr
  · refine Protocol.Safe.bind hw (hreads (touches_loadAttachments _) hw howns)
      (fun _ w hw howns => ?_) fun _ _ _ h => h
    refine Protocol.Safe.bind hw (hreads touches_nowIso hw howns) (fun _ w hw howns => ?_)
      fun _ _ _ h => h
    refine Protocol.Safe.bind hw (hreads touches_buildRawMimeMessage hw howns)
      (fun _ w hw howns => ?_) fun _ _ _ h => h
    exact safe_deliverToEach hlower _ hw howns

theorem safe_storeEmail {email : ForwardableEmailMessage} {mailbox : MailboxRow}
    {internetMessageId : Option String} (hlower : LowersOnce env) (hw : w.store.Receiving env)
    (howns : w.store.ownsMailbox mailbox.tenantId mailbox.id = true) :
    (delivering ι env).Safe i (fun _ _ => True) (fun _ _ => True)
      (storeEmail env email mailbox internetMessageId) w := by
  refine safe_owned_bind hw howns (safe_createMessageId hw) fun messageId w hw howns hmints => ?_
  have haside : ∀ {α : Type} {p : Op α} {w : World ι Db Label} {ts : List Table}, Touches ts p →
      Table.mailboxes ∉ ts → Table.messages ∉ ts → w.store.Receiving env →
      (delivering ι env).Safe i (fun _ _ => env.Mints messageId) (fun _ _ => True) p w :=
    fun hp hmailboxes hmessages hw => Protocol.Safe.mono hw (safe_kept (A := fun _ => True)
      (keyed_of_touches hp hmailboxes hmessages) (kept_of_touches hp hmailboxes hmessages)
      (fun _ _ _ _ => trivial) hw trivial) (fun _ _ _ _ => hmints) fun _ _ _ h => h
  refine safe_owned_bind hw howns (haside (touches_nowIso : Touches [] _) (by simp) (by simp) hw)
    fun receivedAt w hw howns _ => ?_
  refine safe_owned_bind hw howns (haside touches_r2Put (by simp) (by simp) hw)
    fun _ w hw howns _ => ?_
  refine Protocol.Safe.bind (Q := fun _ _ => True) hw (Protocol.Safe.tryCatch hw
    (Protocol.Safe.mono hw (safe_createInboundMessage hlower hw hmints howns)
      (fun _ _ _ _ => trivial) fun _ _ _ h => h) fun _ _ hw _ => safe_discardRaw hw)
    (fun created w hw _ => ?_) fun _ _ _ h => h
  split
  · exact safe_kept (keyed_dispatchOrFail _ _) (kept_dispatchOrFail _ _) (fun _ _ _ _ => trivial)
      hw trivial
  · refine Protocol.Safe.bind hw (haside (.catchAll touches_r2Delete) (by simp) (by simp) hw)
      (fun _ w hw _ => ?_) fun _ _ _ h => h
    refine Protocol.Safe.bind hw (haside (touches_existingInboundMessage : Touches [] _) (by simp)
      (by simp) hw) (fun existing w hw _ => ?_) fun _ _ _ h => h
    cases existing with
    | none => trivial
    | some _ =>
      exact safe_kept (keyed_resumeIfPending _) (kept_resumeIfPending _) (fun _ _ _ _ => trivial)
        hw trivial

theorem safe_handleEmail {email : ForwardableEmailMessage} (hlower : LowersOnce env)
    (hw : w.store.Receiving env) :
    (delivering ι env).Safe i (fun _ _ => True) (fun _ _ => True) (handleEmail env email) w := by
  refine Protocol.Safe.bind (Q := fun mailbox w' => ∀ m, mailbox = some m →
    w'.store.ownsMailbox m.tenantId m.id = true) hw (safe_inboundQuery hw fun w' hl m hm => ?_)
    (fun mailbox w hw howns => ?_) fun _ _ _ h => h
  · refine (Kept.ownsMailbox hl.keeps _ _).trans (List.any_eq_true.2
      ⟨m, List.mem_of_find?_eq_some hm, by simp⟩)
  · cases mailbox with
    | none => trivial
    | some mailbox =>
      dsimp only
      split
      · refine safe_owned_aside (touches_existingInboundMessage : Touches [] _) (by simp) (by simp)
          hw (howns mailbox rfl) fun existing w hw howns => ?_
        cases existing with
        | some _ =>
          exact Protocol.Safe.bind hw (safe_kept (A := fun _ => True) (keyed_resumeIfPending _)
            (kept_resumeIfPending _) (fun _ _ _ _ => trivial) hw trivial) (fun _ _ _ _ => trivial)
            fun _ _ _ h => h
        | none =>
          exact Protocol.Safe.bind hw (safe_storeEmail hlower hw howns) (fun _ _ _ _ => trivial)
            fun _ _ _ h => h
      · trivial

end Safe

/-! ### Runs -/

variable {ι : Type} [DecidableEq ι] {env : Env}

omit [DecidableEq ι] in
theorem safe_inboundTask {w : World ι Db Label} {i : ι} {task : InboundTask}
    (hlower : LowersOnce env) (hw : w.store.Receiving env)
    (howns : ∀ delivery, task = .deliver delivery → w.store.Addresses delivery) :
    (delivering ι env).Safe i
      (fun _ w' => ∀ delivery, task = .deliver delivery → w'.store.Delivered env delivery)
      (fun _ _ => True) (task.prog env) w := by
  cases task with
  | receive email =>
    exact Protocol.Safe.bind hw (safe_handleEmail hlower hw) (fun _ _ _ _ => Protocol.safe_ret.2
      nofun) fun _ _ _ h => h
  | deliver delivery =>
    refine Protocol.Safe.mono hw (safe_deliverLocallyToMailboxes hlower hw (howns delivery rfl)) ?_
      fun _ _ _ h => h
    intro _ w' _ h delivery' htask
    exact InboundTask.deliver.inj htask ▸ h
  | ingest batch =>
    exact Protocol.Safe.bind hw (safe_kept (A := fun _ => True) (keyed_handleEmailIngest batch)
      (kept_handleEmailIngest batch) (fun _ _ _ _ => trivial) hw trivial)
      (fun _ _ _ _ => Protocol.safe_ret.2 nofun) fun _ _ _ h => h

/-- **Delivered once**: after any run of receipts, local deliveries and ingest batches, wherever
statements fail, each mailbox that a delivery which is over was for has exactly one message under
its key; and no mailbox has two under any key. -/
theorem delivered_once (hlower : LowersOnce env) (tasks : ι → InboundTask) {start : Db}
    (hstart : start.Receiving env)
    (howns : ∀ i delivery, tasks i = .deliver delivery → start.Addresses delivery)
    (schedule : List (ι × Outcome))
    (hmeets : (startInbound env tasks start).Meets (IdsKept env) schedule) :
    (∀ mailboxId key, ∀ m ∈ ((startInbound env tasks start).exec schedule).world.store.messages,
      ∀ m' ∈ ((startInbound env tasks start).exec schedule).world.store.messages,
      ((startInbound env tasks start).exec schedule).world.store.holds mailboxId m = true →
      ((startInbound env tasks start).exec schedule).world.store.holds mailboxId m' = true →
      m.internetMessageId = some key → m'.internetMessageId = some key → m = m') ∧
    ∀ i delivery, tasks i = .deliver delivery →
      ((startInbound env tasks start).exec schedule).threads i = .ret () →
      ((startInbound env tasks start).exec schedule).world.store.Delivered env delivery := by
  have hholds : ∀ i, (delivering ι env).Holds i
      (fun _ w => ∀ delivery, tasks i = .deliver delivery → w.store.Delivered env delivery)
      (fun _ _ => True) ((startInbound env tasks start).threads i)
      (startInbound env tasks start).world := fun i w hl =>
    safe_inboundTask hlower hl.inv fun delivery htask => hl.keeps.addresses (howns i delivery htask)
  obtain ⟨hinv, hthreads⟩ := Protocol.exec hstart hholds hmeets
  refine ⟨fun mailboxId key m hm m' hm' hheld hheld' hkey hkey' => ?_,
    fun i delivery htask hret => ?_⟩
  · refine List.inj_on_of_nodup_map hinv.keyed.messages hm hm' ?_
    exact hinv.keyed.unique mailboxId m hm m' hm' hheld hheld' (hkey.trans hkey'.symm) (by
      rw [hkey]
      exact nofun)
  · have h := (hthreads i).now hinv
    rw [hret] at h
    exact h delivery htask

/-! ### A delivery that is tried again -/

/-- A database with two mailboxes. -/
def mailboxesDb : Db := { mailboxDb with
  mailboxes := [⟨"mbx", "t", "a@b", "active"⟩, ⟨"mbx2", "t2", "c@b", "active"⟩] }

/-- A message of a job to both of them. -/
def sampleDelivery : LocalDelivery where
  outboundJobId := "job"
  sender := "a@b"
  toList := ["a@b", "c@b"]
  cc := []
  subject := "s"
  text := some "hi"
  html := none
  inReplyTo := none
  references := []
  attachmentRefs := []
  recipients := [⟨"a@b", "mbx", "t"⟩, ⟨"c@b", "mbx2", "t2"⟩]

/-- Two attempts of the job. -/
def attempts : Bool → InboundTask := fun _ => .deliver sampleDelivery

/-- The first attempt fails at the second mailbox, and the second one gets through. -/
@[irreducible] def attemptedTwice : Config Bool Db Label Exn Unit :=
  (startInbound mailEnv attempts mailboxesDb).exec
    (turns true 8 ++ (true, .refused) :: turns true 20 ++ turns false 40)

theorem mailboxesDb_receiving : mailboxesDb.Receiving mailEnv where
  keyed :=
    { mailboxes := by decide
      messages := by decide
      normal := fun _ _ hm => by cases hm
      unique := fun _ _ hm => by cases hm }
  hidden _ hm := by cases hm

/-- The program is over. -/
def isOver (p : Op Unit) : Bool :=
  match p with
  | .ret _ => true
  | _ => false

theorem ret_of_isOver {p : Op Unit} (h : isOver p = true) : p = .ret () := by
  unfold isOver at h
  split at h
  · rfl
  · cases h

/-- Each of the mailboxes has the message, once. -/
theorem delivered_again : attemptedTwice.world.store.Delivered mailEnv sampleDelivery ∧
    ∀ mailboxId key, ∀ m ∈ attemptedTwice.world.store.messages,
      ∀ m' ∈ attemptedTwice.world.store.messages,
      attemptedTwice.world.store.holds mailboxId m = true →
      attemptedTwice.world.store.holds mailboxId m' = true →
      m.internetMessageId = some key → m'.internetMessageId = some key → m = m' := by
  have hover : attemptedTwice.threads false = .ret () := ret_of_isOver (by decide +kernel)
  have hmeets : (startInbound mailEnv attempts mailboxesDb).Meets (IdsKept mailEnv)
      (turns true 8 ++ (true, .refused) :: turns true 20 ++ turns false 40) := by decide +kernel
  have howns : mailboxesDb.Addresses sampleDelivery := by decide
  unfold attemptedTwice at hover ⊢
  obtain ⟨honce, hall⟩ := delivered_once mailEnv_lowersOnce attempts mailboxesDb_receiving
    (fun _ _ htask => InboundTask.deliver.inj htask ▸ howns) _ hmeets
  exact ⟨hall false _ rfl hover, honce⟩

end MailRuntime
