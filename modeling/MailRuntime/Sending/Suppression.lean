import MailRuntime.Inbound.Redelivery
import MailRuntime.Sending.Refusal

/-!
# Suppressed recipients

The address that the text of a recipient denotes may be only a part of it, and then the consumer
does not find a suppression of that address: a display name or a pair of angle brackets is
enough. A job that is not refused is sent by the attempt in which nothing goes wrong, so the
refusals are exactly the cases in which a suppressed address is not written to.
-/

namespace MailRuntime

open Js Interaction

/-! ### A job that is not refused is sent -/

section Sent

variable {env : Env} {s : Db}

/-- The message that every local mailbox has received already. -/
def receivedRow (key : String) (m : MailboxRow) : MessageRow where
  id := "in"
  tenantId := m.tenantId
  mailboxId := m.id
  threadId := none
  direction := .inbound
  provider := .internal
  internetMessageId := some key
  providerMessageId := none
  fromAddr := ""
  toAddr := ""
  subject := none
  snippet := none
  status := .replied
  rawR2Key := none
  normalizedR2Key := none
  receivedAt := none
  sentAt := none
  createdAt := 0

/-- The message that is to be sent. -/
def sendableRow (m : MailboxRow) : MessageRow where
  id := "out"
  tenantId := m.tenantId
  mailboxId := m.id
  threadId := none
  direction := .outbound
  provider := .ses
  internetMessageId := none
  providerMessageId := none
  fromAddr := ""
  toAddr := ""
  subject := none
  snippet := none
  status := .tasked
  rawR2Key := none
  normalizedR2Key := none
  receivedAt := none
  sentAt := none
  createdAt := 0

/-- Its job. -/
def sendableJob : OutboundJobRow where
  id := "job"
  messageId := "out"
  taskId := none
  status := .queued
  sesRegion := ""
  retryCount := 0
  nextRetryAt := none
  lastError := none
  draftR2Key := "draft"
  createdAt := 0
  updatedAt := 0

/-- A payload with those recipients and nothing else. -/
def sendablePayload (recipients : Recipients) : Fields :=
  [("to", stringArray recipients.toList), ("cc", stringArray recipients.ccList),
    ("bcc", stringArray recipients.bccList)]

/-- A database with a job that has those recipients. -/
def Db.sendable (s : Db) (key : String) (mailbox : MailboxRow) (recipients : Recipients) : Db where
  mailboxes := s.mailboxes
  suppressions := s.suppressions
  messages := sendableRow mailbox :: s.mailboxes.map (receivedRow key)
  outboundJobs := [sendableJob]
  objects := [("draft", .json (.obj (sendablePayload recipients)))]

theorem stringItems_stringArray (items : List String) :
    stringItems (some (stringArray items)) = items := by
  simp only [stringItems, stringArray, asArray, Option.getD_some, List.filterMap_map]
  induction items with
  | nil => rfl
  | cons item rest ih => simp [string]

theorem sendRecipients_sendablePayload (recipients : Recipients) :
    sendRecipients (sendablePayload recipients) = recipients := by
  obtain ⟨toList, ccList, bccList⟩ := recipients
  simp [sendRecipients, sendablePayload, List.lookup_cons, stringItems_stringArray]

/-- A text that begins with something else than white space is not blank. -/
theorem truthy_trim {c : Char} {rest : List Char} (hc : isSpace c = false) :
    truthy (trim (String.ofList (c :: rest))) = true := by
  have hne : trimChars (c :: rest) ≠ [] := by
    rw [trimChars_eq, List.dropWhile_cons_of_neg (by simp [hc])]
    intro hnil
    have hall := List.rdropWhile_eq_nil_iff.1 hnil c (by simp)
    rw [hc] at hall
    cases hall
  rw [truthy, trim, String.toList_ofList, bne_iff_ne]
  intro hempty
  exact hne (String.ofList_injective hempty)

/-- The mailbox of the recipient has received the message, and has ingested it. -/
def Db.HasReceived (s : Db) (env : Env) (internetMessageId : String)
    (recipient : LocalMailboxRecipient) : Prop :=
  ∃ key m, normalizeInternetMessageId env (some internetMessageId) = some key ∧
    s.inboundMessages recipient.mailboxId key = [m] ∧ m.tenantId = recipient.tenantId ∧
    m.pendingIngest = none

theorem run_getInboundMessageByInternetMessageId {mailboxId internetMessageId key : String}
    (hkey : normalizeInternetMessageId env (some internetMessageId) = some key) :
    (getInboundMessageByInternetMessageId env mailboxId internetMessageId).run s =
      (.ok (only (s.inboundMessages mailboxId key)), s) := by
  rw [getInboundMessageByInternetMessageId, hkey]
  rfl

/-- A message that is there already is not created. -/
theorem run_createInboundMessage (hlower : LowersOnce env) (input : InboundMessage)
    {key : String} {m : MessageRow}
    (hkey : normalizeInternetMessageId env input.internetMessageId = some key)
    (hm : s.inboundMessages input.mailboxId key = [m]) (htenant : m.tenantId = input.tenantId) :
    (createInboundMessage env input).run s = (.ok false, s) := by
  have hkey' : normalizeInternetMessageId env (some key) = some key :=
    normalize_normalize hlower hkey
  have hinsert : (insertInboundMessage input key).run s = (.ok 0, s) := by
    simp only [insertInboundMessage, Rows.insertWhere, Rows.insertWhereAs, Prog.run_bind, Prog.run_perform,
      Prog.andThen_ok, hm, List.any_cons, htenant, beq_self_eq_true, Bool.true_or, Bool.not_true]
    rfl
  rw [createInboundMessage, hkey]
  simp only [Prog.run_bind, hinsert, Prog.andThen_ok, if_true,
    run_getInboundMessageByInternetMessageId hkey', hm, only]
  rfl

/-- What a run of the delivery leaves alone. -/
theorem run_deliverToRecipient (hlower : LowersOnce env) (sender : String)
    {internetMessageId : String} (rawBytes : List UInt8) {recipient : LocalMailboxRecipient}
    (h : s.HasReceived env internetMessageId recipient) :
    ∃ s', (deliverToRecipient env sender internetMessageId rawBytes recipient).run s = (.ok (), s') ∧
      s'.messages = s.messages ∧ s'.mailboxes = s.mailboxes := by
  obtain ⟨key, m, hkey, hm, htenant, hpending⟩ := h
  let rawR2Key := rawR2KeyOf env (env.clock s.draws) (env.createId "msg" (s.draws + 1))
  let s₁ : Db := { s with
    draws := s.draws + 1 + 1
    objects := (rawR2Key, .bytes rawBytes (some "message/rfc822")) :: s.withoutObject rawR2Key }
  let s₂ : Db := { s₁ with objects := s₁.withoutObject rawR2Key }
  refine ⟨s₂, ?_, rfl, rfl⟩
  have hm₁ : s₁.inboundMessages recipient.mailboxId key = [m] := hm
  have hm₂ : s₂.inboundMessages recipient.mailboxId key = [m] := hm
  have hdispatch : (dispatchLocal env internetMessageId (env.createId "msg" (s.draws + 1)) rawR2Key
      recipient false).run s₁ = (.ok (), s₂) := by
    have hdelete : (catchAll (r2Delete rawR2Key) ()).run s₁ = (.ok (), s₂) := run_catchAll rfl
    simp only [dispatchLocal, Bool.false_eq_true, if_false, Prog.run_bind, hdelete,
      Prog.andThen_ok, run_getInboundMessageByInternetMessageId hkey, hm₂, only,
      dispatchIfPending, Option.bind_some, hpending]
    rfl
  have hput : (r2Put rawR2Key (.bytes rawBytes (some "message/rfc822"))).run
      { s with draws := s.draws + 1 + 1 } = (.ok (), s₁) := rfl
  have hcreate := run_createInboundMessage (s := s₁) hlower {
    id := env.createId "msg" (s.draws + 1), tenantId := recipient.tenantId
    mailboxId := recipient.mailboxId, provider := .internal
    internetMessageId := some internetMessageId, fromAddr := env.toLowerCase (trim sender)
    toAddr := recipient.address, status := .received, rawR2Key := rawR2Key
    receivedAt := env.clock s.draws, createdAt := env.clock s.draws } hkey hm₁ htenant
  simp only [deliverToRecipient, Prog.run_bind, run_nowIso, run_createId, Prog.andThen_ok]
  rw [hput, Prog.andThen_ok, Prog.run_bind, Prog.tryCatch_eq, Prog.run_tryCatch, hcreate, Prog.orElse_ok,
    Prog.andThen_ok]
  simp only [Bool.false_eq_true, if_false, Prog.tryCatch_eq, Prog.run_tryCatch]
  rw [hdispatch]
  rfl


theorem Db.HasReceived.congr {s s' : Db} {internetMessageId : String}
    {recipient : LocalMailboxRecipient} (h : s.HasReceived env internetMessageId recipient)
    (hmessages : s'.messages = s.messages) (hmailboxes : s'.mailboxes = s.mailboxes) :
    s'.HasReceived env internetMessageId recipient := by
  obtain ⟨key, m, hkey, hm, htenant, hpending⟩ := h
  refine ⟨key, m, hkey, ?_, htenant, hpending⟩
  rw [← hm]
  simp only [Db.inboundMessages, Db.messageVisible, Db.ownsMailbox, hmessages, hmailboxes]

theorem run_deliverToEach (hlower : LowersOnce env) {sender internetMessageId : String}
    {rawBytes : List UInt8} (recipients : List LocalMailboxRecipient)
    (h : ∀ r ∈ recipients, s.HasReceived env internetMessageId r) :
    ∃ s', (deliverToEach env sender internetMessageId rawBytes recipients).run s = (.ok (), s') := by
  induction recipients generalizing s with
  | nil => exact ⟨s, rfl⟩
  | cons recipient rest ih =>
    obtain ⟨s₁, hrun, hmessages, hmailboxes⟩ :=
      run_deliverToRecipient hlower sender rawBytes (h recipient (by simp))
    obtain ⟨s₂, hrest⟩ := ih (s := s₁) fun r hr =>
      (h r (by simp [hr])).congr hmessages hmailboxes
    refine ⟨s₂, ?_⟩
    rw [deliverToEach, Prog.run_bind, hrun, Prog.andThen_ok, hrest]

/-- A delivery without attachments, to mailboxes that have received the message. -/
theorem run_deliverLocallyToMailboxes (hlower : LowersOnce env) (input : LocalDelivery)
    (hattachments : input.attachmentRefs = [])
    (h : ∀ r ∈ input.recipients, s.HasReceived env
      (buildDeterministicMessageId env input.outboundJobId input.sender) r) :
    ∃ s', (deliverLocallyToMailboxes env input).run s = (.ok (), s') := by
  rw [deliverLocallyToMailboxes]
  split
  · exact ⟨s, rfl⟩
  · simp only [hattachments, loadAttachments, Prog.run_bind, Prog.pure_eq, Prog.run_ret,
      Prog.andThen_ok, run_nowIso, buildRawMimeMessage, randomBoundary, Prog.run_draw]
    exact run_deliverToEach hlower _ fun r hr => (h r hr).congr rfl rfl


section Sendable

variable {key : String} {mailbox : MailboxRow} {recipients : Recipients}

theorem ownsMailbox_of_mem (hmailbox : mailbox ∈ s.mailboxes) :
    s.ownsMailbox mailbox.tenantId mailbox.id = true :=
  List.any_eq_true.2 ⟨mailbox, hmailbox, by simp⟩

/-- The job after it is claimed. -/
def claimedJob (env : Env) : OutboundJobRow :=
  { sendableJob with status := .sending, updatedAt := env.clock 0 }

/-- The database after the job is claimed. -/
def Db.sendableClaimed (s : Db) (env : Env) (key : String) (mailbox : MailboxRow)
    (recipients : Recipients) : Db :=
  { s.sendable key mailbox recipients with outboundJobs := [claimedJob env], draws := 1 }

/-- What the attempt reads of it first. -/
def sendableContext (mailbox : MailboxRow) (recipients : Recipients) : SendContext :=
  ⟨sendableJob, .obj (sendablePayload recipients), none, sendableRow mailbox, none⟩

theorem hasMessage_sendable (key : String) (recipients : Recipients)
    (hmailbox : mailbox ∈ s.mailboxes) :
    (s.sendable key mailbox recipients).hasMessage "out" = true := by
  have howns : (s.sendable key mailbox recipients).ownsMailbox mailbox.tenantId mailbox.id = true :=
    ownsMailbox_of_mem hmailbox
  refine List.any_eq_true.2 ⟨sendableRow mailbox, by simp [Db.sendable], ?_⟩
  rw [Db.messageVisible, show (sendableRow mailbox).tenantId = mailbox.tenantId from rfl,
    show (sendableRow mailbox).mailboxId = mailbox.id from rfl, howns]
  rfl

theorem outboundJob_sendable (hmailbox : mailbox ∈ s.mailboxes) :
    (s.sendable key mailbox recipients).outboundJob "job" = some sendableJob := by
  have hvisible : (s.sendable key mailbox recipients).jobVisible sendableJob = true :=
    hasMessage_sendable key recipients hmailbox
  rw [Db.outboundJob, show (s.sendable key mailbox recipients).outboundJobs = [sendableJob] from rfl,
    List.find?_cons_of_pos (by rw [hvisible]; rfl)]

theorem outboundJob_claimed (hmailbox : mailbox ∈ s.mailboxes) :
    (s.sendableClaimed env key mailbox recipients).outboundJob "job" = some (claimedJob env) := by
  have hvisible : (s.sendableClaimed env key mailbox recipients).jobVisible (claimedJob env) =
      true := hasMessage_sendable key recipients hmailbox
  rw [Db.outboundJob,
    show (s.sendableClaimed env key mailbox recipients).outboundJobs = [claimedJob env] from rfl,
    List.find?_cons_of_pos (by rw [hvisible]; rfl)]

theorem run_step {α : Type} {a : Assigned} {p : Op α} {s s' : Db} {value : α}
    (h : p.run s = (.ok value, s')) : (a.step p).run s = (.ok value, s') := by
  rw [Assigned.step, Prog.run_tryCatch, h, Prog.orElse_ok]

theorem run_loadSend_sendable (hmailbox : mailbox ∈ s.mailboxes) :
    (loadSend "job").run (s.sendable key mailbox recipients) =
      (.ok (sendableContext mailbox recipients), s.sendable key mailbox recipients) := by
  have howns : (s.sendable key mailbox recipients).ownsMailbox mailbox.tenantId mailbox.id = true :=
    ownsMailbox_of_mem hmailbox
  have hmessage : (s.sendable key mailbox recipients).message "out" = some (sendableRow mailbox) := by
    rw [Db.message, show (s.sendable key mailbox recipients).messages =
      sendableRow mailbox :: s.mailboxes.map (receivedRow key) from rfl,
      List.find?_cons_of_pos (by
        rw [Db.messageVisible, show (sendableRow mailbox).tenantId = mailbox.tenantId from rfl,
          show (sendableRow mailbox).mailboxId = mailbox.id from rfl, howns]
        rfl)]
  have hjob : (loadOutboundJob "job").run (s.sendable key mailbox recipients) =
      (.ok sendableJob, s.sendable key mailbox recipients) := by
    rw [loadOutboundJob, Prog.run_bind, getOutboundJob, run_query, Prog.andThen_ok,
      outboundJob_sendable hmailbox]
    rfl
  have hpayload : (loadSendPayload "draft").run (s.sendable key mailbox recipients) =
      (.ok (.obj (sendablePayload recipients)), s.sendable key mailbox recipients) := rfl
  have hdraft : (getDraftByR2KeyForOutboundLifecycle "draft").run
      (s.sendable key mailbox recipients) = (.ok none, s.sendable key mailbox recipients) := rfl
  have hloaded : (loadOutboundMessage "out").run (s.sendable key mailbox recipients) =
      (.ok (sendableRow mailbox, none), s.sendable key mailbox recipients) := by
    rw [loadOutboundMessage, Prog.run_bind, getMessage, run_query, Prog.andThen_ok, hmessage]
    rfl
  rw [loadSend, Prog.run_bind, run_step hjob, Prog.andThen_ok, Prog.run_bind,
    show sendableJob.draftR2Key = "draft" from rfl, run_step hpayload, Prog.andThen_ok,
    Prog.run_bind, run_step hdraft, Prog.andThen_ok, Prog.run_bind,
    show sendableJob.messageId = "out" from rfl, run_step hloaded, Prog.andThen_ok]
  rfl

theorem run_claim_sendable (hmailbox : mailbox ∈ s.mailboxes) :
    (claimOutboundJobForSend env "job").run (s.sendable key mailbox recipients) =
      (.ok true, s.sendableClaimed env key mailbox recipients) := by
  have hvisible : (s.sendable key mailbox recipients).jobVisible sendableJob = true :=
    hasMessage_sendable key recipients hmailbox
  have hclaimed : (s.sendableClaimed env key mailbox recipients).outboundJob "job" =
      some (claimedJob env) := outboundJob_claimed hmailbox
  have hvisible' : Db.jobVisible { s.sendable key mailbox recipients with draws := 1 }
      sendableJob = true := hvisible
  have htarget : (sendableJob.id == "job" && sendableJob.claimable &&
      Db.jobVisible { s.sendable key mailbox recipients with draws := 1 } sendableJob) = true := by
    rw [hvisible']
    rfl
  have hupdate : (jobRows.updateAs (.claimJob "job")
      (fun s o => o.id == "job" && o.claimable && s.jobVisible o) fun o =>
        { o with status := .sending, lastError := none, updatedAt := env.clock 0 }).run
      { s.sendable key mailbox recipients with draws := 1 } =
      (.ok 1, s.sendableClaimed env key mailbox recipients) := by
    simp only [Rows.updateAs, execute, Prog.run_perform, Rows.updated, jobRows, Db.sendable,
      List.countP_cons, List.countP_nil, List.map_cons, List.map_nil] at htarget ⊢
    rw [if_pos htarget, if_pos htarget]
    rfl
  rw [claimOutboundJobForSend, Prog.run_bind, run_nowIso, Prog.andThen_ok, Prog.run_bind]
  erw [hupdate]
  rw [Prog.andThen_ok, if_neg (by decide), Prog.run_bind, getOutboundJob, run_query,
    Prog.andThen_ok, hclaimed]
  rfl

/-- The recipients that are not refused are admitted. -/
theorem run_admitRecipients (h : s.refuses env recipients = false) :
    (admitRecipients env recipients).run s = (.ok (s.route env recipients), s) := by
  have hsuppressed : ∀ l : List String, (suppressedAmong env l).run s =
      (.ok (l.filter fun r => (s.suppression env r).isSome), s) := by
    intro l
    induction l with
    | nil => rfl
    | cons r rest ih =>
      simp only [suppressedAmong, Prog.run_bind, getSuppression, run_query, Prog.andThen_ok, ih,
        List.filter_cons]
      rfl
  obtain ⟨hblocks, hvalid⟩ := Bool.or_eq_false_iff.1 h
  have hempty : (s.suppressedRecipients env (s.route env recipients).externalAddresses).isEmpty =
      !(s.route env recipients).externalAddresses.any (s.blocks env) :=
    suppressedRecipients_isEmpty _
  rw [hblocks, Bool.not_false] at hempty
  rw [admitRecipients, Prog.run_bind, run_routeOutboundRecipients, Prog.andThen_ok, Prog.run_bind,
    getSuppressedRecipients, hsuppressed, Prog.andThen_ok]
  have hnone : getOutboundRecipientRoutingValidationError (s.route env recipients) = none := by
    simpa using hvalid
  simp only [Db.suppressedRecipients] at hempty
  rw [hempty, Bool.not_true, if_neg (by decide), hnone]
  rfl

/-- An internal recipient is a mailbox. -/
theorem exists_mailbox_of_mem_route {r : LocalMailboxRecipient}
    (hr : r ∈ (s.route env recipients).toInternal ++ (s.route env recipients).ccInternal ++
      (s.route env recipients).bccInternal) :
    ∃ m ∈ s.mailboxes, r.mailboxId = m.id ∧ r.tenantId = m.tenantId := by
  have hsplit : ∀ addresses found, found = s.localMailboxes env addresses → ∀ l,
      r ∈ splitInternal found l → ∃ m ∈ s.mailboxes, r.mailboxId = m.id ∧ r.tenantId = m.tenantId := by
    intro addresses found hfound l hl
    obtain ⟨address, -, haddress⟩ := List.mem_filterMap.1 hl
    have hmem : r ∈ found := List.mem_of_find?_eq_some haddress
    rw [hfound, Db.localMailboxes, List.mem_flatMap] at hmem
    obtain ⟨a, -, ha⟩ := hmem
    rw [Option.mem_toList] at ha
    rcases hrow : s.mailboxByAddress env a with _ | m
    · rw [hrow] at ha
      cases ha
    · rw [hrow] at ha
      simp only [localRecipient] at ha
      split at ha
      · obtain rfl := Option.some.inj ha
        exact ⟨m, List.mem_of_find?_eq_some hrow, rfl, rfl⟩
      · cases ha
  simp only [List.mem_append] at hr
  rcases hr with (hr | hr) | hr
  · exact hsplit _ _ rfl _ hr
  · exact hsplit _ _ rfl _ hr
  · exact hsplit _ _ rfl _ hr

/-- Identifiers of mailboxes are no two mailboxes'. -/
theorem filter_id_eq {rows : List MailboxRow} (hids : (rows.map MailboxRow.id).Nodup)
    {m : MailboxRow} (hm : m ∈ rows) : rows.filter (fun x => x.id == m.id) = [m] := by
  induction rows with
  | nil => cases hm
  | cons row rest ih =>
    rw [List.map_cons, List.nodup_cons] at hids
    rcases List.mem_cons.1 hm with rfl | hm
    · have hrest : rest.filter (fun x => x.id == m.id) = [] := by
        rw [List.filter_eq_nil_iff]
        intro x hx hid
        exact hids.1 (List.mem_map.2 ⟨x, hx, by simpa using hid⟩)
      simp [hrest]
    · have hne : row.id ≠ m.id := fun h => hids.1 (h ▸ List.mem_map_of_mem hm)
      rw [List.filter_cons_of_neg (by simpa using hne), ih hids.2 hm]

theorem hasReceived_sendable (hids : (s.mailboxes.map MailboxRow.id).Nodup)
    {internetMessageId : String}
    (hkey : normalizeInternetMessageId env (some internetMessageId) = some key)
    {r : LocalMailboxRecipient} {m : MailboxRow} (hm : m ∈ s.mailboxes)
    (hmailboxId : r.mailboxId = m.id) (htenantId : r.tenantId = m.tenantId) :
    (s.sendableClaimed env key mailbox recipients).HasReceived env internetMessageId r := by
  refine ⟨key, receivedRow key m, hkey, ?_, htenantId.symm, rfl⟩
  have hvisible : ∀ x ∈ s.mailboxes, (s.sendableClaimed env key mailbox recipients).messageVisible
      (receivedRow key x) = true := fun x hx => ownsMailbox_of_mem (s := s) hx
  have hmessages : (s.sendableClaimed env key mailbox recipients).messages =
      sendableRow mailbox :: s.mailboxes.map (receivedRow key) := rfl
  rw [Db.inboundMessages, hmessages, List.filter_cons_of_neg (by simp [MessageRow.isInbound,
    sendableRow]), List.filter_map]
  have hfilter : s.mailboxes.filter ((fun x => x.isInbound r.mailboxId key &&
      (s.sendableClaimed env key mailbox recipients).messageVisible x) ∘ receivedRow key) =
      s.mailboxes.filter (fun x => x.id == m.id) := by
    refine List.filter_congr fun x hx => ?_
    simp [MessageRow.isInbound, receivedRow, hmailboxId]
    exact fun _ => hvisible x hx
  rw [hfilter, filter_id_eq hids hm]
  rfl

/-- The attempt at the job of that database sends it, if its recipients are not refused. -/
theorem reaches_sendable (hlower : LowersOnce env) (hids : (s.mailboxes.map MailboxRow.id).Nodup)
    (hkey : normalizeInternetMessageId env (some (buildDeterministicMessageId env "job" "")) =
      some key)
    (hmailbox : mailbox ∈ s.mailboxes) (hrefuses : s.refuses env recipients = false)
    (hexternal : (s.route env recipients).externalAddresses ≠ []) :
    (processOutboundSend env "job").Reaches (s.sendable key mailbox recipients)
      fun l => l.sends = true := by
  refine .tryCatch (.bind_right (run_loadSend_sendable hmailbox) ?_)
  show (claimAndSend env (sendableContext mailbox recipients)).Reaches _ _
  refine .bind_right (run_step (run_claim_sendable hmailbox)) ?_
  have hagain : (getOutboundJob "job").run (s.sendableClaimed env key mailbox recipients) =
      (.ok (some (claimedJob env)), s.sendableClaimed env key mailbox recipients) := by
    rw [getOutboundJob, run_query, outboundJob_claimed hmailbox]
  refine .bind_right (run_step hagain) ?_
  let c : SendContext := { sendableContext mailbox recipients with job := claimedJob env }
  show (sendClaimed env c).Reaches _ _
  obtain ⟨sender, hsender⟩ : ∃ m, (s.sendableClaimed env key mailbox recipients).mailbox
      mailbox.id = some m := by
    refine Option.isSome_iff_exists.1 (List.find?_isSome.2 ⟨mailbox, hmailbox, by simp⟩)
  have hroute : (s.sendableClaimed env key mailbox recipients).route env recipients =
      s.route env recipients := Db.route_congr rfl recipients
  have hadmit : (admitRecipients env recipients).run
      (s.sendableClaimed env key mailbox recipients) =
      (.ok (s.route env recipients), s.sendableClaimed env key mailbox recipients) := by
    have hrefuses' : (s.sendableClaimed env key mailbox recipients).refuses env recipients =
        false := by
      rw [Db.refuses, hroute]
      exact hrefuses
    rw [run_admitRecipients hrefuses', hroute]
  have hfields : Prog.run (do
      let mailbox ← getMailboxById c.message.mailboxId
      let mailbox ← requireRow mailbox "Mailbox not found"
      let fields ← recordFields c.payload
      pure (mailbox.address, fields)) (s.sendableClaimed env key mailbox recipients) =
      (.ok (sender.address, sendablePayload recipients),
        s.sendableClaimed env key mailbox recipients) := by
    rw [Prog.run_bind, show c.message.mailboxId = mailbox.id from rfl, getMailboxById, run_query,
      Prog.andThen_ok, hsender]
    rfl
  have hallowed : (ensureDraftAllowed env c.draft).run
      (s.sendableClaimed env key mailbox recipients) =
      (.ok (), s.sendableClaimed env key mailbox recipients) := rfl
  refine .bind_right (run_step hfields) (.tryCatch (.bind_right hallowed ?_))
  rw [sendRecipients_sendablePayload]
  refine .bind_right hadmit (.bind_left ?_)
  have hsend : ∀ s', (sendOutboundDraft env c.job.id c.job.draftR2Key
      (c.sendInput (payloadContent (sendablePayload recipients)) sender.address
        (s.route env recipients))).Reaches s' fun l => l.sends = true :=
    fun s' => .bind_left ⟨_, List.mem_cons_self, rfl⟩
  rw [deliver, if_pos hexternal]
  split
  · obtain ⟨s', hlocal⟩ := run_deliverLocallyToMailboxes
      (s := s.sendableClaimed env key mailbox recipients) hlower
      (c.delivery recipients (payloadContent (sendablePayload recipients))
        (s.route env recipients)) rfl fun r hr => by
          obtain ⟨m, hm, hmailboxId, htenantId⟩ := exists_mailbox_of_mem_route hr
          exact hasReceived_sendable hids hkey hm hmailboxId htenantId
    exact .bind_right hlocal (hsend s')
  · exact hsend _

end Sendable

end Sent

/-! ### When the consumer keeps to the suppressions -/

/-- Without a mailbox no job is visible. -/
theorem neverSent_of_no_mailbox {env : Env} {s : Db} (h : s.mailboxes = [])
    (recipients : Recipients) : s.NeverSent env recipients := by
  intro s' outboundJobId job fields hmailboxes _ hjob
  have hvisible : s'.jobVisible job = true := by
    have hfound := List.find?_some hjob
    exact (Bool.and_eq_true_iff.1 hfound).2
  obtain ⟨m, -, hm⟩ := List.any_eq_true.1 hvisible
  have howns : s'.ownsMailbox m.tenantId m.mailboxId = true := (Bool.and_eq_true_iff.1 hm).2
  rw [Db.ownsMailbox, hmailboxes, h] at howns
  cases howns

/-- **No job with an external recipient that denotes a suppressed address is ever sent** exactly
if, where there is such a recipient, the whole text of some external recipient is suppressed, or
no `to` recipient is external, or there is no mailbox. -/
theorem unsent_iff_refused (env : Env) (hlower : LowersOnce env)
    (hblank : ∀ v, env.toLowerCase v = "" → v = "") (s : Db)
    (hids : (s.mailboxes.map MailboxRow.id).Nodup) (recipients : Recipients) :
    (s.DenotesSuppressed env recipients → s.NeverSent env recipients) ↔
      (s.DenotesSuppressed env recipients → s.refuses env recipients = true ∨ s.mailboxes = []) := by
  constructor
  · intro h hdenotes
    by_contra hcond
    obtain ⟨hrefuses, hmailboxes⟩ := not_or.1 hcond
    obtain ⟨mailbox, hmailbox⟩ := List.exists_mem_of_ne_nil _ hmailboxes
    have hexternal : (s.route env recipients).externalAddresses ≠ [] := by
      obtain ⟨v, -, hv, -⟩ := hdenotes
      exact List.ne_nil_of_mem hv
    obtain ⟨key, hkey⟩ : ∃ key, normalizeInternetMessageId env
        (some (buildDeterministicMessageId env "job" "")) = some key := by
      have htrim : truthy (trim (buildDeterministicMessageId env "job" "")) = true := by
        rw [← String.ofList_toList (s := buildDeterministicMessageId env "job" "")]
        simp only [buildDeterministicMessageId, String.toList_append]
        exact truthy_trim rfl
      refine ⟨_, Option.filter_eq_some_iff.2 ⟨rfl, ?_⟩⟩
      rw [truthy, bne_iff_ne] at htrim ⊢
      exact fun hempty => htrim (hblank _ hempty)
    obtain ⟨x, hx, hsends⟩ := reaches_sendable hlower hids hkey hmailbox
      (Bool.eq_false_iff.2 hrefuses) hexternal
    obtain ⟨n, hn⟩ := mem_trace_of_strike (w := ⟨s.sendable key mailbox recipients, []⟩) hx
    have hunsent := h hdenotes (s.sendable key mailbox recipients) "job" sendableJob
      (sendablePayload recipients) rfl rfl (outboundJob_sendable hmailbox) rfl
      (sendRecipients_sendablePayload recipients) (turns () n) _ hn
    rw [hsends] at hunsent
    cases hunsent
  · intro h hdenotes
    rcases h hdenotes with hrefuses | hmailboxes
    · exact neverSent_of_refuses hrefuses
    · exact neverSent_of_no_mailbox hmailboxes recipients

/-- One mailbox, and one suppression. -/
def suppressingDb : Db where
  mailboxes := [⟨"mbx", "t", "a@b", "active"⟩]
  suppressions := [⟨"x@y", "bounce"⟩]

/-- The suppressed address by itself is refused. -/
theorem bare_recipient_unsent :
    suppressingDb.DenotesSuppressed mailEnv ⟨["x@y"], [], []⟩ ∧
      suppressingDb.NeverSent mailEnv ⟨["x@y"], [], []⟩ := by
  have hdenotes : suppressingDb.DenotesSuppressed mailEnv ⟨["x@y"], [], []⟩ :=
    ⟨"x@y", by decide +kernel, by decide +kernel, "x@y", by decide +kernel, by decide +kernel⟩
  have hblank : ∀ v, mailEnv.toLowerCase v = "" → v = "" := by
    intro v hv
    have hmap : v.toList.map Char.toLower = [] := String.ofList_injective hv
    exact String.toList_injective (List.map_eq_nil_iff.1 hmap)
  exact ⟨hdenotes, (unsent_iff_refused mailEnv mailEnv_lowersOnce hblank suppressingDb
    (by decide +kernel) ⟨["x@y"], [], []⟩).2 (fun _ => .inl (by decide +kernel)) hdenotes⟩

/-- That database with a job for the suppressed address with a display name. -/
def namedDb : Db :=
  suppressingDb.sendable "<job@internal.mailagents>" ⟨"mbx", "t", "a@b", "active"⟩
    ⟨["Name <x@y>"], [], []⟩

/-- With a display name it is sent to. -/
theorem named_recipient_sent :
    ¬ (suppressingDb.DenotesSuppressed mailEnv ⟨["Name <x@y>"], [], []⟩ →
      suppressingDb.NeverSent mailEnv ⟨["Name <x@y>"], [], []⟩) := by
  intro h
  have hdenotes : suppressingDb.DenotesSuppressed mailEnv ⟨["Name <x@y>"], [], []⟩ :=
    ⟨"Name <x@y>", by decide +kernel, by decide +kernel, "x@y", by decide +kernel,
      by decide +kernel⟩
  obtain ⟨e, he, hsends⟩ : ∃ e ∈ ((startSend mailEnv namedDb "job").exec
      (turns () 20)).world.trace, e.label.sends = true := by decide +kernel
  have hunsent := h hdenotes namedDb "job" sendableJob
    (sendablePayload ⟨["Name <x@y>"], [], []⟩) rfl rfl (by decide +kernel) rfl
    (sendRecipients_sendablePayload _) (turns () 20) e he
  rw [hsends] at hunsent
  cases hunsent

end MailRuntime
