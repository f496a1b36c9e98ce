import MailRuntime.Sending.Suppression

/-!
# Who learns of the Bcc recipients

Two drafts that differ in their Bcc recipients only, and what the consumer makes of them. Local
mailboxes are given the same e-mail, and SES the same content if it takes the drafts in the
simple form. The raw form has a `Bcc` header with the external recipients, so there the content
is the same exactly if the two headers are.
-/

namespace MailRuntime

open Js Interaction

/-! ### What SES is given -/

namespace OutboundDraftSendInput

/-- The body that `sendWithSes` posts, with those attachments and between those boundaries. -/
def sesBody (input : OutboundDraftSendInput) (env : Env) (attachments : List MimeAttachment)
    (mixedBoundary altBoundary : String) : Json :=
  if input.hasRawFeatures then
    input.rawBody env ((input.mime attachments).bytes mixedBoundary altBoundary)
  else input.simpleBody env

/-- What `sendWithSes` reads and draws for the body: attachments and boundaries. -/
def sesParts (input : OutboundDraftSendInput) (env : Env) :
    Op (List MimeAttachment × String × String) := do
  if input.hasRawFeatures then do
    let attachments ← loadAttachments env input.attachmentRefs
    let mixedBoundary ← randomBoundary env "mixed"
    let altBoundary ← randomBoundary env "alt"
    pure (attachments, mixedBoundary, altBoundary)
  else pure ([], "", "")

end OutboundDraftSendInput

/-- SES is given that body, and nothing else. -/
theorem sendWithSes_eq (env : Env) (outboundJobId : String) (input : OutboundDraftSendInput) :
    sendWithSes env outboundJobId input = (do
      let (attachments, mixedBoundary, altBoundary) ← input.sesParts env
      sendSesPayload env outboundJobId
        (input.sesBody env attachments mixedBoundary altBoundary)) := by
  unfold sendWithSes OutboundDraftSendInput.sesParts OutboundDraftSendInput.sesBody
  split
  · simp only [buildRawMimeMessage, bind_assoc, pure_bind]
  · rfl

/-- A body for SES without the envelope, which nobody is shown. -/
def withoutDestination : Json → Json
  | .obj fields => .obj (fields.filter fun field => field.1 != "Destination")
  | value => value

/-! ### The recipients of two drafts -/

section Routing

variable {env : Env} {s : Db} {toList ccList bccList bccList' : List String}

/-- Which recipients of a list are external does not depend on the other recipients. -/
theorem splitExternal_congr {addresses unique unique' : List String}
    (h : ∀ a ∈ addresses, a ∈ unique) (h' : ∀ a ∈ addresses, a ∈ unique') :
    splitExternal (s.localMailboxes env unique) addresses =
      splitExternal (s.localMailboxes env unique') addresses := by
  refine List.filter_congr fun a ha => ?_
  rw [localMailbox_localMailboxes, localMailbox_localMailboxes, if_pos (h a ha),
    if_pos (h' a ha)]

theorem toExternal_route_bcc : (s.route env ⟨toList, ccList, bccList⟩).toExternal =
    (s.route env ⟨toList, ccList, bccList'⟩).toExternal := by
  refine splitExternal_congr (fun a ha => ?_) fun a ha => ?_
  · exact List.mem_eraseDups.2 (List.mem_append_left _ (List.mem_append_left _ ha))
  · exact List.mem_eraseDups.2 (List.mem_append_left _ (List.mem_append_left _ ha))

theorem ccExternal_route_bcc : (s.route env ⟨toList, ccList, bccList⟩).ccExternal =
    (s.route env ⟨toList, ccList, bccList'⟩).ccExternal := by
  refine splitExternal_congr (fun a ha => ?_) fun a ha => ?_
  · exact List.mem_eraseDups.2 (List.mem_append_left _ (List.mem_append_right _ ha))
  · exact List.mem_eraseDups.2 (List.mem_append_left _ (List.mem_append_right _ ha))

end Routing

/-! ### What the recipients receive -/

/-- The consumer hands a draft with those recipients to the provider. -/
def Db.HandsOver (s : Db) (env : Env) (recipients : Recipients) : Prop :=
  s.refuses env recipients = false ∧ (s.route env recipients).externalAddresses ≠ []

namespace SendContext

/-- What the provider is given for a draft with those recipients. -/
def inputTo (c : SendContext) (env : Env) (s : Db) (content : PayloadContent)
    (mailboxAddress : String) (recipients : Recipients) : OutboundDraftSendInput :=
  c.sendInput content mailboxAddress (s.route env recipients)

/-- What the recipients receive is the same for both lists of recipients: the content that SES is
given, if it is given both, and the e-mail for local mailboxes; whatever the attachments hold,
and up to the boundaries, the date and the identifier of the message. -/
structure ReceivedAlike (c : SendContext) (env : Env) (s : Db) (content : PayloadContent)
    (mailboxAddress : String) (recipients recipients' : Recipients) : Prop where
  provider : s.HandsOver env recipients → s.HandsOver env recipients' →
    ∀ attachments mixedBoundary altBoundary,
      withoutDestination ((c.inputTo env s content mailboxAddress recipients).sesBody env
        attachments mixedBoundary altBoundary) =
      withoutDestination ((c.inputTo env s content mailboxAddress recipients').sesBody env
        attachments mixedBoundary altBoundary)
  mailboxes : ∀ date internetMessageId attachments mixedBoundary altBoundary,
    ((c.delivery recipients content (s.route env recipients)).mime date internetMessageId
      attachments).bytes mixedBoundary altBoundary =
    ((c.delivery recipients' content (s.route env recipients')).mime date internetMessageId
      attachments).bytes mixedBoundary altBoundary

end SendContext

/-- SES takes a draft with that content as raw e-mail. -/
def PayloadContent.isRaw (content : PayloadContent) : Bool :=
  !content.attachmentRefs.isEmpty || content.inReplyTo.any truthy || !content.references.isEmpty

/-- Two lists are written alike in a header. -/
def WrittenAlike (values values' : List String) : Prop :=
  (values = [] ↔ values' = []) ∧
  join ", " (values.map normalizeHeaderValue) = join ", " (values'.map normalizeHeaderValue)

theorem optionalListHeader_congr {name : String} {values values' : List String}
    (h : WrittenAlike values values') :
    optionalListHeader name ", " values = optionalListHeader name ", " values' := by
  obtain ⟨hempty, hjoin⟩ := h
  rw [optionalListHeader, optionalListHeader]
  by_cases hv : values = []
  · rw [hv, hempty.1 hv]
  · have hv' : values' ≠ [] := fun h => hv (hempty.2 h)
    rw [if_neg (by simpa using hv), if_neg (by simpa using hv'), listHeader, listHeader, hjoin]

/-- A header among others tells the list. -/
theorem writtenAlike_of_join {name : String} {values values' before rest : List String}
    (hbefore : before ≠ []) (hrest : rest ≠ [])
    (h : join "\r\n" (before ++ (optionalListHeader name ", " values ++ rest)) =
      join "\r\n" (before ++ (optionalListHeader name ", " values' ++ rest))) :
    WrittenAlike values values' := by
  rw [join_append hbefore (by simp [hrest]), join_append hbefore (by simp [hrest]),
    String.append_right_inj] at h
  have hheader : ∀ line : String, join "\r\n" ([line] ++ rest) ≠ join "\r\n" rest := by
    intro line heq
    rw [join_append (by simp) hrest] at heq
    have hlength := congrArg String.length heq
    simp only [String.length_append] at hlength
    have : "\r\n".length = 2 := rfl
    omega
  by_cases hv : values = []
  · by_cases hv' : values' = []
    · rw [hv, hv']
      exact ⟨Iff.rfl, rfl⟩
    · rw [optionalListHeader, optionalListHeader, hv, List.isEmpty_nil, if_pos rfl,
        if_neg (by simpa using hv')] at h
      exact absurd h.symm (hheader _)
  · by_cases hv' : values' = []
    · rw [optionalListHeader, optionalListHeader, hv', List.isEmpty_nil, if_neg (by simpa using hv),
        if_pos rfl] at h
      exact absurd h (hheader _)
    · rw [optionalListHeader, optionalListHeader, if_neg (by simpa using hv),
        if_neg (by simpa using hv'), join_append (by simp) hrest, join_append (by simp) hrest,
        String.append_left_inj, String.append_left_inj] at h
      refine ⟨by simp [hv, hv'], ?_⟩
      exact (String.append_right_inj _).1 h

namespace BuildMimeInput

/-- The headers before that of the Bcc recipients. -/
def headersBeforeBcc (input : BuildMimeInput) : List String :=
  ["From: " ++ normalizeHeaderValue input.sender,
    listHeader "To" ", " input.toList,
    "Subject: " ++ normalizeHeaderValue input.subject,
    "MIME-Version: 1.0"] ++
  optionalHeader "Date" input.date ++
  optionalHeader "Message-ID" input.messageId ++
  optionalListHeader "Cc" ", " input.cc

/-- The lines after the header of the Bcc recipients. -/
def linesAfterBcc (input : BuildMimeInput) (mixedBoundary altBoundary : String) : List String :=
  optionalListHeader "Reply-To" ", " input.replyTo ++
  optionalHeader "In-Reply-To" input.inReplyTo ++
  optionalListHeader "References" " " input.references ++ input.body mixedBoundary altBoundary

theorem bytes_eq (input : BuildMimeInput) (mixedBoundary altBoundary : String) :
    input.bytes mixedBoundary altBoundary = utf8 (join "\r\n" (input.headersBeforeBcc ++
      (optionalListHeader "Bcc" ", " input.bcc ++
        input.linesAfterBcc mixedBoundary altBoundary))) := by
  simp only [bytes, headers, headersBeforeBcc, linesAfterBcc, List.append_assoc]

/-- The bytes of a message with somebody to reply to tell the Bcc recipients, as they are
written. -/
theorem bytes_bcc_iff (input : BuildMimeInput) (hreply : input.replyTo ≠ []) (bcc : List String)
    (mixedBoundary altBoundary : String) :
    input.bytes mixedBoundary altBoundary =
      ({ input with bcc := bcc } : BuildMimeInput).bytes mixedBoundary altBoundary ↔
    WrittenAlike input.bcc bcc := by
  have hrest : input.linesAfterBcc mixedBoundary altBoundary ≠ [] := by
    simp [linesAfterBcc, optionalListHeader, hreply]
  have hbefore : input.headersBeforeBcc ≠ [] := by simp [headersBeforeBcc]
  rw [bytes_eq, bytes_eq]
  constructor
  · intro h
    exact writtenAlike_of_join hbefore hrest (utf8_injective h)
  · intro h
    rw [optionalListHeader_congr h]
    rfl

end BuildMimeInput

section Alike

variable {c : SendContext} {env : Env} {s : Db} {content : PayloadContent}
  {mailboxAddress : String} {recipients recipients' : Recipients}

/-- The content of a draft that SES takes in the simple form does not depend on the recipients. -/
theorem sesBody_simple (hraw : content.isRaw = false) (attachments : List MimeAttachment)
    (mixedBoundary altBoundary : String) :
    withoutDestination ((c.inputTo env s content mailboxAddress recipients).sesBody env
      attachments mixedBoundary altBoundary) =
    withoutDestination ((c.inputTo env s content mailboxAddress recipients').sesBody env
      attachments mixedBoundary altBoundary) := by
  have hsimple : ∀ r, (c.inputTo env s content mailboxAddress r).hasRawFeatures = false :=
    fun _ => hraw
  rw [OutboundDraftSendInput.sesBody, OutboundDraftSendInput.sesBody, hsimple, hsimple]
  rfl

theorem withoutDestination_rawBody (input : OutboundDraftSendInput) (rawData : List UInt8) :
    withoutDestination (input.rawBody env rawData) = .obj [
      ("FromEmailAddress", .str input.sender),
      ("Content", OutboundDraftSendInput.rawContent rawData),
      ("ConfigurationSetName", .str env.SES_CONFIGURATION_SET),
      ("EmailTags", input.sesTags)] := rfl

theorem rawContent_injective {rawData rawData' : List UInt8}
    (h : OutboundDraftSendInput.rawContent rawData =
      OutboundDraftSendInput.rawContent rawData') : rawData = rawData' := by
  have hdata := List.cons.inj (Json.obj.inj h)
  have hobject := List.cons.inj (Json.obj.inj (Prod.mk.inj hdata.1).2)
  exact toBase64_injective (Json.str.inj (Prod.mk.inj hobject.1).2)

/-- The raw content of two drafts with the same other recipients is the same exactly if their
Bcc recipients are written alike. -/
theorem sesBody_raw_iff (hraw : content.isRaw = true)
    (hto : (s.route env recipients).toExternal = (s.route env recipients').toExternal)
    (hcc : (s.route env recipients).ccExternal = (s.route env recipients').ccExternal)
    (attachments : List MimeAttachment) (mixedBoundary altBoundary : String) :
    withoutDestination ((c.inputTo env s content mailboxAddress recipients).sesBody env
      attachments mixedBoundary altBoundary) =
    withoutDestination ((c.inputTo env s content mailboxAddress recipients').sesBody env
      attachments mixedBoundary altBoundary) ↔
    WrittenAlike (s.route env recipients).bccExternal (s.route env recipients').bccExternal := by
  let input := c.inputTo env s content mailboxAddress recipients
  let input' := c.inputTo env s content mailboxAddress recipients'
  have hinput : input.hasRawFeatures = true := hraw
  have hinput' : input'.hasRawFeatures = true := hraw
  have hmime : input'.mime attachments =
      { input.mime attachments with bcc := (s.route env recipients').bccExternal } := by
    simp only [input, input', OutboundDraftSendInput.mime, SendContext.inputTo,
      SendContext.sendInput, hto, hcc]
  have hbytes := BuildMimeInput.bytes_bcc_iff (input.mime attachments)
    (List.cons_ne_nil mailboxAddress []) (s.route env recipients').bccExternal mixedBoundary
    altBoundary
  rw [← hmime] at hbytes
  show withoutDestination (input.sesBody env attachments mixedBoundary altBoundary) =
    withoutDestination (input'.sesBody env attachments mixedBoundary altBoundary) ↔ _
  rw [OutboundDraftSendInput.sesBody, OutboundDraftSendInput.sesBody, if_pos hinput,
    if_pos hinput']
  rw [withoutDestination_rawBody, withoutDestination_rawBody]
  constructor
  · intro h
    have hfields := List.cons.inj (List.cons.inj (Json.obj.inj h)).2
    exact hbytes.1 (rawContent_injective (Prod.mk.inj hfields.1).2)
  · intro h
    rw [hbytes.2 h]
    rfl

end Alike

/-- **Recipients cannot tell two drafts that differ in their Bcc recipients only** exactly if the
drafts are not both handed to the provider, SES takes them in the simple form, or their external
Bcc recipients are written alike. -/
theorem receivedAlike_iff (c : SendContext) (env : Env) (s : Db) (content : PayloadContent)
    (mailboxAddress : String) (toList ccList bccList bccList' : List String) :
    c.ReceivedAlike env s content mailboxAddress ⟨toList, ccList, bccList⟩
      ⟨toList, ccList, bccList'⟩ ↔
    (s.HandsOver env ⟨toList, ccList, bccList⟩ → s.HandsOver env ⟨toList, ccList, bccList'⟩ →
      content.isRaw = true →
      WrittenAlike (s.route env ⟨toList, ccList, bccList⟩).bccExternal
        (s.route env ⟨toList, ccList, bccList'⟩).bccExternal) := by
  constructor
  · intro h hover hover' hraw
    exact (sesBody_raw_iff hraw toExternal_route_bcc ccExternal_route_bcc [] "" "").1
      (h.provider hover hover' [] "" "")
  · intro h
    refine ⟨fun hover hover' attachments mixedBoundary altBoundary => ?_, fun _ _ _ _ _ => rfl⟩
    rcases hraw : content.isRaw with _ | _
    · exact sesBody_simple hraw _ _ _
    · exact (sesBody_raw_iff hraw toExternal_route_bcc ccExternal_route_bcc _ _ _).2
        (h hover hover' hraw)

/-- A reply. -/
def replyContent : PayloadContent where
  sender := "a@b"
  subject := "Re: hi"
  text := some "hello"
  html := none
  inReplyTo := some "<1@x>"
  references := []
  attachmentRefs := []

/-- The recipient of a reply can tell whom the Bcc was for. -/
theorem reply_tells_bcc : ¬ (sendableContext ⟨"mbx", "t", "a@b", "active"⟩
    ⟨["x@y"], [], ["z@y"]⟩).ReceivedAlike mailEnv
      { mailboxes := [⟨"mbx", "t", "a@b", "active"⟩] } replyContent "a@b"
      ⟨["x@y"], [], ["z@y"]⟩ ⟨["x@y"], [], []⟩ := by
  intro h
  have hprovider := h.provider ⟨by decide +kernel, by decide +kernel⟩
    ⟨by decide +kernel, by decide +kernel⟩ [] "" ""
  have halike := (sesBody_raw_iff rfl (by decide +kernel) (by decide +kernel) _ _ _).1 hprovider
  exact absurd (halike.1.2 (by decide +kernel)) (by decide +kernel)

end MailRuntime
