import MailRuntime.Js.Decoding
import MailRuntime.Mail.Entities
import MailRuntime.Mail.Mime

/-!
# Built messages as MIME entities

What `buildRawMimeMessage` writes is the text of an entity: of a leaf if the message has a text or
an HTML and no more, of a multipart with those two in any other case without attachments, and of a
multipart with that one and the attachments. Header values have no line feeds after they are
normalized, and boundaries have none at all.
-/

namespace MailRuntime

open Js

attribute [local instance] decidableCharacters decidableCharacter

/-! ### Header values -/

theorem lf_not_mem_unfoldChars (l : List Char) : '\n' ∉ unfoldChars l := by
  fun_induction unfoldChars l with
  | case1 => exact List.not_mem_nil
  | case2 rest ih =>
    rw [List.mem_cons, not_or]
    exact ⟨by decide, ih⟩
  | case3 rest ih =>
    rw [List.mem_cons, not_or]
    exact ⟨by decide, ih⟩
  | case4 c rest _ hc ih =>
    rw [List.mem_cons, not_or]
    exact ⟨fun h => hc h.symm, ih⟩

theorem trimChars_sublist (l : List Char) : (trimChars l).Sublist l := by
  have h := (List.dropWhile_sublist isSpace (l := (l.dropWhile isSpace).reverse)).reverse
  rw [List.reverse_reverse] at h
  exact h.trans (List.dropWhile_sublist isSpace)

theorem lf_not_mem_normalizeHeaderValue (value : String) :
    '\n' ∉ (normalizeHeaderValue value).toList := by
  rw [normalizeHeaderValue, trim, String.toList_ofList, String.toList_ofList]
  exact fun h => lf_not_mem_unfoldChars _ ((trimChars_sublist _).subset h)

theorem lf_not_mem_join {separator : String} (hseparator : '\n' ∉ separator.toList)
    {values : List String} (hvalues : ∀ v ∈ values, '\n' ∉ v.toList) :
    '\n' ∉ (join separator values).toList := by
  fun_induction join separator values with
  | case1 => exact List.not_mem_nil
  | case2 item => exact hvalues item List.mem_cons_self
  | case3 item rest _ ih =>
    rw [String.toList_append, String.toList_append, List.mem_append, List.mem_append]
    rintro ((h | h) | h)
    · exact hvalues item List.mem_cons_self h
    · exact hseparator h
    · exact ih (fun v hv => hvalues v (List.mem_cons_of_mem _ hv)) h

theorem lf_not_mem_append {a b : String} (ha : '\n' ∉ a.toList) (hb : '\n' ∉ b.toList) :
    '\n' ∉ (a ++ b).toList := by
  rw [String.toList_append, List.mem_append, not_or]
  exact ⟨ha, hb⟩

/-! ### Lines -/

/-- Lines are joined by line breaks. -/
theorem toList_join_append {lines lines' : List String} (h : lines' ≠ []) :
    (join "\r\n" (lines ++ lines')).toList =
      lines.flatMap (fun line => line.toList ++ crlf) ++ (join "\r\n" lines').toList := by
  induction lines with
  | nil => rfl
  | cons line lines ih =>
    obtain ⟨next, rest, hne⟩ := List.exists_cons_of_ne_nil
      (List.append_ne_nil_of_right_ne_nil lines h)
    have hjoin : join "\r\n" (line :: (lines ++ lines')) =
        line ++ "\r\n" ++ join "\r\n" (lines ++ lines') := by
      rw [hne]
      rfl
    have hcrlf : "\r\n".toList = crlf := rfl
    rw [List.cons_append, hjoin, String.toList_append, String.toList_append, ih,
      List.flatMap_cons, hcrlf]
    simp only [List.append_assoc]

/-- A blank line, and the lines after it. -/
theorem toList_join_blank {lines lines' : List String} (h : lines' ≠ []) :
    (join "\r\n" (lines ++ "" :: lines')).toList =
      lines.flatMap (fun line => line.toList ++ crlf) ++ (crlf ++ (join "\r\n" lines').toList) := by
  rw [toList_join_append (List.cons_ne_nil _ _)]
  have hblank : (join "\r\n" ([""] ++ lines')).toList = crlf ++ (join "\r\n" lines').toList :=
    toList_join_append h
  rw [← List.singleton_append, hblank]

/-! ### Header fields -/

theorem text_plainField {name value : String} (hname : '\n' ∉ name.toList ∧ ':' ∉ name.toList ∧
    ∀ c, name.toList.head? = some c → isFoldSpace c = false) (hvalue : '\n' ∉ value.toList) :
    (plainField name value hname hvalue).text = (name ++ ": " ++ value).toList := by
  rw [String.toList_append, String.toList_append, List.append_assoc]
  show name.toList ++ ':' :: (' ' :: value.toList ++ []) = _
  rw [List.append_nil]
  rfl

/-- The field of a header. -/
def valueField (name : String) (hname : '\n' ∉ name.toList ∧ ':' ∉ name.toList ∧
    ∀ c, name.toList.head? = some c → isFoldSpace c = false) (value : String) : Field :=
  plainField name (normalizeHeaderValue value) hname (lf_not_mem_normalizeHeaderValue value)

/-- The field of a header with a list of values. -/
def listField (name : String) (hname : '\n' ∉ name.toList ∧ ':' ∉ name.toList ∧
    ∀ c, name.toList.head? = some c → isFoldSpace c = false) (separator : String)
    (hseparator : '\n' ∉ separator.toList) (values : List String) : Field :=
  plainField name (join separator (values.map normalizeHeaderValue)) hname
    (lf_not_mem_join hseparator fun v hv => by
      obtain ⟨value, -, rfl⟩ := List.mem_map.1 hv
      exact lf_not_mem_normalizeHeaderValue value)

namespace BuildMimeInput

/-- The fields of the headers up to the content type. -/
def fields (input : BuildMimeInput) : List Field :=
  [valueField "From" (by decide) input.sender, listField "To" (by decide) ", " (by decide) input.toList,
    valueField "Subject" (by decide) input.subject,
    plainField "MIME-Version" "1.0" (by decide) (by decide)] ++
  ((input.date.filter truthy).map (valueField "Date" (by decide))).toList ++
  ((input.messageId.filter truthy).map (valueField "Message-ID" (by decide))).toList ++
  (if input.cc.isEmpty then [] else [listField "Cc" (by decide) ", " (by decide) input.cc]) ++
  (if input.bcc.isEmpty then [] else [listField "Bcc" (by decide) ", " (by decide) input.bcc]) ++
  (if input.replyTo.isEmpty then []
    else [listField "Reply-To" (by decide) ", " (by decide) input.replyTo]) ++
  ((input.inReplyTo.filter truthy).map (valueField "In-Reply-To" (by decide))).toList ++
  (if input.references.isEmpty then []
    else [listField "References" (by decide) " " (by decide) input.references])

/-- They are the header lines. -/
theorem headerText_fields (input : BuildMimeInput) :
    headerText input.fields = input.headers.flatMap fun line => line.toList ++ crlf := by
  have hvalue : ∀ name hname value, headerText [valueField name hname value] =
      (name ++ ": " ++ normalizeHeaderValue value).toList ++ crlf := by
    intro name hname value
    rw [headerText, List.flatMap_cons, List.flatMap_nil, List.append_nil, valueField,
      text_plainField]
  have hoption : ∀ name hname value,
      headerText (((value.filter truthy).map (valueField name hname)).toList) =
        (optionalHeader name value).flatMap fun line => line.toList ++ crlf := by
    intro name hname value
    rw [optionalHeader]
    cases value.filter truthy with
    | none => rfl
    | some v =>
      refine (hvalue name hname v).trans ?_
      simp
  have hlist : ∀ name hname separator hseparator values,
      headerText [listField name hname separator hseparator values] =
        (listHeader name separator values).toList ++ crlf := by
    intro name hname separator hseparator values
    rw [headerText, List.flatMap_cons, List.flatMap_nil, List.append_nil, listField,
      text_plainField, listHeader]
  have hlists : ∀ name hname separator hseparator values,
      headerText (if values.isEmpty then [] else [listField name hname separator hseparator values]) =
        (optionalListHeader name separator values).flatMap fun line => line.toList ++ crlf := by
    intro name hname separator hseparator values
    rw [optionalListHeader]
    split
    · rfl
    · refine (hlist name hname separator hseparator values).trans ?_
      simp
  have happend : ∀ l l', headerText (l ++ l') = headerText l ++ headerText l' := fun l l' =>
    List.flatMap_append
  have hfour : headerText [valueField "From" (by decide) input.sender,
      listField "To" (by decide) ", " (by decide) input.toList,
      valueField "Subject" (by decide) input.subject,
      plainField "MIME-Version" "1.0" (by decide) (by decide)] =
      ["From: " ++ normalizeHeaderValue input.sender, listHeader "To" ", " input.toList,
        "Subject: " ++ normalizeHeaderValue input.subject, "MIME-Version: 1.0"].flatMap
          fun line => line.toList ++ crlf := by
    simp only [headerText, List.flatMap_cons, List.flatMap_nil, valueField, listField,
      text_plainField, listHeader]
    rfl
  simp only [fields, headers, happend, hfour, hoption, hlists, List.flatMap_append]

end BuildMimeInput

/-! ### Boundaries -/

/-- A boundary that `randomBoundary` draws. -/
structure Boundary (label : String) where
  hex : String
  digits : ∀ c ∈ hex.toList, c ∈ "0123456789abcdef".toList

/-- The text of a boundary. -/
def Boundary.text {label : String} (b : Boundary label) : String :=
  "mailagents-" ++ label ++ "-" ++ b.hex

/-- The characters of a label. -/
def labelChars : List Char := "abcdefghijklmnopqrstuvwxyz0123456789-".toList

theorem Boundary.mem_labelChars {label : String} (hlabel : ∀ c ∈ label.toList, c ∈ labelChars)
    (b : Boundary label) : ∀ c ∈ b.text.toList, c ∈ labelChars := by
  intro c hc
  simp only [Boundary.text, String.toList_append, List.mem_append] at hc
  rcases hc with ((hc | hc) | hc) | hc
  · revert c
    decide
  · exact hlabel c hc
  · revert c
    decide
  · have hall : ∀ c ∈ "0123456789abcdef".toList, c ∈ labelChars := by decide
    exact hall c (b.digits c hc)

/-! ### Entities -/

/-- The entity with more header fields, before its own. -/
def Entity.withFields (more : List Field) : Entity → Entity
  | .leaf fields body => .leaf (more ++ fields) body
  | .multipart fields boundary preamble parts epilogue =>
    .multipart (more ++ fields) boundary preamble parts epilogue

theorem Entity.text_withFields (more : List Field) (e : Entity) :
    (e.withFields more).text = headerText more ++ e.text := by
  have happend : headerText (more ++ e.fields) = headerText more ++ headerText e.fields :=
    List.flatMap_append
  have hfields : (e.withFields more).fields = more ++ e.fields := by cases e <;> rfl
  have hbody : (e.withFields more).body = e.body := by cases e <;> rfl
  rw [Entity.text, Entity.text, hfields, hbody, happend, List.append_assoc]

theorem Entity.partsText_append (boundary : List Char) (parts parts' : List Entity) :
    Entity.partsText boundary (parts ++ parts') =
      Entity.partsText boundary parts ++ Entity.partsText boundary parts' := by
  induction parts with
  | nil => rfl
  | cons part parts ih => simp only [List.cons_append, Entity.partsText, ih, List.append_assoc]

/-- Lines, each with its line break. -/
theorem flatMap_lines {lines : List String} (h : lines ≠ []) :
    lines.flatMap (fun line => line.toList ++ crlf) = (join "\r\n" lines).toList ++ crlf := by
  have hjoin : (join "\r\n" (lines ++ [""])).toList =
      lines.flatMap (fun line => line.toList ++ crlf) ++ (join "\r\n" [""]).toList :=
    toList_join_append (List.cons_ne_nil "" [])
  have hjoin' : (join "\r\n" (lines ++ [""])).toList = (join "\r\n" lines).toList ++ crlf := by
    rw [join_append h (List.cons_ne_nil "" []), String.toList_append, String.toList_append]
    exact List.append_nil _
  rw [← hjoin', hjoin]
  exact (List.append_nil _).symm

/-- A part after its delimiter, as lines. -/
theorem partsText_lines {part : Entity} {lines : List String} (hlines : lines ≠ [])
    (hpart : part.text = (join "\r\n" lines).toList) (boundary : String) :
    Entity.partsText boundary.toList [part] =
      (("--" ++ boundary) :: lines).flatMap fun line => line.toList ++ crlf := by
  have htext : Entity.partsText boundary.toList [part] =
      Entity.delimiter boundary.toList ++ (crlf ++ part.text ++ crlf ++ []) := rfl
  have hdelimiter : ("--" ++ boundary).toList = Entity.delimiter boundary.toList := by
    rw [String.toList_append]
    rfl
  rw [htext, hpart, List.flatMap_cons, flatMap_lines hlines, hdelimiter]
  simp only [List.append_nil, List.append_assoc]

/-- The text of an entity with a few headers, as lines. -/
theorem text_eq_lines {e : Entity} {lines bodyLines : List String}
    (hheader : headerText e.fields = lines.flatMap fun line => line.toList ++ crlf)
    (hbodyLines : bodyLines ≠ []) (hbody : e.body = (join "\r\n" bodyLines).toList) :
    e.text = (join "\r\n" (lines ++ "" :: bodyLines)).toList := by
  rw [Entity.text, toList_join_blank hbodyLines, hheader, hbody]

/-- The entity of a text in base64. -/
def textEntity (subtype : String) (hsubtype : '\n' ∉ subtype.toList) (content : String) : Entity :=
  .leaf [plainField "Content-Type" ("text/" ++ subtype ++ "; charset=\"UTF-8\"") (by decide)
      (lf_not_mem_append (lf_not_mem_append (by decide) hsubtype) (by decide)),
    plainField "Content-Transfer-Encoding" "base64" (by decide) (by decide)]
    (foldBase64 (textToBase64 content)).toList

/-- The line that says that a part is in base64. -/
theorem toList_transferEncoding : "Content-Transfer-Encoding: base64".toList =
    "Content-Transfer-Encoding".toList ++ (": ".toList ++ "base64".toList) := by decide

theorem text_textEntity {subtype : String} (hsubtype : '\n' ∉ subtype.toList) (content : String) :
    (textEntity subtype hsubtype content).text =
      (join "\r\n" (textLines subtype content)).toList := by
  have hlines : textLines subtype content =
      ["Content-Type: text/" ++ subtype ++ "; charset=\"UTF-8\"",
        "Content-Transfer-Encoding: base64"] ++ "" :: [foldBase64 (textToBase64 content)] := rfl
  have htype : "Content-Type: text/".toList =
      "Content-Type".toList ++ (": ".toList ++ "text/".toList) := by decide
  rw [hlines]
  refine text_eq_lines ?_ (List.cons_ne_nil _ []) rfl
  simp only [textEntity, Entity.fields, headerText, List.flatMap_cons, List.flatMap_nil,
    text_plainField, String.toList_append, htype, toList_transferEncoding, List.append_assoc]

namespace BuildMimeInput

variable (input : BuildMimeInput) (mixed : Boundary "mixed") (alt : Boundary "alt")

/-- The parts of the text and of the HTML. -/
def textParts : List Entity :=
  ((input.text.filter truthy).map (textEntity "plain" (by decide))).toList ++
    ((input.html.filter truthy).map (textEntity "html" (by decide))).toList

theorem lf_not_mem_boundary {label : String} (hlabel : ∀ c ∈ label.toList, c ∈ labelChars)
    (b : Boundary label) : '\n' ∉ b.text.toList := by
  intro h
  have := b.mem_labelChars hlabel _ h
  revert this
  decide

/-- The multipart of the text and the HTML. -/
def alternativeEntity : Entity :=
  .multipart [plainField "Content-Type" ("multipart/alternative; boundary=\"" ++ alt.text ++ "\"")
      (by decide) (lf_not_mem_append (lf_not_mem_append (by decide)
        (lf_not_mem_boundary (by decide) alt)) (by decide))]
    alt.text.toList none input.textParts none

theorem text_alternativeEntity :
    (input.alternativeEntity alt).text = (join "\r\n" (input.alternatives alt.text)).toList := by
  have hpart : ∀ subtype hsubtype content,
      Entity.partsText alt.text.toList
        (((content : Option String).filter truthy).map (textEntity subtype hsubtype)).toList =
        (textPart alt.text subtype content).flatMap fun line => line.toList ++ crlf := by
    intro subtype hsubtype content
    rw [textPart]
    cases content.filter truthy with
    | none => rfl
    | some v =>
      exact partsText_lines (List.cons_ne_nil _ _) (text_textEntity hsubtype v) alt.text
  have hlines : input.alternatives alt.text =
      ["Content-Type: multipart/alternative; boundary=\"" ++ alt.text ++ "\""] ++
        "" :: ((textPart alt.text "plain" input.text ++ textPart alt.text "html" input.html) ++
          ["--" ++ alt.text ++ "--"]) := by
    simp [alternatives]
  rw [hlines]
  refine text_eq_lines ?_ (List.append_ne_nil_of_right_ne_nil _ (List.cons_ne_nil _ [])) ?_
  · simp only [alternativeEntity, Entity.fields, headerText, List.flatMap_cons, List.flatMap_nil,
      text_plainField, String.toList_append, List.append_assoc]
    rfl
  · rw [toList_join_append (List.cons_ne_nil _ []), List.flatMap_append, ← hpart "plain" (by decide),
      ← hpart "html" (by decide), ← Entity.partsText_append]
    have hlast : (join "\r\n" ["--" ++ alt.text ++ "--"]).toList =
        Entity.delimiter alt.text.toList ++ ['-', '-'] := by
      show ("--" ++ alt.text ++ "--").toList = _
      simp only [String.toList_append, List.append_assoc]
      rfl
    rw [hlast]
    rfl

end BuildMimeInput

/-- The entity of an attachment. -/
def attachmentEntity (attachment : MimeAttachment) : Entity :=
  .leaf [plainField "Content-Type" (normalizeHeaderValue attachment.contentType ++ "; name=\"" ++
        normalizeHeaderValue attachment.filename ++ "\"") (by decide)
      (lf_not_mem_append (lf_not_mem_append (lf_not_mem_append
        (lf_not_mem_normalizeHeaderValue _) (by decide)) (lf_not_mem_normalizeHeaderValue _))
        (by decide)),
    plainField "Content-Disposition" ("attachment; filename=\"" ++
        normalizeHeaderValue attachment.filename ++ "\"") (by decide)
      (lf_not_mem_append (lf_not_mem_append (by decide) (lf_not_mem_normalizeHeaderValue _))
        (by decide)),
    plainField "Content-Transfer-Encoding" "base64" (by decide) (by decide)]
    (foldBase64 (toBase64 attachment.content)).toList

theorem partsText_attachmentEntity (boundary : String) (attachment : MimeAttachment) :
    Entity.partsText boundary.toList [attachmentEntity attachment] =
      (attachmentPart boundary attachment).flatMap fun line => line.toList ++ crlf := by
  let lines := ["Content-Type: " ++ normalizeHeaderValue attachment.contentType ++ "; name=\"" ++
      normalizeHeaderValue attachment.filename ++ "\"",
    "Content-Disposition: attachment; filename=\"" ++ normalizeHeaderValue attachment.filename ++
      "\"", "Content-Transfer-Encoding: base64"]
  have htext : (attachmentEntity attachment).text =
      (join "\r\n" (lines ++ "" :: [foldBase64 (toBase64 attachment.content)])).toList := by
    have htype : "Content-Type: ".toList = "Content-Type".toList ++ ": ".toList := by decide
    have hdisposition : "Content-Disposition: attachment; filename=\"".toList =
        "Content-Disposition".toList ++ (": ".toList ++ "attachment; filename=\"".toList) := by
      decide
    refine text_eq_lines ?_ (List.cons_ne_nil _ []) rfl
    simp only [lines, attachmentEntity, Entity.fields, headerText, List.flatMap_cons,
      List.flatMap_nil, text_plainField, String.toList_append, htype, hdisposition,
      toList_transferEncoding, List.append_assoc]
  exact partsText_lines (List.cons_ne_nil _ _) htext boundary

theorem partsText_attachments (boundary : String) (attachments : List MimeAttachment) :
    Entity.partsText boundary.toList (attachments.map attachmentEntity) =
      (attachments.flatMap (attachmentPart boundary)).flatMap fun line => line.toList ++ crlf := by
  induction attachments with
  | nil => rfl
  | cons attachment rest ih =>
    rw [List.map_cons, ← List.singleton_append, Entity.partsText_append,
      partsText_attachmentEntity, ih, List.flatMap_cons, List.flatMap_append]

namespace BuildMimeInput

variable (input : BuildMimeInput) (mixed : Boundary "mixed") (alt : Boundary "alt")

/-- The multipart of the alternatives and the attachments. -/
def mixedEntity : Entity :=
  .multipart [plainField "Content-Type" ("multipart/mixed; boundary=\"" ++ mixed.text ++ "\"")
      (by decide) (lf_not_mem_append (lf_not_mem_append (by decide)
        (lf_not_mem_boundary (by decide) mixed)) (by decide))]
    mixed.text.toList none
    (input.alternativeEntity alt :: input.attachments.map attachmentEntity) none

/-- What the message has under its headers. -/
def content : Entity :=
  if input.attachments.isEmpty then
    match input.text.filter truthy, input.html.filter truthy with
    | none, some html => textEntity "html" (by decide) html
    | some text, none => textEntity "plain" (by decide) text
    | _, _ => input.alternativeEntity alt
  else input.mixedEntity mixed alt

/-- The message. -/
def entity : Entity := (input.content mixed alt).withFields input.fields

theorem text_content :
    (input.content mixed alt).text = (join "\r\n" (input.body mixed.text alt.text)).toList := by
  rw [content, body]
  by_cases hattachments : input.attachments.isEmpty = true
  · rw [if_pos hattachments, if_pos hattachments]
    rcases input.text.filter truthy with _ | text <;> rcases input.html.filter truthy with _ | html
    · exact input.text_alternativeEntity alt
    · exact text_textEntity (by decide) html
    · exact text_textEntity (by decide) text
    · exact input.text_alternativeEntity alt
  · rw [if_neg hattachments, if_neg hattachments]
    have hlines : ["Content-Type: multipart/mixed; boundary=\"" ++ mixed.text ++ "\"", "",
        "--" ++ mixed.text] ++ input.alternatives alt.text ++
          input.attachments.flatMap (attachmentPart mixed.text) ++ ["--" ++ mixed.text ++ "--"] =
        ["Content-Type: multipart/mixed; boundary=\"" ++ mixed.text ++ "\""] ++
          "" :: ((("--" ++ mixed.text) :: input.alternatives alt.text ++
            input.attachments.flatMap (attachmentPart mixed.text)) ++
            ["--" ++ mixed.text ++ "--"]) := by simp
    have halternatives : input.alternatives alt.text ≠ [] := by simp [alternatives]
    rw [hlines]
    refine text_eq_lines ?_ (List.append_ne_nil_of_right_ne_nil _ (List.cons_ne_nil _ [])) ?_
    · simp only [mixedEntity, Entity.fields, headerText, List.flatMap_cons, List.flatMap_nil,
        text_plainField, String.toList_append, List.append_assoc]
      rfl
    · rw [toList_join_append (List.cons_ne_nil _ []), List.flatMap_append,
        ← partsText_lines halternatives (input.text_alternativeEntity alt),
        ← partsText_attachments, ← Entity.partsText_append]
      have hlast : (join "\r\n" ["--" ++ mixed.text ++ "--"]).toList =
          Entity.delimiter mixed.text.toList ++ ['-', '-'] := by
        show ("--" ++ mixed.text ++ "--").toList = _
        simp only [String.toList_append, List.append_assoc]
        rfl
      rw [hlast]
      rfl

/-- **A built message is the text of its entity.** -/
theorem utf8Decode_bytes :
    utf8Decode (input.bytes mixed.text alt.text) = (input.entity mixed alt).text := by
  have hbody : input.body mixed.text alt.text ≠ [] := by
    rw [body]
    split
    · split <;> simp [textLines, alternatives]
    · simp
  have htext : (join "\r\n" (input.headers ++ input.body mixed.text alt.text)).toList =
      (input.entity mixed alt).text := by
    rw [toList_join_append hbody, ← headerText_fields, ← text_content, entity,
      Entity.text_withFields]
  have hhead : (join "\r\n" (input.headers ++ input.body mixed.text alt.text)).toList.head? =
      some 'F' := by
    have hheaders : input.headers = ("From: " ++ normalizeHeaderValue input.sender) ::
        input.headers.tail := rfl
    rw [toList_join_append hbody, hheaders, List.flatMap_cons, String.toList_append]
    rfl
  rw [bytes, utf8Decode_utf8 (by rw [hhead]; decide), htext]

end BuildMimeInput

end MailRuntime
