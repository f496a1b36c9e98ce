import MailRuntime.Outbound.InternalDelivery

/-!
# Sending through a provider

`lib/outbound-provider.ts` and `lib/ses.ts`. A draft goes to SES or to Resend as a JSON body.
SES takes it in a simple form, or as raw e-mail if it has attachments or reply headers. What a
provider answers is `Env.fetchProvider`, of which nothing is assumed; with `SES_MOCK_SEND` no
provider is called and the answer is made up here.
-/

namespace MailRuntime

open Js Interaction

/-- `OutboundDraftSendInput`; a tag is its name and its value. -/
structure OutboundDraftSendInput where
  sender : String
  toList : List String
  cc : List String
  bcc : List String
  subject : String
  text : Option String
  html : Option String
  inReplyTo : Option String
  references : List String
  attachmentRefs : List AttachmentRef
  replyToAddresses : List String
  emailTags : List (String × String)
deriving DecidableEq, Repr

/-- `getOutboundProvider`. -/
def getOutboundProvider (env : Env) : Provider :=
  if env.toLowerCase (trim (env.OUTBOUND_PROVIDER.getD "ses")) = "resend" then .resend else .ses

/-- A list of strings as JSON. -/
def stringArray (items : List String) : Json := .arr (items.map .str)

/-! ### Bodies -/

namespace OutboundDraftSendInput

/-- The envelope of a body for SES. -/
def destination (input : OutboundDraftSendInput) : Json := .obj [
  ("ToAddresses", stringArray input.toList),
  ("CcAddresses", stringArray input.cc),
  ("BccAddresses", stringArray input.bcc)]

/-- The tags of a body for SES. -/
def sesTags (input : OutboundDraftSendInput) : Json :=
  .arr (input.emailTags.map fun (name, value) => .obj [("Name", .str name), ("Value", .str value)])

/-- A text of a body for SES. -/
def sesText (data : String) : Json := .obj [("Data", .str data), ("Charset", .str "UTF-8")]

/-- The content of the simple form. -/
def simpleContent (input : OutboundDraftSendInput) : Json := .obj [("Simple", .obj [
  ("Subject", sesText input.subject),
  ("Body", .obj (Draft.stored [
    ("Text", (input.text.filter truthy).map sesText),
    ("Html", (input.html.filter truthy).map sesText)]))])]

/-- The content of the raw form. -/
def rawContent (rawData : List UInt8) : Json :=
  .obj [("Raw", .obj [("Data", .str (toBase64 rawData))])]

/-- The body of `sendSesSimpleEmail`. -/
def simpleBody (env : Env) (input : OutboundDraftSendInput) : Json := .obj [
  ("FromEmailAddress", .str input.sender),
  ("Destination", input.destination),
  ("ReplyToAddresses", stringArray input.replyToAddresses),
  ("Content", input.simpleContent),
  ("ConfigurationSetName", .str env.SES_CONFIGURATION_SET),
  ("EmailTags", input.sesTags)]

/-- The body of `sendSesRawEmail`. -/
def rawBody (env : Env) (input : OutboundDraftSendInput) (rawData : List UInt8) : Json := .obj [
  ("FromEmailAddress", .str input.sender),
  ("Destination", input.destination),
  ("Content", rawContent rawData),
  ("ConfigurationSetName", .str env.SES_CONFIGURATION_SET),
  ("EmailTags", input.sesTags)]

/-- The raw e-mail that SES is given. -/
def mime (input : OutboundDraftSendInput) (attachments : List MimeAttachment) :
    BuildMimeInput where
  sender := input.sender
  toList := input.toList
  cc := input.cc
  bcc := input.bcc
  replyTo := input.replyToAddresses
  subject := input.subject
  text := input.text
  html := input.html
  inReplyTo := input.inReplyTo
  references := input.references
  attachments := attachments

/-- `hasRawFeatures`. -/
def hasRawFeatures (input : OutboundDraftSendInput) : Bool :=
  !input.attachmentRefs.isEmpty || input.inReplyTo.any truthy || !input.references.isEmpty

/-- A list of a body for Resend, unless it is empty. -/
def nonEmpty (items : List String) : Option Json :=
  if items.isEmpty then none else some (stringArray items)

/-- The reply headers of a body for Resend. -/
def resendHeaders (input : OutboundDraftSendInput) : Fields := Draft.stored [
  ("In-Reply-To", ofString (input.inReplyTo.filter truthy)),
  ("References", if input.references.isEmpty then none else some (.str (join " " input.references)))]

/-- The body of `sendWithResend`. -/
def resendBody (input : OutboundDraftSendInput) (attachments : List MimeAttachment) : Json :=
  let headers := input.resendHeaders
  .obj (Draft.stored [
    ("from", some (.str input.sender)),
    ("to", some (stringArray input.toList)),
    ("cc", nonEmpty input.cc),
    ("bcc", nonEmpty input.bcc),
    ("subject", some (.str input.subject)),
    ("html", ofString input.html),
    ("text", ofString input.text),
    ("reply_to", match input.replyToAddresses with
      | [] => none
      | [address] => some (.str address)
      | addresses => some (stringArray addresses)),
    ("headers", if headers.isEmpty then none else some (.obj headers)),
    ("attachments", if attachments.isEmpty then none else some (.arr (attachments.map fun a =>
      .obj [("filename", .str a.filename), ("content", .str (toBase64 a.content))]))),
    ("tags", if input.emailTags.isEmpty then none else some (.arr (input.emailTags.map
      fun (name, value) => .obj [("name", .str name), ("value", .str value)])))])

end OutboundDraftSendInput

/-! ### Answers -/

/-- `response.text()`, up to white space. -/
def ResponseBody.toText (env : Env) : ResponseBody → String
  | .blank => ""
  | .text raw => raw
  | .json value => env.stringify value

/-- `response.json()`. -/
def ResponseBody.toJson : ResponseBody → Op Json
  | .blank | .text _ => throw (Exn.error "Unexpected token in JSON")
  | .json value => pure value

/-- `response.ok`, of an answer that came. -/
def acceptedByProvider : Option (Nat × ResponseBody) → Bool
  | some (status, _) => 200 ≤ status && status < 300
  | none => false

/-- A body is posted to a provider, which answers with an identifier under a key. -/
def postToProvider (env : Env) (outboundJobId name key : String) (body : Json) : Op String := do
  match ← call (fun answer => .callProvider outboundJobId (acceptedByProvider answer)) fun n =>
    env.fetchProvider n body with
  | none => throw Exn.d1
  | some (status, answer) =>
    if 200 ≤ status ∧ status < 300 then do
      let value ← answer.toJson
      let result ← recordFields value
      match (string (result.lookup key)).filter truthy with
      | some id => pure id
      | none => throw (Exn.error (name ++ " send succeeded without " ++ key))
    else
      throw (Exn.error (name ++ " send failed (" ++ toString status ++ "): " ++ answer.toText env))

/-- An identifier for a message that no provider is given. -/
def mockMessageId (env : Env) (outboundJobId kind : String) : Op String := do
  mark (.callProvider outboundJobId true)
  Prog.draw fun s =>
    (kind ++ "-" ++ toString (env.clock s.draws) ++ "-" ++ env.randomSuffix s.draws,
      { s with draws := s.draws + 1 })

/-! ### Sending -/

/-- `sendSesPayload`. -/
def sendSesPayload (env : Env) (outboundJobId : String) (body : Json) : Op String := do
  if env.sesMockSend then mockMessageId env outboundJobId "mock-ses"
  else if env.sesCredentials then postToProvider env outboundJobId "SES" "MessageId" body
  else throw (Exn.error "SES credentials are not configured")

/-- `sendWithSes`. -/
def sendWithSes (env : Env) (outboundJobId : String) (input : OutboundDraftSendInput) :
    Op String := do
  if input.hasRawFeatures then do
    let attachments ← loadAttachments env input.attachmentRefs
    let rawData ← buildRawMimeMessage env (input.mime attachments)
    sendSesPayload env outboundJobId (input.rawBody env rawData)
  else sendSesPayload env outboundJobId (input.simpleBody env)

/-- `sendWithResend`. -/
def sendWithResend (env : Env) (outboundJobId : String) (input : OutboundDraftSendInput) :
    Op String := do
  match env.RESEND_API_KEY.filter truthy with
  | none => throw (Exn.error "Resend API key is not configured")
  | some _ => do
    let attachments ← loadAttachments env input.attachmentRefs
    postToProvider env outboundJobId "Resend" "id" (input.resendBody attachments)

/-- `sendOutboundDraft`, for a job: the identifier that the provider gave the message. -/
def sendOutboundDraft (env : Env) (outboundJobId draftR2Key : String)
    (input : OutboundDraftSendInput) : Op String := do
  mark (.beginSend outboundJobId draftR2Key)
  if env.sesMockSend then mockMessageId env outboundJobId "mock-outbound"
  else if getOutboundProvider env = .resend then sendWithResend env outboundJobId input
  else sendWithSes env outboundJobId input

/-! ### Footprints -/

variable {ts : List Table}

@[simp] theorem touches_toJson {answer : ResponseBody} : Touches ts answer.toJson := by
  cases answer <;> trivial

end MailRuntime
