import MailRuntime.Js.Encoding
import MailRuntime.Storage.Statements

/-!
# Raw MIME messages

`lib/mime.ts`, which writes a message with attachments, with reply headers or for a local
mailbox as the bytes of an e-mail. The boundaries are drawn; all else is a function of the
input.
-/

namespace MailRuntime

open Js Interaction

/-- `MimeAttachment`. -/
structure MimeAttachment where
  filename : String
  contentType : String
  content : List UInt8
deriving DecidableEq, Repr

/-- `BuildMimeInput`; a list that is missing is empty. -/
structure BuildMimeInput where
  sender : String
  toList : List String
  cc : List String := []
  bcc : List String := []
  replyTo : List String := []
  subject : String
  text : Option String
  html : Option String
  date : Option String := none
  messageId : Option String := none
  inReplyTo : Option String
  references : List String
  attachments : List MimeAttachment
deriving DecidableEq, Repr

/-- `${name}: ${values joined}`, of a header with a list of values. -/
def listHeader (name separator : String) (values : List String) : String :=
  name ++ ": " ++ join separator (values.map normalizeHeaderValue)

/-- The header of a list, if it is not empty. -/
def optionalListHeader (name separator : String) (values : List String) : List String :=
  if values.isEmpty then [] else [listHeader name separator values]

/-- The header of a value, if there is one and it is not empty. -/
def optionalHeader (name : String) (value : Option String) : List String :=
  ((value.filter truthy).map fun v => name ++ ": " ++ normalizeHeaderValue v).toList

/-- The headers of a message, up to the content type. -/
def BuildMimeInput.headers (input : BuildMimeInput) : List String :=
  ["From: " ++ normalizeHeaderValue input.sender,
    listHeader "To" ", " input.toList,
    "Subject: " ++ normalizeHeaderValue input.subject,
    "MIME-Version: 1.0"] ++
  optionalHeader "Date" input.date ++
  optionalHeader "Message-ID" input.messageId ++
  optionalListHeader "Cc" ", " input.cc ++
  optionalListHeader "Bcc" ", " input.bcc ++
  optionalListHeader "Reply-To" ", " input.replyTo ++
  optionalHeader "In-Reply-To" input.inReplyTo ++
  optionalListHeader "References" " " input.references

/-- The lines of a text in base64, under its content type. -/
def textLines (subtype content : String) : List String :=
  ["Content-Type: text/" ++ subtype ++ "; charset=\"UTF-8\"",
    "Content-Transfer-Encoding: base64", "", foldBase64 (textToBase64 content)]

/-- The part of a text, if there is one and it is not empty. -/
def textPart (boundary subtype : String) (content : Option String) : List String :=
  match content.filter truthy with
  | some content => ("--" ++ boundary) :: textLines subtype content
  | none => []

/-- The parts of the text and of the HTML, between boundaries. -/
def BuildMimeInput.alternatives (input : BuildMimeInput) (altBoundary : String) : List String :=
  ["Content-Type: multipart/alternative; boundary=\"" ++ altBoundary ++ "\"", ""] ++
  textPart altBoundary "plain" input.text ++ textPart altBoundary "html" input.html ++
  ["--" ++ altBoundary ++ "--"]

/-- The part of an attachment. -/
def attachmentPart (boundary : String) (attachment : MimeAttachment) : List String :=
  let filename := normalizeHeaderValue attachment.filename
  ["--" ++ boundary,
    "Content-Type: " ++ normalizeHeaderValue attachment.contentType ++ "; name=\"" ++ filename ++
      "\"",
    "Content-Disposition: attachment; filename=\"" ++ filename ++ "\"",
    "Content-Transfer-Encoding: base64", "", foldBase64 (toBase64 attachment.content)]

/-- The lines after the headers. -/
def BuildMimeInput.body (input : BuildMimeInput) (mixedBoundary altBoundary : String) :
    List String :=
  if input.attachments.isEmpty then
    match input.text.filter truthy, input.html.filter truthy with
    | none, some html => textLines "html" html
    | some text, none => textLines "plain" text
    | _, _ => input.alternatives altBoundary
  else
    ["Content-Type: multipart/mixed; boundary=\"" ++ mixedBoundary ++ "\"", "",
      "--" ++ mixedBoundary] ++
    input.alternatives altBoundary ++
    input.attachments.flatMap (attachmentPart mixedBoundary) ++
    ["--" ++ mixedBoundary ++ "--"]

/-- `randomBoundary(label)`. -/
def randomBoundary (env : Env) (label : String) : Op String :=
  Prog.draw fun s =>
    ("mailagents-" ++ label ++ "-" ++ env.randomHex s.draws, { s with draws := s.draws + 1 })

/-- The bytes of the message between two boundaries. -/
def BuildMimeInput.bytes (input : BuildMimeInput) (mixedBoundary altBoundary : String) :
    List UInt8 :=
  utf8 (join "\r\n" (input.headers ++ input.body mixedBoundary altBoundary))

/-- `buildRawMimeMessage`. -/
def buildRawMimeMessage (env : Env) (input : BuildMimeInput) : Op (List UInt8) := do
  let mixedBoundary ← randomBoundary env "mixed"
  let altBoundary ← randomBoundary env "alt"
  pure (input.bytes mixedBoundary altBoundary)

@[simp] theorem touches_buildRawMimeMessage {ts : List Table} {env : Env}
    {input : BuildMimeInput} : Touches ts (buildRawMimeMessage env input) :=
  .bind (Prog.each_draw.2 fun _ t => by cases t <;> rfl) fun _ =>
    .bind (Prog.each_draw.2 fun _ t => by cases t <;> rfl) fun _ => trivial

end MailRuntime
