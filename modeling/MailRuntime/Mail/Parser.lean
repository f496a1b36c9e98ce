import MailRuntime.Js.Text
import MailRuntime.Storage.Environment

/-!
# The parser of raw e-mail

`lib/email-parser.ts`. A text is a list of characters, a header block a list of names in
lower case with their values. The identifier the parser draws for each attachment is left
out, since nothing reads it; the one it draws for a thread key is `none`. The parser
throws in one place: a body of base64 that is not base64.
-/

namespace MailRuntime

open Js

/-- The headers of a block, each name once. -/
abbrev Headers := List (String × List Char)

/-- `ParsedAttachment`. -/
structure ParsedAttachment where
  filename : Option String
  contentType : String
  content : List UInt8
deriving DecidableEq, Repr

/-- `ParsedEmail`; `threadKey` is `none` if it is a new identifier. -/
structure ParsedEmail where
  headers : Headers
  subject : Option String
  messageId : Option String
  inReplyTo : Option String
  sender : Option String
  replyTo : Option String
  references : List String
  text : Option String
  html : Option String
  attachments : List ParsedAttachment
  snippet : Option String
  threadKey : Option String
deriving DecidableEq, Repr

/-! ### Transfer encodings and character sets -/

/-- `decodeQuotedPrintableBytes`; a character is written as its UTF-16 units, modulo 256. -/
def decodeQuotedPrintableBytes : List Char → List UInt8
  | [] => []
  | '=' :: '\r' :: '\n' :: rest => decodeQuotedPrintableBytes rest
  | '=' :: '\n' :: rest => decodeQuotedPrintableBytes rest
  | '=' :: a :: b :: rest =>
    match hexValue a, hexValue b with
    | some high, some low => UInt8.ofNat (high * 16 + low) :: decodeQuotedPrintableBytes rest
    | _, _ => UInt8.ofNat 61 :: decodeQuotedPrintableBytes (a :: b :: rest)
  | c :: rest => (units c).map UInt8.ofNat ++ decodeQuotedPrintableBytes rest

/-- `new TextDecoder(label)`. -/
def textDecoder (env : Env) (label : String) : Option (List UInt8 → List Char) :=
  if label = "utf-8" then some utf8Decode else env.textDecoder label

/-- An encoded word at the head of the text: its character set, its encoding, its value, and
what follows it. -/
def encodedWord (l : List Char) : Option (List Char × Char × List Char × List Char) := do
  let rest ← after "=?" l
  let (charset, rest) ← oneOrMore (· != '?') rest
  match rest with
  | '?' :: encoding :: '?' :: rest =>
    if "BbQq".toList.contains encoding then do
      let rest' ← after "?=" (rest.dropWhile (· != '?'))
      some (charset, encoding, rest.takeWhile (· != '?'), rest')
    else none
  | _ => none

/-- An encoded word at the head with the white space between it and the next. -/
def encodedWordGap (l : List Char) : Option (List Char × List Char) := do
  let (_, _, _, rest) ← encodedWord l
  let (_, next) ← oneOrMore isSpace rest
  let _ ← encodedWord next
  some (l.take (l.length - rest.length), next)

/-- The text of an encoded word, or `none` where its decoding throws. -/
def decodeEncodedWord (env : Env) (charset : List Char) (encoding : Char) (value : List Char) :
    Option (List Char) := do
  let normalizedCharset := env.toLowerCase (trim (String.ofList charset))
  let decoder ← textDecoder env
    (if normalizedCharset = "utf8" then "utf-8" else normalizedCharset)
  if encoding = 'b' ∨ encoding = 'B' then do
    let bytes ← atob (value.filter fun c => !isSpace c)
    some (decoder bytes)
  else some (decoder (decodeQuotedPrintableBytes (value.map fun c => if c = '_' then ' ' else c)))

/-- `decodeHeaderEncodedWord`. -/
def decodeHeaderEncodedWord (env : Env) (input : List Char) : List Char :=
  replaceAll (fun l => do
      let (charset, encoding, value, rest) ← encodedWord l
      some ((decodeEncodedWord env charset encoding value).getD
        (l.take (l.length - rest.length)), rest))
    (replaceAll encodedWordGap input)

/-- What follows `charset =` at the head of the text, without white space. -/
def charsetAt (l : List Char) : Option (List Char) := do
  let rest ← afterIgnoringCase "charset" l
  let rest ← after "=" (rest.dropWhile isSpace)
  some (rest.dropWhile isSpace)

/-- `extractCharset`: a quoted value needs its closing quote. -/
def extractCharset (contentType : List Char) : Option (List Char) :=
  firstMatch (fun l => do
    let rest ← charsetAt l
    let inClass (c : Char) := c != '"' && c != ';' && !isSpace c
    match rest with
    | '"' :: rest => do
      let (charset, rest) ← oneOrMore inClass rest
      if rest.head? = some '"' then some charset else none
    | rest => do
      let (charset, _) ← oneOrMore inClass rest
      some charset) contentType

/-- `normalizeCharsetLabel`. -/
def normalizeCharsetLabel (env : Env) (charset : Option (List Char)) : Option String :=
  match (charset.map fun c => env.toLowerCase (trim (String.ofList c))).filter truthy with
  | some "utf8" | some "us-ascii" | some "unknown-8bit" => some "utf-8"
  | label => label

/-- `decodeBody`: `none` where `atob` throws. -/
def decodeBody (env : Env) (content : List Char) (encoding : Option (List Char)) :
    Option (List UInt8) :=
  match encoding.map fun e => env.toLowerCase (String.ofList e) with
  | some "base64" => atob (content.filter fun c => !isSpace c)
  | some "quoted-printable" => some (decodeQuotedPrintableBytes content)
  | _ => some (utf8 (String.ofList content))

/-- `decodeText`: UTF-8 if the label is missing or not known. -/
def decodeText (env : Env) (bytes : List UInt8) (contentType : List Char) : List Char :=
  match (normalizeCharsetLabel env (extractCharset contentType)).bind (textDecoder env) with
  | some decoder => decoder bytes
  | none => utf8Decode bytes

/-! ### Headers -/

/-- A line break before white space that continues a header, with that white space. -/
def foldedBreak (l : List Char) : Option (List Char × List Char) := do
  let rest ← (after "\r\n" l).or (after "\n" l)
  let (_, rest) ← oneOrMore (fun c => c == ' ' || c == '\t') rest
  some ([' '], rest)

/-- `headers[key] = value`, of an object: a name that is there keeps its place, and the one
name that an object does not store is dropped. -/
def Headers.set (headers : Headers) (key : String) (value : List Char) : Headers :=
  if key = "__proto__" then headers
  else if headers.any fun h => h.1 == key then
    headers.map fun h => if h.1 == key then (key, value) else h
  else headers ++ [(key, value)]

/-- `headers[key]`. -/
def Headers.get (headers : Headers) (key : String) : Option (List Char) := headers.lookup key

/-- A line of a header block. -/
def parseHeaderLine (env : Env) (headers : Headers) (line : List Char) : Headers :=
  match breakAt (startsWith ":") line with
  | none => headers
  | some (name, rest) =>
    headers.set (env.toLowerCase (trim (String.ofList name))) (trimChars (rest.drop 1))

/-- `parseHeadersBlock`. -/
def parseHeadersBlock (env : Env) (rawHeaders : List Char) : Headers :=
  (splitLines (replaceAll foldedBreak rawHeaders)).foldl (parseHeaderLine env) []

/-- `/\r?\n\r?\n/` matches at the head. -/
def isBlankLine (l : List Char) : Bool :=
  match (after "\r\n" l).or (after "\n" l) with
  | some rest => startsWith "\r\n" rest || startsWith "\n" rest
  | none => false

/-- `splitHeaderAndBody`. The body starts after the first two line feeds in a row, wherever
they are, and else four units after the start of the blank line. -/
def splitHeaderAndBody (env : Env) (raw : List Char) : Headers × List Char :=
  match breakAt isBlankLine raw with
  | none => (parseHeadersBlock env raw, [])
  | some (rawHeaders, marker) =>
    (parseHeadersBlock env rawHeaders,
      match breakAt (startsWith "\n\n") raw with
      | some (_, body) => body.drop 2
      | none => dropUnits 4 marker)

/-- `/name"?([^";]+)"?/i`: the value of a parameter, up to a quote or a semicolon. -/
def parameter (name : String) (header : List Char) : Option (List Char) :=
  firstMatch (fun l => do
    let rest ← afterIgnoringCase name l
    let (value, _) ← oneOrMore (fun c => c != '"' && c != ';')
      (if rest.head? = some '"' then rest.drop 1 else rest)
    some value) header

/-- `extractBoundary`. -/
def extractBoundary (contentType : List Char) : Option (List Char) :=
  parameter "boundary=" contentType

/-- `extractFilename`. -/
def extractFilename (contentDisposition : Option (List Char)) (contentType : List Char) :
    Option (List Char) :=
  (contentDisposition.bind (parameter "filename=")).or (parameter "name=" contentType)

/-- `re:`, `fwd:` or `fw:` at the head, and the white space after it. -/
def replyMark (l : List Char) : Option (List Char) := do
  let rest ← (afterIgnoringCase "re:" l).or
    ((afterIgnoringCase "fwd:" l).or (afterIgnoringCase "fw:" l))
  some (rest.dropWhile isSpace)

/-- The text without the marks at its head; the first argument bounds their number. -/
def dropReplyMarks : Nat → List Char → List Char
  | 0, l => l
  | fuel + 1, l =>
    match replyMark l with
    | some rest => dropReplyMarks fuel rest
    | none => l

/-- `normalizeSubject`. -/
def normalizeSubject (env : Env) (subject : Option String) : String :=
  let l := (subject.getD "").toList
  env.toLowerCase (trim (String.ofList (dropReplyMarks l.length l)))

/-- `/<[^>]+>/` at the head, replaced by a blank. -/
def tagAsBlank (l : List Char) : Option (List Char × List Char) := do
  let rest ← after "<" l
  let (_, rest) ← oneOrMore (· != '>') rest
  let rest ← after ">" rest
  some ([' '], rest)

/-- `createSnippet`. -/
def createSnippet (text html : Option (List Char)) : Option String :=
  let source := text.or (html.map (replaceAll tagAsBlank))
  let snippet := (source.map fun l => trimChars (collapseSpaces l)).filter fun l => !l.isEmpty
  snippet.map fun l => String.ofList (takeUnits 160 l)

/-- `[^<>@\s]`. -/
def isAngleAtom (c : Char) : Bool := c != '<' && c != '>' && c != '@' && !isSpace c

/-- An address in angle brackets at the head. -/
def angleAddress (l : List Char) : Option (List Char) := do
  let rest ← after "<" l
  let (name, rest) ← oneOrMore isAngleAtom rest
  let rest ← after "@" rest
  let (domain, rest) ← oneOrMore isAngleAtom rest
  let _ ← after ">" rest
  some (name ++ '@' :: domain)

/-- `\w`. -/
def isWord (c : Char) : Bool := c.isAlphanum || c == '_'

/-- `\b` between the end of one text and the head of another. -/
def wordBoundary (before : Option Char) (rest : List Char) : Bool :=
  before.any isWord != rest.head?.any isWord

/-- `[^\s<>"(),;:]`. -/
def isAddressAtom (c : Char) : Bool :=
  !isSpace c && !(['<', '>', '"', '(', ')', ',', ';', ':'].contains c)

/-- `[…]+\b`: the longest non-empty part of `taken` that ends at a word boundary, where `rest`
follows. -/
def upToBoundary : List Char → List Char → Option (List Char)
  | [], _ => none
  | c :: taken, rest =>
    match upToBoundary taken rest with
    | some longer => some (c :: longer)
    | none => if wordBoundary (some c) (taken ++ rest) then some [c] else none

/-- An address without brackets at the head. -/
def bareAddress (before : Option Char) (l : List Char) : Option (List Char) :=
  if wordBoundary before l then do
    let (name, rest) ← oneOrMore (fun c => isAddressAtom c && c != '@') l
    let rest ← after "@" rest
    let (domain, rest) ← oneOrMore isAddressAtom rest
    let domain ← upToBoundary domain rest
    some (name ++ '@' :: domain)
  else none

/-- The first address without brackets. -/
def firstBareAddress (before : Option Char) : List Char → Option (List Char)
  | [] => none
  | c :: rest => (bareAddress before (c :: rest)).or (firstBareAddress (some c) rest)

/-- `extractPrimaryAddress`. -/
def extractPrimaryAddress (env : Env) (headerValue : Option (List Char)) : Option String := do
  let value ← headerValue
  let address ← (firstMatch angleAddress value).or (firstBareAddress none value)
  some (env.toLowerCase (trim (String.ofList address)))

/-! ### Bodies -/

/-- `part.replace(/^\r?\n/, "")`. -/
def dropFirstBreak (l : List Char) : List Char :=
  ((after "\r\n" l).or (after "\n" l)).getD l

/-- `part.replace(/\r?\n$/, "")`. -/
def dropLastBreak (l : List Char) : List Char :=
  match l.reverse with
  | '\n' :: '\r' :: rest | '\n' :: rest => rest.reverse
  | _ => l

/-- `parseMultipart`. -/
def parseMultipart (env : Env) (body boundary : List Char) : List (Headers × List Char) :=
  let parts := ((splitText ("--".toList ++ boundary) body).drop 1).map dropFirstBreak
  (parts.filter fun part => !part.isEmpty && !startsWith "--" part).map fun part =>
    splitHeaderAndBody env (dropLastBreak part)

/-- What `collectContent` collects. -/
structure Content where
  text : Option (List Char) := none
  html : Option (List Char) := none
  attachments : List ParsedAttachment := []
deriving DecidableEq, Repr

/-- `collectContent` of a part that is not a multipart. -/
def collectPart (env : Env) (headers : Headers) (contentType body : List Char)
    (output : Content) : Option Content := do
  let contentDisposition := headers.get "content-disposition"
  let decoded ← decodeBody env body (headers.get "content-transfer-encoding")
  let filename := extractFilename contentDisposition contentType
  if (contentDisposition.bind (firstMatch (afterIgnoringCase "attachment"))).isSome ||
      filename.isSome then
    some { output with attachments := output.attachments ++
      [⟨filename.map String.ofList, String.ofList contentType, decoded⟩] }
  else if includes (env.toLowerCase (String.ofList contentType)) "text/html" then
    some { output with html := some (decodeText env decoded contentType) }
  else some { output with text := some (decodeText env decoded contentType) }

/-- `collectContent`. The body of a part is shorter than what it is a part of, so that the
first argument does not bind if it is longer than the body. -/
def collectContent (env : Env) : Nat → Headers × List Char → Content → Option Content
  | 0, _, output => some output
  | fuel + 1, (headers, body), output =>
    let contentType := (headers.get "content-type").getD "text/plain".toList
    if startsWith "multipart/" (env.toLowerCase (String.ofList contentType)).toList then
      match extractBoundary contentType with
      | none => some output
      | some boundary =>
        (parseMultipart env body boundary).foldlM
          (fun output part => collectContent env fuel part output) output
    else collectPart env headers contentType body output

/-! ### The whole -/

/-- The headers with the subject decoded, unless it is empty. -/
def decodeSubject (env : Env) (headers : Headers) : Headers :=
  match (headers.get "subject").filter fun subject => !subject.isEmpty with
  | some subject => headers.set "subject" (decodeHeaderEncodedWord env subject)
  | none => headers

/-- `parseRawEmail`: `none` where it throws. -/
def parseRawEmail (env : Env) (raw : List Char) : Option ParsedEmail := do
  let (rawHeaders, body) := splitHeaderAndBody env raw
  let headers := decodeSubject env rawHeaders
  let output ← collectContent env (body.length + 1) (headers, body) {}
  let header := fun key => (headers.get key).map String.ofList
  let references := (splitSpaces ((headers.get "references").getD [])).map String.ofList
  let normalizedSubject := normalizeSubject env (header "subject")
  some {
    headers := headers
    subject := header "subject"
    messageId := header "message-id"
    inReplyTo := header "in-reply-to"
    sender := extractPrimaryAddress env (headers.get "from")
    replyTo := extractPrimaryAddress env (headers.get "reply-to")
    references := references
    text := output.text.map String.ofList
    html := output.html.map String.ofList
    attachments := output.attachments
    snippet := createSnippet output.text output.html
    threadKey := (header "in-reply-to").or (references.getLast?.or
      ((if truthy normalizedSubject then some normalizedSubject else none).or
        ((header "message-id").filter truthy))) }

end MailRuntime
