import MailRuntime.Outbound.Routing
import MailRuntime.Repositories.Drafts

/-!
# The payload of a draft

What the source reads of the R2 object that a draft's payload is stored in. The routes, the
MCP tools, the admin pages and the consumer each have their own reader, with the same
checks under their own exceptions; here it is one reader, told what to throw.
-/

namespace MailRuntime

open Js Interaction

/-- The text of every error about a draft's recipients. -/
def draftRecipientsMessage : String :=
  "Draft recipients must include a non-empty to array and optional cc/bcc string arrays"

/-- An item of a list of recipients, blank if it is not a string. -/
def recipientItem (item : Json) : String := ((string (some item)).map trim).getD ""

/-- `parseRecipientList`, of `to` if it is required: `none` where the source throws. -/
def parseRecipientList (required : Bool) : Option Json → Option (List String)
  | none | some .null => if required then none else some []
  | some (.arr items) =>
    let items := items.map recipientItem
    if items.any (· == "") || (required && items.isEmpty) then none else some items
  | some _ => none

/-- `parseDraftRecipients`: `none` where the source throws. -/
def parseDraftRecipients (payload : Fields) : Option Recipients := do
  let toList ← parseRecipientList true (payload.lookup "to")
  let ccList ← parseRecipientList false (payload.lookup "cc")
  let bccList ← parseRecipientList false (payload.lookup "bcc")
  some ⟨toList, ccList, bccList⟩

/-- `readDraftPayload`, which throws `missing` if there is no such object. -/
def readDraftPayload (missing : Exn) (draftR2Key : String) : Op Fields := do
  match ← r2Get draftR2Key with
  | none => throw missing
  | some object => do
    let payload ← object.parseJson
    recordFields payload

/-- `readDraftRecipients`, which throws `missing` if there is no payload and `invalid` if its
lists are not as they should be. -/
def readDraftRecipients (missing invalid : Exn) (draftR2Key : String) : Op Recipients := do
  let payload ← readDraftPayload missing draftR2Key
  match parseDraftRecipients payload with
  | some recipients => pure recipients
  | none => throw invalid

/-- `readDraftRecipients` of the routes. -/
def readDraftRecipientsForRoute (draftR2Key : String) : Op Recipients :=
  readDraftRecipients (routeRequestError "Draft payload not found" 404)
    (routeRequestError draftRecipientsMessage 400) draftR2Key

/-! ### Attachments -/

/-- `DraftAttachment`. -/
structure DraftAttachment where
  filename : String
  contentType : String
  r2Key : String
deriving DecidableEq, Repr

/-- An item of a list of attachments; only an object can have the three fields. -/
def parseDraftAttachment : Json → Option DraftAttachment
  | .obj fields => do
    let filename ← string (fields.lookup "filename")
    let contentType ← string (fields.lookup "contentType")
    let r2Key ← string (fields.lookup "r2Key")
    some ⟨filename, contentType, r2Key⟩
  | _ => none

/-- `parseDraftAttachments`, which throws `notArray` or `badItem`. -/
def parseDraftAttachments (notArray badItem : Exn) : Option Json → Op (List DraftAttachment)
  | none | some .null => pure []
  | some (.arr items) =>
    match items.mapM parseDraftAttachment with
    | some attachments => pure attachments
    | none => throw badItem
  | some _ => throw notArray

/-! ### Footprints -/

variable {ts : List Table} {missing invalid : Exn} {draftR2Key : String}

@[simp] theorem touches_readDraftPayload : Touches ts (readDraftPayload missing draftR2Key) := by
  refine .bind touches_r2Get fun object => ?_
  cases object with
  | none => trivial
  | some object => exact .bind touches_parseJson fun _ => touches_recordFields

@[simp] theorem touches_readDraftRecipients :
    Touches ts (readDraftRecipients missing invalid draftR2Key) := by
  refine .bind touches_readDraftPayload fun payload => ?_
  split <;> trivial

@[simp] theorem touches_parseDraftAttachments {notArray badItem : Exn} {v : Option Json} :
    Touches ts (parseDraftAttachments notArray badItem v) := by
  rw [parseDraftAttachments.eq_def]
  split
  · trivial
  · trivial
  · split <;> trivial
  · trivial

end MailRuntime
