import MailRuntime.Repositories.Agents

/-!
# Routing of recipients

`lib/local-recipient-routing.ts`: each recipient is normalized, and is internal if an
active mailbox has its address, else external. The result keeps the order and the
repetitions of the three lists.
-/

namespace MailRuntime

open Js Interaction

/-- `LocalMailboxRecipient`. -/
structure LocalMailboxRecipient where
  address : String
  mailboxId : String
  tenantId : String
deriving DecidableEq, Repr

/-- The three lists of recipients. -/
structure Recipients where
  toList : List String
  ccList : List String
  bccList : List String
deriving DecidableEq, Repr

/-- `RoutedOutboundRecipients`. -/
structure RoutedRecipients where
  toInternal : List LocalMailboxRecipient
  ccInternal : List LocalMailboxRecipient
  bccInternal : List LocalMailboxRecipient
  toExternal : List String
  ccExternal : List String
  bccExternal : List String
deriving DecidableEq, Repr

/-- `normalizeRecipientAddress`. -/
def normalizeRecipientAddress (env : Env) (value : String) : String := env.toLowerCase (trim value)

/-- `normalizeRecipientList`. -/
def normalizeRecipientList (env : Env) (values : List String) : List String :=
  (values.map (normalizeRecipientAddress env)).filter truthy

/-- `recipientDomain`: what follows the last `@`, if there is something. -/
def recipientDomain (address : String) : Option String :=
  let chars := address.toList
  if chars.contains '@' then
    let domain := String.ofList (chars.reverse.takeWhile (· ≠ '@')).reverse
    if truthy domain then some domain else none
  else none

/-- `uniqueDomains`. -/
def uniqueDomains (addresses : List String) : List String :=
  (addresses.filterMap recipientDomain).eraseDups

namespace RoutedRecipients

/-- The addresses of the internal recipients. -/
def internalAddresses (r : RoutedRecipients) : List String :=
  (r.toInternal ++ r.ccInternal ++ r.bccInternal).map LocalMailboxRecipient.address

/-- The external recipients. -/
def externalAddresses (r : RoutedRecipients) : List String :=
  r.toExternal ++ r.ccExternal ++ r.bccExternal

/-- `externalRecipientCount`. -/
def externalRecipientCount (r : RoutedRecipients) : Nat := r.externalAddresses.length

/-- `internalRecipientCount`. -/
def internalRecipientCount (r : RoutedRecipients) : Nat := r.internalAddresses.length

/-- `externalToRecipientCount`. -/
def externalToRecipientCount (r : RoutedRecipients) : Nat := r.toExternal.length

/-- `recipientDomains`. -/
def recipientDomains (r : RoutedRecipients) : List String :=
  uniqueDomains (r.internalAddresses ++ r.externalAddresses)

/-- `internalDomains`. -/
def internalDomains (r : RoutedRecipients) : List String := uniqueDomains r.internalAddresses

/-- `externalDomains`. -/
def externalDomains (r : RoutedRecipients) : List String := uniqueDomains r.externalAddresses

end RoutedRecipients

/-- The recipient of a local mailbox, if it is active. -/
def localRecipient (address : String) (mailbox : Option MailboxRow) :
    Option LocalMailboxRecipient :=
  match mailbox with
  | some m => if m.status = "active" then some ⟨address, m.id, m.tenantId⟩ else none
  | none => none

/-- The mailbox of each address, looked up one by one: `mailboxEntries`. -/
def localMailboxes (env : Env) : List String → Op (List LocalMailboxRecipient)
  | [] => pure []
  | address :: rest => do
    let mailbox ← getMailboxByAddress env address
    let others ← localMailboxes env rest
    pure ((localRecipient address mailbox).toList ++ others)

/-- The local mailbox of an address among those found: `localMailboxes.get(address)`. -/
def localMailbox (found : List LocalMailboxRecipient) (address : String) :
    Option LocalMailboxRecipient := found.find? fun m => m.address == address

/-- `splitList`, the internal part. -/
def splitInternal (found : List LocalMailboxRecipient) (addresses : List String) :
    List LocalMailboxRecipient := addresses.filterMap (localMailbox found)

/-- `splitList`, the external part. -/
def splitExternal (found : List LocalMailboxRecipient) (addresses : List String) : List String :=
  addresses.filter fun address => (localMailbox found address).isNone

/-- The three lists, normalized. -/
def Recipients.normalized (env : Env) (r : Recipients) : Recipients :=
  ⟨normalizeRecipientList env r.toList, normalizeRecipientList env r.ccList,
    normalizeRecipientList env r.bccList⟩

/-- The three lists split by the mailboxes found. -/
def Recipients.routed (found : List LocalMailboxRecipient) (r : Recipients) : RoutedRecipients where
  toInternal := splitInternal found r.toList
  ccInternal := splitInternal found r.ccList
  bccInternal := splitInternal found r.bccList
  toExternal := splitExternal found r.toList
  ccExternal := splitExternal found r.ccList
  bccExternal := splitExternal found r.bccList

/-- `routeOutboundRecipients`. -/
def routeOutboundRecipients (env : Env) (recipients : Recipients) : Op RoutedRecipients := do
  let normalized := recipients.normalized env
  let unique := (normalized.toList ++ normalized.ccList ++ normalized.bccList).eraseDups
  let found ← localMailboxes env unique
  pure (normalized.routed found)

/-- `getOutboundRecipientRoutingValidationError`. -/
def getOutboundRecipientRoutingValidationError (r : RoutedRecipients) : Option String :=
  if 0 < r.externalRecipientCount ∧ r.externalToRecipientCount = 0 then
    some "External delivery requires at least one external To recipient after internal routing"
  else none

/-! ### Running it alone -/

/-- The mailboxes of a list of addresses, in a database. -/
def Db.localMailboxes (s : Db) (env : Env) (addresses : List String) :
    List LocalMailboxRecipient :=
  addresses.flatMap fun a => (localRecipient a (s.mailboxByAddress env a)).toList

/-- How a database routes recipients. -/
def Db.route (s : Db) (env : Env) (recipients : Recipients) : RoutedRecipients :=
  let normalized := recipients.normalized env
  normalized.routed
    (s.localMailboxes env (normalized.toList ++ normalized.ccList ++ normalized.bccList).eraseDups)

variable {env : Env}

theorem run_localMailboxes (addresses : List String) (s : Db) :
    (localMailboxes env addresses).run s = (.ok (s.localMailboxes env addresses), s) := by
  induction addresses with
  | nil => rfl
  | cons address rest ih =>
    simp only [localMailboxes, Prog.run_bind, getMailboxByAddress, query, Prog.run_perform,
      Prog.andThen_ok, ih, Prog.pure_eq, Prog.run_ret]
    rfl

@[simp] theorem run_routeOutboundRecipients (recipients : Recipients) (s : Db) :
    (routeOutboundRecipients env recipients).run s = (.ok (s.route env recipients), s) := by
  simp only [routeOutboundRecipients, Prog.run_bind, run_localMailboxes, Prog.andThen_ok,
    Prog.pure_eq, Prog.run_ret]
  rfl

/-- Routing depends on the mailboxes alone. -/
theorem Db.route_congr {s s' : Db} (h : s.mailboxes = s'.mailboxes) (recipients : Recipients) :
    s.route env recipients = s'.route env recipients := by
  simp only [Db.route, Db.localMailboxes, Db.mailboxByAddress, h]

theorem touches_localMailboxes {ts : List Table} (addresses : List String) :
    Touches ts (localMailboxes env addresses) := by
  induction addresses with
  | nil => trivial
  | cons address rest ih =>
    exact .bind touches_getMailboxByAddress fun _ => .bind ih fun _ => trivial

@[simp] theorem touches_routeOutboundRecipients {ts : List Table} {recipients : Recipients} :
    Touches ts (routeOutboundRecipients env recipients) :=
  .bind (touches_localMailboxes _) fun _ => trivial

/-! ### Looking up -/

theorem localRecipient_address {address : String} {mailbox : Option MailboxRow}
    {recipient : LocalMailboxRecipient} (h : localRecipient address mailbox = some recipient) :
    recipient.address = address := by
  unfold localRecipient at h
  split at h
  · split at h
    · obtain rfl := Option.some.inj h
      rfl
    · cases h
  · cases h

/-- A mailbox that is looked up among those found is the one of that address. -/
theorem localMailbox_localMailboxes {s : Db} {address : String} {addresses : List String} :
    localMailbox (s.localMailboxes env addresses) address =
      if address ∈ addresses then localRecipient address (s.mailboxByAddress env address)
      else none := by
  induction addresses with
  | nil => rfl
  | cons a rest ih =>
    have hsplit : localMailbox (s.localMailboxes env (a :: rest)) address =
        (localMailbox (localRecipient a (s.mailboxByAddress env a)).toList address).or
          (localMailbox (s.localMailboxes env rest) address) := by
      simp only [localMailbox, Db.localMailboxes, List.flatMap_cons, List.find?_append]
    rw [hsplit, ih]
    by_cases ha : address = a
    · subst ha
      rw [if_pos List.mem_cons_self]
      rcases hr : localRecipient address (s.mailboxByAddress env address) with _ | r
      · simp [localMailbox]
      · have := localRecipient_address hr
        simp [localMailbox, this]
    · have hnone : localMailbox (localRecipient a (s.mailboxByAddress env a)).toList address =
          none := by
        rcases hr : localRecipient a (s.mailboxByAddress env a) with _ | r
        · rfl
        · have hra := localRecipient_address hr
          simp only [localMailbox, Option.toList_some, List.find?_cons, List.find?_nil, hra]
          rw [beq_false_of_ne (Ne.symm ha)]
      rw [hnone, Option.none_or]
      simp [List.mem_cons, ha]

end MailRuntime
