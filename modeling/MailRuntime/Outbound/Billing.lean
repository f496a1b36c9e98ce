import MailRuntime.Outbound.Policy

/-!
# Settling and releasing a send

`lib/outbound-billing.ts`. A send that needs credits is settled by a debit in the ledger,
whose reference is the outbound job, followed by the capture of the reserved credits; a
send that will not happen has its credits released. Neither looks at the job.
-/

namespace MailRuntime

open Js Interaction

/-- What a settlement is told of a send. -/
structure UsageInput where
  tenantId : String
  messageId : String
  outboundJobId : String
  draftId : Option String
  draftCreatedVia : Option String
  sourceMessageId : Option String
  recipients : Recipients
deriving DecidableEq, Repr

/-- `buildOutboundUsageLedgerMetadata`. -/
def buildOutboundUsageLedgerMetadata (input : UsageInput) (requirement : CreditRequirement) :
    LedgerMetadata :=
  .outboundUsage requirement.reply (.num requirement.creditsRequired) input.messageId
    input.outboundJobId input.draftId input.draftCreatedVia requirement.recipientDomains
    requirement.externalDomains

/-- The settlement of a send that needs credits. -/
def settleRequirement (env : Env) (input : UsageInput) (requirement : CreditRequirement) :
    Op Unit := do
  match ← getTypedCreditLedgerEntryByReferenceId input.tenantId input.outboundJobId with
  | some _ => do
    -- the entry is the record of the settlement: another job may own the reserved credits by now
    let _ ← reconcileTenantAvailableCredits env input.tenantId
    pure ()
  | none => do
    let _ ← appendOutboundUsageLedgerEntry env input.tenantId (usageEntryType requirement.reply)
      (-requirement.creditsRequired) "outbound_send_settlement" input.outboundJobId
      (buildOutboundUsageLedgerMetadata input requirement)
    let _ ← catchAll (captureTenantReservedCredits env input.tenantId requirement.creditsRequired)
      none
    let _ ← reconcileTenantAvailableCredits env input.tenantId
    pure ()

/-- `settleOutboundUsageDebit`. -/
def settleOutboundUsageDebit (env : Env) (input : UsageInput) : Op Unit := do
  let requirement ← getOutboundCreditRequirement env input.recipients input.sourceMessageId
    input.draftCreatedVia
  if requirement.requiresCredits then settleRequirement env input requirement
  else pure ()

/-- `releaseOutboundUsageReservation`; of its input it does not read the job. -/
def releaseOutboundUsageReservation (env : Env) (tenantId : String)
    (sourceMessageId draftCreatedVia : Option String) (recipients : Recipients) : Op Unit := do
  let requirement ← getOutboundCreditRequirement env recipients sourceMessageId draftCreatedVia
  if requirement.requiresCredits then do
    let _ ← releaseTenantReservedCredits env tenantId requirement.creditsRequired
    pure ()
  else pure ()

/-! ### Footprints -/

variable {env : Env} {tenantId : String} {sourceMessageId draftCreatedVia : Option String}
  {recipients : Recipients}

@[simp] theorem touches_getOutboundCreditRequirement {ts : List Table} :
    Touches ts (getOutboundCreditRequirement env recipients sourceMessageId draftCreatedVia) :=
  .bind touches_routeOutboundRecipients fun _ => trivial

theorem touches_releaseTenantReservedCredits {credits : Int} :
    Touches [.accounts] (releaseTenantReservedCredits env tenantId credits) :=
  touches_moveCredits (by simp) fun n t h => by
    obtain rfl := Option.some.inj h
    simp

theorem touches_releaseOutboundUsageReservation :
    Touches [.accounts] (releaseOutboundUsageReservation env tenantId sourceMessageId
      draftCreatedVia recipients) := by
  refine .bind touches_getOutboundCreditRequirement fun requirement => ?_
  split
  · exact .bind touches_releaseTenantReservedCredits fun _ => trivial
  · trivial

theorem touches_appendOutboundUsageLedgerEntry {entryType : EntryType} {creditsDelta : Int}
    {reason referenceId : String} {metadata : LedgerMetadata} :
    Touches [.ledger] (appendOutboundUsageLedgerEntry env tenantId entryType creditsDelta reason
      referenceId metadata) := by
  refine .bind touches_createId fun _ => .bind touches_nowIso fun _ =>
    .bind touches_insertLedgerEntry fun _ =>
    .bind touches_getTypedCreditLedgerEntryByReferenceId fun entry => ?_
  cases entry with
  | none => exact .bind touches_undoInsert fun _ => trivial
  | some _ => trivial

theorem touches_settleOutboundUsageDebit {input : UsageInput} :
    Touches [.accounts, .ledger] (settleOutboundUsageDebit env input) := by
  refine .bind touches_getOutboundCreditRequirement fun requirement => ?_
  split
  · refine .bind touches_getTypedCreditLedgerEntryByReferenceId fun entry => ?_
    cases entry with
    | some _ => exact .bind touches_reconcileTenantAvailableCredits fun _ => trivial
    | none =>
      refine .bind (touches_appendOutboundUsageLedgerEntry.mono (by simp)) fun _ =>
        .bind (.catchAll touches_captureTenantReservedCredits) fun _ =>
        .bind touches_reconcileTenantAvailableCredits fun _ => trivial
  · trivial

end MailRuntime
