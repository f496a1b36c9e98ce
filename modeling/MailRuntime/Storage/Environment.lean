import MailRuntime.Js.Json
import Mathlib.Logic.Function.Basic

/-!
# The environment

What the source finds in its `env` bindings and in the JavaScript runtime: the
configuration variables the modelled functions read, and the parts of the runtime and of
other services that are not in the repository. The latter are functions of the number of
the draw (`Db.draws`), so that two calls with the same arguments may answer differently
and nothing is assumed of them. Of the runtime's identifiers one thing is assumed, that
`crypto.randomUUID` never repeats itself.
-/

namespace MailRuntime

open Js

/-- The body of a provider's HTTP answer. -/
inductive ResponseBody where
  /-- Nothing but white space. -/
  | blank
  /-- Text that is not JSON. -/
  | text (raw : String)
  /-- JSON text. -/
  | json (value : Json)

/-- Configuration and runtime. -/
structure Env where
  /-- `createId(prefix)`, on the `n`-th draw. -/
  createId : String → Nat → String
  createId_injective : ∀ p p' m n, createId p m = createId p' n → m = n
  /-- `Date.now()` on the `n`-th draw. -/
  clock : Nat → Nat
  /-- `String.prototype.toLowerCase`. -/
  toLowerCase : String → String
  /-- `String.prototype.localeCompare`, as `left ≤ right`. -/
  localeLe : String → String → Bool
  /-- `JSON.stringify` of a value. -/
  stringify : Json → String
  /-- The SHA-256 of a text's UTF-8 bytes, in hexadecimal. -/
  sha256Hex : String → String
  /-- `atob` followed by `JSON.parse`, where neither throws. -/
  decodeProof : String → Option Json
  /-- An amount in dollars, from the environment's prices: its display (`formatUsd`) and its
  six-decimals integer text (`usdToAtomicSixDecimals`), for so many credits or, at `none`,
  for the upgrade. -/
  price : Option Int → String × String
  X402_DEFAULT_SCHEME : Option String
  X402_DEFAULT_NETWORK_ID : Option String
  X402_DEFAULT_ASSET : Option String
  X402_PAY_TO : Option String
  /-- `X402_UPGRADE_INCLUDED_CREDITS`, where `parsePositiveInteger` accepts it. -/
  upgradeIncludedCredits : Option Nat
  X402_FACILITATOR_URL : Option String
  X402_FACILITATOR_VERIFY_PATH : Option String
  X402_FACILITATOR_SETTLE_PATH : Option String
  X402_FACILITATOR_MOCK_VERIFY_RESULT : Option String
  X402_FACILITATOR_MOCK_SETTLE_RESULT : Option String
  /-- `crypto.randomUUID` without its dashes, in `randomBoundary`. -/
  randomHex : Nat → String
  /-- `Math.random().toString(36).slice(2, 10)`. -/
  randomSuffix : Nat → String
  /-- `new TextDecoder(label)`, of a label other than `utf-8`: what it decodes bytes to, or
  `none` where there is no such label. -/
  textDecoder : String → Option (List UInt8 → List Char)
  /-- `new Date(ms).toUTCString()`. -/
  toUTCString : Nat → String
  /-- The year and the month of a time, as its ISO text has them. -/
  yearMonth : Nat → String × String
  WEBHOOK_SHARED_SECRET : Option String
  SES_REGION : String
  SES_CONFIGURATION_SET : String
  /-- `SES_MOCK_SEND`, where `isEnabled` accepts it. -/
  sesMockSend : Bool
  /-- `requireSesCredentials` finds both credentials. -/
  sesCredentials : Bool
  OUTBOUND_PROVIDER : Option String
  RESEND_API_KEY : Option String
  /-- `getOutboundSendMaxRetries`. -/
  outboundSendMaxRetries : Nat
  /-- `getOutboundSendInDoubtGraceMs`. -/
  outboundSendInDoubtGraceMs : Nat
  /-- The mail provider's HTTP answer to a body, or `none` if `fetch` throws. -/
  fetchProvider : Nat → Json → Option (Nat × ResponseBody)
  /-- The facilitator's HTTP answer to a body posted to a URL, or `none` if `fetch` throws. -/
  fetchFacilitator : Nat → String → Draft → Option (Nat × ResponseBody)

/-- An identifier that tells the number of the draw. -/
def drawId (n : Nat) : String := String.ofList (List.replicate n 'i')

theorem drawId_injective {m n : Nat} (h : drawId m = drawId n) : m = n := by
  have hlength := congrArg List.length (String.ofList_injective h)
  simpa using hlength

/-- An environment with as little in it as there can be: draws are numbered, a JSON text is its
own hash, hardly anything is configured and no other service answers. -/
def Env.bare : Env where
  createId _ n := drawId n
  createId_injective _ _ _ _ h := drawId_injective h
  clock n := n
  toLowerCase s := s
  localeLe a b := a ≤ b
  stringify _ := ""
  sha256Hex s := s
  decodeProof _ := none
  price _ := ("", "")
  X402_DEFAULT_SCHEME := none
  X402_DEFAULT_NETWORK_ID := none
  X402_DEFAULT_ASSET := none
  X402_PAY_TO := none
  upgradeIncludedCredits := none
  X402_FACILITATOR_URL := none
  X402_FACILITATOR_VERIFY_PATH := none
  X402_FACILITATOR_SETTLE_PATH := none
  X402_FACILITATOR_MOCK_VERIFY_RESULT := none
  X402_FACILITATOR_MOCK_SETTLE_RESULT := none
  randomHex n := drawId n
  randomSuffix n := drawId n
  textDecoder _ := none
  toUTCString _ := ""
  yearMonth _ := ("1970", "01")
  WEBHOOK_SHARED_SECRET := none
  SES_REGION := ""
  SES_CONFIGURATION_SET := ""
  sesMockSend := false
  sesCredentials := true
  OUTBOUND_PROVIDER := none
  RESEND_API_KEY := none
  outboundSendMaxRetries := 3
  outboundSendInDoubtGraceMs := 120000
  fetchProvider _ _ := none
  fetchFacilitator _ _ _ := none

end MailRuntime
