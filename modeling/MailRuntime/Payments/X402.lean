import MailRuntime.Storage.Statements
import MailRuntime.Js.Infinities
import MailRuntime.Js.Latin1
import MailRuntime.Js.Objects

/-!
# Payment proofs and quotes

The x402 protocol as the billing routes use it: the quote a route answers with, the
proof a client sends back in the `payment-signature` header, and the check that the
proof is for the quote. Prices are floating-point arithmetic, which `Env.price` stands
for; all else is the source's.
-/

namespace MailRuntime.X402

open Js Interaction

/-- `ParsedX402PaymentProof`. -/
structure PaymentProof where
  raw : String
  parsed : Option Fields

/-- `X402PaymentRequirement`, as `buildPaymentRequirement` fills it. -/
structure PaymentRequirement where
  scheme : String
  network : String
  asset : String
  amount : String
  payTo : String
  extra : Fields
  resource : String
  description : String
  outputSchema : String

/-- `DEFAULT_X402_TIMEOUT_SECONDS`. -/
def defaultTimeoutSeconds : Int := 300

/-- The requirement as JSON. -/
def PaymentRequirement.toFields (r : PaymentRequirement) : Fields :=
  [("scheme", .str r.scheme), ("network", .str r.network), ("asset", .str r.asset),
    ("amount", .str r.amount), ("payTo", .str r.payTo),
    ("maxTimeoutSeconds", .num defaultTimeoutSeconds), ("extra", .obj r.extra),
    ("maxAmountRequired", .str r.amount), ("resource", .str r.resource),
    ("description", .str r.description), ("mimeType", .str "application/json"),
    ("outputSchema", .str r.outputSchema)]

/-- The resource a quote is for, as JSON. -/
def PaymentRequirement.resourceFields (r : PaymentRequirement) : Fields :=
  [("url", .str r.resource), ("description", .str r.description),
    ("mimeType", .str "application/json")]

/-- `buildPaymentRequiredResponse`. -/
def PaymentRequirement.required (r : PaymentRequirement) : Fields :=
  [("x402Version", .num 2), ("resource", .obj r.resourceFields),
    ("accepts", .arr [.obj r.toFields])]

/-- What a quote is for. -/
inductive QuoteFor where
  /-- So many credits. -/
  | topup (credits : Int)
  /-- The tier `paid_review`, with so many credits. -/
  | upgrade (includedCredits : Int)

/-- `X402TopupQuote` and `X402UpgradeQuote`. -/
structure Quote where
  quoteFor : QuoteFor
  assetSymbol : String
  amountUsd : String
  paymentRequirements : PaymentRequirement

/-- The quote as JSON. -/
def Quote.toFields (q : Quote) : Fields :=
  let r := q.paymentRequirements
  [("scheme", .str r.scheme), ("network", .str r.network), ("asset", .str r.asset),
    ("assetSymbol", .str q.assetSymbol)] ++
  (match q.quoteFor with
    | .topup credits => [("credits", .num credits)]
    | .upgrade includedCredits =>
      [("targetPricingTier", .str "paid_review"), ("includedCredits", .num includedCredits)]) ++
  [("amountUsd", .str q.amountUsd), ("amountAtomic", .str r.amount),
    ("description", .str r.description), ("paymentRequirements", .obj r.toFields),
    ("paymentRequired", .obj r.required)]

/-- `value?.trim() || fallback`. -/
def orDefault (value : Option String) (fallback : String) : String :=
  (value.bind trimmed).getD fallback

/-- The defaults of `getX402Defaults`. -/
structure Defaults where
  scheme : String
  network : String
  asset : String
  payTo : Option String
  upgradeIncludedCredits : Nat

/-- `getX402Defaults`. -/
def getX402Defaults (env : Env) : Defaults where
  scheme := orDefault env.X402_DEFAULT_SCHEME "exact"
  network := orDefault env.X402_DEFAULT_NETWORK_ID "eip155:84532"
  asset := orDefault env.X402_DEFAULT_ASSET "usdc"
  payTo := env.X402_PAY_TO.bind trimmed
  upgradeIncludedCredits := env.upgradeIncludedCredits.getD 10000

/-- `resolveAssetIdentifier`: the asset, its symbol, and the extra fields of a requirement. -/
def resolveAssetIdentifier (env : Env) (network asset : String) : String × String × Fields :=
  let symbol := env.toLowerCase (trim asset)
  if network = "eip155:84532" ∧ symbol = "usdc" then
    ("0x036CbD53842c5426634e7929541eC2318f3dCF7e", "usdc",
      [("assetTransferMethod", .str "eip3009"), ("name", .str "USDC"), ("version", .str "2")])
  else (asset, symbol, [])

/-- `buildX402TopupQuote` and `buildX402UpgradeQuote`, which differ in the texts and in what
is quoted. -/
def buildQuote (env : Env) (tenantId : String) (tenantDid : Option String) (apiBaseUrl : String)
    (path schema description : String) (extra : Draft) (quoteFor : QuoteFor)
    (price : String × String) : Op Quote := do
  let defaults := getX402Defaults env
  let (asset, assetSymbol, assetExtra) :=
    resolveAssetIdentifier env defaults.network defaults.asset
  match defaults.payTo with
  | none => throw (Exn.error "X402 pay-to address is not configured")
  | some payTo =>
    let quotedAt ← nowIso env
    pure {
      quoteFor := quoteFor
      assetSymbol := assetSymbol
      amountUsd := price.1
      paymentRequirements := {
        scheme := defaults.scheme
        network := defaults.network
        asset := asset
        amount := price.2
        payTo := payTo
        extra := (spread assetExtra ([("tenantId", some (.str tenantId)),
          ("tenantDid", ofString tenantDid)] ++ extra ++
          [("quotedAt", some (.num quotedAt))])).stored
        resource := apiBaseUrl ++ path
        description := description
        outputSchema := schema } }

/-- `buildX402TopupQuote`. -/
def buildX402TopupQuote (env : Env) (credits : Int) (tenantId : String)
    (tenantDid : Option String) (apiBaseUrl : String) : Op Quote :=
  buildQuote env tenantId tenantDid apiBaseUrl "/v1/billing/topup"
    "https://api.mailagents.net/schemas/billing/topup-result.json"
    ("Top up " ++ toString credits ++ " Mailagents credits for tenant " ++ tenantId)
    [("credits", some (.num credits))] (.topup credits) (env.price (some credits))

/-- `buildX402UpgradeQuote`. -/
def buildX402UpgradeQuote (env : Env) (tenantId : String) (tenantDid : Option String)
    (apiBaseUrl : String) : Op Quote :=
  let includedCredits : Int := (getX402Defaults env).upgradeIncludedCredits
  buildQuote env tenantId tenantDid apiBaseUrl "/v1/billing/upgrade-intent"
    "https://api.mailagents.net/schemas/billing/upgrade-result.json"
    ("Upgrade tenant " ++ tenantId ++ " to paid_review and grant " ++ toString includedCredits ++
      " Mailagents credits")
    [("targetPricingTier", some (.str "paid_review")),
      ("includedCredits", some (.num includedCredits))]
    (.upgrade includedCredits) (env.price none)

/-! ### Headers -/

/-- `toBase64(JSON.stringify(payload))`: `none` where `btoa` throws. -/
def encodeHeader (payload : Json) : Option String := (btoa (written payload)).map String.ofList

/-- `encodePaymentRequiredHeader`. -/
def encodePaymentRequiredHeader (payload : Json) : Option String := encodeHeader payload

/-- `encodePaymentResponseHeader`. -/
def encodePaymentResponseHeader (payload : Json) : Option String := encodeHeader payload

/-- `parseX402PaymentProof`. -/
def parseX402PaymentProof (env : Env) (raw : Option String) : Option PaymentProof :=
  (raw.bind trimmed).map fun trimmed => ⟨trimmed, asRecord (env.decodeProof trimmed)⟩

/-! ### The check of a proof -/

/-- `X402PaymentProofValidationError`. -/
structure ValidationError where
  code : String
  message : String
  suggestedAction : String
  details : Draft := []

/-- `/^\d+$/`. -/
def isDigits (s : String) : Bool := truthy s && s.toList.all Char.isDigit

/-- `Number.MAX_SAFE_INTEGER`. -/
def maxSafeInteger : Int := 9007199254740991

/-- `asIntegerLikeString`. -/
def asIntegerLikeString : Option Json → Option String
  | some (.num n) => if 0 ≤ n ∧ n ≤ maxSafeInteger then some (toString n) else none
  | some (.str s) => if isDigits (trim s) then some (trim s) else none
  | _ => none

/-- `isHexBytes32`: `/^0x[0-9a-fA-F]{64}$/`. -/
def isHexBytes32 (s : String) : Bool :=
  match s.toList with
  | '0' :: 'x' :: digits => digits.length == 64 && digits.all fun c =>
      c.isDigit || ('a' ≤ c && c ≤ 'f') || ('A' ≤ c && c ≤ 'F')
  | _ => false

/-- The fields of `payload.authorization` that are not there, of those EIP-3009 asks for. -/
def missingAuthorizationFields (authorization : Fields) : List String :=
  let get key := authorization.lookup key
  (if (asString (get "from")).isNone then ["from"] else []) ++
  (if (asString (get "to")).isNone then ["to"] else []) ++
  (if (asIntegerLikeString (get "value")).isNone then ["value"] else []) ++
  (if (asIntegerLikeString (get "validAfter")).isNone then ["validAfter"] else []) ++
  (if (asIntegerLikeString (get "validBefore")).isNone then ["validBefore"] else []) ++
  (if (asString (get "nonce")).isNone then ["nonce"] else [])

/-- The fields in which `accepted` differs from the quote's requirement. -/
def requirementMismatches (accepted : Fields) (r : PaymentRequirement) : List String :=
  [("scheme", r.scheme), ("network", r.network), ("asset", r.asset), ("amount", r.amount),
    ("payTo", r.payTo)].filterMap fun (key, value) =>
      if asString (accepted.lookup key) = some value then none else some key

/-- A list of names as a JSON array. -/
def names (l : List String) : Option Json := some (.arr (l.map .str))

/-- The part of `validateX402PaymentProof` that looks into `payload`. -/
def validatePayload (payload : Fields) (r : PaymentRequirement) : Option ValidationError :=
  if (asString (payload.lookup "signature")).isNone then some {
    code := "missing_x402_signature"
    message := "payload.signature is required in the x402 proof."
    suggestedAction := "Include the signed EIP-3009 signature in payload.signature." }
  else if asString (r.extra.lookup "assetTransferMethod") = some "eip3009" then
    match asRecord (payload.lookup "authorization") with
    | none => some {
        code := "missing_x402_authorization"
        message := "For exact/eip3009 proofs, payload.authorization is required. " ++
          "payload.message is not accepted as a substitute."
        suggestedAction := "Place the signed transfer fields under payload.authorization with " ++
          "from, to, value, validAfter, validBefore, and nonce."
        details := [("expectedFields", names ["payload.authorization.from",
            "payload.authorization.to", "payload.authorization.value",
            "payload.authorization.validAfter", "payload.authorization.validBefore",
            "payload.authorization.nonce"]),
          ("detectedPayloadFields",
            names ((payload.map Prod.fst).insertionSort (· ≤ ·)))] }
    | some authorization =>
      let missing := missingAuthorizationFields authorization
      let nonce := (asString (authorization.lookup "nonce")).getD ""
      if missing ≠ [] then some {
        code := "incomplete_x402_authorization"
        message := "payload.authorization is missing required EIP-3009 fields."
        suggestedAction := "Include from, to, value, validAfter, validBefore, and nonce under " ++
          "payload.authorization."
        details := [("missingFields", names missing)] }
      else if !isHexBytes32 nonce then some {
        code := "invalid_x402_authorization_nonce"
        message := "payload.authorization.nonce must be a 0x-prefixed 32-byte hex string for " ++
          "EIP-3009."
        suggestedAction := "Generate a fresh bytes32 nonce, place it under " ++
          "payload.authorization.nonce, and retry the same billing route."
        details := [("receivedNonce", some (.str nonce))] }
      else none
  else none

/-- `validateX402PaymentProof`. -/
def validateX402PaymentProof (proof : PaymentProof) (r : PaymentRequirement) :
    Option ValidationError :=
  match proof.parsed with
  | none => some {
      code := "invalid_x402_payment_proof_encoding"
      message := "payment-signature must be a base64-encoded JSON x402 proof object."
      suggestedAction := "Base64-encode the full x402 v2 JSON proof and retry the same billing " ++
        "route." }
  | some parsed =>
    if asInteger (parsed.lookup "x402Version") ≠ some 2 then some {
      code := "invalid_x402_payment_proof_version"
      message := "x402Version must be 2."
      suggestedAction := "Send a full x402 v2 proof object with x402Version: 2."
      details := [("expectedVersion", some (.num 2)),
        ("receivedVersion", some ((parsed.lookup "x402Version").getD .null))] }
    else match asString (field (asRecord (parsed.lookup "resource")) "url") with
    | none => some {
        code := "missing_x402_resource"
        message := "resource.url is required in the x402 proof."
        suggestedAction := "Copy quote.paymentRequired.resource into the proof before " ++
          "base64-encoding it and retry " ++ r.resource ++ "."
        details := [("expectedResourceUrl", some (.str r.resource))] }
    | some url =>
      if url ≠ r.resource then some {
        code := "x402_resource_mismatch"
        message := "resource.url must match the billing endpoint that produced the quote."
        suggestedAction := "Use the exact quote.paymentRequired.resource.url from the current " ++
          "quote when building the proof."
        details := [("expectedResourceUrl", some (.str r.resource)),
          ("receivedResourceUrl", some (.str url))] }
      else match asRecord (parsed.lookup "accepted") with
      | none => some {
          code := "missing_x402_accepted_requirement"
          message := "accepted is required in the x402 proof."
          suggestedAction := "Copy quote.paymentRequired.accepts[0] into accepted before retrying." }
      | some accepted =>
        let mismatches := requirementMismatches accepted r
        if mismatches ≠ [] then some {
          code := "x402_requirement_mismatch"
          message := "accepted must match the quote's payment requirement."
          suggestedAction := "Reuse the exact quote.paymentRequired.accepts[0] object from the " ++
            "current quote."
          details := [("mismatchedFields", names mismatches)] }
        else match asRecord (parsed.lookup "payload") with
        | none => some {
            code := "missing_x402_payload"
            message := "payload is required in the x402 proof."
            suggestedAction := "Send a proof with payload.signature and, for EIP-3009, " ++
              "payload.authorization." }
        | some payload => validatePayload payload r

/-! ### The fingerprint of a proof -/

mutual
/-- `normalizeProofValue`: every object made again of its entries in `localeCompare` order. -/
def normalizeProofValue (env : Env) : Json → Json
  | .arr items => .arr (normalizeItems env items)
  | .obj fields =>
    .obj (fromEntries ((normalizeEntries env fields).insertionSort (entryLe env.localeLe)))
  | value => value

/-- `value.map(normalizeProofValue)`. -/
def normalizeItems (env : Env) : List Json → List Json
  | [] => []
  | item :: rest => normalizeProofValue env item :: normalizeItems env rest

/-- The entries of an object, their values normalized. -/
def normalizeEntries (env : Env) : List (String × Json) → List (String × Json)
  | [] => []
  | (key, entry) :: rest => (key, normalizeProofValue env entry) :: normalizeEntries env rest
end

/-- `fingerprintPaymentProof`. -/
def fingerprintPaymentProof (env : Env) (proof : PaymentProof) : String :=
  env.sha256Hex (match proof.parsed with
    | some parsed => env.stringify (normalizeProofValue env (.obj parsed))
    | none => proof.raw)

end MailRuntime.X402
