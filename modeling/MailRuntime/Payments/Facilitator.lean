import MailRuntime.Payments.X402

/-!
# The payment facilitator

`verifyX402Payment` and `settleX402Payment`: a payload and a requirement are posted to
the facilitator, and its answer is read leniently, whatever names it uses. Under the
URL `mock://local` nothing is posted and the answer is made up here. What a real
facilitator answers is `Env.fetchFacilitator`, of which nothing is assumed.
-/

namespace MailRuntime.X402

open Js Interaction

/-- `X402FacilitatorVerificationResponse`. -/
structure VerifyResponse where
  isValid : Bool
  scheme : Option Json
  network : Option Json
  asset : Option Json := none
  resource : Option Json := none
  error : Option String := none
  paymentReference : Option String := none
  raw : Option Fields := none

/-- `X402FacilitatorSettlementResponse`. -/
structure SettleResponse where
  settled : Bool
  scheme : Option Json
  network : Option Json
  asset : Option Json := none
  amount : Option Json := none
  error : Option String := none
  settlementReference : Option String := none
  transactionHash : Option String := none
  raw : Option Fields := none

/-- The response as it is stored. -/
def VerifyResponse.toJson (r : VerifyResponse) : Json :=
  .obj (Draft.stored [("type", some (.str "verify")), ("isValid", some (.bool r.isValid)),
    ("scheme", r.scheme), ("network", r.network), ("asset", r.asset), ("resource", r.resource),
    ("error", ofString r.error), ("paymentReference", ofString r.paymentReference),
    ("raw", r.raw.map .obj)])

/-- The response as it is stored. -/
def SettleResponse.toJson (r : SettleResponse) : Json :=
  .obj (Draft.stored [("type", some (.str "settle")), ("settled", some (.bool r.settled)),
    ("scheme", r.scheme), ("network", r.network), ("asset", r.asset), ("amount", r.amount),
    ("error", ofString r.error), ("settlementReference", ofString r.settlementReference),
    ("transactionHash", ofString r.transactionHash), ("raw", r.raw.map .obj)])

/-- `X402FacilitatorVerificationResult`; `ok` is `response.isValid`. -/
structure VerifyResult where
  status : Nat
  response : VerifyResponse

/-- `X402FacilitatorSettlementResult`; `ok` is `response.settled`. -/
structure SettleResult where
  status : Nat
  response : SettleResponse

/-! ### Reading an answer -/

/-- The first of `keys` with a non-blank string: `extractReference` and
`extractErrorMessage`. -/
def firstString (data : Option Fields) (keys : List String) : Option String :=
  keys.findSome? fun key => asString (field data key)

/-- `extractErrorMessage`. -/
def extractErrorMessage (data : Option Fields) : Option String :=
  firstString data ["error", "message", "reason", "errorReason", "invalidMessage", "invalidReason"]

/-- `parseFacilitatorResponse`. -/
def parseFacilitatorResponse : ResponseBody → Option Fields
  | .blank => none
  | .text raw => some [("raw", .str raw)]
  | .json value => asRecord (some value)

/-- The first of `keys` with a boolean, or whether the status is of the 200s:
`parseVerifyDecision` and `parseSettleDecision`. -/
def parseDecision (data : Option Fields) (status : Nat) (keys : List String) : Bool :=
  (keys.findSome? fun key => asBool (field data key)).getD (200 ≤ status && status < 300)

/-- The value at `key` if it is a non-blank string, else the requirement's. -/
def orRequirement (data : Option Fields) (key : String) (requirement : Option Json) :
    Option Json := (ofString (asString (field data key))).or requirement

/-- `normalizeVerificationResponse`. -/
def normalizeVerificationResponse (requirements : Fields) (status : Nat) (data : Option Fields) :
    VerifyResult :=
  let paymentReference := firstString data ["paymentReference", "paymentId", "reference"]
  let scheme := orRequirement data "scheme" (requirements.lookup "scheme")
  let network := orRequirement data "network" (requirements.lookup "network")
  if parseDecision data status ["isValid", "valid", "verified", "success"] then
    { status := status
      response := {
        isValid := true, scheme := scheme, network := network
        asset := orRequirement data "asset" (requirements.lookup "asset")
        resource := orRequirement data "resource" (requirements.lookup "resource")
        paymentReference := paymentReference, raw := data } }
  else
    { status := status
      response := {
        isValid := false, scheme := scheme, network := network
        error := (extractErrorMessage data).getD
          ("Facilitator verification failed with status " ++ toString status)
        paymentReference := paymentReference, raw := data } }

/-- `normalizeSettlementResponse`. -/
def normalizeSettlementResponse (requirements : Fields) (status : Nat) (data : Option Fields) :
    SettleResult :=
  let settlementReference := firstString data
    ["settlementReference", "transactionHash", "transaction", "txHash", "signature", "reference",
      "id"]
  let scheme := orRequirement data "scheme" (requirements.lookup "scheme")
  let network := orRequirement data "network" (requirements.lookup "network")
  if parseDecision data status ["settled", "success"] then
    { status := status
      response := {
        settled := true, scheme := scheme, network := network
        asset := orRequirement data "asset" (requirements.lookup "asset")
        amount := orRequirement data "amount" (requirements.lookup "amount")
        transactionHash :=
          firstString data ["transactionHash", "transaction", "txHash", "signature"]
        settlementReference := settlementReference, raw := data } }
  else
    { status := status
      response := {
        settled := false, scheme := scheme, network := network
        error := (extractErrorMessage data).getD
          ("Facilitator settlement failed with status " ++ toString status)
        settlementReference := settlementReference, raw := data } }

/-! ### Reading a stored answer -/

/-- `parseStoredX402VerificationResponse`. -/
def parseStoredX402VerificationResponse (value : Option Json) : Option VerifyResponse := do
  let data ← asRecord value
  let scheme ← string (data.lookup "scheme")
  let network ← string (data.lookup "network")
  if string (data.lookup "type") ≠ some "verify" then none
  else if ← asBool (data.lookup "isValid") then
    some {
      isValid := true, scheme := some (.str scheme), network := some (.str network)
      asset := ofString (asString (data.lookup "asset"))
      resource := ofString (asString (data.lookup "resource"))
      paymentReference := asString (data.lookup "paymentReference")
      raw := asRecord (data.lookup "raw") }
  else
    let error ← asString (data.lookup "error")
    some {
      isValid := false, scheme := some (.str scheme), network := some (.str network)
      error := some error
      paymentReference := asString (data.lookup "paymentReference")
      raw := asRecord (data.lookup "raw") }

/-- `parseStoredX402SettlementResponse`. -/
def parseStoredX402SettlementResponse (value : Option Json) : Option SettleResponse := do
  let data ← asRecord value
  let scheme ← string (data.lookup "scheme")
  let network ← string (data.lookup "network")
  if string (data.lookup "type") ≠ some "settle" then none
  else if ← asBool (data.lookup "settled") then
    some {
      settled := true, scheme := some (.str scheme), network := some (.str network)
      asset := ofString (asString (data.lookup "asset"))
      amount := ofString (asString (data.lookup "amount"))
      settlementReference := asString (data.lookup "settlementReference")
      transactionHash := asString (data.lookup "transactionHash")
      raw := asRecord (data.lookup "raw") }
  else
    let error ← asString (data.lookup "error")
    some {
      settled := false, scheme := some (.str scheme), network := some (.str network)
      error := some error
      settlementReference := asString (data.lookup "settlementReference")
      raw := asRecord (data.lookup "raw") }

/-! ### Calling the facilitator -/

/-- `isLocalMockUrl`. -/
def isLocalMockUrl (value : Option String) : Bool := value.map trim == some "mock://local"

/-- `mockDecision`. -/
def mockDecision (env : Env) (value : Option String) (successKeyword : String) : Bool :=
  match value.map fun v => env.toLowerCase (trim v) with
  | none => true
  | some normalized => !truthy normalized || normalized == successKeyword

/-- `trimTrailingSlash`. -/
def trimTrailingSlash (value : String) : String :=
  match value.toList.reverse with
  | '/' :: rest => String.ofList rest.reverse
  | _ => value

/-- `normalizePath`. -/
def normalizePath (value : Option String) (fallback : String) : String :=
  match value.bind trimmed with
  | none => fallback
  | some path => if path.toList.head? = some '/' then path else "/" ++ path

/-- `X402FacilitatorConfig`. -/
structure FacilitatorConfig where
  verifyUrl : String
  settleUrl : String

/-- `getX402FacilitatorConfig`. -/
def getX402FacilitatorConfig (env : Env) : Option FacilitatorConfig :=
  (env.X402_FACILITATOR_URL.bind trimmed).map fun base =>
    let baseUrl := trimTrailingSlash base
    ⟨baseUrl ++ normalizePath env.X402_FACILITATOR_VERIFY_PATH "/verify",
      baseUrl ++ normalizePath env.X402_FACILITATOR_SETTLE_PATH "/settle"⟩

/-- `buildMockVerifyResult`. -/
def buildMockVerifyResult (env : Env) (payload : Json) (requirements : Fields) :
    Op VerifyResult :=
  let get key := requirements.lookup key
  if mockDecision env env.X402_FACILITATOR_MOCK_VERIFY_RESULT "valid" then do
    let reference ← createId env "pay"
    pure {
      status := 200
      response := {
        isValid := true, scheme := get "scheme", network := get "network", asset := get "asset"
        resource := get "resource", paymentReference := some reference
        raw := some (Draft.stored [("isValid", some (.bool true)), ("scheme", get "scheme"),
          ("network", get "network"), ("asset", get "asset"), ("resource", get "resource"),
          ("paymentPayload", some (match payload with
            | .str s => .str s
            | _ => .str "object")),
          ("paymentReference", some (.str reference))]) } }
  else
    let error := "Mock facilitator rejected the payment payload during verification"
    pure {
      status := 402
      response := {
        isValid := false, scheme := get "scheme", network := get "network", error := some error
        raw := some (Draft.stored [("isValid", some (.bool false)), ("error", some (.str error)),
          ("scheme", get "scheme"), ("network", get "network")]) } }

/-- `buildMockSettleResult`. -/
def buildMockSettleResult (env : Env) (requirements : Fields) : Op SettleResult :=
  let get key := requirements.lookup key
  if mockDecision env env.X402_FACILITATOR_MOCK_SETTLE_RESULT "success" then do
    let reference ← createId env "stl"
    let hash ← createId env "tx"
    pure {
      status := 200
      response := {
        settled := true, scheme := get "scheme", network := get "network", asset := get "asset"
        amount := get "amount", settlementReference := some reference
        transactionHash := some hash
        raw := some (Draft.stored [("settled", some (.bool true)), ("scheme", get "scheme"),
          ("network", get "network"), ("asset", get "asset"), ("amount", get "amount"),
          ("transactionHash", some (.str hash)),
          ("settlementReference", some (.str reference))]) } }
  else
    let error := "Mock facilitator rejected the payment during settlement"
    pure {
      status := 402
      response := {
        settled := false, scheme := get "scheme", network := get "network", error := some error
        raw := some (Draft.stored [("settled", some (.bool false)), ("error", some (.str error)),
          ("scheme", get "scheme"), ("network", get "network")]) } }

/-- The body that is posted. -/
def requestBody (payload : Json) (requirements : Fields) (idempotencyKey : String) : Draft :=
  [("x402Version", some (.num 2)), ("paymentPayload", some payload),
    ("paymentRequirements", some (.obj requirements)),
    ("idempotencyKey", some (.str idempotencyKey))]

/-- `postToFacilitator`: the status and the data of the answer. -/
def postToFacilitator (env : Env) (url : String) (body : Draft) : Op (Nat × Option Fields) := do
  match ← call (fun _ => .callFacilitator) fun n => env.fetchFacilitator n url body with
  | none => throw Exn.d1
  | some (status, body) => pure (status, parseFacilitatorResponse body)

/-- `verifyX402Payment`. -/
def verifyX402Payment (env : Env) (payload : Json) (requirements : Fields)
    (idempotencyKey : String) : Op VerifyResult := do
  if isLocalMockUrl env.X402_FACILITATOR_URL then
    buildMockVerifyResult env payload requirements
  else match getX402FacilitatorConfig env with
    | none => throw (Exn.error "X402 facilitator is not configured")
    | some config => do
      let (status, data) ← postToFacilitator env config.verifyUrl
        (requestBody payload requirements idempotencyKey)
      pure (normalizeVerificationResponse requirements status data)

/-- `settleX402Payment`. -/
def settleX402Payment (env : Env) (payload : Json) (requirements : Fields)
    (idempotencyKey : String) : Op SettleResult := do
  if isLocalMockUrl env.X402_FACILITATOR_URL then
    buildMockSettleResult env requirements
  else match getX402FacilitatorConfig env with
    | none => throw (Exn.error "X402 facilitator is not configured")
    | some config => do
      let (status, data) ← postToFacilitator env config.settleUrl
        (requestBody payload requirements idempotencyKey)
      pure (normalizeSettlementResponse requirements status data)

/-! ### Footprints -/

variable {ts : List Table} {env : Env} {payload : Json} {requirements : Fields} {key : String}

theorem touches_postToFacilitator {url : String} {body : Draft} :
    Touches ts (postToFacilitator env url body) := by
  refine .bind (touches_call fun _ => rfl) fun answer => ?_
  cases answer <;> trivial

@[simp] theorem touches_verifyX402Payment :
    Touches ts (verifyX402Payment env payload requirements key) := by
  simp only [verifyX402Payment]
  split
  · unfold buildMockVerifyResult
    split
    · exact .bind touches_createId fun _ => touches_ret _
    · trivial
  · split
    · trivial
    · exact .bind touches_postToFacilitator fun _ => touches_ret _

@[simp] theorem touches_settleX402Payment :
    Touches ts (settleX402Payment env payload requirements key) := by
  simp only [settleX402Payment]
  split
  · unfold buildMockSettleResult
    split
    · exact .bind touches_createId fun _ => .bind touches_createId fun _ => touches_ret _
    · trivial
  · split
    · trivial
    · exact .bind touches_postToFacilitator fun _ => touches_ret _

end MailRuntime.X402
