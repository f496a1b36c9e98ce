import MailRuntime.Js.Decoding
import MailRuntime.Js.JsonText

/-!
# Access tokens

A token is a payload and a signature, both in base64 for URLs, with a point between them.
The payload is the JSON text of the claims, the signature the HMAC of the payload as it
stands in the token.

The MAC is a parameter. It is taken to be ideal: it keeps what was signed with each key,
and a signature verifies for a message only if that message was signed and the signature is
the one it got.
-/

namespace MailRuntime.Auth

open Js

/-! ### Base64 for URLs -/

/-- `toBase64Url`'s letter for a letter of base64. -/
def urlChar (c : Char) : Char := if c = '+' then '-' else if c = '/' then '_' else c

/-- `fromBase64Url`'s letter for a letter of a token. -/
def plainChar (c : Char) : Char := if c = '-' then '+' else if c = '_' then '/' else c

/-- `toBase64Url(input)`. -/
def toBase64Url (input : List UInt8) : String :=
  String.ofList (((base64Chars input).map urlChar).rdropWhile (· == '='))

/-- `text.length`. -/
def unitLength (l : List Char) : Nat := (l.flatMap units).length

/-- The white space that `atob` leaves out. -/
def isAsciiSpace (c : Char) : Bool :=
  c = ' ' || c = '\t' || c = '\n' || c.toNat = 12 || c = '\r'

/-- `text.padEnd(length, "=")`. -/
def padEnd (length : Nat) (l : List Char) : List Char :=
  l ++ List.replicate (length - unitLength l) '='

/-- `fromBase64Url(input)`: `none` where `atob` throws. -/
def fromBase64Url (input : String) : Option (List UInt8) :=
  let padded := padEnd ((unitLength input.toList + 3) / 4 * 4) (input.toList.map plainChar)
  atob (padded.filter fun c => !isAsciiSpace c)

/-! ### Claims -/

/-- A finite number. -/
abbrev Number := { v : Json // isNumber (some v) = true ∧ Proper v }

/-- `AccessTokenClaims`. -/
structure AccessTokenClaims where
  sub : String
  tenantId : String
  agentId : Option String
  scopes : List String
  mailboxIds : Option (List String)
  exp : Number

/-- An array of strings. -/
def stringArray (items : List String) : Json := .arr (items.map .str)

/-- The claims as an object. -/
def AccessTokenClaims.draft (claims : AccessTokenClaims) : Draft := [
  ("sub", some (.str claims.sub)),
  ("tenantId", some (.str claims.tenantId)),
  ("agentId", ofString claims.agentId),
  ("scopes", some (stringArray claims.scopes)),
  ("mailboxIds", claims.mailboxIds.map stringArray),
  ("exp", some claims.exp.1)]

/-- What the claims are after `JSON.parse(JSON.stringify(claims))`. -/
def AccessTokenClaims.json (claims : AccessTokenClaims) : Json := .obj claims.draft.stored

/-! ### The MAC -/

/-- The keys and the messages that were signed with them. -/
abbrev Signed := List (List UInt8 × List UInt8)

/-- HMAC-SHA256: the signature of a message under a key, and the verification of one, which
may depend on what was signed so far. -/
structure Mac where
  sign : List UInt8 → List UInt8 → List UInt8
  verify : Signed → List UInt8 → List UInt8 → List UInt8 → Bool

/-- A signature is 32 bytes, and verifies only for the message that was signed. -/
structure Mac.Ideal (mac : Mac) : Prop where
  length : ∀ key message, (mac.sign key message).length = 32
  verify_iff : ∀ signed key signature message,
    mac.verify signed key signature message = true ↔
      (key, message) ∈ signed ∧ signature = mac.sign key message

/-- `importSigningKey(secret)`: a key without bytes is refused. -/
def importSigningKey (secret : String) : Option (List UInt8) :=
  if utf8 secret = [] then none else some (utf8 secret)

/-- `signPayload`: the signature, and what was signed. -/
def signPayload (mac : Mac) (signed : Signed) (secret payload : String) :
    Option (String × Signed) := do
  let key ← importSigningKey secret
  pure (toBase64Url (mac.sign key (utf8 payload)), (key, utf8 payload) :: signed)

/-- `verifySignature`: `none` where it throws. -/
def verifySignature (mac : Mac) (signed : Signed) (secret payload signature : String) :
    Option Bool := do
  let key ← importSigningKey secret
  let bytes ← fromBase64Url signature
  pure (mac.verify signed key bytes (utf8 payload))

/-! ### Minting and verifying -/

/-- The payload of a token for the claims. -/
def encodePayload (claims : AccessTokenClaims) : String :=
  toBase64Url (utf8 (stringify claims.json))

/-- `mintAccessToken`: the token, and what was signed. -/
def mintAccessToken (mac : Mac) (signed : Signed) (secret : String) (claims : AccessTokenClaims) :
    Option (String × Signed) := do
  let payload := encodePayload claims
  let (signature, signed) ← signPayload mac signed secret payload
  pure (payload ++ "." ++ signature, signed)

/-- `JSON.parse(new TextDecoder().decode(fromBase64Url(payload)))`: `none` where it throws. -/
def decodePayload (payload : String) : Option Json := do
  let bytes ← fromBase64Url payload
  parse (utf8Decode bytes)

/-- A value that counts as true. -/
def isTruthy : Option Json → Bool
  | none | some .null => false
  | some (.bool b) => b
  | some (.num n) => n != 0
  | some (.str s) => truthy s
  | _ => true

/-- `Math.floor(Date.now() / 1000)`. -/
def nowSeconds (now : Int) : Int := now / 1000

/-- What a verification comes to. -/
inductive Verification where
  | threw
  | rejected
  | accepted (claims : Json)

/-- The checks on the claims of a payload whose signature was verified. -/
def checkClaims (now : Int) (claims : Json) : Verification :=
  let fields := fieldsOf (some claims)
  if !isTruthy (fields.lookup "tenantId") || (asArray (fields.lookup "scopes")).isNone ||
      !isNumber (fields.lookup "exp") then .rejected
  else
    match fields.lookup "exp" with
    | some exp => if below (nowSeconds now) exp then .rejected else .accepted claims
    | none => .rejected

/-- `verifyAccessToken`. -/
def verifyAccessToken (mac : Mac) (signed : Signed) (secret token : String) (now : Int) :
    Verification :=
  match splitOnChar '.' token with
  | payload :: signature :: _ =>
    if !truthy payload || !truthy signature then .rejected
    else
      match verifySignature mac signed secret payload signature with
      | none => .threw
      | some false => .rejected
      | some true =>
        match decodePayload payload with
        | none => .rejected
        | some claims => checkClaims now claims
  | _ => .rejected

/-- What the check of a request's authorization comes to. -/
inductive Authorization where
  | threw
  | refused (status : Nat) (error : String)
  | granted (claims : Json)

/-- `requireAuth`, of the `authorization` header of a request. -/
def requireAuth (mac : Mac) (signed : Signed) (signingSecret : String)
    (authorization : Option String) (requiredScopes : List String) (now : Int) : Authorization :=
  if !truthy signingSecret then .refused 500 "API_SIGNING_SECRET is not configured"
  else
    match authorization.bind fun header => after "Bearer " header.toList with
    | none => .refused 401 "Missing bearer token"
    | some token =>
      match verifyAccessToken mac signed signingSecret (String.ofList token) now with
      | .threw => .threw
      | .rejected => .refused 401 "Invalid bearer token"
      | .accepted claims =>
        let scopes := (asArray ((fieldsOf (some claims)).lookup "scopes")).getD []
        let missing := requiredScopes.filter fun scope =>
          !scopes.any fun granted => string (some granted) == some scope
        if missing.isEmpty then .granted claims
        else .refused 403 ("Missing scopes: " ++ join ", " missing)

/-- The claims say that they are good until later than `now`, or just until then. -/
def InForce (now : Int) (claims : Json) : Prop :=
  ∃ exp, (fieldsOf (some claims)).lookup "exp" = some exp ∧ isNumber (some exp) = true ∧
    below (nowSeconds now) exp = false

/-! ### Base64 for URLs read back -/

theorem urlChar_base64Digit {n : Nat} (hn : n < 64) :
    plainChar (urlChar (base64Digit n)) = base64Digit n ∧ urlChar (base64Digit n) ≠ '=' ∧
      urlChar (base64Digit n) ≠ '.' ∧
      units (urlChar (base64Digit n)) = [(urlChar (base64Digit n)).toNat] ∧
      isAsciiSpace (base64Digit n) = false := by
  have hall : ∀ a : Fin 64, plainChar (urlChar (base64Digit a)) = base64Digit a ∧
      urlChar (base64Digit a) ≠ '=' ∧ urlChar (base64Digit a) ≠ '.' ∧
      units (urlChar (base64Digit a)) = [(urlChar (base64Digit a)).toNat] ∧
      isAsciiSpace (base64Digit a) = false := by
    decide +kernel
  exact hall ⟨n, hn⟩

/-- The letters of a text for URLs. -/
def urlDigits (bytes : List UInt8) : List Char :=
  (base64Digits bytes).map fun n => urlChar (base64Digit n)

theorem rdropWhile_padding {l : List Char} (h : l.getLast? ≠ some '=') (k : Nat) :
    (l ++ List.replicate k '=').rdropWhile (· == '=') = l := by
  induction k with
  | zero =>
    rw [List.replicate_zero, List.append_nil, List.rdropWhile_eq_self_iff]
    intro hne heq
    apply h
    rw [List.getLast?_eq_some_getLast hne, beq_iff_eq.1 heq]
  | succ k ih =>
    rw [List.replicate_succ', ← List.append_assoc, List.rdropWhile_concat_pos _ _ _ (by rfl), ih]

/-- What is taken off is the padding, and no more than that. -/
theorem toList_toBase64Url (bytes : List UInt8) : (toBase64Url bytes).toList = urlDigits bytes := by
  have hlast : (urlDigits bytes).getLast? ≠ some '=' := by
    intro hlast
    obtain ⟨n, hn, heq⟩ := List.mem_map.1 (List.mem_of_getLast? hlast)
    exact (urlChar_base64Digit (lt_of_mem_base64Digits n hn)).2.1 heq
  have hchars : (base64Chars bytes).map urlChar =
      urlDigits bytes ++ List.replicate (base64Padding bytes.length) '=' := by
    rw [base64Chars_eq, List.map_append, List.map_map, List.map_replicate]
    rfl
  rw [toBase64Url, String.toList_ofList, hchars, rdropWhile_padding hlast]

theorem mem_toBase64Url {bytes : List UInt8} {c : Char} (h : c ∈ (toBase64Url bytes).toList) :
    ∃ n < 64, c = urlChar (base64Digit n) := by
  rw [toList_toBase64Url] at h
  obtain ⟨n, hn, rfl⟩ := List.mem_map.1 h
  exact ⟨n, lt_of_mem_base64Digits n hn, rfl⟩

theorem point_not_mem_toBase64Url (bytes : List UInt8) : '.' ∉ (toBase64Url bytes).toList := by
  intro h
  obtain ⟨n, hn, heq⟩ := mem_toBase64Url h
  exact (urlChar_base64Digit hn).2.2.1 heq.symm

theorem unitLength_of_forall {l : List Char} (h : ∀ c ∈ l, units c = [c.toNat]) :
    unitLength l = l.length := by
  induction l with
  | nil => rfl
  | cons c rest ih =>
    have hrest := ih fun d hd => h d (List.mem_cons_of_mem _ hd)
    unfold unitLength at hrest ⊢
    rw [List.flatMap_cons, List.length_append, hrest, h c List.mem_cons_self, List.length_cons,
      List.length_cons, List.length_nil]
    omega

/-- **Bytes read back from their base64 for URLs**, whatever their number. -/
theorem fromBase64Url_toBase64Url (bytes : List UInt8) :
    fromBase64Url (toBase64Url bytes) = some bytes := by
  have hlt : ∀ n ∈ base64Digits bytes, n < 64 := lt_of_mem_base64Digits
  have hlength := length_base64Digits bytes
  have hpad : base64Padding bytes.length < 3 := by
    rw [base64Padding]
    omega
  have hplain : (urlDigits bytes).map plainChar = (base64Digits bytes).map base64Digit := by
    unfold urlDigits
    rw [List.map_map]
    apply List.map_congr_left
    intro n hn
    exact (urlChar_base64Digit (hlt n hn)).1
  have hunits : unitLength (urlDigits bytes) = (base64Digits bytes).length := by
    rw [unitLength_of_forall]
    · exact List.length_map _
    · intro c hc
      obtain ⟨n, hn, rfl⟩ := List.mem_map.1 hc
      exact (urlChar_base64Digit (hlt n hn)).2.2.2.1
  have hplainUnits : unitLength ((base64Digits bytes).map base64Digit) =
      (base64Digits bytes).length := by
    rw [unitLength_of_forall]
    · exact List.length_map _
    · intro c hc
      obtain ⟨n, hn, rfl⟩ := List.mem_map.1 hc
      have hall : ∀ a : Fin 64, units (base64Digit a) = [(base64Digit a).toNat] := by decide +kernel
      exact hall ⟨n, hlt n hn⟩
  have hmissing : ((base64Digits bytes).length + 3) / 4 * 4 - (base64Digits bytes).length =
      base64Padding bytes.length := by
    omega
  have hpadded : padEnd ((unitLength (urlDigits bytes) + 3) / 4 * 4)
      ((urlDigits bytes).map plainChar) = base64Chars bytes := by
    rw [hplain, hunits, padEnd, hplainUnits, hmissing, base64Chars_eq]
  have hfilter : (base64Chars bytes).filter (fun c => !isAsciiSpace c) = base64Chars bytes := by
    rw [List.filter_eq_self]
    intro c hc
    obtain ⟨n, hn, rfl⟩ | rfl := mem_base64Chars hc
    · rw [(urlChar_base64Digit hn).2.2.2.2]
      rfl
    · decide
  rw [fromBase64Url, toList_toBase64Url, hpadded, hfilter, atob_base64Chars]

theorem toBase64Url_ne {bytes : List UInt8} (h : bytes ≠ []) : toBase64Url bytes ≠ "" := by
  intro hempty
  have hback := fromBase64Url_toBase64Url bytes
  have hnil := fromBase64Url_toBase64Url []
  have hsame : toBase64Url [] = "" := by decide
  rw [hempty, ← hsame, hnil] at hback
  exact h (Option.some.inj hback).symm

/-- A token comes apart into what it was put together from. -/
theorem splitOnChar_token (bytes bytes' : List UInt8) :
    splitOnChar '.' (toBase64Url bytes ++ "." ++ toBase64Url bytes') =
      [toBase64Url bytes, toBase64Url bytes'] := by
  have htext : (toBase64Url bytes ++ "." ++ toBase64Url bytes').toList =
      (toBase64Url bytes).toList ++ '.' :: (toBase64Url bytes').toList := by
    simp
  rw [splitOnChar, htext,
    List.splitOn_append_cons_self_of_not_mem (point_not_mem_toBase64Url bytes),
    List.splitOn_eq_singleton (point_not_mem_toBase64Url bytes')]
  simp

/-! ### The payload reads back -/

theorem properItems_strings (items : List String) : ProperItems (items.map .str) := by
  induction items with
  | nil => exact trivial
  | cons item rest ih => exact ⟨trivial, ih⟩

theorem properFields_iff {fields : Fields} :
    ProperFields fields ↔ ∀ p ∈ fields, Proper p.2 := by
  induction fields with
  | nil => simp [ProperFields]
  | cons p rest ih =>
    obtain ⟨key, value⟩ := p
    simp only [ProperFields, ih, List.forall_mem_cons]

theorem keys_stored (d : Draft) : (d.stored.map Prod.fst).Sublist (d.map Prod.fst) := by
  induction d with
  | nil => exact List.Sublist.refl _
  | cons entry rest ih =>
    obtain ⟨key, value⟩ := entry
    cases value with
    | none => exact ih.cons key
    | some value => exact ih.cons_cons key

/-- The claims as an object are such as `JSON.stringify` writes and `JSON.parse` reads. -/
theorem AccessTokenClaims.proper_json (claims : AccessTokenClaims) : Proper claims.json := by
  have hkeys : (claims.draft.map Prod.fst).Nodup := by
    show (["sub", "tenantId", "agentId", "scopes", "mailboxIds", "exp"] : List String).Nodup
    decide
  have hstrings : ∀ items, Proper (stringArray items) := fun items => by
    show ProperItems _
    exact properItems_strings items
  refine ⟨(keys_stored claims.draft).nodup hkeys, properFields_iff.2 ?_⟩
  intro p hp
  obtain ⟨⟨key, value⟩, hq, hqp⟩ := List.mem_filterMap.1 hp
  obtain ⟨v, rfl, rfl⟩ := Option.map_eq_some_iff.1 hqp
  simp only [AccessTokenClaims.draft, List.mem_cons, List.not_mem_nil, or_false,
    Prod.mk.injEq] at hq
  obtain ⟨-, h⟩ | ⟨-, h⟩ | ⟨-, h⟩ | ⟨-, h⟩ | ⟨-, h⟩ | ⟨-, h⟩ := hq
  · obtain rfl := Option.some.inj h
    exact trivial
  · obtain rfl := Option.some.inj h
    exact trivial
  · obtain ⟨a, -, rfl⟩ := Option.map_eq_some_iff.1 h.symm
    exact trivial
  · obtain rfl := Option.some.inj h
    exact hstrings _
  · obtain ⟨a, -, rfl⟩ := Option.map_eq_some_iff.1 h.symm
    exact hstrings _
  · obtain rfl := Option.some.inj h
    exact claims.exp.2.2

theorem AccessTokenClaims.lookup_json (claims : AccessTokenClaims) (key : String) :
    (fieldsOf (some claims.json)).lookup key = (claims.draft.lookup key).join := by
  apply lookup_stored
  show (["sub", "tenantId", "agentId", "scopes", "mailboxIds", "exp"] : List String).Nodup
  decide

/-- The JSON text of an object begins with a brace, so the decoder takes no mark off it. -/
theorem utf8Decode_json (claims : AccessTokenClaims) :
    utf8Decode (utf8 (stringify claims.json)) = jsonChars claims.json := by
  have hbrace : ∀ fields : Fields, (jsonChars (.obj fields)).head? = some '{' := by
    intro fields
    cases fields <;> simp [jsonChars]
  have htext : (stringify claims.json).toList = jsonChars claims.json := String.toList_ofList
  rw [utf8Decode_utf8, htext]
  rw [htext]
  intro h
  have hfirst := hbrace claims.draft.stored
  rw [show jsonChars (.obj claims.draft.stored) = jsonChars claims.json from rfl, h] at hfirst
  exact absurd (Option.some.inj hfirst) (by decide)

/-- **The claims read back from their payload.** -/
theorem decodePayload_encodePayload (claims : AccessTokenClaims) :
    decodePayload (encodePayload claims) = some claims.json := by
  unfold decodePayload encodePayload
  rw [fromBase64Url_toBase64Url, Option.bind_eq_bind, Option.bind_some, utf8Decode_json,
    parse_jsonChars claims.proper_json]

/-- Claims with a tenant that are in force pass the checks. -/
theorem checkClaims_json {claims : AccessTokenClaims} (htenant : claims.tenantId ≠ "") {now : Int}
    (hexp : below (nowSeconds now) claims.exp.1 = false) :
    checkClaims now claims.json = .accepted claims.json := by
  have htruthy : truthy claims.tenantId = true := by simpa [truthy] using htenant
  have hlookup := claims.lookup_json
  unfold checkClaims
  simp only [hlookup "tenantId", hlookup "scopes", hlookup "exp"]
  have htenantId : (claims.draft.lookup "tenantId").join = some (.str claims.tenantId) := rfl
  have hscopes : (claims.draft.lookup "scopes").join = some (stringArray claims.scopes) := rfl
  have hexpires : (claims.draft.lookup "exp").join = some claims.exp.1 := rfl
  simp [htenantId, hscopes, hexpires, isTruthy, htruthy, stringArray, asArray, claims.exp.2.1,
    hexp]

/-- Claims that pass the checks are in force. -/
theorem inForce_of_accepted {now : Int} {claims claims' : Json}
    (h : checkClaims now claims = .accepted claims') : claims' = claims ∧ InForce now claims := by
  unfold checkClaims at h
  dsimp only at h
  split at h
  · cases h
  · next hchecks =>
    split at h
    · next exp hexp =>
      split at h
      · cases h
      · next hbelow =>
        obtain rfl := Verification.accepted.inj h
        refine ⟨rfl, exp, hexp, ?_, by simpa using hbelow⟩
        rw [hexp] at hchecks
        by_contra hnumber
        exact hchecks (by simp [hnumber])
    · cases h

/-! ### Tokens -/

theorem importSigningKey_eq_some {secret : String} {key : List UInt8}
    (h : importSigningKey secret = some key) : utf8 secret = key := by
  unfold importSigningKey at h
  split at h
  · cases h
  · exact Option.some.inj h

theorem signPayload_eq_some {mac : Mac} {signed signed' : Signed} {secret payload signature : String}
    (h : signPayload mac signed secret payload = some (signature, signed')) :
    importSigningKey secret = some (utf8 secret) ∧
      signature = toBase64Url (mac.sign (utf8 secret) (utf8 payload)) ∧
      signed' = (utf8 secret, utf8 payload) :: signed := by
  unfold signPayload at h
  obtain ⟨key, hkey, h⟩ := Option.bind_eq_some_iff.1 h
  obtain rfl := importSigningKey_eq_some hkey
  obtain ⟨rfl, rfl⟩ := Prod.mk.inj (Option.some.inj h)
  exact ⟨hkey, rfl, rfl⟩

/-- A signature that verifies is over a message that was signed with the secret. -/
theorem signed_of_verifySignature {mac : Mac} (hmac : mac.Ideal) {signed : Signed}
    {secret payload signature : String}
    (h : verifySignature mac signed secret payload signature = some true) :
    (utf8 secret, utf8 payload) ∈ signed := by
  unfold verifySignature at h
  obtain ⟨key, hkey, h⟩ := Option.bind_eq_some_iff.1 h
  obtain ⟨bytes, -, h⟩ := Option.bind_eq_some_iff.1 h
  obtain rfl := importSigningKey_eq_some hkey
  exact ((hmac.verify_iff _ _ _ _).1 (Option.some.inj h)).1

/-- A token that was minted for claims with a tenant verifies while they are in force. -/
theorem verifyAccessToken_of_minted {mac : Mac} (hmac : mac.Ideal) {signed signed' later : Signed}
    {secret token : String} {claims : AccessTokenClaims} {now : Int}
    (hmint : mintAccessToken mac signed secret claims = some (token, signed'))
    (hlater : signed' ⊆ later) (htenant : claims.tenantId ≠ "")
    (hexp : below (nowSeconds now) claims.exp.1 = false) :
    verifyAccessToken mac later secret token now = .accepted claims.json := by
  unfold mintAccessToken at hmint
  obtain ⟨⟨signature, signed''⟩, hsign, hmint⟩ := Option.bind_eq_some_iff.1 hmint
  obtain ⟨rfl, rfl⟩ := Prod.mk.inj (Option.some.inj hmint)
  obtain ⟨hkey, rfl, rfl⟩ := signPayload_eq_some hsign
  set signature := mac.sign (utf8 secret) (utf8 (encodePayload claims)) with hsignature
  have hpayload : encodePayload claims ≠ "" := by
    apply toBase64Url_ne
    intro hnil
    have hread := parse_jsonChars claims.proper_json
    have hnone : parse (utf8Decode []) = none := by rfl
    rw [← utf8Decode_json claims, hnil, hnone] at hread
    cases hread
  have hbytes : signature ≠ [] := by
    intro hnil
    have hlength := hmac.length (utf8 secret) (utf8 (encodePayload claims))
    rw [← hsignature, hnil] at hlength
    cases hlength
  have hverify : verifySignature mac later secret (encodePayload claims)
      (toBase64Url signature) = some true := by
    unfold verifySignature
    rw [hkey, Option.bind_eq_bind, Option.bind_some, fromBase64Url_toBase64Url]
    have hmem := hlater List.mem_cons_self
    exact congrArg some ((hmac.verify_iff later _ _ _).2 ⟨hmem, hsignature⟩)
  have hsplit : splitOnChar '.' (encodePayload claims ++ "." ++ toBase64Url signature) =
      [encodePayload claims, toBase64Url signature] := splitOnChar_token _ _
  have htruthy : ∀ s : String, s ≠ "" → truthy s = true := by
    intro s hs
    simpa [truthy] using hs
  unfold verifyAccessToken
  rw [hsplit]
  dsimp only
  rw [htruthy _ hpayload, htruthy _ (toBase64Url_ne hbytes), if_neg (by decide), hverify]
  dsimp only
  rw [decodePayload_encodePayload]
  exact checkClaims_json htenant hexp

/-- What a token gives when it is accepted is the decoding of the payload in it, which was signed,
and is in force. -/
theorem signed_of_verifyAccessToken {mac : Mac} (hmac : mac.Ideal) {signed : Signed}
    {secret token : String} {now : Int} {claims : Json}
    (h : verifyAccessToken mac signed secret token now = .accepted claims) :
    ∃ payload rest, splitOnChar '.' token = payload :: rest ∧
      (utf8 secret, utf8 payload) ∈ signed ∧ decodePayload payload = some claims ∧
      InForce now claims := by
  unfold verifyAccessToken at h
  split at h
  · next payload signature rest hsplit =>
    refine ⟨payload, signature :: rest, hsplit, ?_⟩
    split at h
    · cases h
    · split at h
      · cases h
      · cases h
      · next hverify =>
        split at h
        · cases h
        · next claims' hdecode =>
          obtain ⟨rfl, hforce⟩ := inForce_of_accepted h
          exact ⟨signed_of_verifySignature hmac hverify, hdecode, hforce⟩
  · cases h

/-- Only minting signs. -/
inductive MintedOnly (mac : Mac) : Signed → Prop where
  | start : MintedOnly mac []
  | mint {signed signed' : Signed} {secret token : String} {claims : AccessTokenClaims}
      (h : MintedOnly mac signed)
      (hmint : mintAccessToken mac signed secret claims = some (token, signed')) :
      MintedOnly mac signed'

theorem MintedOnly.payload {mac : Mac} {signed : Signed} (h : MintedOnly mac signed) :
    ∀ p ∈ signed, ∃ claims : AccessTokenClaims, p.2 = utf8 (encodePayload claims) := by
  induction h with
  | start => simp
  | @mint _ _ _ _ claims _ hmint ih =>
    unfold mintAccessToken at hmint
    obtain ⟨⟨signature, signed''⟩, hsign, hmint⟩ := Option.bind_eq_some_iff.1 hmint
    obtain ⟨-, rfl⟩ := Prod.mk.inj (Option.some.inj hmint)
    obtain ⟨-, -, rfl⟩ := signPayload_eq_some hsign
    intro p hp
    rw [List.mem_cons] at hp
    obtain heq | hp := hp
    · refine ⟨claims, ?_⟩
      rw [heq]
    · exact ih p hp

/-- Where only minting signs, what a token gives when it is accepted are claims of a minted one. -/
theorem MintedOnly.accepted {mac : Mac} (hmac : mac.Ideal) {signed : Signed}
    (hminted : MintedOnly mac signed) {secret token : String} {now : Int} {claims : Json}
    (h : verifyAccessToken mac signed secret token now = .accepted claims) :
    ∃ minted : AccessTokenClaims, claims = minted.json := by
  obtain ⟨payload, rest, -, hsigned, hdecode, -⟩ := signed_of_verifyAccessToken hmac h
  obtain ⟨minted, hpayload⟩ := hminted.payload _ hsigned
  have hsame : payload = encodePayload minted := by
    apply utf8_injective
    simpa only using hpayload
  rw [hsame, decodePayload_encodePayload] at hdecode
  exact ⟨minted, (Option.some.inj hdecode).symm⟩

/-- **Tokens are sound and complete.** With an ideal MAC, a token that was minted for claims with
a tenant verifies with the same secret, while they are in force, and gives the claims back,
whatever else was signed before it and after it. And what any token gives when it is accepted is
in force, and is the decoding of the payload in the token, which was signed with the secret. -/
theorem minted_accepted_and_accepted_signed {mac : Mac} (hmac : mac.Ideal) :
    (∀ (signed signed' later : Signed) (secret token : String) (claims : AccessTokenClaims)
        (now : Int), mintAccessToken mac signed secret claims = some (token, signed') →
      signed' ⊆ later → claims.tenantId ≠ "" → below (nowSeconds now) claims.exp.1 = false →
        verifyAccessToken mac later secret token now = .accepted claims.json) ∧
    (∀ (signed : Signed) (secret token : String) (now : Int) (claims : Json),
      verifyAccessToken mac signed secret token now = .accepted claims →
        ∃ payload rest, splitOnChar '.' token = payload :: rest ∧
          (utf8 secret, utf8 payload) ∈ signed ∧ decodePayload payload = some claims ∧
          InForce now claims) := by
  constructor
  · intro signed signed' later secret token claims now hmint hlater htenant hexp
    exact verifyAccessToken_of_minted hmac hmint hlater htenant hexp
  · intro signed secret token now claims h
    exact signed_of_verifyAccessToken hmac h

/-! A token as it is made with the secret `test-secret`. -/

/-- The claims of the token. -/
def sampleClaims : AccessTokenClaims where
  sub := "user_1"
  tenantId := "t_1"
  agentId := none
  scopes := ["draft:send"]
  mailboxIds := none
  exp := ⟨.num 1700000600, rfl, trivial⟩

/-- The signature that HMAC-SHA256 gives the payload of the token, and another one for any
other message. -/
def sampleSign (key message : List UInt8) : List UInt8 :=
  if key = utf8 "test-secret" ∧ message = utf8 (encodePayload sampleClaims) then [
    186, 147, 3, 189, 131, 189, 63, 80, 12, 251, 192, 121, 39, 209, 113, 181,
    60, 62, 198, 206, 194, 41, 82, 230, 195, 71, 64, 74, 201, 231, 238, 69]
  else List.replicate 32 0

/-- The MAC with these signatures. -/
def sampleMac : Mac where
  sign := sampleSign
  verify signed key signature message :=
    (key, message) ∈ signed ∧ signature = sampleSign key message

theorem sampleMac_ideal : sampleMac.Ideal where
  length key message := by
    show (sampleSign key message).length = 32
    unfold sampleSign
    split <;> rfl
  verify_iff signed key signature message := by
    show decide _ = true ↔ _
    exact decide_eq_true_iff

/-- The token. -/
def sampleToken : String :=
  "eyJzdWIiOiJ1c2VyXzEiLCJ0ZW5hbnRJZCI6InRfMSIsInNjb3BlcyI6WyJkcmFmdDpzZW5kIl0sImV4cCI6MTcwMDAwMDYwMH0" ++
    ".upMDvYO9P1AM-8B5J9FxtTw-xs7CKVLmw0dASsnn7kU"

/-- What was signed for the token. -/
def sampleSigned : Signed := [(utf8 "test-secret", utf8 (encodePayload sampleClaims))]

theorem sampleToken_accepted :
    verifyAccessToken sampleMac sampleSigned "test-secret" sampleToken 1700000000000 =
        .accepted sampleClaims.json ∧
      ∃ payload rest, splitOnChar '.' sampleToken = payload :: rest ∧
        (utf8 "test-secret", utf8 payload) ∈ sampleSigned ∧
        decodePayload payload = some sampleClaims.json ∧
        InForce 1700000000000 sampleClaims.json := by
  have hmint : mintAccessToken sampleMac [] "test-secret" sampleClaims =
      some (sampleToken, sampleSigned) := by
    decide +kernel
  have haccepted := (minted_accepted_and_accepted_signed sampleMac_ideal).1 [] sampleSigned
    sampleSigned "test-secret" sampleToken sampleClaims 1700000000000 hmint (List.Subset.refl _)
    (by decide) (by rfl)
  exact ⟨haccepted, (minted_accepted_and_accepted_signed sampleMac_ideal).2 sampleSigned
    "test-secret" sampleToken 1700000000000 sampleClaims.json haccepted⟩

/-! ### Malformed tokens -/

/-- The part of a token that is taken for its signature: the second of its parts, if the first
two are not empty. -/
def signaturePart (token : String) : Option String :=
  match splitOnChar '.' token with
  | payload :: signature :: _ =>
    if !truthy payload || !truthy signature then none else some signature
  | _ => none

/-- The text is base64 for URLs, but for white space in it. -/
def IsBase64Url (input : String) : Prop :=
  IsBase64 ((padEnd ((unitLength input.toList + 3) / 4 * 4)
    (input.toList.map plainChar)).filter fun c => !isAsciiSpace c)

theorem isSome_fromBase64Url (input : String) :
    (fromBase64Url input).isSome = true ↔ IsBase64Url input := by
  unfold fromBase64Url IsBase64Url
  exact isSome_atob _

theorem isSome_importSigningKey (secret : String) :
    (importSigningKey secret).isSome = true ↔ secret ≠ "" := by
  unfold importSigningKey
  split
  · next h => simpa using utf8_injective (b := "") (by rw [h]; rfl)
  · next h =>
    refine iff_of_true rfl ?_
    rintro rfl
    exact h rfl

/-- The signature is decoded whatever was signed, and before anything is compared. -/
theorem isSome_verifySignature (mac : Mac) (signed : Signed) (secret payload signature : String) :
    (verifySignature mac signed secret payload signature).isSome = true ↔
      secret ≠ "" ∧ IsBase64Url signature := by
  rw [← isSome_importSigningKey, ← isSome_fromBase64Url]
  unfold verifySignature
  cases importSigningKey secret with
  | none => simp
  | some key => cases fromBase64Url signature <;> simp

/-- The checks of the claims do not throw. -/
theorem checkClaims_ne_threw (now : Int) (claims : Json) : checkClaims now claims ≠ .threw := by
  unfold checkClaims
  dsimp only
  split
  · exact fun h => nomatch h
  · split
    · split <;> exact fun h => nomatch h
    · exact fun h => nomatch h

/-- A token is answered if there is no signature in it, or one that decodes. -/
theorem verifyAccessToken_ne_threw (mac : Mac) (signed : Signed) (secret token : String)
    (now : Int) : verifyAccessToken mac signed secret token now ≠ .threw ↔
      ∀ signature, signaturePart token = some signature → secret ≠ "" ∧ IsBase64Url signature := by
  unfold verifyAccessToken signaturePart
  split
  · next payload signature _ _ =>
    split
    · simp
    · have hsome := isSome_verifySignature mac signed secret payload signature
      cases hverify : verifySignature mac signed secret payload signature with
      | none =>
        rw [hverify] at hsome
        refine iff_of_false (fun h => h rfl) fun h => ?_
        exact Bool.false_ne_true (hsome.2 (h signature rfl))
      | some valid =>
        rw [hverify] at hsome
        refine iff_of_true ?_ ?_
        · cases valid with
          | false => exact fun h => nomatch h
          | true =>
            dsimp only
            split
            · exact fun h => nomatch h
            · exact checkClaims_ne_threw now _
        · rintro _ ⟨⟩
          exact hsome.1 rfl
  · simp

/-- What stands behind `Bearer ` is the token. -/
theorem after_bearer (token : String) :
    after "Bearer " ("Bearer " ++ token).toList = some token.toList := by
  have hhead : startsWith "Bearer " ("Bearer " ++ token).toList = true := by
    unfold startsWith
    rw [String.toList_append, List.isPrefixOf_iff_prefix]
    exact List.prefix_append _ _
  unfold after
  rw [if_pos hhead, String.toList_append]
  exact congrArg some (List.drop_left' rfl)

theorem requireAuth_bearer (mac : Mac) (signed : Signed) {secret : String} (hsecret : secret ≠ "")
    (token : String) (scopes : List String) (now : Int) :
    (verifyAccessToken mac signed secret token now = .threw →
      requireAuth mac signed secret (some ("Bearer " ++ token)) scopes now = .threw) ∧
    (verifyAccessToken mac signed secret token now = .rejected →
      requireAuth mac signed secret (some ("Bearer " ++ token)) scopes now =
        .refused 401 "Invalid bearer token") := by
  have htruthy : truthy secret = true := by simpa [truthy] using hsecret
  unfold requireAuth
  rw [htruthy, Option.bind_some, after_bearer, if_neg (by decide)]
  dsimp only
  rw [String.ofList_toList]
  constructor
  · intro h
    rw [h]
  · intro h
    rw [h]

/-- **A token is answered if its signature decodes, and only then.** Whatever the token, its
verification throws nothing exactly if it has no signature or one that is base64 for URLs. And
a token that is not accepted is answered as unauthorized exactly if that is so. -/
theorem answered_iff_signature_decodes (mac : Mac) (signed : Signed) (secret token : String)
    (scopes : List String) (now : Int) :
    (verifyAccessToken mac signed secret token now ≠ .threw ↔
      ∀ signature, signaturePart token = some signature → secret ≠ "" ∧ IsBase64Url signature) ∧
    (secret ≠ "" → (∀ claims, verifyAccessToken mac signed secret token now ≠ .accepted claims) →
      (requireAuth mac signed secret (some ("Bearer " ++ token)) scopes now =
          .refused 401 "Invalid bearer token" ↔
        ∀ signature, signaturePart token = some signature → IsBase64Url signature)) := by
  have hthrew := verifyAccessToken_ne_threw mac signed secret token now
  refine ⟨hthrew, ?_⟩
  intro hsecret hrejected
  obtain ⟨hthrown, hrefused⟩ := requireAuth_bearer mac signed hsecret token scopes now
  cases hverify : verifyAccessToken mac signed secret token now with
  | threw =>
    rw [hthrown hverify]
    refine iff_of_false (fun h => nomatch h) fun h => ?_
    exact hthrew.2 (fun signature hsignature => ⟨hsecret, h signature hsignature⟩) hverify
  | rejected =>
    refine iff_of_true (hrefused hverify) fun signature hsignature => ?_
    have hanswered : verifyAccessToken mac signed secret token now ≠ .threw := by
      rw [hverify]
      exact fun h => nomatch h
    exact (hthrew.1 hanswered signature hsignature).2
  | accepted claims => exact absurd hverify (hrejected claims)

/-- A token with an exclamation mark for its signature. -/
theorem exclamation_mark_not_answered :
    ¬ ∀ token, verifyAccessToken sampleMac sampleSigned "test-secret" token 1700000000000 ≠
        .threw ∧
      ((∀ claims, verifyAccessToken sampleMac sampleSigned "test-secret" token 1700000000000 ≠
          .accepted claims) →
        requireAuth sampleMac sampleSigned "test-secret" (some ("Bearer " ++ token)) [] 1700000000000 =
          .refused 401 "Invalid bearer token") := by
  intro h
  exact (h "e30.!").1 rfl

end MailRuntime.Auth
