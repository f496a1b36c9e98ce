import MailRuntime.Auth.AccessTokens
import MailRuntime.Js.Doubles
import MailRuntime.Payments.X402

/-!
# Payment headers

The quote and the settlement go out in headers, the proof comes in by one: each is an object's JSON
text in base64. The encoder takes the text for Latin-1, and throws if it is not; the decoder takes
the bytes for Latin-1 too, so that the UTF-8 of a client is misread. Both are right for ASCII, of
numbers that `JSON.parse` gives back: finite ones, in the text of their doubles.
-/

namespace MailRuntime.X402

open Js Auth

/-- `JSON.parse(fromBase64(header))`: `none` where it throws. -/
def decodeProofText (header : String) : Option Json := do
  let bytes ← atob (header.toList.filter fun c => !isAsciiSpace c)
  parseDoubles (bytes.map byteChar)

/-- The environment with the runtime's own `atob` and `JSON.parse`. -/
def withDecoder (env : Env) : Env := { env with decodeProof := decodeProofText }

/-- The header that a client makes of a proof: the base64 of its UTF-8 text. -/
def clientHeader (proof : Json) : String := toBase64 (utf8 (String.ofList (written proof)))

/-- The parser of proofs reads the object in the header. -/
def ReadsBack (env : Env) (header : String) (fields : Fields) : Prop :=
  (parseX402PaymentProof (withDecoder env) (some header)).bind PaymentProof.parsed = some fields

/-- A JSON object: it has a key once, and its numbers are numbers, some of them perhaps infinite. -/
structure JsonObject where
  fields : Fields
  proper : Proper (finite (.obj fields))

/-- The object as a value. -/
def JsonObject.toJson (object : JsonObject) : Json := .obj object.fields

/-! ### Reading a header -/

/-- There is no white space in base64. -/
theorem not_space_base64Chars {bytes : List UInt8} :
    ∀ c ∈ base64Chars bytes, isSpace c = false ∧ isAsciiSpace c = false := by
  intro c hc
  obtain ⟨n, hn, rfl⟩ | rfl := mem_base64Chars hc
  · exact ⟨isSpace_base64Digit hn, (urlChar_base64Digit hn).2.2.2.2⟩
  · exact ⟨by decide, by decide⟩

theorem trimChars_base64Chars (bytes : List UInt8) :
    trimChars (base64Chars bytes) = base64Chars bytes := by
  have hall : ∀ l : List Char, (∀ c ∈ l, isSpace c = false) → l.dropWhile isSpace = l := by
    intro l hl
    cases l with
    | nil => rfl
    | cons c rest =>
      rw [List.dropWhile_cons_of_neg]
      simp [hl c List.mem_cons_self]
  have hspace : ∀ c ∈ base64Chars bytes, isSpace c = false := fun c hc =>
    (not_space_base64Chars c hc).1
  unfold trimChars
  rw [hall _ hspace, hall, List.reverse_reverse]
  intro c hc
  exact hspace c (List.mem_reverse.1 hc)

/-- What the parser reads is what the bytes of the header are the text of. -/
theorem readsBack_iff (env : Env) {bytes : List UInt8} (h : bytes ≠ []) (fields : Fields) :
    ReadsBack env (String.ofList (base64Chars bytes)) fields ↔
      parseDoubles (bytes.map byteChar) = some (.obj fields) := by
  have htrim : trim (String.ofList (base64Chars bytes)) = String.ofList (base64Chars bytes) := by
    unfold trim
    rw [String.toList_ofList, trimChars_base64Chars]
  have htruthy : truthy (String.ofList (base64Chars bytes)) = true := by
    have hne : toBase64 bytes ≠ "" := by
      intro hempty
      have hnil : toBase64 [] = "" := by decide
      exact h (toBase64_injective (hempty.trans hnil.symm))
    simpa [truthy, toBase64] using hne
  have hfilter : (base64Chars bytes).filter (fun c => !isAsciiSpace c) = base64Chars bytes := by
    rw [List.filter_eq_self]
    intro c hc
    simp [(not_space_base64Chars c hc).2]
  have hdecode : decodeProofText (String.ofList (base64Chars bytes)) =
      parseDoubles (bytes.map byteChar) := by
    unfold decodeProofText
    rw [String.toList_ofList, hfilter, atob_base64Chars, Option.bind_eq_bind, Option.bind_some]
  unfold ReadsBack parseX402PaymentProof trimmed
  rw [Option.bind_some, htrim, if_pos htruthy, Option.map_some, Option.bind_some]
  show asRecord (decodeProofText (String.ofList (base64Chars bytes))) = some fields ↔ _
  rw [hdecode]
  cases parseDoubles (bytes.map byteChar) with
  | none => simp [asRecord]
  | some value => cases value <;> simp [asRecord]

/-! ### Values that come back -/

/-- A decimal that comes back is one of a double: an infinite one would come back as `null`. -/
theorem isDouble_decimal {text : String} (h : rounded (finite (.decimal text)) = .decimal text) :
    IsDouble (.decimal text) := by
  by_cases hinfinite : isInfinite text = true
  · rw [finite, if_pos hinfinite] at h
    cases h
  · have hfinite : finite (.decimal text) = .decimal text := by
      rw [finite, if_neg hinfinite]
    rw [hfinite] at h
    exact ⟨hfinite, h⟩

mutual

/-- What comes back from its text, misread and rounded, is a value of doubles whose strings are
not misread. -/
theorem doubles_of_misread : ∀ {v : Json}, rounded (misreadJson (finite v)) = v →
    Doubles v ∧ misreadJson v = v
  | .null, _ => ⟨trivial, rfl⟩
  | .bool _, _ => ⟨trivial, rfl⟩
  | .num _, h => ⟨⟨rfl, h⟩, rfl⟩
  | .decimal text, h => by
    have hsame : misreadJson (finite (.decimal text)) = finite (.decimal text) := by
      rw [finite]
      split <;> rfl
    rw [hsame] at h
    exact ⟨isDouble_decimal h, rfl⟩
  | .str _, h => ⟨trivial, h⟩
  | .arr _, h => by
    obtain ⟨hdoubles, hmisread⟩ := doublesItems_of_misread (Json.arr.inj h)
    exact ⟨hdoubles, congrArg Json.arr hmisread⟩
  | .obj _, h => by
    obtain ⟨hdoubles, hmisread⟩ := doublesFields_of_misread (Json.obj.inj h)
    exact ⟨hdoubles, congrArg Json.obj hmisread⟩

theorem doublesItems_of_misread : ∀ {items : List Json},
    roundedItems (misreadItems (finiteItems items)) = items →
      DoublesItems items ∧ misreadItems items = items
  | [], _ => ⟨trivial, rfl⟩
  | item :: items, h => by
    obtain ⟨hitem, hitems⟩ := List.cons.inj h
    obtain ⟨hdoubles, hmisread⟩ := doubles_of_misread hitem
    obtain ⟨hdoubles', hmisread'⟩ := doublesItems_of_misread hitems
    refine ⟨⟨hdoubles, hdoubles'⟩, ?_⟩
    rw [misreadItems, hmisread, hmisread']

theorem doublesFields_of_misread : ∀ {fields : List (String × Json)},
    roundedFields (misreadFields (finiteFields fields)) = fields →
      DoublesFields fields ∧ misreadFields fields = fields
  | [], _ => ⟨trivial, rfl⟩
  | (key, value) :: fields, h => by
    obtain ⟨hfield, hfields⟩ := List.cons.inj h
    obtain ⟨hkey, hvalue⟩ := Prod.mk.inj hfield
    obtain ⟨hdoubles, hmisread⟩ := doubles_of_misread hvalue
    obtain ⟨hdoubles', hmisread'⟩ := doublesFields_of_misread hfields
    refine ⟨⟨hdoubles, hdoubles'⟩, ?_⟩
    rw [misreadFields, hkey, hmisread, hmisread']

end

mutual

/-- What comes back rounded is a value of doubles. -/
theorem doubles_of_rounded : ∀ {v : Json}, rounded (finite v) = v → Doubles v
  | .null, _ => trivial
  | .bool _, _ => trivial
  | .num _, h => ⟨rfl, h⟩
  | .decimal _, h => isDouble_decimal h
  | .str _, _ => trivial
  | .arr _, h => doublesItems_of_rounded (Json.arr.inj h)
  | .obj _, h => doublesFields_of_rounded (Json.obj.inj h)

theorem doublesItems_of_rounded : ∀ {items : List Json},
    roundedItems (finiteItems items) = items → DoublesItems items
  | [], _ => trivial
  | item :: items, h => by
    obtain ⟨hitem, hitems⟩ := List.cons.inj h
    exact ⟨doubles_of_rounded hitem, doublesItems_of_rounded hitems⟩

theorem doublesFields_of_rounded : ∀ {fields : List (String × Json)},
    roundedFields (finiteFields fields) = fields → DoublesFields fields
  | [], _ => trivial
  | (key, value) :: fields, h => by
    obtain ⟨hfield, hfields⟩ := List.cons.inj h
    exact ⟨doubles_of_rounded (Prod.mk.inj hfield).2, doublesFields_of_rounded hfields⟩

end

/-! ### The two directions -/

variable {fields : Fields}

theorem jsonChars_obj_ne_nil (fields : Fields) : jsonChars (.obj fields) ≠ [] := by
  cases fields <;> simp [jsonChars]

/-- The encoder takes the texts of Latin-1, and its header is read, with rounded numbers. -/
theorem encoded_reads_back_iff (env : Env) (hfields : Proper (finite (.obj fields))) :
    (∃ header, encodeHeader (.obj fields) = some header ∧ ReadsBack env header fields) ↔
      Doubles (.obj fields) ∧ ∀ c ∈ written (.obj fields), c.toNat < 256 := by
  have hread : ∀ {bytes : List UInt8}, bytes.map byteChar = written (.obj fields) →
      (ReadsBack env (String.ofList (base64Chars bytes)) fields ↔
        rounded (finite (.obj fields)) = .obj fields) := by
    intro bytes htext
    have hne : bytes ≠ [] := by
      rintro rfl
      exact jsonChars_obj_ne_nil _ htext.symm
    rw [readsBack_iff env hne, htext, parseDoubles, parse_written hfields, Option.map_some,
      Option.some.injEq]
  constructor
  · rintro ⟨header, hheader, hback⟩
    obtain ⟨text, htext, rfl⟩ := Option.map_eq_some_iff.1 hheader
    have hlatin : ∀ c ∈ written (.obj fields), c.toNat < 256 := by
      rw [← isSome_btoa, htext]
      rfl
    obtain ⟨bytes, hbytes, hchars⟩ := btoa_of_lt hlatin
    rw [hbytes] at htext
    obtain rfl := Option.some.inj htext
    exact ⟨doubles_of_rounded ((hread hchars).1 hback), hlatin⟩
  · rintro ⟨hdoubles, hlatin⟩
    obtain ⟨bytes, hbytes, hchars⟩ := btoa_of_lt hlatin
    refine ⟨String.ofList (base64Chars bytes), ?_, (hread hchars).2 ?_⟩
    · unfold encodeHeader
      rw [hbytes, Option.map_some]
    · rw [finite_of_doubles hdoubles, rounded_of_doubles hdoubles]

/-- The header of a client is read as what its strings are misread as, with rounded numbers. -/
theorem client_reads_iff (env : Env) (hfields : Proper (finite (.obj fields))) :
    ReadsBack env (clientHeader (.obj fields)) fields ↔
      rounded (misreadJson (finite (.obj fields))) = .obj fields := by
  have htext : (utf8 (String.ofList (written (.obj fields)))).map byteChar =
      jsonChars (misreadJson (finite (.obj fields))) := by
    rw [map_byteChar_utf8, jsonChars_misreadJson _ hfields, String.toList_ofList, written]
  have hne : utf8 (String.ofList (written (.obj fields))) ≠ [] := by
    intro hnil
    rw [hnil] at htext
    exact jsonChars_obj_ne_nil _ htext.symm
  have hread : ReadsBack env (clientHeader (.obj fields)) fields ↔ _ := readsBack_iff env hne fields
  rw [hread, htext, parseDoubles, parse_jsonChars (proper_misreadJson _ hfields), Option.map_some,
    Option.some.injEq]

/-- It is read as it was sent if it was ASCII and of doubles, and only then. -/
theorem client_reads_back_iff (env : Env) (hfields : Proper (finite (.obj fields))) :
    ReadsBack env (clientHeader (.obj fields)) fields ↔
      Doubles (.obj fields) ∧ ∀ c ∈ written (.obj fields), c.toNat < 128 := by
  rw [client_reads_iff env hfields]
  have hmisread : misreadJson (finite (.obj fields)) = finite (.obj fields) ↔
      ∀ c ∈ written (.obj fields), c.toNat < 128 := by
    rw [← flatMap_misread_eq_iff, written, ← jsonChars_misreadJson _ hfields]
    refine ⟨fun h => congrArg jsonChars h, fun h => ?_⟩
    have hread := parse_jsonChars (proper_misreadJson _ hfields)
    rw [h, parse_jsonChars hfields] at hread
    exact (Option.some.inj hread).symm
  constructor
  · intro h
    obtain ⟨hdoubles, hsame⟩ := doubles_of_misread h
    refine ⟨hdoubles, hmisread.1 ?_⟩
    rw [finite_of_doubles hdoubles, hsame]
  · rintro ⟨hdoubles, hascii⟩
    rw [hmisread.2 hascii, finite_of_doubles hdoubles, rounded_of_doubles hdoubles]

/-! ### The result -/

/-- The encoder writes a header, and it is read back. -/
def EncodedReadsBack (env : Env) (encoded : Option String) (fields : Fields) : Prop :=
  ∃ header, encoded = some header ∧ ReadsBack env header fields

/-- The object survives its header in all three ways, from both encoders and from a client's
UTF-8. -/
def JsonObject.ReadsBack (env : Env) (object : JsonObject) : Prop :=
  EncodedReadsBack env (encodePaymentRequiredHeader object.toJson) object.fields ∧
    EncodedReadsBack env (encodePaymentResponseHeader object.toJson) object.fields ∧
    X402.ReadsBack env (clientHeader object.toJson) object.fields

/-- **Objects survive their headers** in all three ways if and only if their numbers are finite
and in the text of their doubles and their JSON text is ASCII; from the encoders, which write or
else throw, if and only if their numbers are so and it is Latin-1. -/
theorem headers_read_back_iff (env : Env) (object : JsonObject) :
    (object.ReadsBack env ↔
      Doubles object.toJson ∧ ∀ c ∈ written object.toJson, c.toNat < 128) ∧
    ((EncodedReadsBack env (encodePaymentRequiredHeader object.toJson) object.fields ∧
        EncodedReadsBack env (encodePaymentResponseHeader object.toJson) object.fields) ↔
      Doubles object.toJson ∧ ∀ c ∈ written object.toJson, c.toNat < 256) := by
  have hrequired : EncodedReadsBack env (encodePaymentRequiredHeader object.toJson)
      object.fields ↔ Doubles object.toJson ∧ ∀ c ∈ written object.toJson, c.toNat < 256 :=
    encoded_reads_back_iff env object.proper
  have hresponse : EncodedReadsBack env (encodePaymentResponseHeader object.toJson)
      object.fields ↔ Doubles object.toJson ∧ ∀ c ∈ written object.toJson, c.toNat < 256 :=
    encoded_reads_back_iff env object.proper
  have hclient : X402.ReadsBack env (clientHeader object.toJson) object.fields ↔
      Doubles object.toJson ∧ ∀ c ∈ written object.toJson, c.toNat < 128 :=
    client_reads_back_iff env object.proper
  unfold JsonObject.ReadsBack
  rw [hrequired, hresponse, hclient]
  refine ⟨⟨fun h => h.2.2, fun h => ?_⟩, and_self_iff⟩
  have hlatin : ∀ c ∈ written object.toJson, c.toNat < 256 := fun c hc =>
    Nat.lt_trans (h.2 c hc) (by decide)
  exact ⟨⟨h.1, hlatin⟩, ⟨h.1, hlatin⟩, h⟩

/-- The answer of a facilitator, with a status and an error. -/
def facilitatorAnswer (status : Int) (error : String) : JsonObject :=
  ⟨[("status", .num status), ("error", .str error)],
    by simp [finiteFields], trivial, trivial, trivial⟩

/-- An error in ASCII. -/
theorem ascii_error_reads_back : (facilitatorAnswer 402 "expired").ReadsBack Env.bare :=
  (headers_read_back_iff Env.bare (facilitatorAnswer 402 "expired")).1.2
    ⟨⟨⟨rfl, by rfl⟩, trivial, trivial⟩, lt_of_all (by decide +kernel)⟩

/-- With a typographic apostrophe in it, `btoa` throws; and a number that is not one of a double
comes back as another. -/
theorem typographic_error_throws :
    (encodePaymentResponseHeader (facilitatorAnswer 402 "can’t settle").toJson = none ∧
      ¬ (facilitatorAnswer 402 "can’t settle").ReadsBack Env.bare) ∧
    ¬ (facilitatorAnswer 9007199254740993 "expired").ReadsBack Env.bare := by
  have hnone : encodePaymentResponseHeader (facilitatorAnswer 402 "can’t settle").toJson =
      none := by
    decide +kernel
  refine ⟨⟨hnone, ?_⟩, ?_⟩
  · rintro ⟨-, ⟨header, hheader, -⟩, -⟩
    rw [hnone] at hheader
    cases hheader
  · rintro ⟨⟨header, hheader, hback⟩, -, -⟩
    obtain ⟨hdoubles, -⟩ := (encoded_reads_back_iff Env.bare
      (facilitatorAnswer 9007199254740993 "expired").proper).1 ⟨header, hheader, hback⟩
    have hrounded : rounded (.num 9007199254740993) = .num 9007199254740992 := by rfl
    have hsame : rounded (.num 9007199254740993) = .num 9007199254740993 := hdoubles.1.2
    rw [hrounded] at hsame
    cases hsame

end MailRuntime.X402
