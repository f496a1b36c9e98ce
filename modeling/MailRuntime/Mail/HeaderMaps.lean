import MailRuntime.Mail.Built

/-!
# The header map of a built message

The header map that the parser makes of a built message has the headers that the builder wrote, in
its order, and each of them is a function of its own field.
-/

namespace MailRuntime

open Js

attribute [local instance] decidableCharacters decidableCharacter

/-! ### Lower case -/

/-- What is used of `toLowerCase`: what it does to ASCII, and that nothing else turns into
`multipart/` by it. -/
structure LowersLetters (env : Env) : Prop where
  ascii : ∀ s : String, (∀ c ∈ s.toList, c.toNat < 128) →
    env.toLowerCase s = String.ofList (s.toList.map Char.toLower)
  multipart : ∀ s : String, startsWith "multipart/" (env.toLowerCase s).toList = true →
    (afterIgnoringCase "multipart/" s.toList).isSome = true

/-! ### White space around a value -/

theorem trimChars_space (l : List Char) : trimChars (' ' :: l) = trimChars l := by
  rw [trimChars, List.dropWhile_cons_of_pos (by decide), ← trimChars]

theorem dropWhile_eq_self {l : List Char} (h : ∀ c, l.head? = some c → isSpace c = false) :
    l.dropWhile isSpace = l := by
  cases l with
  | nil => rfl
  | cons c rest => rw [List.dropWhile_cons_of_neg (by simpa using h c rfl)]

theorem trimChars_eq_self {l : List Char} (hhead : ∀ c, l.head? = some c → isSpace c = false)
    (hlast : ∀ c, l.getLast? = some c → isSpace c = false) : trimChars l = l := by
  rw [trimChars, dropWhile_eq_self hhead, dropWhile_eq_self, List.reverse_reverse]
  intro c hc
  rw [List.head?_reverse] at hc
  exact hlast c hc

theorem head_dropWhile (l : List Char) :
    ∀ c, (l.dropWhile isSpace).head? = some c → isSpace c = false := by
  intro c hc
  have h := List.head?_dropWhile_not isSpace l
  rw [hc] at h
  simpa using h

/-- White space is taken off once. -/
theorem trimChars_trimChars (l : List Char) : trimChars (trimChars l) = trimChars l := by
  refine trimChars_eq_self (fun c hc => ?_) fun c hc => ?_
  · -- The head stays when the end is taken off.
    have hpre : trimChars l <+: l.dropWhile isSpace := by
      have hsuffix := List.dropWhile_suffix isSpace (l := (l.dropWhile isSpace).reverse)
      have := List.reverse_prefix.2 hsuffix
      rwa [List.reverse_reverse] at this
    obtain ⟨tail, htail⟩ := hpre
    refine head_dropWhile l c ?_
    rw [← htail, List.head?_append, hc]
    rfl
  · rw [trimChars, List.getLast?_reverse] at hc
    exact head_dropWhile _ c hc

theorem trimChars_normalizeHeaderValue (value : String) :
    trimChars (normalizeHeaderValue value).toList = (normalizeHeaderValue value).toList := by
  rw [normalizeHeaderValue, trim, String.toList_ofList, trimChars_trimChars]

/-! ### Maps of distinct names -/

/-- A field's name and value in the map. -/
def fieldPair (env : Env) (f : Field) : String × List Char :=
  (env.toLowerCase (trim (String.ofList f.name)), trimChars (f.value ++ unfoldedText f.more))

/-- Names that are set one after the other, each once. -/
theorem foldl_set {pairs : List (String × List Char)} (headers : Headers)
    (hnodup : ((headers ++ pairs).map Prod.fst).Nodup)
    (hproto : ∀ p ∈ pairs, p.1 ≠ "__proto__") :
    pairs.foldl (fun headers p => Headers.set headers p.1 p.2) headers = headers ++ pairs := by
  induction pairs generalizing headers with
  | nil => exact (List.append_nil headers).symm
  | cons p pairs ih =>
    have hnew : headers.any (fun h => h.1 == p.1) = false := by
      rw [List.any_eq_false]
      intro h hh heq
      rw [List.map_append, List.nodup_append] at hnodup
      refine hnodup.2.2 h.1 (List.mem_map_of_mem hh) p.1 ?_ (by simpa using heq)
      exact List.mem_map_of_mem List.mem_cons_self
    have hset : Headers.set headers p.1 p.2 = headers ++ [p] := by
      rw [Headers.set, if_neg (hproto p List.mem_cons_self), hnew, if_neg Bool.false_ne_true]
    have hassoc : headers ++ p :: pairs = (headers ++ [p]) ++ pairs := by simp
    rw [List.foldl_cons, hset, hassoc]
    rw [hassoc] at hnodup
    exact ih _ hnodup fun q hq => hproto q (List.mem_cons_of_mem _ hq)

/-- The map of fields with distinct names. -/
theorem headersOf_eq {env : Env} {fields : List Field} {pairs : List (String × List Char)}
    {keys : List String} (hnodup : keys.Nodup) (hproto : "__proto__" ∉ keys)
    (hkeys : (pairs.map Prod.fst).Sublist keys) (hpairs : fields.map (fieldPair env) = pairs) :
    headersOf env fields = pairs := by
  have hfold : headersOf env fields =
      (fields.map (fieldPair env)).foldl (fun headers p => Headers.set headers p.1 p.2) [] := by
    rw [List.foldl_map]
    rfl
  rw [hfold, hpairs, foldl_set [] (hnodup.sublist hkeys)]
  · rfl
  · intro p hp h
    exact hproto (h ▸ hkeys.subset (List.mem_map_of_mem hp))

/-- A name of ASCII, and what it is in lower case. -/
def IsKey (name key : String) : Prop :=
  (∀ c ∈ (trim name).toList, c.toNat < 128) ∧
    String.ofList ((trim name).toList.map Char.toLower) = key

instance (name key : String) : Decidable (IsKey name key) := by
  unfold IsKey
  infer_instance

section Pairs

variable {env : Env} (hlower : LowersLetters env) {name key : String}
  {hname : '\n' ∉ name.toList ∧ ':' ∉ name.toList ∧
    ∀ c, name.toList.head? = some c → isFoldSpace c = false}

include hlower

theorem fieldPair_plainField (hkey : IsKey name key) {value : String}
    (hvalue : '\n' ∉ value.toList) :
    fieldPair env (plainField name value hname hvalue) = (key, trimChars value.toList) := by
  rw [fieldPair]
  show (env.toLowerCase (trim (String.ofList name.toList)), trimChars (' ' :: value.toList ++ [])) = _
  rw [String.ofList_toList, hlower.ascii _ hkey.1, hkey.2, List.append_nil, trimChars_space]

theorem fieldPair_valueField (hkey : IsKey name key) (value : String) :
    fieldPair env (valueField name hname value) = (key, (normalizeHeaderValue value).toList) := by
  rw [valueField, fieldPair_plainField hlower hkey, trimChars_normalizeHeaderValue]

theorem fieldPair_listField (hkey : IsKey name key) (separator : String)
    (hseparator : '\n' ∉ separator.toList) (values : List String) :
    fieldPair env (listField name hname separator hseparator values) =
      (key, trimChars (join separator (values.map normalizeHeaderValue)).toList) :=
  fieldPair_plainField hlower hkey _

end Pairs

/-! ### The map of a built message -/

/-- A header of one value, if there is a value and it is not empty. -/
def optionalEntry (key : String) (value : Option String) : Headers :=
  ((value.filter truthy).map fun v => (key, (normalizeHeaderValue v).toList)).toList

/-- A header of a list of values. -/
def listEntry (key separator : String) (values : List String) : String × List Char :=
  (key, trimChars (join separator (values.map normalizeHeaderValue)).toList)

/-- A header of a list of values, if the list is not empty. -/
def optionalListEntry (key separator : String) (values : List String) : Headers :=
  if values.isEmpty then [] else [listEntry key separator values]

/-- The headers up to the content type, each with the value of its own field. -/
def BuildMimeInput.headerMap (input : BuildMimeInput) : Headers :=
  [("from", (normalizeHeaderValue input.sender).toList), listEntry "to" ", " input.toList,
    ("subject", (normalizeHeaderValue input.subject).toList), ("mime-version", "1.0".toList)] ++
  optionalEntry "date" input.date ++
  optionalEntry "message-id" input.messageId ++
  optionalListEntry "cc" ", " input.cc ++
  optionalListEntry "bcc" ", " input.bcc ++
  optionalListEntry "reply-to" ", " input.replyTo ++
  optionalEntry "in-reply-to" input.inReplyTo ++
  optionalListEntry "references" " " input.references

/-- The headers of a text in base64. -/
def textMap (subtype : String) : Headers :=
  [("content-type", ("text/" ++ subtype ++ "; charset=\"UTF-8\"").toList),
    ("content-transfer-encoding", "base64".toList)]

/-- The header of a multipart. -/
def multipartMap (subtype boundary : String) : Headers :=
  [("content-type", ("multipart/" ++ subtype ++ "; boundary=\"" ++ boundary ++ "\"").toList)]

/-- The content type of an attachment. -/
def MimeAttachment.type (attachment : MimeAttachment) : List Char :=
  trimChars (normalizeHeaderValue attachment.contentType ++ "; name=\"" ++
    normalizeHeaderValue attachment.filename ++ "\"").toList

/-- The headers of an attachment. -/
def MimeAttachment.headerMap (attachment : MimeAttachment) : Headers :=
  [("content-type", attachment.type),
    ("content-disposition", ("attachment; filename=\"" ++
      normalizeHeaderValue attachment.filename ++ "\"").toList),
    ("content-transfer-encoding", "base64".toList)]

/-- The headers from the content type on. -/
def BuildMimeInput.contentMap (input : BuildMimeInput) (mixed : Boundary "mixed")
    (alt : Boundary "alt") : Headers :=
  if input.attachments.isEmpty then
    match input.text.filter truthy, input.html.filter truthy with
    | none, some _ => textMap "html"
    | some _, none => textMap "plain"
    | _, _ => multipartMap "alternative" alt.text
  else multipartMap "mixed" mixed.text

section Maps

variable {env : Env} (hlower : LowersLetters env)

include hlower

theorem fieldPairs_fields (input : BuildMimeInput) :
    input.fields.map (fieldPair env) = input.headerMap := by
  have hoption : ∀ name key hname, IsKey name key → ∀ value : Option String,
      (((value.filter truthy).map (valueField name hname)).toList).map (fieldPair env) =
        optionalEntry key value := by
    intro name key hname hkey value
    rw [optionalEntry]
    cases value.filter truthy with
    | none => rfl
    | some v => exact congrArg (fun p => [p]) (fieldPair_valueField hlower hkey v)
  have hlist : ∀ name key hname, IsKey name key → ∀ separator hseparator (values : List String),
      (if values.isEmpty then [] else [listField name hname separator hseparator values]).map
        (fieldPair env) = optionalListEntry key separator values := by
    intro name key hname hkey separator hseparator values
    rw [optionalListEntry]
    split
    · rfl
    · exact congrArg (fun p => [p]) (fieldPair_listField hlower hkey separator hseparator values)
  have hversion : fieldPair env (plainField "MIME-Version" "1.0" (by decide) (by decide)) =
      ("mime-version", "1.0".toList) := fieldPair_plainField hlower (by decide) (by decide)
  simp only [BuildMimeInput.fields, BuildMimeInput.headerMap, List.map_append, List.map_cons,
    List.map_nil, hversion,
    fieldPair_valueField hlower (show IsKey "From" "from" by decide),
    fieldPair_valueField hlower (show IsKey "Subject" "subject" by decide),
    fieldPair_listField hlower (show IsKey "To" "to" by decide),
    hoption "Date" "date" _ (by decide), hoption "Message-ID" "message-id" _ (by decide),
    hoption "In-Reply-To" "in-reply-to" _ (by decide), hlist "Cc" "cc" _ (by decide),
    hlist "Bcc" "bcc" _ (by decide), hlist "Reply-To" "reply-to" _ (by decide),
    hlist "References" "references" _ (by decide)]
  rfl

/-- The names in a map of a part, at most. -/
def partKeys : List String := ["content-type", "content-disposition", "content-transfer-encoding"]

omit hlower in
theorem headersOf_part {fields : List Field} {pairs : List (String × List Char)}
    (hkeys : (pairs.map Prod.fst).Sublist partKeys) (hpairs : fields.map (fieldPair env) = pairs) :
    headersOf env fields = pairs :=
  headersOf_eq (by decide) (by decide) hkeys hpairs

/-- The names that the builder writes up to the content type, at most. -/
def messageKeys : List String :=
  ["from", "to", "subject", "mime-version"] ++ ["date"] ++ ["message-id"] ++ ["cc"] ++ ["bcc"] ++
    ["reply-to"] ++ ["in-reply-to"] ++ ["references"]

omit hlower in
theorem keys_headerMap (input : BuildMimeInput) :
    (input.headerMap.map Prod.fst).Sublist messageKeys := by
  have hoption : ∀ key value, ((optionalEntry key value).map Prod.fst).Sublist [key] := by
    intro key value
    rw [optionalEntry]
    cases value.filter truthy with
    | none => exact List.nil_sublist _
    | some v => exact List.Sublist.refl _
  have hlist : ∀ key separator values,
      ((optionalListEntry key separator values).map Prod.fst).Sublist [key] := by
    intro key separator values
    rw [optionalListEntry]
    split
    · exact List.nil_sublist _
    · exact List.Sublist.refl _
  simp only [BuildMimeInput.headerMap, List.map_append]
  exact (((((((List.Sublist.refl _).append (hoption _ _)).append (hoption _ _)).append
    (hlist _ _ _)).append (hlist _ _ _)).append (hlist _ _ _)).append (hoption _ _)).append
    (hlist _ _ _)

theorem pairs_textEntity {subtype : String} {hsubtype : '\n' ∉ subtype.toList} (content : String)
    (htrim : trimChars ("text/" ++ subtype ++ "; charset=\"UTF-8\"").toList =
      ("text/" ++ subtype ++ "; charset=\"UTF-8\"").toList) :
    (textEntity subtype hsubtype content).fields.map (fieldPair env) = textMap subtype := by
  simp only [textEntity, Entity.fields, List.map_cons, List.map_nil,
    fieldPair_plainField hlower (show IsKey "Content-Type" "content-type" by decide),
    fieldPair_plainField hlower
      (show IsKey "Content-Transfer-Encoding" "content-transfer-encoding" by decide), htrim]
  rfl

omit hlower in
theorem trimChars_multipart (subtype boundary : String) :
    trimChars ("multipart/" ++ subtype ++ "; boundary=\"" ++ boundary ++ "\"").toList =
      ("multipart/" ++ subtype ++ "; boundary=\"" ++ boundary ++ "\"").toList := by
  refine trimChars_eq_self (fun c hc => ?_) fun c hc => ?_
  · simp only [String.toList_append, List.append_assoc] at hc
    obtain rfl : 'm' = c := Option.some.inj hc
    rfl
  · rw [String.toList_append, List.getLast?_append_of_ne_nil _ (by decide)] at hc
    obtain rfl : '"' = c := Option.some.inj hc
    rfl

theorem pairs_alternativeEntity (input : BuildMimeInput) (alt : Boundary "alt") :
    (input.alternativeEntity alt).fields.map (fieldPair env) =
      multipartMap "alternative" alt.text := by
  simp only [BuildMimeInput.alternativeEntity, Entity.fields, List.map_cons, List.map_nil,
    fieldPair_plainField hlower (show IsKey "Content-Type" "content-type" by decide)]
  exact congrArg (fun l => [("content-type", l)]) (trimChars_multipart "alternative" alt.text)

theorem pairs_mixedEntity (input : BuildMimeInput) (mixed : Boundary "mixed")
    (alt : Boundary "alt") :
    (input.mixedEntity mixed alt).fields.map (fieldPair env) = multipartMap "mixed" mixed.text := by
  simp only [BuildMimeInput.mixedEntity, Entity.fields, List.map_cons, List.map_nil,
    fieldPair_plainField hlower (show IsKey "Content-Type" "content-type" by decide)]
  exact congrArg (fun l => [("content-type", l)]) (trimChars_multipart "mixed" mixed.text)

theorem pairs_attachmentEntity (attachment : MimeAttachment) :
    (attachmentEntity attachment).fields.map (fieldPair env) = attachment.headerMap := by
  have htrim : trimChars ("attachment; filename=\"" ++
      normalizeHeaderValue attachment.filename ++ "\"").toList = ("attachment; filename=\"" ++
      normalizeHeaderValue attachment.filename ++ "\"").toList := by
    refine trimChars_eq_self (fun c hc => ?_) fun c hc => ?_
    · simp only [String.toList_append, List.append_assoc] at hc
      obtain rfl : 'a' = c := Option.some.inj hc
      rfl
    · rw [String.toList_append, List.getLast?_append_of_ne_nil _ (by decide)] at hc
      obtain rfl : '"' = c := Option.some.inj hc
      rfl
  simp only [attachmentEntity, Entity.fields, List.map_cons, List.map_nil,
    fieldPair_plainField hlower (show IsKey "Content-Type" "content-type" by decide),
    fieldPair_plainField hlower (show IsKey "Content-Disposition" "content-disposition" by decide),
    fieldPair_plainField hlower
      (show IsKey "Content-Transfer-Encoding" "content-transfer-encoding" by decide), htrim]
  rfl

theorem pairs_content (input : BuildMimeInput) (mixed : Boundary "mixed") (alt : Boundary "alt") :
    (input.content mixed alt).fields.map (fieldPair env) = input.contentMap mixed alt := by
  rw [BuildMimeInput.content, BuildMimeInput.contentMap]
  by_cases hattachments : input.attachments.isEmpty = true
  · rw [if_pos hattachments, if_pos hattachments]
    rcases input.text.filter truthy with _ | text <;> rcases input.html.filter truthy with _ | html
    · exact pairs_alternativeEntity hlower input alt
    · exact pairs_textEntity hlower html (by decide)
    · exact pairs_textEntity hlower text (by decide)
    · exact pairs_alternativeEntity hlower input alt
  · rw [if_neg hattachments, if_neg hattachments]
    exact pairs_mixedEntity hlower input mixed alt

omit hlower in
theorem keys_contentMap (input : BuildMimeInput) (mixed : Boundary "mixed") (alt : Boundary "alt") :
    ((input.contentMap mixed alt).map Prod.fst).Sublist
      ["content-type", "content-transfer-encoding"] := by
  rw [BuildMimeInput.contentMap]
  split
  · split
    · exact List.Sublist.refl _
    · exact List.Sublist.refl _
    · exact (List.nil_sublist _).cons_cons _
  · exact (List.nil_sublist _).cons_cons _

/-- **The map of a message**: what its headers say, and what its content says. -/
theorem headersOf_entity (input : BuildMimeInput) (mixed : Boundary "mixed") (alt : Boundary "alt") :
    headersOf env (input.entity mixed alt).fields =
      input.headerMap ++ input.contentMap mixed alt := by
  have hfields : (input.entity mixed alt).fields = input.fields ++ (input.content mixed alt).fields := by
    rw [BuildMimeInput.entity]
    cases input.content mixed alt <;> rfl
  have hnodup : (messageKeys ++ ["content-type", "content-transfer-encoding"]).Nodup := by decide
  refine headersOf_eq hnodup (by decide) ?_ ?_
  · rw [List.map_append]
    exact (keys_headerMap input).append (keys_contentMap input mixed alt)
  rw [hfields, List.map_append, fieldPairs_fields hlower, pairs_content hlower]

theorem headersOf_content (input : BuildMimeInput) (mixed : Boundary "mixed")
    (alt : Boundary "alt") :
    headersOf env (input.content mixed alt).fields = input.contentMap mixed alt :=
  headersOf_part ((keys_contentMap input mixed alt).trans
    ((List.sublist_cons_self _ _).cons_cons _)) (pairs_content hlower input mixed alt)

end Maps

end MailRuntime
