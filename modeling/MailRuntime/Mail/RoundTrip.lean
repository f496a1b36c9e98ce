import MailRuntime.Mail.Splitting

/-!
# Building and parsing

What the parser makes of a built message. The header map has the headers of the builder, each with a
value of its own, whatever the values are; the body has the parts of the builder. So the text, the HTML
and the attachments come back as they were given.
-/

namespace MailRuntime

open Js Interaction

attribute [local instance] decidableCharacters decidableCharacter

/-! ### Content types -/

section Types

variable {env : Env} (hlower : LowersLetters env)

/-- A character of ASCII. -/
def isAscii (c : Char) : Bool := c.toNat < 128

theorem toLowerCase_ofList {l : List Char} (hlower : LowersLetters env) (h : l.all isAscii = true) :
    env.toLowerCase (String.ofList l) = String.ofList (l.map Char.toLower) := by
  rw [hlower.ascii, String.toList_ofList]
  rw [String.toList_ofList]
  intro c hc
  simpa [isAscii] using List.all_eq_true.1 h c hc

theorem contentTypeOf_cons (value : List Char) (rest : Headers) :
    contentTypeOf (("content-type", value) :: rest) = value := by
  rw [contentTypeOf, Headers.get, List.lookup_cons_self, Option.getD_some]

theorem contentTypeOf_textMap (subtype : String) :
    contentTypeOf (textMap subtype) = ("text/" ++ subtype ++ "; charset=\"UTF-8\"").toList :=
  contentTypeOf_cons _ _

theorem contentTypeOf_multipartMap (subtype boundary : String) :
    contentTypeOf (multipartMap subtype boundary) =
      ("multipart/" ++ subtype ++ "; boundary=\"" ++ boundary ++ "\"").toList :=
  contentTypeOf_cons _ _

theorem contentTypeOf_headerMap (a : MimeAttachment) : contentTypeOf a.headerMap = a.type :=
  contentTypeOf_cons _ _

/-- What the reader finds in the content type of a text. -/
structure TextType (type : List Char) (html : Bool) : Prop where
  ascii : type.all isAscii = true
  single : startsWith "multipart/" (type.map Char.toLower) = false
  charset : extractCharset type = some "UTF-8".toList
  unnamed : extractFilename none type = none
  html : includes (String.ofList (type.map Char.toLower)) "text/html" = html

theorem textType {subtype : String} (h : subtype = "plain" ∨ subtype = "html") :
    TextType ("text/" ++ subtype ++ "; charset=\"UTF-8\"").toList (decide (subtype = "html")) := by
  rcases h with rfl | rfl <;>
    exact ⟨by decide, by decide, by decide +kernel, by decide +kernel, by decide +kernel⟩

include hlower

theorem isMultipart_textMap {subtype : String} (h : subtype = "plain" ∨ subtype = "html") :
    isMultipart env (textMap subtype) = false := by
  rw [isMultipart, contentTypeOf_textMap, toLowerCase_ofList hlower, String.toList_ofList]
  · exact (textType h).single
  · exact (textType h).ascii

theorem isMultipart_multipartMap {label subtype : String}
    (h : subtype = "alternative" ∨ subtype = "mixed") (hlabel : ∀ c ∈ label.toList, c ∈ labelChars)
    (b : Boundary label) : isMultipart env (multipartMap subtype b.text) = true := by
  have hascii : ∀ c ∈ labelChars, isAscii c = true := by decide
  have htext : b.text.toList.all isAscii = true :=
    List.all_eq_true.2 fun c hc => hascii c (b.mem_labelChars hlabel c hc)
  rw [isMultipart, contentTypeOf_multipartMap, toLowerCase_ofList hlower, String.toList_ofList]
  · simp only [String.toList_append, List.map_append, List.append_assoc]
    rfl
  · simp only [String.toList_append, List.all_append, htext]
    rcases h with rfl | rfl <;> decide

omit hlower in
/-- The boundary is found in the content type. -/
theorem extractBoundary_multipartMap {label subtype : String}
    (h : subtype = "alternative" ∨ subtype = "mixed") (hlabel : ∀ c ∈ label.toList, c ∈ labelChars)
    (b : Boundary label) :
    extractBoundary (contentTypeOf (multipartMap subtype b.text)) = some b.text.toList := by
  have hclean := b.clean hlabel
  have htext : contentTypeOf (multipartMap subtype b.text) =
      ("multipart/" ++ subtype ++ "; ").toList ++ ("boundary=".toList ++
        '"' :: (b.text.toList ++ ['"'])) := by
    rw [contentTypeOf_multipartMap]
    simp only [String.toList_append, List.append_assoc]
    rfl
  -- No letter before the parameter is a `b`.
  have hbefore : ∀ c ∈ ("multipart/" ++ subtype ++ "; ").toList, c.toLower ≠ 'b' := by
    rcases h with rfl | rfl <;> decide
  have htake : (b.text.toList ++ ['"']).takeWhile (fun c => c != '"' && c != ';') =
      b.text.toList := by
    rw [List.takeWhile_append_of_pos]
    · simp
    · intro c hc
      have hquote : c ≠ '"' := fun h => hclean.plain '"' (by decide) (h ▸ hc)
      have hsemicolon : c ≠ ';' := fun h => hclean.plain ';' (by decide) (h ▸ hc)
      simp [hquote, hsemicolon]
  have hafter : ∀ l, afterIgnoringCase "boundary=" ("boundary=".toList ++ l) = some l := by
    intro l
    refine (if_pos ?_).trans (congrArg some ?_)
    · rw [← String.length_toList, List.take_left]
      decide
    · rw [← String.length_toList, List.drop_left]
  rw [extractBoundary, htext, parameter, firstMatch_append]
  · refine firstMatch_of_head ?_
    dsimp only
    rw [hafter, Option.bind_eq_bind, Option.bind_some, List.head?_cons, if_pos rfl,
      List.drop_succ_cons, List.drop_zero, oneOrMore, htake,
      if_neg (by simpa using hclean.nonempty)]
    rfl
  · intro t ht hsuffix
    cases t with
    | nil => exact absurd rfl ht
    | cons c t =>
      have hc := hbefore c (hsuffix.subset List.mem_cons_self)
      have hnone : afterIgnoringCase "boundary=" (c :: t ++
          ("boundary=".toList ++ '"' :: (b.text.toList ++ ['"']))) = none := by
        refine if_neg fun heq => hc ?_
        rw [List.cons_append] at heq
        exact (List.cons.inj heq).1
      rw [hnone]
      rfl

omit hlower in
/-- The content type of an attachment needs no trimming. -/
theorem MimeAttachment.type_eq (a : MimeAttachment) :
    a.type = (normalizeHeaderValue a.contentType).toList ++
      ';' :: (" name=\"".toList ++ (normalizeHeaderValue a.filename).toList ++ ['"']) := by
  have htext : (normalizeHeaderValue a.contentType ++ "; name=\"" ++
      normalizeHeaderValue a.filename ++ "\"").toList =
      (normalizeHeaderValue a.contentType).toList ++
        ';' :: (" name=\"".toList ++ (normalizeHeaderValue a.filename).toList ++ ['"']) := by
    simp only [String.toList_append, List.append_assoc]
    rfl
  rw [MimeAttachment.type, htext]
  refine trimChars_eq_self (fun c hc => ?_) fun c hc => ?_
  · cases hv : (normalizeHeaderValue a.contentType).toList with
    | nil =>
      rw [hv] at hc
      obtain rfl : ';' = c := Option.some.inj hc
      rfl
    | cons d rest =>
      rw [hv] at hc
      have htrim := trimChars_normalizeHeaderValue a.contentType
      rw [hv] at htrim
      obtain rfl : d = c := Option.some.inj hc
      by_contra hspace
      rw [Bool.not_eq_false] at hspace
      have hlength := congrArg List.length htrim
      rw [trimChars, List.dropWhile_cons_of_pos (by simpa using hspace)] at hlength
      have h1 := (List.dropWhile_sublist isSpace (l := (rest.dropWhile isSpace).reverse)).length_le
      have h2 := (List.dropWhile_sublist isSpace (l := rest)).length_le
      rw [List.length_reverse] at h1 hlength
      rw [List.length_cons] at hlength
      omega
  · rw [← List.cons_append, ← List.append_assoc,
      List.getLast?_append_of_ne_nil _ (List.cons_ne_nil _ [])] at hc
    obtain rfl : '"' = c := Option.some.inj hc
    rfl

/-- The content type is not one of a multipart, in any case. -/
def MimeAttachment.Single (a : MimeAttachment) : Prop :=
  afterIgnoringCase "multipart/" (normalizeHeaderValue a.contentType).toList = none

instance (a : MimeAttachment) : Decidable a.Single := by
  unfold MimeAttachment.Single
  infer_instance

theorem isMultipart_headerMap {a : MimeAttachment} (h : a.Single) :
    isMultipart env a.headerMap = false := by
  rw [isMultipart, contentTypeOf_headerMap, ← Bool.not_eq_true]
  intro hstarts
  have hsome := hlower.multipart _ hstarts
  rw [String.toList_ofList, a.type_eq] at hsome
  unfold MimeAttachment.Single at h
  have hten : "multipart/".length = 10 := by decide
  generalize (normalizeHeaderValue a.contentType).toList = type at h hsome
  rw [afterIgnoringCase, hten] at h hsome
  by_cases hlong : 10 ≤ type.length
  · -- The type is as long as the prefix, so nothing after it counts.
    rw [List.take_append_of_le_length hlong] at hsome
    split at h
    · cases h
    · next hne =>
      rw [if_neg hne] at hsome
      cases hsome
  · -- The semicolon is among the characters that are compared.
    have hmem : ';' ∈ (type ++ ';' :: (" name=\"".toList ++
        (normalizeHeaderValue a.filename).toList ++ ['"'])).take 10 := by
      rw [List.take_append, List.mem_append]
      right
      rw [show 10 - type.length = (9 - type.length) + 1 by omega, List.take_succ_cons]
      exact List.mem_cons_self
    split at hsome
    · next heq =>
      have hmem := List.mem_map_of_mem (f := Char.toLower) hmem
      rw [heq] at hmem
      revert hmem
      decide
    · cases hsome

end Types

/-! ### Bodies -/

section Bodies

variable {env : Env} (hlower : LowersLetters env)

include hlower

/-- A body in base64 is decoded. -/
theorem decodeBody_base64 (bytes : List UInt8) :
    decodeBody env (foldBase64 (toBase64 bytes)).toList (some "base64".toList) = some bytes := by
  have hencoding : env.toLowerCase (String.ofList "base64".toList) = "base64" := by
    rw [toLowerCase_ofList hlower (by decide)]
    decide
  rw [decodeBody, Option.map_some, hencoding]
  exact atob_foldBase64 bytes

theorem decodeText_utf8 {subtype : String} (h : subtype = "plain" ∨ subtype = "html")
    {content : String} (hbom : content.toList.head? ≠ some '\uFEFF') :
    decodeText env (utf8 content) ("text/" ++ subtype ++ "; charset=\"UTF-8\"").toList =
      content.toList := by
  have hlabel : env.toLowerCase (trim (String.ofList "UTF-8".toList)) = "utf-8" := by
    rw [trim, toLowerCase_ofList hlower (by decide)]
    decide
  have hnormal : normalizeCharsetLabel env (some "UTF-8".toList) = some "utf-8" := by
    rw [normalizeCharsetLabel, Option.map_some, hlabel]
    decide
  rw [decodeText, (textType h).charset, hnormal]
  exact utf8Decode_utf8 hbom

/-- What an attachment is read as. -/
def MimeAttachment.parsed (a : MimeAttachment) : ParsedAttachment :=
  ⟨(extractFilename (a.headerMap.get "content-disposition") a.type).map String.ofList,
    String.ofList a.type, a.content⟩

theorem collectLeaf_attachment (a : MimeAttachment) (output : Content) :
    collectLeaf env output (a.headerMap, (foldBase64 (toBase64 a.content)).toList) =
      some { output with attachments := output.attachments ++ [a.parsed] } := by
  have hencoding : a.headerMap.get "content-transfer-encoding" = some "base64".toList := rfl
  have hdisposition : a.headerMap.get "content-disposition" = some ("attachment; filename=\"" ++
      normalizeHeaderValue a.filename ++ "\"").toList := rfl
  have hattachment : (firstMatch (afterIgnoringCase "attachment") ("attachment; filename=\"" ++
      normalizeHeaderValue a.filename ++ "\"").toList).isSome = true := by
    simp only [String.toList_append, List.append_assoc]
    rfl
  rw [collectLeaf, contentTypeOf_headerMap, collectPart]
  dsimp only
  rw [hencoding, decodeBody_base64 hlower, Option.bind_eq_bind, Option.bind_some,
    MimeAttachment.parsed, hdisposition, Option.bind_some, hattachment, Bool.true_or, if_pos rfl]

theorem collectLeaf_text {subtype : String} (h : subtype = "plain" ∨ subtype = "html")
    {content : String} (hbom : content.toList.head? ≠ some '\uFEFF') (output : Content) :
    collectLeaf env output (textMap subtype, (foldBase64 (textToBase64 content)).toList) =
      some (if subtype = "html" then { output with html := some content.toList }
        else { output with text := some content.toList }) := by
  have hencoding : (textMap subtype).get "content-transfer-encoding" = some "base64".toList := rfl
  have hdisposition : (textMap subtype).get "content-disposition" = none := rfl
  have hhtml : includes (env.toLowerCase (String.ofList
      ("text/" ++ subtype ++ "; charset=\"UTF-8\"").toList)) "text/html" =
        decide (subtype = "html") := by
    rw [toLowerCase_ofList hlower (textType h).ascii, (textType h).html]
  rw [collectLeaf, contentTypeOf_textMap, collectPart]
  dsimp only
  rw [hencoding, hdisposition, textToBase64, decodeBody_base64 hlower, Option.bind_eq_bind,
    Option.bind_some, (textType h).unnamed, hhtml, decodeText_utf8 hlower h hbom]
  rcases h with rfl | rfl <;> rfl

end Bodies

/-! ### The leaves of a built message -/

section Leaves

variable {env : Env} (hlower : LowersLetters env) (input : BuildMimeInput)

theorem leavesOf_append (parts parts' : List Entity) :
    Entity.leavesOf (parts ++ parts') = Entity.leavesOf parts ++ Entity.leavesOf parts' := by
  induction parts with
  | nil => rfl
  | cons part parts ih => rw [List.cons_append, Entity.leavesOf, Entity.leavesOf, ih, List.append_assoc]

/-- In each layout the leaves are the text, the HTML and the attachments that there are. -/
theorem leaves_content (mixed : Boundary "mixed") (alt : Boundary "alt") :
    (input.content mixed alt).leaves =
      Entity.leavesOf (input.textParts ++ input.attachments.map attachmentEntity) := by
  rw [leavesOf_append, BuildMimeInput.content]
  by_cases hattachments : input.attachments = []
  · rw [hattachments, List.map_nil, List.isEmpty_nil, if_pos rfl]
    have hnil : Entity.leavesOf [] = [] := rfl
    rw [hnil, List.append_nil]
    have hparts : ∀ text html, input.text.filter truthy = text → input.html.filter truthy = html →
        input.textParts = (text.map (textEntity "plain" (by decide))).toList ++
          (html.map (textEntity "html" (by decide))).toList := by
      rintro text html rfl rfl
      rfl
    cases htext : input.text.filter truthy with
    | none =>
      cases hhtml : input.html.filter truthy with
      | none => rfl
      | some html =>
        rw [hparts _ _ htext hhtml]
        rfl
    | some text =>
      cases hhtml : input.html.filter truthy with
      | none =>
        rw [hparts _ _ htext hhtml]
        rfl
      | some html => rfl
  · rw [if_neg (by simpa using hattachments)]
    rfl

include hlower

/-- What is collected from the attachments. -/
theorem collect_attachments (attachments : List MimeAttachment) (output : Content) :
    ((Entity.leavesOf (attachments.map attachmentEntity)).map fun leaf =>
      (headersOf env leaf.1, leaf.2)).foldlM (collectLeaf env) output =
        some { output with
          attachments := output.attachments ++ attachments.map MimeAttachment.parsed } := by
  induction attachments generalizing output with
  | nil =>
    simp only [List.map_nil, List.append_nil]
    rfl
  | cons a attachments ih =>
    have hheaders := headersOf_part (List.Sublist.refl _) (pairs_attachmentEntity hlower a)
    have hleaves : Entity.leavesOf ((a :: attachments).map attachmentEntity) =
        ((attachmentEntity a).fields, (foldBase64 (toBase64 a.content)).toList) ::
          Entity.leavesOf (attachments.map attachmentEntity) := rfl
    rw [hleaves, List.map_cons, List.foldlM_cons, hheaders, collectLeaf_attachment hlower,
      Option.bind_eq_bind, Option.bind_some, ih, List.map_cons, List.append_assoc,
      List.singleton_append]

theorem headersOf_textEntity {subtype : String} (h : subtype = "plain" ∨ subtype = "html")
    (hsubtype : '\n' ∉ subtype.toList) (content : String) :
    headersOf env (textEntity subtype hsubtype content).fields = textMap subtype := by
  refine headersOf_part (by exact .cons_cons _ (.cons _ (.refl _))) (pairs_textEntity hlower content ?_)
  rcases h with rfl | rfl <;> decide

/-- What is collected from one of the two texts. -/
theorem collect_textEntity {subtype : String} (h : subtype = "plain" ∨ subtype = "html") hsubtype
    {value : Option String} (hbom : ∀ v ∈ value, v.toList.head? ≠ some '\uFEFF')
    (output : Content) :
    ((Entity.leavesOf ((value.filter truthy).map (textEntity subtype hsubtype)).toList).map
      fun leaf => (headersOf env leaf.1, leaf.2)).foldlM (collectLeaf env) output =
        some (match value.filter truthy with
          | none => output
          | some v => if subtype = "html" then { output with html := some v.toList }
              else { output with text := some v.toList }) := by
  cases hv : value.filter truthy with
  | none => rfl
  | some v =>
    have hheaders := headersOf_textEntity hlower h hsubtype v
    have hleaves : Entity.leavesOf (Option.map (textEntity subtype hsubtype) (some v)).toList =
        [((textEntity subtype hsubtype v).fields, (foldBase64 (textToBase64 v)).toList)] := rfl
    rw [hleaves, List.map_cons, List.map_nil, List.foldlM_cons, hheaders,
      collectLeaf_text hlower h (hbom v (Option.filter_eq_some_iff.1 hv).1), Option.bind_eq_bind,
      Option.bind_some, List.foldlM_nil]
    rfl

/-- What is collected from the text and the HTML. -/
theorem collect_texts (htext : ∀ text ∈ input.text, text.toList.head? ≠ some '\uFEFF')
    (hhtml : ∀ html ∈ input.html, html.toList.head? ≠ some '\uFEFF') :
    ((Entity.leavesOf input.textParts).map fun leaf =>
      (headersOf env leaf.1, leaf.2)).foldlM (collectLeaf env) {} =
        some { text := (input.text.filter truthy).map String.toList
               html := (input.html.filter truthy).map String.toList } := by
  rw [BuildMimeInput.textParts, leavesOf_append, List.map_append, List.foldlM_append,
    collect_textEntity hlower (.inl rfl) (by decide) htext, Option.bind_eq_bind,
    Option.bind_some, collect_textEntity hlower (.inr rfl) (by decide) hhtml]
  cases input.text.filter truthy <;> cases input.html.filter truthy <;> rfl

omit hlower in
theorem exists_of_mem_nodesOf {parts : List Entity} {x : Entity} (h : x ∈ Entity.nodesOf parts) :
    ∃ part ∈ parts, x ∈ part.nodes := by
  induction parts with
  | nil => cases h
  | cons part parts ih =>
    rcases List.mem_append.1 h with h | h
    · exact ⟨part, List.mem_cons_self, h⟩
    · obtain ⟨p, hp, hx⟩ := ih h
      exact ⟨p, List.mem_cons_of_mem _ hp, hx⟩

omit hlower in
/-- The entities of a built message. -/
theorem mem_nodes_content {mixed : Boundary "mixed"} {alt : Boundary "alt"} {x : Entity}
    (h : x ∈ (input.content mixed alt).nodes) :
    (∃ subtype hsubtype content, (subtype = "plain" ∨ subtype = "html") ∧
      x = textEntity subtype hsubtype content) ∨ x = input.alternativeEntity alt ∨
      x = input.mixedEntity mixed alt ∨ ∃ a ∈ input.attachments, x = attachmentEntity a := by
  have halternative : x ∈ (input.alternativeEntity alt).nodes →
      (∃ subtype hsubtype content, (subtype = "plain" ∨ subtype = "html") ∧
        x = textEntity subtype hsubtype content) ∨ x = input.alternativeEntity alt := by
    intro h
    rcases List.mem_cons.1 h with h | h
    · exact .inr h
    · obtain ⟨part, hpart, hx⟩ := exists_of_mem_nodesOf h
      obtain ⟨subtype, hsubtype, content, hkind, rfl⟩ := mem_textParts input hpart
      exact .inl ⟨subtype, hsubtype, content, hkind, List.mem_singleton.1 hx⟩
  rw [BuildMimeInput.content] at h
  split at h
  · split at h
    · exact .inl ⟨"html", by decide, _, .inr rfl, List.mem_singleton.1 h⟩
    · exact .inl ⟨"plain", by decide, _, .inl rfl, List.mem_singleton.1 h⟩
    · exact (halternative h).imp_right .inl
  · rcases List.mem_cons.1 h with h | h
    · exact .inr (.inr (.inl h))
    · obtain ⟨part, hpart, hx⟩ := exists_of_mem_nodesOf h
      rcases List.mem_cons.1 hpart with rfl | hpart
      · exact (halternative hx).imp_right .inl
      · obtain ⟨a, ha, rfl⟩ := List.mem_map.1 hpart
        exact .inr (.inr (.inr ⟨a, ha, List.mem_singleton.1 hx⟩))

theorem typed_multipart {label subtype : String} (b : Boundary label)
    (hsubtype : subtype = "alternative" ∨ subtype = "mixed")
    (hlabel : ∀ c ∈ label.toList, c ∈ labelChars) {fields : List Field}
    (hheaders : headersOf env fields = multipartMap subtype b.text) (parts : List Entity) :
    (Entity.multipart fields b.text.toList none parts none).Typed env := by
  have hclean := b.clean hlabel
  refine ⟨?_, ?_, hclean.nonempty, hclean.plain _ (by decide), hclean.plain _ (by decide)⟩
  · rw [hheaders, isMultipart_multipartMap hlower hsubtype hlabel]
  · rw [hheaders, extractBoundary_multipartMap hsubtype hlabel]

theorem headersOf_alternativeEntity (alt : Boundary "alt") :
    headersOf env (input.alternativeEntity alt).fields = multipartMap "alternative" alt.text :=
  headersOf_part (.cons_cons _ (List.nil_sublist _)) (pairs_alternativeEntity hlower input alt)

theorem headersOf_attachmentEntity (a : MimeAttachment) :
    headersOf env (attachmentEntity a).fields = a.headerMap :=
  headersOf_part (List.Sublist.refl _) (pairs_attachmentEntity hlower a)

theorem typed_alternativeEntity (alt : Boundary "alt") :
    (input.alternativeEntity alt).Typed env :=
  typed_multipart hlower alt (.inl rfl) (by decide) (headersOf_alternativeEntity hlower input alt) _

theorem typed_mixedEntity (mixed : Boundary "mixed") (alt : Boundary "alt") :
    (input.mixedEntity mixed alt).Typed env :=
  typed_multipart hlower mixed (.inr rfl) (by decide)
    (headersOf_part (.cons_cons _ (List.nil_sublist _)) (pairs_mixedEntity hlower input mixed alt)) _

theorem typed_content (mixed : Boundary "mixed") (alt : Boundary "alt")
    (hsingle : ∀ a ∈ input.attachments, a.Single) :
    ∀ x ∈ (input.content mixed alt).nodes, x.Typed env := by
  intro x hx
  rcases mem_nodes_content input hx with ⟨subtype, hsubtype, content, h, rfl⟩ | rfl | rfl |
    ⟨a, ha, rfl⟩
  · show isMultipart env (headersOf env (textEntity subtype hsubtype content).fields) = false
    rw [headersOf_textEntity hlower h, isMultipart_textMap hlower h]
  · exact typed_alternativeEntity hlower input alt
  · exact typed_mixedEntity hlower input mixed alt
  · show isMultipart env (headersOf env (attachmentEntity a).fields) = false
    rw [headersOf_attachmentEntity hlower]
    exact isMultipart_headerMap hlower (hsingle a ha)

omit hlower in
theorem splits_content (mixed : Boundary "mixed") (alt : Boundary "alt")
    (havoids : ∀ a ∈ input.attachments, a.Avoids mixed.text) :
    ∀ x ∈ (input.content mixed alt).nodes, x.Splits := by
  intro x hx
  rcases mem_nodes_content input hx with ⟨subtype, hsubtype, content, h, rfl⟩ | rfl | rfl |
    ⟨a, ha, rfl⟩
  · trivial
  · exact splits_alternativeEntity input alt
  · exact splits_mixedEntity input mixed alt havoids
  · trivial

/-- What is collected from the content. -/
theorem collectContent_content (mixed : Boundary "mixed") (alt : Boundary "alt")
    (htext : ∀ text ∈ input.text, text.toList.head? ≠ some '\uFEFF')
    (hhtml : ∀ html ∈ input.html, html.toList.head? ≠ some '\uFEFF')
    (hsingle : ∀ a ∈ input.attachments, a.Single)
    (havoids : ∀ a ∈ input.attachments, a.Avoids mixed.text) :
    collectContent env ((input.content mixed alt).body.length + 1)
      (input.contentMap mixed alt, (input.content mixed alt).body) {} =
        some { text := (input.text.filter truthy).map String.toList
               html := (input.html.filter truthy).map String.toList
               attachments := input.attachments.map MimeAttachment.parsed } := by
  have hvisited := Entity.visited_entity (input.content mixed alt)
    (typed_content hlower input mixed alt hsingle) (splits_content input mixed alt havoids) _
    (Nat.lt_succ_self _)
  rw [collectContent_eq, ← headersOf_content hlower, hvisited, leaves_content, leavesOf_append,
    List.map_append, List.foldlM_append, collect_texts hlower input htext hhtml,
    Option.bind_eq_bind, Option.bind_some, collect_attachments hlower, List.nil_append]

end Leaves

/-! ### Headers that say the same of the content -/

section Same

variable {env : Env} {headers headers' : Headers}

/-- The headers agree on the names that `collectContent` reads. -/
def SameContent (headers headers' : Headers) : Prop :=
  ∀ key ∈ partKeys, headers.get key = headers'.get key

theorem collectContent_congr (h : SameContent headers headers') (fuel : Nat) (body : List Char)
    (output : Content) :
    collectContent env fuel (headers, body) output =
      collectContent env fuel (headers', body) output := by
  have htype : headers.get "content-type" = headers'.get "content-type" := h _ (by decide)
  have hdisposition : headers.get "content-disposition" = headers'.get "content-disposition" :=
    h _ (by decide)
  have hencoding : headers.get "content-transfer-encoding" =
      headers'.get "content-transfer-encoding" := h _ (by decide)
  cases fuel with
  | zero => rfl
  | succ fuel =>
    rw [collectContent, collectContent, collectPart, collectPart]
    dsimp only
    rw [htype, hdisposition, hencoding]

theorem get_set {key name : String} (h : name ≠ key) (value : List Char) :
    (headers.set key value).get name = headers.get name := by
  have hmap : ∀ l : Headers,
      (l.map fun p => if p.1 == key then (key, value) else p).lookup name = l.lookup name := by
    intro l
    induction l with
    | nil => rfl
    | cons p l ih =>
      obtain ⟨k, v⟩ := p
      rw [List.map_cons]
      by_cases hk : k = key
      · subst hk
        rw [if_pos (beq_self_eq_true _), List.lookup_cons, List.lookup_cons, ih,
          beq_false_of_ne h]
      · rw [if_neg (by simpa using hk), List.lookup_cons, List.lookup_cons, ih]
  rw [Headers.set, Headers.get, Headers.get]
  split
  · rfl
  split
  · exact hmap headers
  · rw [List.lookup_append, List.lookup_cons, beq_false_of_ne h]
    exact Option.or_none

/-- Only the subject is decoded. -/
theorem get_decodeSubject {name : String} (h : name ≠ "subject") :
    (decodeSubject env headers).get name = headers.get name := by
  rw [decodeSubject]
  split
  · exact get_set h _
  · rfl

theorem sameContent_built (input : BuildMimeInput) (content : Headers) :
    SameContent (decodeSubject env (input.headerMap ++ content)) content := by
  intro key hkey
  have hsubject : key ≠ "subject" := by
    rintro rfl
    revert hkey
    decide
  have hnone : input.headerMap.lookup key = none := by
    rw [List.lookup_eq_none_iff]
    intro p hp
    have hmem := (keys_headerMap input).subset (List.mem_map_of_mem hp)
    have hdisjoint : ∀ k ∈ partKeys, k ∉ messageKeys := by decide
    have hne : key ≠ p.1 := fun heq => hdisjoint key hkey (heq ▸ hmem)
    simpa using hne
  rw [get_decodeSubject hsubject, Headers.get, List.lookup_append, hnone, Option.none_or, Headers.get]

end Same

/-! ### The results -/

section Results

variable {env : Env} (hlower : LowersLetters env) (input : BuildMimeInput)
  (mixed : Boundary "mixed") (alt : Boundary "alt")

include hlower

/-- The header block and the body of a built message. -/
theorem splitHeaderAndBody_entity :
    splitHeaderAndBody env (input.entity mixed alt).text =
      (input.headerMap ++ input.contentMap mixed alt, (input.content mixed alt).body) := by
  have hbody : (input.entity mixed alt).body = (input.content mixed alt).body := by
    rw [BuildMimeInput.entity]
    cases input.content mixed alt <;> rfl
  have hfields : (input.entity mixed alt).fields ≠ [] := by
    rw [BuildMimeInput.entity]
    cases input.content mixed alt <;> exact fun h => (by cases h)
  have hfeeds : NoFeeds (input.content mixed alt).body := by
    rw [BuildMimeInput.content]
    split
    · split
      · exact noFeeds_foldBase64 _
      · exact noFeeds_foldBase64 _
      · exact noFeeds_alternativeEntity input alt
    · exact noFeeds_mixedEntity input mixed alt
  rw [Entity.text, splitHeaderAndBody_text hfields, headersOf_entity hlower, hbody]
  rw [hbody]
  exact (noFeeds_text (e := .leaf (input.entity mixed alt).fields _) hfeeds).inside

/-- The content that is collected from a built message, with its headers. -/
theorem parseRawEmail_entity
    (htext : ∀ text ∈ input.text, text.toList.head? ≠ some '\uFEFF')
    (hhtml : ∀ html ∈ input.html, html.toList.head? ≠ some '\uFEFF')
    (hsingle : ∀ a ∈ input.attachments, a.Single)
    (havoids : ∀ a ∈ input.attachments, a.Avoids mixed.text) :
    ∃ email, parseRawEmail env (input.entity mixed alt).text = some email ∧
      email.text = input.text.filter truthy ∧ email.html = input.html.filter truthy ∧
      email.attachments = input.attachments.map MimeAttachment.parsed := by
  have hcontent := collectContent_content hlower input mixed alt htext hhtml hsingle havoids
  have hsame : SameContent (decodeSubject env (input.headerMap ++ input.contentMap mixed alt)) _ :=
    sameContent_built input _
  rw [← collectContent_congr hsame] at hcontent
  have hstrings : ∀ o : Option String, (o.map String.toList).map String.ofList = o := by
    intro o
    cases o with
    | none => rfl
    | some v => exact congrArg some (String.ofList_toList)
  rw [parseRawEmail, splitHeaderAndBody_entity hlower]
  dsimp only
  rw [hcontent, Option.bind_eq_bind, Option.bind_some]
  exact ⟨_, rfl, hstrings _, hstrings _, rfl⟩

/-- The headers of a parsed message are those of its block. -/
theorem headers_parseRawEmail {email : ParsedEmail}
    (h : parseRawEmail env (input.entity mixed alt).text = some email) :
    email.headers = decodeSubject env (input.headerMap ++ input.contentMap mixed alt) := by
  rw [parseRawEmail, splitHeaderAndBody_entity hlower] at h
  dsimp only at h
  obtain ⟨output, -, h⟩ := Option.bind_eq_some_iff.1 h
  rw [← Option.some.inj h]

end Results

/-- What a run of the builder writes. -/
theorem run_buildRawMimeMessage (env : Env) (input : BuildMimeInput) (s : Db) :
    (buildRawMimeMessage env input).run s =
      (.ok (input.bytes ("mailagents-mixed-" ++ env.randomHex s.draws)
        ("mailagents-alt-" ++ env.randomHex (s.draws + 1))), { s with draws := s.draws + 2 }) := by
  simp only [buildRawMimeMessage, randomBoundary, Prog.run_bind, Prog.run_draw, Prog.andThen_ok]
  rfl

/-- **Parsing undoes building.** Text and HTML that do not start with a byte order mark come back,
an empty one as none, and so do the contents of the attachments, in order, unless one says that it
is a multipart. -/
theorem built_message_reads_back (env : Env) (hlower : LowersLetters env)
    (hhex : ∀ n, ∀ c ∈ (env.randomHex n).toList, c ∈ "0123456789abcdef".toList)
    (input : BuildMimeInput) (s : Db)
    (htext : ∀ text ∈ input.text, text.toList.head? ≠ some '\uFEFF')
    (hhtml : ∀ html ∈ input.html, html.toList.head? ≠ some '\uFEFF')
    (hsingle : ∀ a ∈ input.attachments, a.Single)
    (havoids : ∀ a ∈ input.attachments,
      a.Avoids ("mailagents-mixed-" ++ env.randomHex s.draws)) :
    ∃ bytes s' email, (buildRawMimeMessage env input).run s = (.ok bytes, s') ∧
      parseRawEmail env (utf8Decode bytes) = some email ∧
      email.text = input.text.filter truthy ∧ email.html = input.html.filter truthy ∧
      email.attachments.map ParsedAttachment.content =
        input.attachments.map MimeAttachment.content := by
  let mixed : Boundary "mixed" := ⟨env.randomHex s.draws, hhex _⟩
  let alt : Boundary "alt" := ⟨env.randomHex (s.draws + 1), hhex _⟩
  obtain ⟨email, hparse, h1, h2, h3⟩ :=
    parseRawEmail_entity hlower input mixed alt htext hhtml hsingle havoids
  refine ⟨_, _, email, run_buildRawMimeMessage env input s, ?_, h1, h2, ?_⟩
  · rw [← input.utf8Decode_bytes] at hparse
    exact hparse
  · rw [h3, List.map_map]
    rfl

/-- An environment that lowers the letters of ASCII and draws digits. -/
def hexEnv : Env :=
  { Env.bare with
    toLowerCase := fun s => String.ofList (s.toList.map Char.toLower)
    randomHex := fun n => String.ofList (List.replicate n '0') }

theorem lowersLetters_hexEnv : LowersLetters hexEnv := by
  refine ⟨fun s _ => rfl, fun s h => ?_⟩
  have hlower : hexEnv.toLowerCase s = String.ofList (s.toList.map Char.toLower) := rfl
  have hpre : "multipart/".toList <+: s.toList.map Char.toLower := by
    rw [hlower, String.toList_ofList] at h
    exact List.isPrefixOf_iff_prefix.1 h
  have htake := List.prefix_iff_eq_take.1 hpre
  rw [← List.map_take] at htake
  exact congrArg Option.isSome (if_pos htake.symm)

theorem randomHex_hexEnv (n : Nat) :
    ∀ c ∈ (hexEnv.randomHex n).toList, c ∈ "0123456789abcdef".toList := by
  intro c hc
  have hhex : hexEnv.randomHex n = String.ofList (List.replicate n '0') := rfl
  rw [hhex, String.toList_ofList] at hc
  rw [List.eq_of_mem_replicate hc]
  decide

/-- A message with a text and one attachment. -/
def attachedInput (contentType : String) : BuildMimeInput where
  sender := "a@b"
  toList := ["c@d"]
  subject := "s"
  text := some "hi"
  html := none
  inReplyTo := none
  references := []
  attachments := [⟨"f", contentType, [1]⟩]

/-- A message with one attachment reads back. -/
theorem attachment_reads_back : ∃ bytes s' email,
    (buildRawMimeMessage hexEnv (attachedInput "image/png")).run ({} : Db) = (.ok bytes, s') ∧
      parseRawEmail hexEnv (utf8Decode bytes) = some email ∧
      email.text = some "hi" ∧ email.html = none ∧
      email.attachments.map ParsedAttachment.content = [[1]] := by
  refine built_message_reads_back hexEnv lowersLetters_hexEnv randomHex_hexEnv
    (attachedInput "image/png") {} ?_ ?_ ?_ ?_
  · rintro text ⟨⟩
    decide
  · rintro html ⟨⟩
  · intro a ha
    obtain rfl := List.mem_singleton.1 ha
    decide
  · intro a ha
    obtain rfl := List.mem_singleton.1 ha
    exact ⟨by decide +kernel, by decide +kernel⟩

/-- A message with nothing but an attachment whose content type starts with `Multipart/`. -/
def lostInput : BuildMimeInput := { attachedInput "Multipart/x" with text := none }

/-- Nothing is visited in it: its attachment is a multipart without a boundary. -/
theorem visited_lostInput (mixed : Boundary "mixed") (alt : Boundary "alt")
    (havoids : ∀ a ∈ lostInput.attachments, a.Avoids mixed.text) (fuel : Nat) :
    visited hexEnv (fuel + 2) (headersOf hexEnv (lostInput.mixedEntity mixed alt).fields,
      (lostInput.mixedEntity mixed alt).body) = [] := by
  have hattachment : ∀ a ∈ lostInput.attachments,
      visited hexEnv (fuel + 1) (headersOf hexEnv (attachmentEntity a).fields,
        (attachmentEntity a).body) = [] := by
    intro a ha
    obtain rfl := List.mem_singleton.1 ha
    have hboundary : extractBoundary
        (contentTypeOf (MimeAttachment.headerMap ⟨"f", "Multipart/x", [1]⟩)) = none := by
      decide
    rw [headersOf_attachmentEntity lowersLetters_hexEnv, visited, if_pos (by decide), hboundary]
  refine (Entity.visited_multipart (typed_mixedEntity lowersLetters_hexEnv lostInput mixed alt)
    (splits_mixedEntity lostInput mixed alt havoids) _).trans ?_
  rw [List.map_cons, List.flatMap_cons, List.append_eq_nil_iff]
  constructor
  · exact Entity.visited_multipart (typed_alternativeEntity lowersLetters_hexEnv lostInput alt)
      (splits_alternativeEntity lostInput alt) _
  · refine List.flatMap_eq_nil_iff.2 fun part hpart => ?_
    obtain ⟨e, he, rfl⟩ := List.mem_map.1 hpart
    obtain ⟨a, ha, rfl⟩ := List.mem_map.1 he
    exact hattachment a ha

/-- The attachment is lost, though its content type does not start with `multipart/`. -/
theorem multipart_type_lost :
    (∀ a ∈ lostInput.attachments, startsWith "multipart/" a.contentType.toList = false) ∧
      ∃ bytes s' email, (buildRawMimeMessage hexEnv lostInput).run ({} : Db) = (.ok bytes, s') ∧
        parseRawEmail hexEnv (utf8Decode bytes) = some email ∧
        email.attachments.map ParsedAttachment.content ≠
          lostInput.attachments.map MimeAttachment.content := by
  refine ⟨by decide, ?_⟩
  let mixed : Boundary "mixed" := ⟨hexEnv.randomHex 0, randomHex_hexEnv 0⟩
  let alt : Boundary "alt" := ⟨hexEnv.randomHex 1, randomHex_hexEnv 1⟩
  have havoids : ∀ a ∈ lostInput.attachments, a.Avoids mixed.text := by
    intro a ha
    obtain rfl := List.mem_singleton.1 ha
    exact ⟨by decide +kernel, by decide +kernel⟩
  have hcontent : lostInput.content mixed alt = lostInput.mixedEntity mixed alt := rfl
  have hpos : 1 ≤ (lostInput.content mixed alt).body.length := by
    rw [hcontent]
    exact Nat.succ_le_succ (Nat.zero_le _)
  have hcollect : collectContent hexEnv ((lostInput.content mixed alt).body.length + 1)
      (decodeSubject hexEnv (lostInput.headerMap ++ lostInput.contentMap mixed alt),
        (lostInput.content mixed alt).body) {} = some {} := by
    obtain ⟨fuel, hfuel⟩ : ∃ fuel, (lostInput.content mixed alt).body.length + 1 = fuel + 2 :=
      ⟨(lostInput.content mixed alt).body.length - 1, by omega⟩
    rw [collectContent_congr (sameContent_built lostInput _), hfuel,
      ← headersOf_content lowersLetters_hexEnv, collectContent_eq, hcontent,
      visited_lostInput mixed alt havoids]
    rfl
  obtain ⟨email, hparse, hempty⟩ : ∃ email,
      parseRawEmail hexEnv (lostInput.entity mixed alt).text = some email ∧
        email.attachments = [] := by
    rw [parseRawEmail, splitHeaderAndBody_entity lowersLetters_hexEnv]
    dsimp only
    rw [hcollect, Option.bind_eq_bind, Option.bind_some]
    exact ⟨_, rfl, rfl⟩
  refine ⟨_, _, email, run_buildRawMimeMessage hexEnv lostInput {}, ?_, ?_⟩
  · rw [← lostInput.utf8Decode_bytes] at hparse
    exact hparse
  · rw [hempty]
    exact fun h => by cases h

/-! ### Headers -/

section Headers

variable {env : Env} (hlower : LowersLetters env) (input : BuildMimeInput)
  (mixed : Boundary "mixed") (alt : Boundary "alt")

include hlower

/-- The parts of a message with attachments. -/
theorem parseMultipart_content (hattachments : input.attachments ≠ [])
    (havoids : ∀ a ∈ input.attachments, a.Avoids mixed.text) :
    parseMultipart env (input.content mixed alt).body mixed.text.toList =
      (multipartMap "alternative" alt.text, (input.alternativeEntity alt).body) ::
        input.attachments.map fun a => (a.headerMap, (foldBase64 (toBase64 a.content)).toList) := by
  have hclean : Clean mixed.text.toList := mixed.clean (by decide)
  have hcontent : input.content mixed alt = input.mixedEntity mixed alt :=
    if_neg (by simpa using hattachments)
  have hbody : parseMultipart env (input.mixedEntity mixed alt).body _ = _ :=
    Entity.parseMultipart_body hclean.nonempty (hclean.plain _ (by decide))
      (hclean.plain _ (by decide)) (splits_mixedEntity input mixed alt havoids)
  rw [hcontent]
  refine hbody.trans ?_
  rw [List.map_cons, headersOf_alternativeEntity hlower, List.map_map]
  refine congrArg (List.cons _) (List.map_congr_left fun a _ => ?_)
  exact congrArg (fun headers => (headers, (attachmentEntity a).body))
    (headersOf_attachmentEntity hlower a)

end Headers

/-- **No value makes a header.** Whatever the values are, the header map of a built message has the
headers that the builder wrote, in its order and each with a value that its own field has, before
what says how the content is written; the body is the content; and if the boundary is not in the
name or the type of an attachment, the parts are those that the builder wrote, each under its own
headers. -/
theorem built_headers_are_their_own (env : Env) (hlower : LowersLetters env)
    (hhex : ∀ n, ∀ c ∈ (env.randomHex n).toList, c ∈ "0123456789abcdef".toList)
    (input : BuildMimeInput) (s : Db) :
    ∃ bytes s', ∃ (mixed : Boundary "mixed") (alt : Boundary "alt"),
      (buildRawMimeMessage env input).run s = (.ok bytes, s') ∧
      mixed.hex = env.randomHex s.draws ∧ alt.hex = env.randomHex (s.draws + 1) ∧
      splitHeaderAndBody env (utf8Decode bytes) =
        (input.headerMap ++ input.contentMap mixed alt, (input.content mixed alt).body) ∧
      (∀ email, parseRawEmail env (utf8Decode bytes) = some email →
        email.headers = decodeSubject env (input.headerMap ++ input.contentMap mixed alt)) ∧
      (input.attachments ≠ [] → (∀ a ∈ input.attachments, a.Avoids mixed.text) →
        parseMultipart env (input.content mixed alt).body mixed.text.toList =
          (multipartMap "alternative" alt.text, (input.alternativeEntity alt).body) ::
            input.attachments.map fun a =>
              (a.headerMap, (foldBase64 (toBase64 a.content)).toList)) := by
  let mixed : Boundary "mixed" := ⟨env.randomHex s.draws, hhex _⟩
  let alt : Boundary "alt" := ⟨env.randomHex (s.draws + 1), hhex _⟩
  have hbytes : utf8Decode (input.bytes ("mailagents-mixed-" ++ env.randomHex s.draws)
      ("mailagents-alt-" ++ env.randomHex (s.draws + 1))) = (input.entity mixed alt).text :=
    input.utf8Decode_bytes mixed alt
  refine ⟨_, _, mixed, alt, run_buildRawMimeMessage env input s, rfl, rfl, ?_, ?_, ?_⟩
  · rw [hbytes]
    exact splitHeaderAndBody_entity hlower input mixed alt
  · intro email hparse
    rw [hbytes] at hparse
    exact headers_parseRawEmail hlower input mixed alt hparse
  · exact parseMultipart_content hlower input mixed alt

/-- A message whose subject and sender try to be more than that. -/
def injectingInput : BuildMimeInput where
  sender := "a@b\r\nBcc: e@f\r\n\r\nbody"
  toList := ["c@d"]
  subject := "s\nX: y\r"
  text := some "hi"
  html := none
  inReplyTo := none
  references := []
  attachments := []

/-- They are not. -/
theorem injecting_headers : ∃ bytes s',
    (buildRawMimeMessage hexEnv injectingInput).run ({} : Db) = (.ok bytes, s') ∧
      (splitHeaderAndBody hexEnv (utf8Decode bytes)).1.map Prod.fst =
        ["from", "to", "subject", "mime-version", "content-type", "content-transfer-encoding"] := by
  obtain ⟨bytes, s', mixed, alt, hrun, -, -, hsplit, -⟩ :=
    built_headers_are_their_own hexEnv lowersLetters_hexEnv randomHex_hexEnv injectingInput {}
  refine ⟨bytes, s', hrun, ?_⟩
  rw [hsplit]
  rfl

end MailRuntime
