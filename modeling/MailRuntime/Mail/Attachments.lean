import MailRuntime.Mail.RoundTrip

/-!
# Attachments with arbitrary names and types

The name of an attachment and its type are written into header parameters as they are, and read up
to the first quote or semicolon. A type that says it is a multipart makes the parser look for parts
where there are none. All other attachments come back, each with its name and its bytes.
-/

namespace MailRuntime

open Js Interaction

attribute [local instance] decidableCharacters decidableCharacter

/-- What is used of `toLowerCase` at the head of a text: ASCII there is lowered, whatever
follows. -/
def LowersHead (env : Env) : Prop :=
  ∀ head rest : List Char, (∀ c ∈ head, c.toNat < 128) →
    head.map Char.toLower <+: (env.toLowerCase (String.ofList (head ++ rest))).toList

/-- A name without white space around it and without line breaks, and not blank. -/
structure FileName (filename : String) : Prop where
  trimmed : trim filename = filename
  nonempty : filename ≠ ""
  unbroken : ∀ c ∈ filename.toList, c ≠ '\r' ∧ c ≠ '\n'

/-- There is neither a quote nor a semicolon in the name. -/
def Quotable (filename : String) : Prop := ∀ c ∈ filename.toList, c ≠ '"' ∧ c ≠ ';'

instance (filename : String) : Decidable (Quotable filename) := by
  unfold Quotable
  infer_instance

/-! ### Parameters -/

theorem mem_oneOrMore {inClass : Char → Bool} {l : List Char} {p : List Char × List Char}
    (h : oneOrMore inClass l = some p) : ∀ c ∈ p.1, inClass c = true := by
  unfold oneOrMore at h
  split at h
  · cases h
  · obtain rfl := Option.some.inj h
    intro c hc
    exact List.mem_takeWhile_imp hc

/-- A parameter is never read beyond a quote or a semicolon. -/
theorem quotable_parameter {name : String} {header value : List Char}
    (h : parameter name header = some value) : ∀ c ∈ value, c ≠ '"' ∧ c ≠ ';' := by
  obtain ⟨l, -, hl⟩ := List.exists_of_findSome?_eq_some h
  obtain ⟨rest, -, hl⟩ := Option.bind_eq_some_iff.1 hl
  obtain ⟨taken, htaken, hvalue⟩ := Option.bind_eq_some_iff.1 hl
  obtain rfl := Option.some.inj hvalue
  intro c hc
  simpa using mem_oneOrMore htaken c hc

theorem quotable_extractFilename {disposition : Option (List Char)} {type value : List Char}
    (h : extractFilename disposition type = some value) : ∀ c ∈ value, c ≠ '"' ∧ c ≠ ';' := by
  obtain h | ⟨-, h⟩ := Option.or_eq_some_iff.1 h
  · obtain ⟨header, -, h⟩ := Option.bind_eq_some_iff.1 h
    exact quotable_parameter h
  · exact quotable_parameter h

theorem parameter_filename {value : List Char} (hne : value ≠ [])
    (h : ∀ c ∈ value, c ≠ '"' ∧ c ≠ ';') :
    parameter "filename=" ("attachment; filename=\"".toList ++ (value ++ ['"'])) = some value := by
  have htext : "attachment; filename=\"".toList ++ (value ++ ['"']) =
      "attachment; ".toList ++ ("filename=".toList ++ '"' :: (value ++ ['"'])) := rfl
  have hbefore : ∀ c ∈ "attachment; ".toList, c.toLower ≠ 'f' := by decide
  have htake : (value ++ ['"']).takeWhile (fun c => c != '"' && c != ';') = value := by
    rw [List.takeWhile_append_of_pos]
    · simp
    · intro c hc
      simpa using h c hc
  have hafter : ∀ l, afterIgnoringCase "filename=" ("filename=".toList ++ l) = some l := by
    intro l
    rfl
  rw [htext, parameter, firstMatch_append]
  · apply firstMatch_of_head
    dsimp only
    rw [hafter, Option.bind_eq_bind, Option.bind_some, List.head?_cons, if_pos rfl,
      List.drop_succ_cons, List.drop_zero, oneOrMore, htake, if_neg (by simpa using hne)]
    rfl
  · intro t ht hsuffix
    cases t with
    | nil => exact absurd rfl ht
    | cons c t =>
      have hc := hbefore c (hsuffix.subset List.mem_cons_self)
      have hnone : afterIgnoringCase "filename=" (c :: t ++
          ("filename=".toList ++ '"' :: (value ++ ['"']))) = none := by
        refine if_neg fun heq => hc ?_
        rw [List.cons_append] at heq
        exact (List.cons.inj heq).1
      rw [hnone]
      rfl

/-! ### Names -/

theorem unfoldChars_eq_self {l : List Char} (h : ∀ c ∈ l, c ≠ '\r' ∧ c ≠ '\n') :
    unfoldChars l = l := by
  fun_induction unfoldChars l with
  | case1 => rfl
  | case2 => exact absurd rfl (h '\r' List.mem_cons_self).1
  | case3 => exact absurd rfl (h '\n' List.mem_cons_self).2
  | case4 c rest _ _ ih => rw [ih fun d hd => h d (List.mem_cons_of_mem _ hd)]

/-- Such a name is written as it is. -/
theorem FileName.normalizeHeaderValue {filename : String} (h : FileName filename) :
    normalizeHeaderValue filename = filename := by
  unfold MailRuntime.Js.normalizeHeaderValue
  rw [unfoldChars_eq_self h.unbroken, String.ofList_toList, h.trimmed]

/-- The name comes back if it can be quoted, and only then. -/
theorem filename_parsed_iff {a : MimeAttachment} (h : FileName a.filename) :
    a.parsed.filename = some a.filename ↔ Quotable a.filename := by
  have hdisposition : a.headerMap.get "content-disposition" =
      some ("attachment; filename=\"".toList ++ (a.filename.toList ++ ['"'])) := by
    have hget : a.headerMap.get "content-disposition" = some ("attachment; filename=\"" ++
      Js.normalizeHeaderValue a.filename ++ "\"").toList := rfl
    have hquote : "\"".toList = ['"'] := rfl
    rw [hget, h.normalizeHeaderValue, String.toList_append, String.toList_append, hquote,
      List.append_assoc]
  have hne : a.filename.toList ≠ [] := fun hnil => h.nonempty (String.toList_eq_nil_iff.1 hnil)
  unfold MimeAttachment.parsed
  dsimp only
  constructor
  · intro hfilename
    obtain ⟨value, hvalue, heq⟩ := Option.map_eq_some_iff.1 hfilename
    have hquotable := quotable_extractFilename hvalue
    unfold Quotable
    rw [← heq, String.toList_ofList]
    exact hquotable
  · intro hquotable
    unfold extractFilename
    rw [hdisposition, Option.bind_some, parameter_filename hne hquotable, Option.some_or,
      Option.map_some, String.ofList_toList]

/-! ### Attachments that say they are multiparts -/

section Visited

variable {env : Env} (hlower : LowersLetters env) (hhead : LowersHead env)

include hhead

theorem isMultipart_of_not_single {a : MimeAttachment} (h : ¬ a.Single) :
    isMultipart env a.headerMap = true := by
  unfold MimeAttachment.Single at h
  obtain ⟨rest, hrest⟩ := Option.ne_none_iff_exists'.1 h
  unfold afterIgnoringCase at hrest
  split at hrest
  · next htake =>
    generalize htype : (normalizeHeaderValue a.contentType).toList = type at hrest htake
    have hascii : ∀ c ∈ type.take "multipart/".length, c.toNat < 128 := by
      intro c hc
      have hmem := List.mem_map_of_mem (f := Char.toLower) hc
      rw [htake] at hmem
      have hall : ∀ d ∈ "multipart/".toList, d.toNat < 128 := by decide
      have hlow := hall _ hmem
      obtain ⟨heq, -⟩ | ⟨-, hupper, -⟩ := toLower_cases c
      · rwa [heq] at hlow
      · omega
    have hprefix := hhead _ (type.drop "multipart/".length ++ ';' :: (" name=\"".toList ++
      (normalizeHeaderValue a.filename).toList ++ ['"'])) hascii
    rw [htake, ← List.append_assoc, List.take_append_drop] at hprefix
    rw [isMultipart, contentTypeOf_headerMap, a.type_eq, htype]
    exact List.isPrefixOf_iff_prefix.2 hprefix
  · cases hrest

omit hhead in
/-- There is no delimiter in base64. -/
theorem parseMultipart_foldBase64 (bytes : List UInt8) (boundary : List Char) :
    parseMultipart env (foldBase64 (toBase64 bytes)).toList boundary = [] := by
  have hnot : ¬ Entity.delimiter boundary <:+: (foldBase64 (toBase64 bytes)).toList :=
    not_infix_of_not_mem fun h => mem_foldBase64 h rfl
  unfold parseMultipart
  rw [show "--".toList ++ boundary = Entity.delimiter boundary from rfl,
    splitText_of_not_infix hnot]
  rfl

include hlower

/-- The parser comes to an attachment, unless it says that it is a multipart. -/
theorem visited_attachment (a : MimeAttachment) (fuel : Nat) :
    visited env (fuel + 1) (headersOf env (attachmentEntity a).fields, (attachmentEntity a).body) =
      if a.Single then [(a.headerMap, (foldBase64 (toBase64 a.content)).toList)] else [] := by
  have hbody : (attachmentEntity a).body = (foldBase64 (toBase64 a.content)).toList := rfl
  rw [headersOf_attachmentEntity hlower, hbody, visited]
  dsimp only
  by_cases h : a.Single
  · rw [isMultipart_headerMap hlower h, if_neg Bool.false_ne_true, if_pos h]
  · rw [isMultipart_of_not_single hhead h, if_pos rfl, if_neg h]
    cases extractBoundary (contentTypeOf a.headerMap) with
    | none => rfl
    | some boundary =>
      dsimp only
      rw [parseMultipart_foldBase64, List.flatMap_nil]

omit hlower hhead in
theorem mem_nodes_alternativeEntity (input : BuildMimeInput) {alt : Boundary "alt"} {x : Entity}
    (h : x ∈ (input.alternativeEntity alt).nodes) : x = input.alternativeEntity alt ∨
      ∃ subtype hsubtype content, (subtype = "plain" ∨ subtype = "html") ∧
        x = textEntity subtype hsubtype content := by
  obtain rfl | h := List.mem_cons.1 h
  · exact .inl rfl
  · obtain ⟨part, hpart, hx⟩ := exists_of_mem_nodesOf h
    obtain ⟨subtype, hsubtype, content, hkind, rfl⟩ := mem_textParts input hpart
    exact .inr ⟨subtype, hsubtype, content, hkind, List.mem_singleton.1 hx⟩

/-- The parser comes to the texts, and then to the attachments that are not multiparts. -/
theorem visited_content (input : BuildMimeInput) (mixed : Boundary "mixed") (alt : Boundary "alt")
    (havoids : ∀ a ∈ input.attachments, a.Avoids mixed.text) :
    visited env ((input.content mixed alt).body.length + 1)
        (headersOf env (input.content mixed alt).fields, (input.content mixed alt).body) =
      ((Entity.leavesOf input.textParts).map fun leaf => (headersOf env leaf.1, leaf.2)) ++
        (input.attachments.filter fun a => a.Single).map fun a =>
          (a.headerMap, (foldBase64 (toBase64 a.content)).toList) := by
  by_cases hnone : input.attachments = []
  · have hsingle : ∀ a ∈ input.attachments, a.Single := by simp [hnone]
    rw [Entity.visited_entity _ (typed_content hlower input mixed alt hsingle)
      (splits_content input mixed alt havoids) _ (Nat.lt_succ_self _), leaves_content, hnone]
    simp
  · have hcontent : input.content mixed alt = input.mixedEntity mixed alt :=
      if_neg (by simpa using hnone)
    have hlength : (input.alternativeEntity alt).body.length <
        (input.mixedEntity mixed alt).body.length := by
      have hlt := Entity.length_body_lt mixed.text.toList
        (List.mem_cons_self (a := input.alternativeEntity alt)
          (l := input.attachments.map attachmentEntity))
      have hbody : (input.mixedEntity mixed alt).body = Entity.preambleText none ++
          (Entity.partsText mixed.text.toList
              (input.alternativeEntity alt :: input.attachments.map attachmentEntity) ++
            (Entity.delimiter mixed.text.toList ++ Entity.epilogueText none)) := rfl
      rw [hbody]
      simp only [List.length_append]
      omega
    have halternative : visited env (input.mixedEntity mixed alt).body.length
        (headersOf env (input.alternativeEntity alt).fields, (input.alternativeEntity alt).body) =
          (Entity.leavesOf input.textParts).map fun leaf => (headersOf env leaf.1, leaf.2) := by
      refine Entity.visited_entity (input.alternativeEntity alt) ?_ ?_ _ hlength
      · intro x hx
        obtain rfl | ⟨subtype, hsubtype, content, hkind, rfl⟩ := mem_nodes_alternativeEntity input hx
        · exact typed_alternativeEntity hlower input alt
        · show isMultipart env (headersOf env (textEntity subtype hsubtype content).fields) = false
          rw [headersOf_textEntity hlower hkind, isMultipart_textMap hlower hkind]
      · intro x hx
        obtain rfl | ⟨subtype, hsubtype, content, hkind, rfl⟩ := mem_nodes_alternativeEntity input hx
        · exact splits_alternativeEntity input alt
        · trivial
    rw [hcontent]
    refine (Entity.visited_multipart (typed_mixedEntity hlower input mixed alt)
      (splits_mixedEntity input mixed alt havoids) _).trans ?_
    obtain ⟨fuel, hfuel⟩ : ∃ fuel, (input.mixedEntity mixed alt).body.length = fuel + 1 :=
      ⟨(input.mixedEntity mixed alt).body.length - 1, by omega⟩
    rw [List.map_cons, List.flatMap_cons, halternative, hfuel]
    congr 1
    induction input.attachments with
    | nil => rfl
    | cons a attachments ih =>
      rw [List.map_cons, List.map_cons, List.flatMap_cons, ih, visited_attachment hlower hhead]
      by_cases h : a.Single <;> simp [h]

end Visited

/-! ### What is collected -/

section Collected

variable {env : Env} (hlower : LowersLetters env)

include hlower

/-- A text is no attachment, whatever it begins with. -/
theorem attachments_collectLeaf_text {subtype : String} (h : subtype = "plain" ∨ subtype = "html")
    (content : String) (output : Content) : ∃ output',
      collectLeaf env output (textMap subtype, (foldBase64 (textToBase64 content)).toList) =
        some output' ∧ output'.attachments = output.attachments := by
  have hencoding : (textMap subtype).get "content-transfer-encoding" = some "base64".toList := rfl
  have hdisposition : (textMap subtype).get "content-disposition" = none := rfl
  have hfilename : extractFilename none
      ("text/" ++ subtype ++ "; charset=\"UTF-8\"").toList = none := by
    obtain rfl | rfl := h <;> decide +kernel
  rw [collectLeaf, contentTypeOf_textMap, collectPart]
  dsimp only
  rw [hencoding, hdisposition, textToBase64, decodeBody_base64 hlower, Option.bind_eq_bind,
    Option.bind_some, hfilename, if_neg (by decide)]
  split
  · exact ⟨_, rfl, rfl⟩
  · exact ⟨_, rfl, rfl⟩

theorem attachments_collect_texts {parts : List Entity}
    (h : ∀ part ∈ parts, ∃ subtype hsubtype content, (subtype = "plain" ∨ subtype = "html") ∧
      part = textEntity subtype hsubtype content) (output : Content) : ∃ output',
      ((Entity.leavesOf parts).map fun leaf => (headersOf env leaf.1, leaf.2)).foldlM
        (collectLeaf env) output = some output' ∧ output'.attachments = output.attachments := by
  induction parts generalizing output with
  | nil => exact ⟨output, rfl, rfl⟩
  | cons part parts ih =>
    obtain ⟨subtype, hsubtype, content, hkind, rfl⟩ := h part List.mem_cons_self
    obtain ⟨output', houtput', hsame⟩ := attachments_collectLeaf_text hlower hkind content output
    obtain ⟨last, hlast, hrest⟩ := ih (fun p hp => h p (List.mem_cons_of_mem _ hp)) output'
    have hleaves : Entity.leavesOf (textEntity subtype hsubtype content :: parts) =
        ((textEntity subtype hsubtype content).fields, (foldBase64 (textToBase64 content)).toList) ::
          Entity.leavesOf parts := rfl
    refine ⟨last, ?_, hrest.trans hsame⟩
    rw [hleaves, List.map_cons, List.foldlM_cons, headersOf_textEntity hlower hkind, houtput']
    exact hlast

theorem collect_attachmentLeaves (attachments : List MimeAttachment) (output : Content) :
    (attachments.map fun a => (a.headerMap, (foldBase64 (toBase64 a.content)).toList)).foldlM
        (collectLeaf env) output =
      some { output with
        attachments := output.attachments ++ attachments.map MimeAttachment.parsed } := by
  induction attachments generalizing output with
  | nil => simp
  | cons a attachments ih =>
    rw [List.map_cons, List.foldlM_cons, collectLeaf_attachment hlower, Option.bind_eq_bind,
      Option.bind_some, ih, List.map_cons, List.append_assoc, List.singleton_append]

/-- The attachments of a built message, as they are parsed: all but those that say they are
multiparts, in order. -/
theorem attachments_parseRawEmail (hhead : LowersHead env) (input : BuildMimeInput)
    (mixed : Boundary "mixed") (alt : Boundary "alt")
    (havoids : ∀ a ∈ input.attachments, a.Avoids mixed.text) :
    ∃ email, parseRawEmail env (input.entity mixed alt).text = some email ∧
      email.attachments = (input.attachments.filter fun a => a.Single).map MimeAttachment.parsed := by
  obtain ⟨texts, htexts, hnone⟩ := attachments_collect_texts hlower
    (fun part hpart => mem_textParts input hpart) {}
  have hcontent : collectContent env ((input.content mixed alt).body.length + 1)
      (input.contentMap mixed alt, (input.content mixed alt).body) {} =
        some { texts with
          attachments := (input.attachments.filter fun a => a.Single).map MimeAttachment.parsed } := by
    rw [collectContent_eq, ← headersOf_content hlower, visited_content hlower hhead input mixed alt
      havoids, List.foldlM_append, htexts, Option.bind_eq_bind, Option.bind_some,
      collect_attachmentLeaves hlower, hnone, List.nil_append]
  rw [← collectContent_congr (sameContent_built input _)] at hcontent
  rw [parseRawEmail, splitHeaderAndBody_entity hlower]
  dsimp only
  rw [hcontent, Option.bind_eq_bind, Option.bind_some]
  exact ⟨_, rfl, rfl⟩

end Collected

/-! ### The result -/

/-- The attachments come back: one for each, in order, with its name and its bytes. -/
def ParsedEmail.HasAttachments (email : ParsedEmail) (attachments : List MimeAttachment) : Prop :=
  email.attachments.map (fun a => (a.filename, a.content)) =
    attachments.map fun a => (some a.filename, a.content)

theorem hasAttachments_iff {email : ParsedEmail} {attachments : List MimeAttachment}
    (hfilenames : ∀ a ∈ attachments, FileName a.filename)
    (h : email.attachments = (attachments.filter fun a => a.Single).map MimeAttachment.parsed) :
    email.HasAttachments attachments ↔ ∀ a ∈ attachments, a.Single ∧ Quotable a.filename := by
  unfold ParsedEmail.HasAttachments
  rw [h, List.map_map]
  constructor
  · intro hall
    -- none is missing, so all are there
    have hlength := congrArg List.length hall
    rw [List.length_map, List.length_map] at hlength
    have hsingle := List.length_filter_eq_length_iff.1 hlength
    rw [List.filter_eq_self.2 hsingle] at hall
    intro a ha
    have hpair := List.map_inj_left.1 hall a ha
    rw [Function.comp_apply, Prod.mk.injEq] at hpair
    exact ⟨by simpa using hsingle a ha, (filename_parsed_iff (hfilenames a ha)).1 hpair.1⟩
  · intro hall
    have hsingle : (attachments.filter fun a => a.Single) = attachments :=
      List.filter_eq_self.2 fun a ha => by simpa using (hall a ha).1
    rw [hsingle]
    apply List.map_congr_left
    intro a ha
    have hfilename := (filename_parsed_iff (hfilenames a ha)).2 (hall a ha).2
    rw [Function.comp_apply, hfilename]
    rfl

theorem lowersHead_hexEnv : LowersHead hexEnv := by
  intro head rest _
  have hlower : hexEnv.toLowerCase (String.ofList (head ++ rest)) =
      String.ofList ((String.ofList (head ++ rest)).toList.map Char.toLower) := rfl
  rw [hlower, String.toList_ofList, String.toList_ofList, List.map_append]
  exact List.prefix_append _ _

/-- A message with an attachment whose name has a semicolon. -/
def versionedInput : BuildMimeInput :=
  { attachedInput "application/pdf" with attachments := [⟨"a;v2.pdf", "application/pdf", [1]⟩] }

end MailRuntime
