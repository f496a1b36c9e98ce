import MailRuntime.Mail.HeaderMaps
import MailRuntime.Mail.Leaves

/-!
# Built messages split where they should

A built message has no two line feeds in a row, and the parts of its multiparts have no delimiters
in them: what the builder writes itself has no two hyphens in a row but in delimiters, and what it is
given for an attachment does not contain the boundary.
-/

namespace MailRuntime

open Js

attribute [local instance] decidableCharacters decidableCharacter

/-! ### Line feeds -/

/-- There are no two line feeds in a row, also not with one before the text. -/
structure NoFeeds (l : List Char) : Prop where
  inside : ¬ ['\n', '\n'] <:+: l
  head : l.head? ≠ some '\n'

theorem noFeeds_of_not_mem {l : List Char} (h : '\n' ∉ l) : NoFeeds l :=
  ⟨fun hin => h (hin.subset List.mem_cons_self), fun hhead => h (List.mem_of_head? hhead)⟩

theorem noFeeds_nil : NoFeeds [] := noFeeds_of_not_mem List.not_mem_nil

theorem noFeeds_crlf : NoFeeds crlf := ⟨by decide, by decide⟩

theorem not_infix_feeds_append {l l' : List Char} (h : ¬ ['\n', '\n'] <:+: l) (h' : NoFeeds l') :
    ¬ ['\n', '\n'] <:+: l ++ l' := by
  induction l with
  | nil => exact h'.inside
  | cons c l ih =>
    have ih := ih fun hin => h (hin.trans (List.suffix_cons c l).isInfix)
    rw [List.cons_append]
    intro hin
    rcases List.infix_cons_iff.1 hin with hpre | hin
    · obtain ⟨rfl, hnext⟩ := List.cons_prefix_cons.1 hpre
      cases l with
      | nil =>
        obtain ⟨tail, htail⟩ := hnext
        refine h'.head ?_
        rw [List.nil_append] at htail
        rw [← htail]
        rfl
      | cons d l =>
        obtain ⟨rfl, -⟩ := List.cons_prefix_cons.1 hnext
        exact h ⟨[], l, rfl⟩
    · exact ih hin

theorem NoFeeds.append {l l' : List Char} (h : NoFeeds l) (h' : NoFeeds l') : NoFeeds (l ++ l') := by
  refine ⟨not_infix_feeds_append h.inside h', ?_⟩
  cases l with
  | nil => exact h'.head
  | cons c l => exact h.head

theorem noFeeds_flatMap {α : Type} {items : List α} {f : α → List Char}
    (h : ∀ item ∈ items, NoFeeds (f item)) : NoFeeds (items.flatMap f) := by
  induction items with
  | nil => exact noFeeds_nil
  | cons item items ih =>
    rw [List.flatMap_cons]
    exact (h item List.mem_cons_self).append (ih fun x hx => h x (List.mem_cons_of_mem _ hx))

theorem noFeeds_field (f : Field) : NoFeeds f.text := by
  have htext : f.text = (f.name ++ ':' :: f.value) ++ foldedText f.more := by
    simp only [Field.text, List.append_assoc, List.cons_append]
  rw [htext]
  refine (noFeeds_of_not_mem f.name_value_line).append (noFeeds_flatMap fun line hline => ?_)
  obtain ⟨⟨-, hspaces⟩, htext, -⟩ := f.more_lines line hline
  have hspace : '\n' ∉ line.1 := fun h => by cases hspaces _ h
  exact noFeeds_crlf.append ((noFeeds_of_not_mem hspace).append (noFeeds_of_not_mem htext))

theorem noFeeds_text {e : Entity} (h : NoFeeds e.body) : NoFeeds e.text :=
  (noFeeds_flatMap fun f _ => (noFeeds_field f).append noFeeds_crlf).append
    (noFeeds_crlf.append h)

theorem noFeeds_foldChars {room : Nat} {l : List Char} (h : '\n' ∉ l) :
    NoFeeds (foldChars room l) := by
  fun_induction foldChars room l with
  | case1 => exact noFeeds_nil
  | case2 c rest ih =>
    rw [List.mem_cons, not_or] at h
    have hc : '\n' ∉ [c] := fun hmem => h.1 (List.mem_singleton.1 hmem)
    exact noFeeds_crlf.append ((noFeeds_of_not_mem hc).append (ih h.2))
  | case3 room c rest ih =>
    rw [List.mem_cons, not_or] at h
    have hc : '\n' ∉ [c] := fun hmem => h.1 (List.mem_singleton.1 hmem)
    exact (noFeeds_of_not_mem hc).append (ih h.2)

/-- What stands in lines of base64. -/
theorem mem_foldBase64 {bytes : List UInt8} {c : Char}
    (h : c ∈ (foldBase64 (toBase64 bytes)).toList) : c ≠ '-' := by
  rw [foldBase64, toBase64, String.toList_ofList, String.toList_ofList] at h
  have hdigit : ∀ a : Fin 64, base64Digit a ≠ '-' := by decide +kernel
  rcases mem_foldChars h with h | rfl | rfl
  · rcases mem_base64Chars h with ⟨n, hn, rfl⟩ | rfl
    · exact hdigit ⟨n, hn⟩
    · decide
  · decide
  · decide

theorem noFeeds_foldBase64 (bytes : List UInt8) :
    NoFeeds (foldBase64 (toBase64 bytes)).toList := by
  rw [foldBase64, toBase64, String.toList_ofList, String.toList_ofList]
  refine noFeeds_foldChars fun h => ?_
  have hdigit : ∀ a : Fin 64, base64Digit a ≠ '\n' := by decide +kernel
  rcases mem_base64Chars h with ⟨n, hn, heq⟩ | heq
  · exact hdigit ⟨n, hn⟩ heq.symm
  · cases heq

theorem noFeeds_partsText {boundary : List Char} (hboundary : '\n' ∉ boundary)
    {parts : List Entity} (h : ∀ part ∈ parts, NoFeeds part.text) :
    NoFeeds (Entity.partsText boundary parts) := by
  have hdelimiter : NoFeeds (Entity.delimiter boundary) :=
    noFeeds_of_not_mem (by simpa [Entity.delimiter] using hboundary)
  induction parts with
  | nil => exact noFeeds_nil
  | cons part parts ih =>
    have hpart := h part List.mem_cons_self
    exact hdelimiter.append (((noFeeds_crlf.append hpart).append noFeeds_crlf).append
      (ih fun p hp => h p (List.mem_cons_of_mem _ hp)))

/-- A multipart without a preamble and an epilogue. -/
theorem noFeeds_multipart {fields : List Field} {boundary : List Char} (hboundary : '\n' ∉ boundary)
    {parts : List Entity} (h : ∀ part ∈ parts, NoFeeds part.text) :
    NoFeeds (Entity.multipart fields boundary none parts none).body := by
  have hdelimiter : NoFeeds (Entity.delimiter boundary) :=
    noFeeds_of_not_mem (by simpa [Entity.delimiter] using hboundary)
  exact noFeeds_nil.append ((noFeeds_partsText hboundary h).append
    (hdelimiter.append (noFeeds_of_not_mem (by decide))))

/-! ### Delimiters -/

/-- There are two hyphens in a row. -/
def hasHyphens : List Char → Bool
  | c :: d :: rest => (c == '-' && d == '-') || hasHyphens (d :: rest)
  | _ => false

theorem hasHyphens_of_pair {l : List Char} (h : ['-', '-'] <:+: l) : hasHyphens l = true := by
  obtain ⟨before, after, rfl⟩ := h
  induction before with
  | nil => rfl
  | cons c before ih =>
    cases hrest : before ++ ['-', '-'] ++ after with
    | nil => simp at hrest
    | cons d rest =>
      rw [hrest] at ih
      rw [List.cons_append, List.cons_append, hrest, hasHyphens, ih, Bool.or_true]

section Delimiters

variable {boundary : List Char}

/-- The boundary is on one line, without blanks and what a parameter ends with. -/
structure Clean (boundary : List Char) : Prop where
  nonempty : boundary ≠ []
  plain : ∀ c ∈ ['\r', '\n', ' ', ';', '"'], c ∉ boundary

theorem Clean.not_mem (h : Clean boundary) {c : Char} (hc : c ∈ ['\r', '\n', ' ', ';', '"']) :
    c ∉ Entity.delimiter boundary := by
  have hplain := h.plain c hc
  have hhyphen : c ≠ '-' := by
    rintro rfl
    revert hc
    decide
  simpa [Entity.delimiter, hhyphen] using hplain

/-- No delimiter is in a text without two hyphens in a row. -/
theorem not_infix_of_no_hyphens {l : List Char} (h : hasHyphens l = false) :
    ¬ Entity.delimiter boundary <:+: l := by
  intro hin
  have hpre : ['-', '-'] <+: Entity.delimiter boundary := ⟨boundary, rfl⟩
  rw [hasHyphens_of_pair (hpre.isInfix.trans hin)] at h
  cases h

theorem not_infix_of_not_mem {l : List Char} (h : '-' ∉ l) : ¬ Entity.delimiter boundary <:+: l :=
  fun hin => h (hin.subset List.mem_cons_self)

/-- No delimiter is in two texts, nor in one with a character between them that no delimiter
has. -/
theorem Clean.not_infix_cons (h : Clean boundary) {c : Char}
    (hc : c ∈ ['\r', '\n', ' ', ';', '"']) {l l' : List Char}
    (hl : ¬ Entity.delimiter boundary <:+: l) (hl' : ¬ Entity.delimiter boundary <:+: l') :
    ¬ Entity.delimiter boundary <:+: l ++ c :: l' := by
  intro hin
  rcases infix_append_cons (h.not_mem hc) hin with hin | hin
  · exact hl hin
  · exact hl' hin

theorem not_infix_nil : ¬ Entity.delimiter boundary <:+: [] := not_infix_of_not_mem List.not_mem_nil

theorem Clean.not_infix_crlf (h : Clean boundary) {l l' : List Char}
    (hl : ¬ Entity.delimiter boundary <:+: l) (hl' : ¬ Entity.delimiter boundary <:+: l') :
    ¬ Entity.delimiter boundary <:+: l ++ (crlf ++ l') := by
  refine h.not_infix_cons (by decide) hl ?_
  exact h.not_infix_cons (l := []) (by decide) not_infix_nil hl'

theorem Clean.not_infix_headerText (h : Clean boundary) {fields : List Field} {rest : List Char}
    (hfields : ∀ f ∈ fields, ¬ Entity.delimiter boundary <:+: f.text)
    (hrest : ¬ Entity.delimiter boundary <:+: rest) :
    ¬ Entity.delimiter boundary <:+: headerText fields ++ rest := by
  induction fields with
  | nil => exact hrest
  | cons f fields ih =>
    have htext : headerText (f :: fields) ++ rest =
        f.text ++ (crlf ++ (headerText fields ++ rest)) := by
      simp only [headerText, List.flatMap_cons, List.append_assoc]
    rw [htext]
    exact h.not_infix_crlf (hfields f List.mem_cons_self)
      (ih fun g hg => hfields g (List.mem_cons_of_mem _ hg))

/-- A text of an entity without delimiters. -/
theorem Clean.not_infix_text (h : Clean boundary) {e : Entity}
    (hfields : ∀ f ∈ e.fields, ¬ Entity.delimiter boundary <:+: f.text)
    (hbody : ¬ Entity.delimiter boundary <:+: e.body) :
    ¬ Entity.delimiter boundary <:+: e.text :=
  h.not_infix_headerText hfields (h.not_infix_crlf (l := []) not_infix_nil hbody)

theorem Boundary.clean {label : String} (hlabel : ∀ c ∈ label.toList, c ∈ labelChars)
    (b : Boundary label) : Clean b.text.toList := by
  refine ⟨fun h => ?_, fun c hc hmem => ?_⟩
  · have hlength := congrArg List.length h
    simp [Boundary.text, String.toList_append] at hlength
  · have hnot : ∀ c ∈ ['\r', '\n', ' ', ';', '"'], c ∉ labelChars := by decide
    exact hnot c hc (b.mem_labelChars hlabel c hmem)

end Delimiters

/-! ### The parts of a built message -/

section Parts

variable {boundary : List Char}

theorem not_infix_foldBase64 (bytes : List UInt8) :
    ¬ Entity.delimiter boundary <:+: (foldBase64 (toBase64 bytes)).toList :=
  not_infix_of_not_mem fun h => mem_foldBase64 h rfl

/-- A part that the builder starts with a content type. -/
theorem extractable_of_noFeeds {e : Entity} {f : Field} {fields : List Field}
    (hfields : e.fields = f :: fields) (hname : f.name.head? = some 'C') (h : NoFeeds e.body) :
    e.Extractable := by
  refine ⟨fun hnil => ?_, (noFeeds_text h).inside, ?_⟩
  · rw [hfields] at hnil
    cases hnil
  · have hhead : e.text.head? = some 'C' := by
      rw [Entity.text, hfields, headerText, List.flatMap_cons, Field.text]
      cases hn : f.name with
      | nil =>
        rw [hn] at hname
        cases hname
      | cons c name =>
        rw [hn] at hname
        exact hname
    rintro ⟨tail, htail⟩
    rw [← htail] at hhead
    cases hhead

theorem extractable_textEntity {subtype : String} (hsubtype : '\n' ∉ subtype.toList)
    (content : String) : (textEntity subtype hsubtype content).Extractable :=
  extractable_of_noFeeds rfl rfl (noFeeds_foldBase64 _)

theorem extractable_attachmentEntity (attachment : MimeAttachment) :
    (attachmentEntity attachment).Extractable :=
  extractable_of_noFeeds rfl rfl (noFeeds_foldBase64 _)

/-- No delimiter is in a text in base64. -/
theorem Clean.not_infix_textEntity (h : Clean boundary) {subtype : String}
    (hsubtype : '\n' ∉ subtype.toList)
    (htype : hasHyphens ("Content-Type" ++ ": " ++
      ("text/" ++ subtype ++ "; charset=\"UTF-8\"")).toList = false)
    (content : String) :
    ¬ Entity.delimiter boundary <:+: (textEntity subtype hsubtype content).text := by
  refine h.not_infix_text (fun f hf => ?_) (not_infix_foldBase64 _)
  simp only [textEntity, Entity.fields, List.mem_cons, List.not_mem_nil, or_false] at hf
  rcases hf with rfl | rfl
  · refine not_infix_of_no_hyphens ?_
    rw [text_plainField]
    exact htype
  · refine not_infix_of_no_hyphens ?_
    rw [text_plainField]
    decide

variable (input : BuildMimeInput)

/-- The parts of the text and the HTML are leaves with those headers. -/
theorem mem_textParts {part : Entity} (h : part ∈ input.textParts) :
    ∃ subtype hsubtype content, (subtype = "plain" ∨ subtype = "html") ∧
      part = textEntity subtype hsubtype content := by
  rw [BuildMimeInput.textParts, List.mem_append, Option.mem_toList, Option.mem_toList,
    Option.map_eq_some_iff, Option.map_eq_some_iff] at h
  rcases h with ⟨content, -, rfl⟩ | ⟨content, -, rfl⟩
  · exact ⟨"plain", _, content, .inl rfl, rfl⟩
  · exact ⟨"html", _, content, .inr rfl, rfl⟩

theorem not_infix_textParts (h : Clean boundary) {part : Entity} (hpart : part ∈ input.textParts) :
    ¬ Entity.delimiter boundary <:+: part.text := by
  obtain ⟨subtype, hsubtype, content, hkind, rfl⟩ := mem_textParts input hpart
  refine h.not_infix_textEntity hsubtype ?_ content
  rcases hkind with rfl | rfl <;> decide

/-- The alternatives split. -/
theorem splits_alternativeEntity (alt : Boundary "alt") : (input.alternativeEntity alt).Splits := by
  refine ⟨fun l hl => (by cases hl), fun l hl => (by cases hl), fun part hpart => ?_⟩
  have hclean : Clean alt.text.toList := alt.clean (by decide)
  refine ⟨not_infix_textParts input hclean hpart, ?_⟩
  obtain ⟨subtype, hsubtype, content, -, rfl⟩ := mem_textParts input hpart
  exact extractable_textEntity hsubtype content

theorem noFeeds_alternativeEntity (alt : Boundary "alt") :
    NoFeeds (input.alternativeEntity alt).body := by
  refine noFeeds_multipart ((alt.clean (by decide)).plain _ (by decide)) fun part hpart => ?_
  obtain ⟨subtype, hsubtype, content, -, rfl⟩ := mem_textParts input hpart
  exact noFeeds_text (noFeeds_foldBase64 _)

/-- No delimiter of the attachments is in the alternatives. -/
theorem not_infix_alternativeEntity (mixed : Boundary "mixed") (alt : Boundary "alt") :
    ¬ Entity.delimiter mixed.text.toList <:+: (input.alternativeEntity alt).text := by
  have hclean : Clean mixed.text.toList := mixed.clean (by decide)
  -- Only the delimiters of the attachments have an `x` in them.
  have hx : 'x' ∈ Entity.delimiter mixed.text.toList := by
    simp [Entity.delimiter, Boundary.text, String.toList_append]
  have halt : 'x' ∉ alt.text.toList := by
    intro h
    simp only [Boundary.text, String.toList_append, List.mem_append] at h
    rcases h with ((h | h) | h) | h
    · revert h
      decide
    · revert h
      decide
    · revert h
      decide
    · have := alt.digits _ h
      revert this
      decide
  have hline : ∀ l : List Char, 'x' ∉ l → ¬ Entity.delimiter mixed.text.toList <:+: l :=
    fun l hl hin => hl (hin.subset hx)
  refine hclean.not_infix_text (fun f hf => ?_) ?_
  · simp only [BuildMimeInput.alternativeEntity, Entity.fields, List.mem_cons, List.not_mem_nil,
      or_false] at hf
    subst hf
    refine hline _ ?_
    rw [text_plainField]
    simp only [String.toList_append, List.mem_append, not_or]
    refine ⟨⟨by decide, by decide⟩, ⟨by decide, halt⟩, by decide⟩
  · have hlast : ¬ Entity.delimiter mixed.text.toList <:+:
        Entity.delimiter alt.text.toList ++ ['-', '-'] := by
      refine hline _ ?_
      simp [Entity.delimiter, halt]
    have hparts : ∀ parts : List Entity, (∀ part ∈ parts, part ∈ input.textParts) →
        ¬ Entity.delimiter mixed.text.toList <:+:
          Entity.partsText alt.text.toList parts ++
            (Entity.delimiter alt.text.toList ++ ['-', '-']) := by
      intro parts hparts
      induction parts with
      | nil => exact hlast
      | cons part parts ih =>
        have htext : Entity.partsText alt.text.toList (part :: parts) ++
            (Entity.delimiter alt.text.toList ++ ['-', '-']) =
            Entity.delimiter alt.text.toList ++ (crlf ++ (part.text ++ (crlf ++
              (Entity.partsText alt.text.toList parts ++
                (Entity.delimiter alt.text.toList ++ ['-', '-']))))) := by
          simp only [Entity.partsText, Entity.text, List.append_assoc]
        rw [htext]
        refine hclean.not_infix_crlf (hline _ (by simp [Entity.delimiter, halt])) ?_
        exact hclean.not_infix_crlf
          (not_infix_textParts input hclean (hparts part List.mem_cons_self))
          (ih fun p hp => hparts p (List.mem_cons_of_mem _ hp))
    exact hparts input.textParts fun _ h => h

/-- The boundary is not in what is given for an attachment. -/
def MimeAttachment.Avoids (attachment : MimeAttachment) (boundary : String) : Prop :=
  ¬ boundary.toList <:+: (normalizeHeaderValue attachment.contentType).toList ∧
    ¬ boundary.toList <:+: (normalizeHeaderValue attachment.filename).toList

theorem not_infix_attachmentEntity {attachment : MimeAttachment} (mixed : Boundary "mixed")
    (h : attachment.Avoids mixed.text) :
    ¬ Entity.delimiter mixed.text.toList <:+: (attachmentEntity attachment).text := by
  have hclean : Clean mixed.text.toList := mixed.clean (by decide)
  have hsuffix : mixed.text.toList <:+: Entity.delimiter mixed.text.toList :=
    ((List.suffix_cons _ _).trans (List.suffix_cons _ _)).isInfix
  have htype : ¬ Entity.delimiter mixed.text.toList <:+:
      (normalizeHeaderValue attachment.contentType).toList := fun hin => h.1 (hsuffix.trans hin)
  have hfilename : ¬ Entity.delimiter mixed.text.toList <:+:
      (normalizeHeaderValue attachment.filename).toList := fun hin => h.2 (hsuffix.trans hin)
  have hquoted : ¬ Entity.delimiter mixed.text.toList <:+:
      (normalizeHeaderValue attachment.filename).toList ++ ['"'] :=
    hclean.not_infix_cons (by decide) hfilename not_infix_nil
  have hcolon : "Content-Type".toList ++ ": ".toList = "Content-Type:".toList ++ [' '] := by decide
  have hname : "; name=\"".toList = ';' :: (" name=".toList ++ ['"']) := by decide
  have hdisposition : "Content-Disposition".toList ++ ": ".toList ++
      "attachment; filename=\"".toList =
        "Content-Disposition: attachment; filename=".toList ++ ['"'] := by decide
  have hquote : "\"".toList = ['"'] := by decide
  refine hclean.not_infix_text (fun f hf => ?_) (not_infix_foldBase64 _)
  simp only [attachmentEntity, Entity.fields, List.mem_cons, List.not_mem_nil, or_false] at hf
  rcases hf with rfl | rfl | rfl
  · rw [text_plainField]
    have htext : ("Content-Type" ++ ": " ++ (normalizeHeaderValue attachment.contentType ++
        "; name=\"" ++ normalizeHeaderValue attachment.filename ++ "\"")).toList =
        "Content-Type:".toList ++ ' ' :: ((normalizeHeaderValue attachment.contentType).toList ++
          ';' :: (" name=".toList ++ '"' :: ((normalizeHeaderValue attachment.filename).toList ++
            ['"']))) := by
      simp only [String.toList_append, hcolon, hname, hquote, List.append_assoc, List.cons_append,
        List.nil_append]
    rw [htext]
    refine hclean.not_infix_cons (by decide) (not_infix_of_no_hyphens (by decide)) ?_
    refine hclean.not_infix_cons (by decide) htype ?_
    exact hclean.not_infix_cons (by decide) (not_infix_of_no_hyphens (by decide)) hquoted
  · rw [text_plainField]
    have htext : ("Content-Disposition" ++ ": " ++ ("attachment; filename=\"" ++
        normalizeHeaderValue attachment.filename ++ "\"")).toList =
        "Content-Disposition: attachment; filename=".toList ++
          '"' :: ((normalizeHeaderValue attachment.filename).toList ++ ['"']) := by
      simp only [String.toList_append, hdisposition, hquote, ← List.append_assoc]
      simp only [List.append_assoc, List.cons_append, List.nil_append]
    rw [htext]
    exact hclean.not_infix_cons (by decide) (not_infix_of_no_hyphens (by decide)) hquoted
  · rw [text_plainField]
    exact not_infix_of_no_hyphens (by decide)

theorem noFeeds_mixedEntity (mixed : Boundary "mixed") (alt : Boundary "alt") :
    NoFeeds (input.mixedEntity mixed alt).body := by
  refine noFeeds_multipart ((mixed.clean (by decide)).plain _ (by decide)) fun part hpart => ?_
  rcases List.mem_cons.1 hpart with rfl | hpart
  · exact noFeeds_text (noFeeds_alternativeEntity input alt)
  · obtain ⟨attachment, -, rfl⟩ := List.mem_map.1 hpart
    exact noFeeds_text (noFeeds_foldBase64 _)

/-- The alternatives and the attachments split. -/
theorem splits_mixedEntity (mixed : Boundary "mixed") (alt : Boundary "alt")
    (h : ∀ a ∈ input.attachments, a.Avoids mixed.text) : (input.mixedEntity mixed alt).Splits := by
  refine ⟨fun l hl => (by cases hl), fun l hl => (by cases hl), fun part hpart => ?_⟩
  rcases List.mem_cons.1 hpart with rfl | hpart
  · exact ⟨not_infix_alternativeEntity input mixed alt,
      extractable_of_noFeeds rfl rfl (noFeeds_alternativeEntity input alt)⟩
  · obtain ⟨attachment, hattachment, rfl⟩ := List.mem_map.1 hpart
    exact ⟨not_infix_attachmentEntity mixed (h attachment hattachment),
      extractable_attachmentEntity attachment⟩

end Parts

end MailRuntime
