import MailRuntime.Mail.Headers

/-!
# MIME entities

Trees of MIME entities, as texts and as the parser takes them apart again. A multipart has its
parts between delimiters, with a preamble and an epilogue. The parser looks for delimiters
anywhere in the text, and for the body of a part after the first two line feeds in a row, so a
tree is taken apart as it was put together where there are no others of either.
-/

namespace MailRuntime

open Js

/-! ### Trees and their texts -/

/-- A MIME entity. -/
inductive Entity where
  | leaf (fields : List Field) (body : List Char)
  | multipart (fields : List Field) (boundary : List Char) (preamble : Option (List Char))
      (parts : List Entity) (epilogue : Option (List Char))

namespace Entity

/-- The header fields. -/
def fields : Entity → List Field
  | leaf fields _ => fields
  | multipart fields _ _ _ _ => fields

/-- What a delimiter starts with. -/
def delimiter (boundary : List Char) : List Char := '-' :: '-' :: boundary

/-- What is before the first delimiter. -/
def preambleText : Option (List Char) → List Char
  | none => []
  | some preamble => preamble ++ crlf

/-- What is after the last boundary. -/
def epilogueText : Option (List Char) → List Char
  | none => ['-', '-']
  | some epilogue => '-' :: '-' :: (crlf ++ epilogue)

mutual

/-- The body of an entity. -/
def body : Entity → List Char
  | leaf _ body => body
  | multipart _ boundary preamble parts epilogue =>
    preambleText preamble ++
      (partsText boundary parts ++ (delimiter boundary ++ epilogueText epilogue))

/-- The parts of a multipart, each after a delimiter. -/
def partsText (boundary : List Char) : List Entity → List Char
  | [] => []
  | part :: parts =>
    delimiter boundary ++
      ((crlf ++ (headerText part.fields ++ (crlf ++ body part)) ++ crlf) ++
        partsText boundary parts)

end

/-- The text of an entity. -/
def text (e : Entity) : List Char := headerText e.fields ++ (crlf ++ e.body)

mutual

/-- The leaves of the tree, in order. -/
def leaves : Entity → List (List Field × List Char)
  | leaf fields body => [(fields, body)]
  | multipart _ _ _ parts _ => leavesOf parts

/-- The leaves of trees. -/
def leavesOf : List Entity → List (List Field × List Char)
  | [] => []
  | part :: parts => leaves part ++ leavesOf parts

end

mutual

/-- The entities of the tree, in order. -/
def nodes : Entity → List Entity
  | leaf fields body => [leaf fields body]
  | multipart fields boundary preamble parts epilogue =>
    multipart fields boundary preamble parts epilogue :: nodesOf parts

/-- The entities of trees. -/
def nodesOf : List Entity → List Entity
  | [] => []
  | part :: parts => nodes part ++ nodesOf parts

end

theorem self_mem_nodes (e : Entity) : e ∈ e.nodes := by
  cases e <;> simp [nodes]

end Entity

/-! ### The parts of a multipart -/

namespace Entity

variable {env : Env} {boundary : List Char}

/-- The part can be told from its text. -/
structure Extractable (part : Entity) : Prop where
  fields : part.fields = [] → part.body = []
  feeds : ¬ ['\n', '\n'] <:+: part.text
  start : ¬ ['-', '-'] <+: part.text

theorem Extractable.split {part : Entity} (h : part.Extractable) :
    splitHeaderAndBody env part.text = (headersOf env part.fields, part.body) := by
  by_cases hfields : part.fields = []
  · rw [text, hfields, h.fields hfields]
    exact splitHeaderAndBody_crlf
  · exact splitHeaderAndBody_text hfields h.feeds

theorem dropFirstBreak_crlf (l : List Char) : dropFirstBreak (crlf ++ l) = l := by
  rw [dropFirstBreak, ← lineBreak, lineBreak_crlf]
  rfl

theorem dropLastBreak_crlf (l : List Char) : dropLastBreak (l ++ crlf) = l := by
  rw [dropLastBreak, List.reverse_append]
  show l.reverse.reverse = l
  exact List.reverse_reverse l

theorem length_text (e : Entity) : e.body.length + 2 ≤ e.text.length := by
  rw [text, List.length_append, List.length_append, List.length_cons, List.length_cons]
  omega

section Parts

variable {boundary tail : List Char}

/-- A delimiter in a text between line breaks is in the text. -/
theorem infix_of_infix_crlf (hcr : '\r' ∉ boundary) (hlf : '\n' ∉ boundary) {l : List Char}
    (h : delimiter boundary <:+: crlf ++ l ++ crlf) : delimiter boundary <:+: l := by
  have hcr : '\r' ∉ delimiter boundary := by simpa [delimiter] using hcr
  have hlf : '\n' ∉ delimiter boundary := by simpa [delimiter] using hlf
  have hnil : ∀ k, delimiter boundary <:+: [] → delimiter boundary <:+: k := by
    intro k h
    rw [List.infix_nil] at h
    cases h
  rw [List.append_assoc, List.cons_append, List.cons_append, List.nil_append] at h
  rcases infix_append_cons (l := []) hcr h with h | h
  · exact hnil l h
  rcases infix_append_cons (l := []) hlf h with h | h
  · exact hnil l h
  rcases infix_append_cons hcr h with h | h
  · exact h
  rcases infix_append_cons (l := []) hlf h with h | h
  · exact hnil l h
  · exact hnil l h

/-- A body is split at its delimiters. -/
theorem splitText_partsText (hcr : '\r' ∉ boundary) (hlf : '\n' ∉ boundary)
    (htail : ¬ delimiter boundary <:+: tail) {parts : List Entity}
    (hparts : ∀ part ∈ parts, ¬ delimiter boundary <:+: part.text) {l : List Char}
    (hend : l = [] ∨ l.getLast? = some '\n') (hl : ¬ delimiter boundary <:+: l) :
    splitText (delimiter boundary) (l ++ (partsText boundary parts ++
        (delimiter boundary ++ tail))) =
      l :: (parts.map (fun part => crlf ++ part.text ++ crlf) ++ [tail]) := by
  have hline : '\n' ∉ delimiter boundary := by simpa [delimiter] using hlf
  have hne : delimiter boundary ≠ [] := List.cons_ne_nil _ _
  induction parts generalizing l with
  | nil =>
    rw [partsText, List.nil_append, splitText_append hne, splitText_of_not_infix htail]
    · rfl
    · exact fun t ht hsuffix => not_prefix_of_line_end hline hend hl ht hsuffix
  | cons part parts ih =>
    have hpart : ¬ delimiter boundary <:+: crlf ++ part.text ++ crlf := fun h =>
      hparts part List.mem_cons_self (infix_of_infix_crlf hcr hlf h)
    have hlast : (crlf ++ part.text ++ crlf).getLast? = some '\n' := by
      rw [List.getLast?_append_of_ne_nil _ (List.cons_ne_nil _ _)]
      rfl
    have htext : partsText boundary (part :: parts) =
        delimiter boundary ++ ((crlf ++ part.text ++ crlf) ++ partsText boundary parts) := rfl
    rw [htext, List.append_assoc, List.append_assoc, splitText_append hne,
      ih (fun p hp => hparts p (List.mem_cons_of_mem _ hp)) (.inr hlast) hpart]
    · rfl
    · exact fun t ht hsuffix => not_prefix_of_line_end hline hend hl ht hsuffix

end Parts

/-- A delimiter is nowhere in the body but where it delimits, and each part can be told from its
text. -/
def Splits : Entity → Prop
  | leaf _ _ => True
  | multipart _ boundary preamble parts epilogue =>
    (∀ l ∈ preamble, ¬ delimiter boundary <:+: l) ∧
      (∀ l ∈ epilogue, ¬ delimiter boundary <:+: l) ∧
      ∀ part ∈ parts, ¬ delimiter boundary <:+: part.text ∧ part.Extractable

/-- **The parts of a multipart are what the parser finds.** -/
theorem parseMultipart_body {fields : List Field} {preamble epilogue : Option (List Char)}
    {parts : List Entity} (hne : boundary ≠ []) (hcr : '\r' ∉ boundary) (hlf : '\n' ∉ boundary)
    (h : (multipart fields boundary preamble parts epilogue).Splits) :
    parseMultipart env (multipart fields boundary preamble parts epilogue).body boundary =
      parts.map fun part => (headersOf env part.fields, part.body) := by
  obtain ⟨hpreamble, hepilogue, hparts⟩ := h
  have hcr' : '\r' ∉ delimiter boundary := by simpa [delimiter] using hcr
  have hlf' : '\n' ∉ delimiter boundary := by simpa [delimiter] using hlf
  have hshort : ∀ l : List Char, l.length ≤ 2 → ¬ delimiter boundary <:+: l := by
    intro l hl hin
    have hlength := hin.length_le
    have hpos := List.length_pos_iff.2 hne
    simp only [delimiter, List.length_cons] at hlength
    omega
  have hhead : ¬ delimiter boundary <:+: preambleText preamble := by
    cases preamble with
    | none => exact hshort [] (by decide)
    | some l =>
      intro hin
      rcases infix_append_cons hcr' hin with hin | hin
      · exact hpreamble l rfl hin
      · exact hshort _ (by decide) hin
  have hend : preambleText preamble = [] ∨ (preambleText preamble).getLast? = some '\n' := by
    cases preamble with
    | none => exact .inl rfl
    | some l =>
      refine .inr ?_
      rw [preambleText, List.getLast?_append_of_ne_nil _ (List.cons_ne_nil _ _)]
      rfl
  have htail : ¬ delimiter boundary <:+: epilogueText epilogue := by
    cases epilogue with
    | none => exact hshort _ (by decide)
    | some l =>
      intro hin
      rcases infix_append_cons (l := ['-', '-']) hcr' hin with hin | hin
      · exact hshort _ (by decide) hin
      rcases infix_append_cons (l := []) hlf' hin with hin | hin
      · exact hshort _ (by decide) hin
      · exact hepilogue l rfl hin
  have hsplit := splitText_partsText hcr hlf htail (fun p hp => (hparts p hp).1) hend hhead
  have hlast : ∃ l, dropFirstBreak (epilogueText epilogue) = '-' :: '-' :: l := by
    cases epilogue with
    | none => exact ⟨[], rfl⟩
    | some l => exact ⟨crlf ++ l, rfl⟩
  obtain ⟨l, hl⟩ := hlast
  have hkeep : ∀ part ∈ parts, (!(part.text ++ crlf).isEmpty &&
      !startsWith "--" (part.text ++ crlf)) = true := by
    intro part hpart
    have hstart := (hparts part hpart).2.start
    have hlength := part.length_text
    have hnot : startsWith "--" (part.text ++ crlf) = false := by
      rw [← Bool.not_eq_true, startsWith, List.isPrefixOf_iff_prefix]
      intro hpre
      refine hstart ((List.prefix_of_prefix_length_le hpre (List.prefix_append _ _) ?_))
      show 2 ≤ part.text.length
      omega
    rw [hnot]
    cases htext : part.text ++ crlf with
    | nil => simp at htext
    | cons c t => rfl
  have hbody : (multipart fields boundary preamble parts epilogue).body =
      preambleText preamble ++ (partsText boundary parts ++
        (delimiter boundary ++ epilogueText epilogue)) := rfl
  have hdelimiter : "--".toList ++ boundary = delimiter boundary := rfl
  rw [parseMultipart, hdelimiter, hbody, hsplit, List.drop_succ_cons, List.drop_zero, List.map_append, List.map_map, List.filter_append,
    List.map_cons, List.map_nil, hl, List.filter_cons_of_neg (by simp [startsWith]),
    List.filter_nil, List.append_nil]
  have hfirst : (dropFirstBreak ∘ fun part : Entity => crlf ++ part.text ++ crlf) =
      fun part => part.text ++ crlf := by
    funext part
    rw [Function.comp, List.append_assoc]
    exact dropFirstBreak_crlf _
  rw [hfirst, List.filter_map, List.map_map]
  have hall : parts.filter ((fun l : List Char => !l.isEmpty && !startsWith "--" l) ∘
      fun part => part.text ++ crlf) = parts :=
    List.filter_eq_self.2 hkeep
  rw [hall]
  refine List.map_congr_left fun part hpart => ?_
  rw [Function.comp, dropLastBreak_crlf]
  exact (hparts part hpart).2.split

end Entity

end MailRuntime
