import MailRuntime.Js.Separators
import MailRuntime.Mail.Parser

/-!
# Header fields

Header fields as they are written, folded over several lines or not, and what the parser makes
of them: it unfolds a header block, splits it into lines, and sets a header for each. It takes
the header to end at the first blank line, and the body to start after it, unless there are two
line feeds in a row somewhere.
-/

namespace MailRuntime

open Js

/-! ### Fields and their texts -/

/-- White space that continues a header field. -/
def isFoldSpace (c : Char) : Bool := c == ' ' || c == '\t'

/-- A header field: its name, its value up to the end of the line, and the lines that continue
it, each of them after the white space it starts with. -/
structure Field where
  name : List Char
  value : List Char
  more : List (List Char × List Char) := []
  name_line : '\n' ∉ name ∧ ':' ∉ name ∧ ∀ c, name.head? = some c → isFoldSpace c = false
  value_line : '\n' ∉ value
  more_lines : ∀ line ∈ more, (line.1 ≠ [] ∧ ∀ c ∈ line.1, isFoldSpace c = true) ∧
    '\n' ∉ line.2 ∧ ∀ c, line.2.head? = some c → isFoldSpace c = false

/-- The lines that continue a field. -/
def foldedText (more : List (List Char × List Char)) : List Char :=
  more.flatMap fun line => crlf ++ (line.1 ++ line.2)

/-- What they say, when they are unfolded. -/
def unfoldedText (more : List (List Char × List Char)) : List Char :=
  more.flatMap fun line => ' ' :: line.2

/-- A header field on one line. -/
def plainField (name value : String) (hname : '\n' ∉ name.toList ∧ ':' ∉ name.toList ∧
    ∀ c, name.toList.head? = some c → isFoldSpace c = false) (hvalue : '\n' ∉ value.toList) :
    Field where
  name := name.toList
  value := ' ' :: value.toList
  name_line := hname
  value_line := by
    rw [List.mem_cons, not_or]
    exact ⟨by decide, hvalue⟩
  more_lines := fun _ h => by cases h

/-- The field as it is written. -/
def Field.text (f : Field) : List Char := f.name ++ ':' :: (f.value ++ foldedText f.more)

/-- The field on one line. -/
def Field.line (f : Field) : List Char := f.name ++ ':' :: (f.value ++ unfoldedText f.more)

/-- The fields, each on lines of its own. -/
def headerText (fields : List Field) : List Char := fields.flatMap fun f => f.text ++ crlf

/-! ### Header maps -/

/-- The header map of some fields. -/
def headersOf (env : Env) (fields : List Field) : Headers :=
  fields.foldl (fun headers f =>
    headers.set (env.toLowerCase (trim (String.ofList f.name)))
      (trimChars (f.value ++ unfoldedText f.more))) []

/-- What follows a line break at the head. -/
def lineBreak (l : List Char) : Option (List Char) := (after "\r\n" l).or (after "\n" l)

/-- The text is at its end, or in the middle of a line. -/
def Inside (l : List Char) : Prop := ∀ c, l.head? = some c → c ≠ '\n' ∧ isFoldSpace c = false

section HeaderBlock

variable {env : Env} {l rest : List Char} {c : Char}

theorem lineBreak_cons (hc : c ≠ '\n') (hcr : c = '\r' → rest.head? ≠ some '\n') :
    lineBreak (c :: rest) = none := by
  have h1 : after "\r\n" (c :: rest) = none := by
    refine if_neg ?_
    rw [startsWith, List.isPrefixOf_iff_prefix]
    rintro ⟨tail, htail⟩
    obtain ⟨rfl, rfl⟩ := List.cons.inj htail
    exact hcr rfl rfl
  have h2 : after "\n" (c :: rest) = none := by
    refine if_neg ?_
    rw [startsWith, List.isPrefixOf_iff_prefix]
    rintro ⟨tail, htail⟩
    obtain ⟨rfl, rfl⟩ := List.cons.inj htail
    exact hc rfl
  rw [lineBreak, h1, h2]
  rfl

theorem lineBreak_crlf (rest : List Char) : lineBreak (crlf ++ rest) = some rest := by
  cases rest <;> rfl

theorem lineBreak_lf (rest : List Char) : lineBreak ('\n' :: rest) = some rest := by
  cases rest <;> rfl

/-- No line break begins on a line. -/
theorem lineBreak_line (hl : '\n' ∉ l) (hrest : rest.head? ≠ some '\n') {t : List Char}
    (ht : t ≠ []) (hsuffix : t <:+ l) : lineBreak (t ++ rest) = none := by
  cases t with
  | nil => exact absurd rfl ht
  | cons d t =>
    have hmem : ∀ x ∈ d :: t, x ≠ '\n' := fun x hx h => hl (h ▸ hsuffix.subset hx)
    refine lineBreak_cons (hmem d List.mem_cons_self) fun _ => ?_
    cases t with
    | nil => exact hrest
    | cons x t => simpa using hmem x (List.mem_cons_of_mem _ List.mem_cons_self)

theorem foldedBreak_eq (l : List Char) :
    foldedBreak l = (lineBreak l).bind fun rest =>
      (oneOrMore isFoldSpace rest).map fun (_, rest) => ([' '], rest) := by
  rw [foldedBreak, lineBreak]
  cases (after "\r\n" l).or (after "\n" l) with
  | none => rfl
  | some rest =>
    show (oneOrMore isFoldSpace rest).bind _ = (oneOrMore isFoldSpace rest).map _
    cases oneOrMore isFoldSpace rest <;> rfl

theorem isBlankLine_eq (l : List Char) :
    isBlankLine l = (lineBreak l).any fun rest => (lineBreak rest).isSome := by
  rw [isBlankLine, ← lineBreak]
  cases lineBreak l with
  | none => rfl
  | some rest =>
    show (startsWith "\r\n" rest || startsWith "\n" rest) = (lineBreak rest).isSome
    rw [lineBreak, after, after]
    by_cases h1 : startsWith "\r\n" rest = true
    · simp [h1]
    · by_cases h2 : startsWith "\n" rest = true <;> simp [h1, h2]

theorem length_of_lineBreak (h : lineBreak l = some rest) : rest.length < l.length := by
  have hafter : ∀ part tail, part ≠ "" → after part l = some tail → tail.length < l.length := by
    intro part tail hpart h
    unfold after at h
    split at h
    · next hstarts =>
      obtain rfl := Option.some.inj h
      have hpre : part.toList <+: l := List.isPrefixOf_iff_prefix.1 hstarts
      have hlength := hpre.length_le
      have hpos : 0 < part.toList.length := by
        rw [List.length_pos_iff]
        exact fun h => hpart (String.toList_eq_nil_iff.1 h)
      rw [List.length_drop, ← String.length_toList]
      omega
    · cases h
  rcases Option.or_eq_some_iff.1 h with h | ⟨-, h⟩
  · exact hafter "\r\n" rest (by decide) h
  · exact hafter "\n" rest (by decide) h

theorem consumes_foldedBreak : Consumes foldedBreak := by
  intro l replacement rest h
  rw [foldedBreak_eq] at h
  obtain ⟨tail, htail, h⟩ := Option.bind_eq_some_iff.1 h
  obtain ⟨⟨spaces, rest'⟩, hspaces, h⟩ := Option.map_eq_some_iff.1 h
  obtain ⟨-, rfl⟩ := Prod.mk.inj h
  have hlt := length_of_lineBreak htail
  have hle : rest'.length ≤ tail.length := by
    unfold oneOrMore at hspaces
    split at hspaces
    · cases hspaces
    · obtain ⟨-, rfl⟩ := Prod.mk.inj (Option.some.inj hspaces)
      exact (List.dropWhile_sublist _).length_le
  omega

theorem inside_nil : Inside [] := fun _ h => by cases h

theorem inside_crlf (rest : List Char) : Inside (crlf ++ rest) := by
  intro c h
  obtain rfl : '\r' = c := Option.some.inj h
  exact ⟨by decide, by decide⟩

theorem Inside.head_ne (h : Inside l) : l.head? ≠ some '\n' := fun hc => (h _ hc).1 rfl

/-- A line stays as it is. -/
theorem unfold_line (hl : '\n' ∉ l) (hrest : Inside rest) :
    replaceAll foldedBreak (l ++ rest) = l ++ replaceAll foldedBreak rest := by
  refine replaceAll_append fun t ht hsuffix => ?_
  rw [foldedBreak_eq, lineBreak_line hl hrest.head_ne ht hsuffix]
  rfl

/-- A line break before a line that does not continue another stays. -/
theorem unfold_crlf (hrest : ∀ c, rest.head? = some c → isFoldSpace c = false) :
    replaceAll foldedBreak (crlf ++ rest) = crlf ++ replaceAll foldedBreak rest := by
  have hnone : oneOrMore isFoldSpace rest = none := by
    refine if_pos ?_
    cases rest with
    | nil => rfl
    | cons d rest => rw [List.takeWhile_cons, hrest d rfl]; rfl
  refine replaceAll_append fun t ht hsuffix => ?_
  obtain rfl | rfl : t = crlf ∨ t = ['\n'] := by
    rcases List.suffix_cons_iff.1 hsuffix with h | h
    · exact .inl h
    rcases List.suffix_cons_iff.1 h with h | h
    · exact .inr h
    · exact absurd (List.suffix_nil.1 h) ht
  · rw [foldedBreak_eq, lineBreak_crlf, Option.bind_some, hnone]
    rfl
  · rw [foldedBreak_eq, List.cons_append, List.nil_append, lineBreak_lf, Option.bind_some, hnone]
    rfl

/-- A line break before white space is a blank. -/
theorem unfold_fold {spaces : List Char} (hne : spaces ≠ [])
    (hspaces : ∀ c ∈ spaces, isFoldSpace c = true)
    (hrest : ∀ c, rest.head? = some c → isFoldSpace c = false) :
    replaceAll foldedBreak (crlf ++ (spaces ++ rest)) = ' ' :: replaceAll foldedBreak rest := by
  have htake : (spaces ++ rest).takeWhile isFoldSpace = spaces := by
    rw [List.takeWhile_append_of_pos hspaces]
    cases rest with
    | nil => simp
    | cons d rest => rw [List.takeWhile_cons, hrest d rfl]; simp
  have hdrop : (spaces ++ rest).dropWhile isFoldSpace = rest := by
    rw [List.dropWhile_append_of_pos hspaces]
    cases rest with
    | nil => rfl
    | cons d rest => rw [List.dropWhile_cons, hrest d rfl]; rfl
  have hmatch : foldedBreak (crlf ++ (spaces ++ rest)) = some ([' '], rest) := by
    rw [foldedBreak_eq, lineBreak_crlf, Option.bind_some, oneOrMore, htake, hdrop,
      if_neg (by simpa using hne)]
    rfl
  exact replaceAll_of_match consumes_foldedBreak hmatch

/-- Lines that continue a field are unfolded. -/
theorem unfold_foldedText {more : List (List Char × List Char)}
    (hmore : ∀ line ∈ more, (line.1 ≠ [] ∧ ∀ c ∈ line.1, isFoldSpace c = true) ∧
      '\n' ∉ line.2 ∧ ∀ c, line.2.head? = some c → isFoldSpace c = false)
    (hrest : Inside rest) : replaceAll foldedBreak (foldedText more ++ rest) =
      unfoldedText more ++ replaceAll foldedBreak rest := by
  induction more with
  | nil => rfl
  | cons line more ih =>
    obtain ⟨⟨hne, hspaces⟩, hline, hhead⟩ := hmore line List.mem_cons_self
    have ih := ih fun other h => hmore other (List.mem_cons_of_mem _ h)
    have htail : Inside (foldedText more ++ rest) := by
      cases more with
      | nil => exact hrest
      | cons other more =>
        rw [foldedText, List.flatMap_cons, List.append_assoc, List.append_assoc]
        exact inside_crlf _
    have hnext : ∀ c, (line.2 ++ (foldedText more ++ rest)).head? = some c →
        isFoldSpace c = false := by
      intro c hc
      cases hl : line.2 with
      | nil =>
        rw [hl] at hc
        exact (htail c hc).2
      | cons d tail =>
        rw [hl] at hc hhead
        exact hhead c hc
    have htext : foldedText (line :: more) ++ rest =
        crlf ++ (line.1 ++ (line.2 ++ (foldedText more ++ rest))) := by
      simp only [foldedText, List.flatMap_cons, List.append_assoc]
    rw [htext, unfold_fold hne hspaces hnext, unfold_line hline htail, ih]
    simp only [unfoldedText, List.flatMap_cons, List.cons_append, List.append_assoc]

theorem Field.name_value_line (f : Field) : '\n' ∉ f.name ++ ':' :: f.value := by
  rw [List.mem_append, List.mem_cons]
  rintro (h | h | h)
  · exact f.name_line.1 h
  · cases h
  · exact f.value_line h

/-- A field is unfolded. -/
theorem unfold_field (f : Field) (hrest : Inside rest) :
    replaceAll foldedBreak (f.text ++ rest) = f.line ++ replaceAll foldedBreak rest := by
  have hinside : Inside (foldedText f.more ++ rest) := by
    cases hmore : f.more with
    | nil => exact hrest
    | cons line more =>
      rw [foldedText, List.flatMap_cons, List.append_assoc, List.append_assoc]
      exact inside_crlf _
  have htext : f.text ++ rest = (f.name ++ ':' :: f.value) ++ (foldedText f.more ++ rest) := by
    simp only [Field.text, List.append_assoc, List.cons_append]
  rw [htext, unfold_line f.name_value_line hinside, unfold_foldedText f.more_lines hrest]
  simp only [Field.line, List.append_assoc, List.cons_append]

theorem Field.line_plain (f : Field) : '\n' ∉ f.line := by
  rw [Field.line, List.mem_append, List.mem_cons, List.mem_append, unfoldedText, List.mem_flatMap]
  rintro (h | h | h | ⟨line, hline, h⟩)
  · exact f.name_line.1 h
  · cases h
  · exact f.value_line h
  · rcases List.mem_cons.1 h with h | h
    · cases h
    · exact (f.more_lines line hline).2.1 h

/-- A line does not start with white space. -/
theorem Field.head_text (f : Field) (rest : List Char) :
    ∀ c, (f.text ++ rest).head? = some c → isFoldSpace c = false := by
  intro c hc
  have hname := f.name_line.2.2
  rw [Field.text] at hc
  cases hn : f.name with
  | nil =>
    rw [hn] at hc
    obtain rfl : ':' = c := Option.some.inj hc
    rfl
  | cons d name =>
    rw [hn] at hc hname
    exact hname c hc

/-- The fields, with line breaks between them. -/
def blockText : List Field → List Char
  | [] => []
  | [f] => f.text
  | f :: g :: fields => f.text ++ (crlf ++ blockText (g :: fields))

theorem headerText_eq {fields : List Field} (h : fields ≠ []) :
    headerText fields = blockText fields ++ crlf := by
  induction fields with
  | nil => exact absurd rfl h
  | cons f fields ih =>
    rw [headerText, List.flatMap_cons]
    cases fields with
    | nil => exact List.append_nil _
    | cons g fields =>
      rw [← headerText, ih (List.cons_ne_nil g fields), blockText]
      simp only [List.append_assoc]

theorem head_blockText (fields : List Field) :
    ∀ c, (blockText fields).head? = some c → isFoldSpace c = false := by
  cases fields with
  | nil => exact fun c h => by cases h
  | cons f fields =>
    cases fields with
    | nil =>
      have := f.head_text []
      rwa [List.append_nil] at this
    | cons g fields => exact f.head_text _

/-- The lines of a header block, when it is unfolded. -/
theorem splitLines_block {fields : List Field} (h : fields ≠ []) :
    splitLines (replaceAll foldedBreak (blockText fields)) = fields.map Field.line := by
  induction fields with
  | nil => exact absurd rfl h
  | cons f fields ih =>
    cases fields with
    | nil =>
      have hunfold := unfold_field f inside_nil
      rw [List.append_nil] at hunfold
      have hnil : replaceAll foldedBreak [] = [] := rfl
      rw [blockText, hunfold, hnil, List.append_nil, splitLines_of_not_mem f.line_plain]
      rfl
    | cons g fields =>
      rw [blockText, unfold_field f (inside_crlf _), unfold_crlf (head_blockText _),
        ← List.append_assoc, splitLines_append_crlf f.line_plain, ih (List.cons_ne_nil g fields)]
      rfl

/-- A line of a field sets the field. -/
theorem parseHeaderLine_line (headers : Headers) (f : Field) :
    parseHeaderLine env headers f.line =
      headers.set (env.toLowerCase (trim (String.ofList f.name)))
        (trimChars (f.value ++ unfoldedText f.more)) := by
  have hcolon : breakAt (startsWith ":") f.line =
      some (f.name, ':' :: (f.value ++ unfoldedText f.more)) := by
    rw [Field.line, breakAt_append, breakAt_of_found]
    · simp
    · rfl
    · intro t ht hsuffix
      cases t with
      | nil => exact absurd rfl ht
      | cons c t =>
        have hc : c ≠ ':' := fun h => f.name_line.2.1 (h ▸ hsuffix.subset List.mem_cons_self)
        simp [startsWith, List.isPrefixOf, Ne.symm hc]
  rw [parseHeaderLine, hcolon]
  rfl

theorem parseHeadersBlock_block {fields : List Field} (h : fields ≠ []) :
    parseHeadersBlock env (blockText fields) = headersOf env fields := by
  rw [parseHeadersBlock, splitLines_block h, List.foldl_map, headersOf]
  refine List.foldl_ext _ _ _ fun headers f _ => ?_
  exact parseHeaderLine_line headers f

end HeaderBlock

/-! ### The end of the header -/

section Blank

variable {env : Env} {l l' rest : List Char}

/-- The header does not end before the end of `l`. -/
def Skips (l rest : List Char) : Prop :=
  breakAt isBlankLine (l ++ rest) =
    (breakAt isBlankLine rest).map fun (before, tail) => (l ++ before, tail)

theorem Skips.append (h : Skips l (l' ++ rest)) (h' : Skips l' rest) : Skips (l ++ l') rest := by
  rw [Skips, List.append_assoc, h, h', Option.map_map]
  refine congrArg (Option.map · _) (funext fun p => ?_)
  simp only [Function.comp, List.append_assoc]

/-- There is no blank line before the end of a line. -/
theorem skips_line (hl : '\n' ∉ l) (hrest : rest.head? ≠ some '\n') : Skips l rest := by
  refine breakAt_append fun t ht hsuffix => ?_
  rw [isBlankLine_eq, lineBreak_line hl hrest ht hsuffix]
  rfl

/-- A line break before a line that is not blank. -/
theorem skips_crlf (hrest : lineBreak rest = none) : Skips crlf rest := by
  refine breakAt_append fun t ht hsuffix => ?_
  rcases List.suffix_cons_iff.1 hsuffix with rfl | h
  · rw [isBlankLine_eq, lineBreak_crlf, Option.any_some, hrest]
    rfl
  rcases List.suffix_cons_iff.1 h with rfl | h
  · rw [isBlankLine_eq, List.cons_append, List.nil_append, lineBreak_lf, Option.any_some, hrest]
    rfl
  · exact absurd (List.suffix_nil.1 h) ht

theorem head_foldedText_append (more : List (List Char × List Char))
    (hrest : rest.head? ≠ some '\n') : (foldedText more ++ rest).head? ≠ some '\n' := by
  cases more with
  | nil => exact hrest
  | cons line more =>
    intro h
    cases h

theorem skips_foldedText {more : List (List Char × List Char)}
    (hmore : ∀ line ∈ more, (line.1 ≠ [] ∧ ∀ c ∈ line.1, isFoldSpace c = true) ∧
      '\n' ∉ line.2 ∧ ∀ c, line.2.head? = some c → isFoldSpace c = false)
    (hrest : rest.head? ≠ some '\n') : Skips (foldedText more) rest := by
  induction more with
  | nil =>
    show breakAt isBlankLine rest = (breakAt isBlankLine rest).map fun p => ([] ++ p.1, p.2)
    cases breakAt isBlankLine rest <;> rfl
  | cons line more ih =>
    obtain ⟨⟨hne, hspaces⟩, hline, -⟩ := hmore line List.mem_cons_self
    have ih := ih fun other h => hmore other (List.mem_cons_of_mem _ h)
    obtain ⟨c, spaces, hcons⟩ := List.exists_cons_of_ne_nil hne
    have hc : c ≠ '\n' ∧ c ≠ '\r' := by
      have := hspaces c (by simp [hcons])
      constructor
      · rintro rfl
        cases this
      · rintro rfl
        cases this
    have hplain : '\n' ∉ line.1 ++ line.2 := by
      rw [List.mem_append, not_or]
      exact ⟨fun h => (by cases hspaces _ h), hline⟩
    rw [foldedText, List.flatMap_cons, ← foldedText]
    refine Skips.append (Skips.append (skips_crlf ?_) (skips_line hplain ?_)) ih
    · rw [hcons, List.cons_append, List.cons_append]
      exact lineBreak_cons hc.1 fun h => absurd h hc.2
    · exact head_foldedText_append more hrest

theorem skips_field (f : Field) (hrest : rest.head? ≠ some '\n') : Skips f.text rest := by
  have htext : f.text = (f.name ++ ':' :: f.value) ++ foldedText f.more := by
    simp only [Field.text, List.append_assoc, List.cons_append]
  rw [htext]
  exact (skips_line f.name_value_line (head_foldedText_append f.more hrest)).append
    (skips_foldedText f.more_lines hrest)

/-- A field is not a blank line. -/
theorem lineBreak_field (f : Field) (rest : List Char) : lineBreak (f.text ++ rest) = none := by
  have hplain := f.name_line.1
  rw [Field.text]
  cases hn : f.name with
  | nil => exact lineBreak_cons (by decide) fun h => absurd h (by decide)
  | cons c name =>
    rw [hn, List.mem_cons, not_or] at hplain
    refine lineBreak_cons (Ne.symm hplain.1) fun _ => ?_
    cases name with
    | nil => exact fun h => by cases h
    | cons d name =>
      intro h
      obtain rfl : d = '\n' := Option.some.inj h
      exact hplain.2 List.mem_cons_self

theorem skips_block (fields : List Field) (hrest : rest.head? ≠ some '\n') :
    Skips (blockText fields) rest := by
  induction fields with
  | nil =>
    show breakAt isBlankLine rest = (breakAt isBlankLine rest).map fun p => ([] ++ p.1, p.2)
    cases breakAt isBlankLine rest <;> rfl
  | cons f fields ih =>
    cases fields with
    | nil => exact skips_field f hrest
    | cons g fields =>
      have hfield : lineBreak (blockText (g :: fields) ++ rest) = none := by
        cases fields with
        | nil => exact lineBreak_field g rest
        | cons h fields =>
          rw [blockText, List.append_assoc]
          exact lineBreak_field g _
      rw [blockText]
      refine (skips_field f ?_).append ((skips_crlf hfield).append ih)
      exact fun h => by cases h

theorem dropUnits_crlf_crlf (body : List Char) : dropUnits 4 (crlf ++ (crlf ++ body)) = body := by
  cases body <;> rfl

/-- **The header and the body of an entity with header fields**, if there are no two line feeds
in a row. -/
theorem splitHeaderAndBody_text {fields : List Field} (hfields : fields ≠ []) {body : List Char}
    (hfeeds : ¬ ['\n', '\n'] <:+: headerText fields ++ (crlf ++ body)) :
    splitHeaderAndBody env (headerText fields ++ (crlf ++ body)) =
      (headersOf env fields, body) := by
  have hbreak : breakAt isBlankLine (headerText fields ++ (crlf ++ body)) =
      some (blockText fields, crlf ++ (crlf ++ body)) := by
    have hskips : Skips (blockText fields) (crlf ++ (crlf ++ body)) :=
      skips_block fields fun h => by cases h
    rw [headerText_eq hfields, List.append_assoc, hskips, breakAt_of_found]
    · simp
    · rw [isBlankLine_eq, lineBreak_crlf, Option.any_some, lineBreak_crlf]
      rfl
  have hnone : breakAt (startsWith "\n\n") (headerText fields ++ (crlf ++ body)) = none := by
    refine breakAt_of_not_found fun t ht => ?_
    rw [← Bool.not_eq_true, startsWith, List.isPrefixOf_iff_prefix]
    exact fun hpre => hfeeds (hpre.isInfix.trans ht.isInfix)
  rw [splitHeaderAndBody, hbreak]
  dsimp only
  rw [hnone, parseHeadersBlock_block hfields, dropUnits_crlf_crlf]

/-- An entity with neither header fields nor a body. -/
theorem splitHeaderAndBody_crlf : splitHeaderAndBody env crlf = ([], []) := rfl

end Blank

end MailRuntime
