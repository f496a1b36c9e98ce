import MailRuntime.Mail.Headers

/-!
# The body after the first blank line

The parser looks for the first blank line in one way, and for the place where the body starts in
another: after the first two line feeds in a row, which may stand further down, and else four units
after the blank line begins, though a blank line may be shorter. The headers are always those
before the first blank line. The body is what follows it only where the two ways agree.
-/

namespace MailRuntime

open Js

/-- A line end. -/
inductive LineEnd where
  | crlf
  | lf
deriving DecidableEq, Repr

/-- The characters of a line end. -/
def LineEnd.chars : LineEnd → List Char
  | .crlf => ['\r', '\n']
  | .lf => ['\n']

/-- A blank line: two line ends in a row. -/
def blankLine (first second : LineEnd) : List Char := first.chars ++ second.chars

/-- The first blank line of the text, with what stands before it and after it. -/
structure FirstBlankLine (raw before : List Char) (first second : LineEnd) (after : List Char) :
    Prop where
  text : raw = before ++ (blankLine first second ++ after)
  earliest : ∀ t, t ≠ [] → t <:+ before → ∀ a b,
    ¬ blankLine a b <+: t ++ (blankLine first second ++ after)

/-- The two ways of looking for the body agree: the blank line ends in two line feeds, or there are
no two line feeds in a row at all, and the blank line is four units long or nothing follows it. -/
def BodyFound (raw : List Char) (first second : LineEnd) (after : List Char) : Prop :=
  second = .lf ∨ (¬ ['\n', '\n'] <:+: raw ∧ (first = .crlf ∨ after = []))

/-! ### Blank lines -/

theorem lineBreak_chars (e : LineEnd) (rest : List Char) : lineBreak (e.chars ++ rest) = some rest := by
  cases e with
  | crlf => exact lineBreak_crlf rest
  | lf => exact lineBreak_lf rest

theorem chars_of_lineBreak {l rest : List Char} (h : lineBreak l = some rest) :
    ∃ e : LineEnd, l = e.chars ++ rest := by
  unfold lineBreak at h
  obtain h | ⟨-, h⟩ := Option.or_eq_some_iff.1 h
  · refine ⟨.crlf, ?_⟩
    unfold after startsWith at h
    split at h
    · next hprefix =>
      obtain ⟨tail, rfl⟩ := List.isPrefixOf_iff_prefix.1 hprefix
      obtain rfl := Option.some.inj h
      rfl
    · cases h
  · refine ⟨.lf, ?_⟩
    unfold after startsWith at h
    split at h
    · next hprefix =>
      obtain ⟨tail, rfl⟩ := List.isPrefixOf_iff_prefix.1 hprefix
      obtain rfl := Option.some.inj h
      rfl
    · cases h

/-- The regular expression matches where a blank line stands. -/
theorem isBlankLine_iff (l : List Char) :
    isBlankLine l = true ↔ ∃ a b, blankLine a b <+: l := by
  rw [isBlankLine_eq]
  constructor
  · intro h
    obtain ⟨rest, hrest, hsome⟩ := (Option.any_eq_true _ _).1 h
    obtain ⟨tail, htail⟩ := Option.isSome_iff_exists.1 hsome
    obtain ⟨a, rfl⟩ := chars_of_lineBreak hrest
    obtain ⟨b, rfl⟩ := chars_of_lineBreak htail
    exact ⟨a, b, tail, List.append_assoc _ _ _⟩
  · rintro ⟨a, b, tail, rfl⟩
    rw [blankLine, List.append_assoc, lineBreak_chars, Option.any_some, lineBreak_chars]
    rfl

theorem FirstBlankLine.breakAt {raw before after : List Char} {first second : LineEnd}
    (h : FirstBlankLine raw before first second after) :
    Js.breakAt isBlankLine raw = some (before, blankLine first second ++ after) := by
  rw [h.text, breakAt_append, breakAt_of_found]
  · simp
  · rw [isBlankLine_iff]
    exact ⟨first, second, List.prefix_append _ _⟩
  · intro t ht hsuffix
    rw [Bool.eq_false_iff, Ne, isBlankLine_iff]
    rintro ⟨a, b, hprefix⟩
    exact h.earliest t ht hsuffix a b hprefix

/-- Where the parser finds a blank line, it is the first one. -/
theorem firstBlankLine_of_breakAt {raw before after : List Char} {first second : LineEnd}
    (h : breakAt isBlankLine raw = some (before, blankLine first second ++ after)) :
    FirstBlankLine raw before first second after := by
  obtain ⟨hraw, -, hearliest⟩ := breakAt_eq_some h
  refine ⟨hraw, fun t ht hsuffix a b hprefix => ?_⟩
  have hnot := hearliest t ht hsuffix
  rw [Bool.eq_false_iff, Ne, isBlankLine_iff] at hnot
  exact hnot ⟨a, b, hprefix⟩

/-- A text with a blank line has a first one. -/
theorem exists_firstBlankLine {raw : List Char} (h : ∃ a b, blankLine a b <:+: raw) :
    ∃ before first second after, FirstBlankLine raw before first second after := by
  cases hbreak : breakAt isBlankLine raw with
  | none =>
    obtain ⟨a, b, x, y, rfl⟩ := h
    have hnot := breakAt_eq_none hbreak (blankLine a b ++ y)
      ⟨x, (List.append_assoc _ _ _).symm⟩
    rw [Bool.eq_false_iff, Ne, isBlankLine_iff] at hnot
    exact absurd ⟨a, b, List.prefix_append _ _⟩ hnot
  | some p =>
    obtain ⟨before, tail⟩ := p
    obtain ⟨-, htail, -⟩ := breakAt_eq_some hbreak
    obtain ⟨a, b, rest, rfl⟩ := (isBlankLine_iff tail).1 htail
    exact ⟨before, a, b, rest, firstBlankLine_of_breakAt hbreak⟩

/-! ### Two line feeds in a row -/

theorem startsWith_feeds (l : List Char) : startsWith "\n\n" l = true ↔ ['\n', '\n'] <+: l := by
  unfold startsWith
  exact List.isPrefixOf_iff_prefix

/-- Two line feeds in a row are a blank line, so there are none before the first one. -/
theorem FirstBlankLine.no_feeds {raw before after : List Char} {first second : LineEnd}
    (h : FirstBlankLine raw before first second after) {t : List Char} (ht : t ≠ [])
    (hsuffix : t <:+ before) :
    startsWith "\n\n" (t ++ (blankLine first second ++ after)) = false := by
  rw [Bool.eq_false_iff, Ne, startsWith_feeds]
  exact h.earliest t ht hsuffix .lf .lf

/-- If the blank line ends in two line feeds, they are the first two. -/
theorem FirstBlankLine.feeds {raw before after : List Char} {first : LineEnd}
    (h : FirstBlankLine raw before first .lf after) :
    ∃ x, Js.breakAt (startsWith "\n\n") raw = some (x, '\n' :: '\n' :: after) := by
  have hrest : ∃ x, Js.breakAt (startsWith "\n\n") (blankLine first .lf ++ after) =
      some (x, '\n' :: '\n' :: after) := by
    cases first with
    | crlf => exact ⟨['\r'], rfl⟩
    | lf => exact ⟨[], rfl⟩
  obtain ⟨x, hx⟩ := hrest
  refine ⟨before ++ x, ?_⟩
  rw [h.text, breakAt_append fun t ht hsuffix => h.no_feeds ht hsuffix, hx]
  rfl

/-- A text is what is left of it without one of its units only if it is empty. -/
theorem dropUnits_one_eq (l : List Char) : dropUnits 1 l = l ↔ l = [] := by
  cases l with
  | nil => simp [dropUnits]
  | cons c rest =>
    refine iff_of_false ?_ (List.cons_ne_nil c rest)
    intro h
    rw [dropUnits, if_neg Nat.one_ne_zero] at h
    split at h
    · next hone =>
      have hpos : (units c).length = 1 := by
        unfold units at hone ⊢
        split
        · rfl
        · next hlarge =>
          rw [if_neg hlarge] at hone
          exact absurd hone (by simp)
      rw [hpos] at h
      have hlength := congrArg List.length h
      have hzero : dropUnits (1 - 1) rest = rest := by
        cases rest <;> rfl
      rw [hzero, List.length_cons] at hlength
      omega
    · next hlong =>
      obtain ⟨rfl, -⟩ := List.cons.inj h
      exact hlong (by decide)

/-- The body is what follows the blank line just where the two ways of looking for it agree. -/
theorem FirstBlankLine.body_iff {env : Env} {raw before after : List Char} {first second : LineEnd}
    (h : FirstBlankLine raw before first second after) :
    (splitHeaderAndBody env raw).2 = after ↔ BodyFound raw first second after := by
  unfold splitHeaderAndBody BodyFound
  rw [h.breakAt]
  dsimp only
  cases second with
  | lf =>
    obtain ⟨x, hx⟩ := h.feeds
    rw [hx]
    simp
  | crlf =>
    have hfeeds : (LineEnd.crlf = .lf) = False := by simp
    rw [hfeeds, false_or]
    cases hbreak : Js.breakAt (startsWith "\n\n") raw with
    | some p =>
      -- the two line feeds do not end where the blank line does
      obtain ⟨x, tail⟩ := p
      obtain ⟨hraw, htail, -⟩ := breakAt_eq_some hbreak
      obtain ⟨body, rfl⟩ := (startsWith_feeds tail).1 htail
      have hinfix : ['\n', '\n'] <:+: raw := ⟨x, body, by rw [hraw, List.append_assoc]⟩
      refine iff_of_false ?_ fun hfound => hfound.1 hinfix
      intro hbody
      obtain rfl : body = after := hbody
      have htext := h.text
      rw [hraw, ← List.append_assoc, ← List.append_assoc, List.append_left_inj] at htext
      have hreverse := congrArg List.reverse htext
      cases first <;> simp [blankLine, LineEnd.chars] at hreverse
    | none =>
      have hnone : ¬ ['\n', '\n'] <:+: raw := by
        rintro ⟨x, y, hraw⟩
        have hnot := breakAt_eq_none hbreak (['\n', '\n'] ++ y)
          ⟨x, by rw [← hraw, List.append_assoc]⟩
        rw [Bool.eq_false_iff, Ne, startsWith_feeds] at hnot
        exact hnot (List.prefix_append _ _)
      dsimp only
      rw [and_iff_right hnone]
      cases first with
      | crlf => exact iff_of_true (dropUnits_crlf_crlf after) (.inl rfl)
      | lf =>
        have hdrop : dropUnits 4 (blankLine .lf .crlf ++ after) = dropUnits 1 after := rfl
        rw [hdrop, dropUnits_one_eq]
        simp

/-- **The body after the first blank line.** A text with a blank line has a first one; the headers
are the fields of what stands before it; and the body is exactly what stands after it if and only
if the blank line ends in two line feeds, or there are no two line feeds in a row anywhere in the
text and the blank line is two times a carriage return and a line feed, or the last thing in it. -/
theorem split_at_first_blank_line_iff (env : Env) (raw : List Char) :
    ((∃ a b, blankLine a b <:+: raw) →
      ∃ before first second after, FirstBlankLine raw before first second after) ∧
    ∀ before first second after, FirstBlankLine raw before first second after →
      (splitHeaderAndBody env raw).1 = parseHeadersBlock env before ∧
      (splitHeaderAndBody env raw = (parseHeadersBlock env before, after) ↔
        BodyFound raw first second after) := by
  refine ⟨exists_firstBlankLine, ?_⟩
  intro before first second after h
  have hheaders : (splitHeaderAndBody env raw).1 = parseHeadersBlock env before := by
    unfold splitHeaderAndBody
    rw [h.breakAt]
  refine ⟨hheaders, ?_⟩
  rw [Prod.ext_iff]
  exact (and_iff_right hheaders).trans h.body_iff

/-- A body of two paragraphs, of which the first is lost. -/
theorem first_paragraph_lost :
    ¬ ∀ raw before first second after, FirstBlankLine raw before first second after →
      splitHeaderAndBody Env.bare raw = (parseHeadersBlock Env.bare before, after) := by
  intro h
  have hfirst : FirstBlankLine "a:1\r\n\r\none\n\ntwo".toList "a:1".toList .crlf .crlf
      "one\n\ntwo".toList := firstBlankLine_of_breakAt rfl
  have hsplit := congrArg Prod.snd (h _ _ _ _ _ hfirst)
  revert hsplit
  decide +kernel

end MailRuntime
