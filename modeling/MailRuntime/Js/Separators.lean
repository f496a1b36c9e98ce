import MailRuntime.Js.Text

/-!
# Laws of matching

How the functions that walk along a text do so on a text that is put together: past a part
where nothing matches, over a match, from line to line and from separator to separator.
-/

namespace MailRuntime.Js

/-! ### Conditions on characters -/

/-- A condition on the characters of a text is decided by the text. -/
@[reducible] def decidableCharacters (l : List Char) (p : Char → Prop) [DecidablePred p] :
    Decidable (∀ c ∈ l, p c) :=
  List.decidableBAll p l

/-- A condition on a character that there may be. -/
@[reducible] def decidableCharacter (o : Option Char) (p : Char → Prop) [DecidablePred p] :
    Decidable (∀ c, o = some c → p c) :=
  Option.decidableForallMem o

/-! ### Replacing -/

section Replace

variable {find : List Char → Option (List Char × List Char)}

/-- What matches takes something off the text. -/
def Consumes (find : List Char → Option (List Char × List Char)) : Prop :=
  ∀ l replacement rest, find l = some (replacement, rest) → rest.length < l.length

theorem replaceFrom_eq (hfind : Consumes find) {n m : Nat} {l : List Char} (hn : l.length ≤ n)
    (hm : l.length ≤ m) : replaceFrom find n l = replaceFrom find m l := by
  induction n generalizing m l with
  | zero =>
    obtain rfl := List.length_eq_zero_iff.1 (Nat.le_zero.1 hn)
    cases m <;> rfl
  | succ n ih =>
    cases l with
    | nil => cases m <;> rfl
    | cons c rest =>
      obtain ⟨m, rfl⟩ := Nat.exists_eq_add_of_lt (Nat.lt_of_lt_of_le (Nat.succ_pos _) hm)
      simp only [List.length_cons, Nat.zero_add] at hn hm ⊢
      rw [replaceFrom, replaceFrom]
      split
      · next hmatch =>
        have := hfind _ _ _ hmatch
        rw [List.length_cons] at this
        rw [@ih m _ (by omega) (by omega)]
      · rw [@ih m rest (by omega) (by omega)]

theorem replaceAll_cons_of_none (c : Char) (rest : List Char) (h : find (c :: rest) = none) :
    replaceAll find (c :: rest) = c :: replaceAll find rest := by
  rw [replaceAll, List.length_cons, replaceFrom, h]
  rfl

theorem replaceAll_of_match (hfind : Consumes find) {l replacement rest : List Char}
    (h : find l = some (replacement, rest)) :
    replaceAll find l = replacement ++ replaceAll find rest := by
  have hlt := hfind _ _ _ h
  cases l with
  | nil => exact absurd hlt (Nat.not_lt_zero _)
  | cons c tail =>
    rw [List.length_cons] at hlt
    rw [replaceAll, List.length_cons, replaceFrom, h]
    exact congrArg (replacement ++ ·) (replaceFrom_eq hfind (by omega) (Nat.le_refl _))

/-- Where no match begins, the text stays. -/
theorem replaceAll_append {l rest : List Char}
    (h : ∀ t, t ≠ [] → t <:+ l → find (t ++ rest) = none) :
    replaceAll find (l ++ rest) = l ++ replaceAll find rest := by
  induction l with
  | nil => rfl
  | cons c l ih =>
    have hhead := h _ (List.cons_ne_nil c l) List.suffix_rfl
    rw [List.cons_append] at hhead
    rw [List.cons_append, replaceAll_cons_of_none c _ hhead,
      ih fun t ht hsuffix => h t ht (hsuffix.trans (List.suffix_cons c l))]
    rfl

end Replace

/-! ### Finding -/

theorem firstMatch_cons {α : Type} (find : List Char → Option α) (c : Char) (rest : List Char) :
    firstMatch find (c :: rest) = (find (c :: rest)).or (firstMatch find rest) := by
  rw [firstMatch, List.tails, List.findSome?_cons]
  cases find (c :: rest) <;> rfl

/-- The first match is not before a text where none begins. -/
theorem firstMatch_append {α : Type} {find : List Char → Option α} {l rest : List Char}
    (h : ∀ t, t ≠ [] → t <:+ l → find (t ++ rest) = none) :
    firstMatch find (l ++ rest) = firstMatch find rest := by
  induction l with
  | nil => rfl
  | cons c l ih =>
    have hrest := ih fun t ht hsuffix => h t ht (hsuffix.trans (List.suffix_cons c l))
    have hhead := h _ (List.cons_ne_nil c l) List.suffix_rfl
    rw [List.cons_append] at hhead
    rw [List.cons_append, firstMatch_cons, hhead, hrest]
    rfl

theorem firstMatch_of_head {α : Type} {find : List Char → Option α} {l : List Char} {a : α}
    (h : find l = some a) : firstMatch find l = some a := by
  cases l with
  | nil => rw [firstMatch, List.tails, List.findSome?_cons, h]
  | cons c rest => rw [firstMatch_cons, h, Option.some_or]

section Break

variable {found : List Char → Bool}

theorem breakAt_of_found {l : List Char} (h : found l = true) : breakAt found l = some ([], l) := by
  cases l with
  | nil => rw [breakAt, if_pos h]
  | cons c rest => rw [breakAt, if_pos h]

/-- The text is not broken where nothing is found. -/
theorem breakAt_append {l rest : List Char}
    (h : ∀ t, t ≠ [] → t <:+ l → found (t ++ rest) = false) :
    breakAt found (l ++ rest) = (breakAt found rest).map fun (before, tail) => (l ++ before, tail) := by
  induction l with
  | nil => cases h : breakAt found rest <;> simp [h]
  | cons c l ih =>
    have hhead := h _ (List.cons_ne_nil c l) List.suffix_rfl
    rw [List.cons_append] at hhead
    rw [List.cons_append, breakAt, hhead, if_neg Bool.false_ne_true,
      ih fun t ht hsuffix => h t ht (hsuffix.trans (List.suffix_cons c l)), Option.map_map]
    rfl

theorem breakAt_of_not_found {l : List Char} (h : ∀ t, t <:+ l → found t = false) :
    breakAt found l = none := by
  induction l with
  | nil => rw [breakAt, h _ List.suffix_rfl, if_neg Bool.false_ne_true]
  | cons c l ih =>
    rw [breakAt, h _ List.suffix_rfl, if_neg Bool.false_ne_true,
      ih fun t hsuffix => h t (hsuffix.trans (List.suffix_cons c l))]
    rfl

/-- A text is broken where something is found for the first time. -/
theorem breakAt_eq_some {l before tail : List Char}
    (h : breakAt found l = some (before, tail)) :
    l = before ++ tail ∧ found tail = true ∧
      ∀ t, t ≠ [] → t <:+ before → found (t ++ tail) = false := by
  induction l generalizing before with
  | nil =>
    rw [breakAt] at h
    split at h
    · next hfound =>
      cases h
      exact ⟨rfl, hfound, fun t ht hsuffix => absurd (List.suffix_nil.1 hsuffix) ht⟩
    · cases h
  | cons c rest ih =>
    rw [breakAt] at h
    split at h
    · next hfound =>
      cases h
      exact ⟨rfl, hfound, fun t ht hsuffix => absurd (List.suffix_nil.1 hsuffix) ht⟩
    · next hfound =>
      obtain ⟨⟨first, last⟩, hrest, heq⟩ := Option.map_eq_some_iff.1 h
      cases heq
      obtain ⟨rfl, htail, hearliest⟩ := ih hrest
      refine ⟨rfl, htail, fun t ht hsuffix => ?_⟩
      rw [List.suffix_cons_iff] at hsuffix
      obtain rfl | hsuffix := hsuffix
      · exact Bool.eq_false_iff.2 hfound
      · exact hearliest t ht hsuffix

/-- Nothing is found anywhere in a text that is not broken. -/
theorem breakAt_eq_none {l : List Char} (h : breakAt found l = none) :
    ∀ t, t <:+ l → found t = false := by
  induction l with
  | nil =>
    intro t ht
    rw [breakAt] at h
    rw [List.suffix_nil.1 ht]
    split at h
    · cases h
    · next hfound => exact Bool.eq_false_iff.2 hfound
  | cons c rest ih =>
    intro t ht
    rw [breakAt] at h
    split at h
    · cases h
    · next hfound =>
      obtain rfl | ht := List.suffix_cons_iff.1 ht
      · exact Bool.eq_false_iff.2 hfound
      · exact ih (Option.map_eq_none_iff.1 h) t ht

end Break

/-! ### Lines -/

/-- A line break. -/
abbrev crlf : List Char := ['\r', '\n']

theorem splitLines_cons {c : Char} {rest : List Char} (hc : c ≠ '\n')
    (hcr : c = '\r' → rest.head? ≠ some '\n') :
    splitLines (c :: rest) = consHead c (splitLines rest) := by
  rw [splitLines]
  · rintro tail rfl rfl
    exact hcr rfl rfl
  · rintro rfl
    exact hc rfl

/-- A line that is the last. -/
theorem splitLines_of_not_mem {l : List Char} (h : '\n' ∉ l) : splitLines l = [l] := by
  induction l with
  | nil => rfl
  | cons c l ih =>
    rw [List.mem_cons, not_or] at h
    rw [splitLines_cons (Ne.symm h.1), ih h.2]
    · rfl
    · intro _ hhead
      exact h.2 (List.mem_of_head? hhead)

/-- A line before another. -/
theorem splitLines_append_crlf {l : List Char} (h : '\n' ∉ l) (rest : List Char) :
    splitLines (l ++ crlf ++ rest) = l :: splitLines rest := by
  induction l with
  | nil => rfl
  | cons c l ih =>
    rw [List.mem_cons, not_or] at h
    rw [List.cons_append, List.cons_append, splitLines_cons (Ne.symm h.1), ih h.2]
    · rfl
    · intro _ hhead
      cases l with
      | nil => cases hhead
      | cons d l =>
        obtain rfl := Option.some.inj hhead
        exact h.2 List.mem_cons_self

/-! ### Separators -/

section Split

variable {separator : List Char}

theorem splitFrom_eq (hseparator : separator ≠ []) {n m : Nat} {l : List Char} (hn : l.length ≤ n)
    (hm : l.length ≤ m) : splitFrom separator n l = splitFrom separator m l := by
  have hpos := List.length_pos_iff.2 hseparator
  induction n generalizing m l with
  | zero =>
    obtain rfl := List.length_eq_zero_iff.1 (Nat.le_zero.1 hn)
    cases m <;> rfl
  | succ n ih =>
    cases l with
    | nil => cases m <;> rfl
    | cons c rest =>
      obtain ⟨m, rfl⟩ := Nat.exists_eq_add_of_lt (Nat.lt_of_lt_of_le (Nat.succ_pos _) hm)
      simp only [List.length_cons, Nat.zero_add] at hn hm ⊢
      rw [splitFrom, splitFrom]
      split
      · rw [@ih m _ (by rw [List.length_drop, List.length_cons]; omega)
          (by rw [List.length_drop, List.length_cons]; omega)]
      · rw [@ih m rest (by omega) (by omega)]

theorem splitText_cons {c : Char} {rest : List Char} (h : ¬ separator <+: c :: rest) :
    splitText separator (c :: rest) = consHead c (splitText separator rest) := by
  rw [splitText, List.length_cons, splitFrom, if_neg (by rwa [List.isPrefixOf_iff_prefix])]
  rfl

/-- A separator at the head. -/
theorem splitText_separator (hseparator : separator ≠ []) (rest : List Char) :
    splitText separator (separator ++ rest) = [] :: splitText separator rest := by
  obtain ⟨c, tail, rfl⟩ := List.exists_cons_of_ne_nil hseparator
  have hpre : (c :: tail).isPrefixOf (c :: (tail ++ rest)) = true := by
    rw [List.isPrefixOf_iff_prefix]
    exact List.prefix_append (c :: tail) rest
  have hdrop : (c :: tail ++ rest).drop (c :: tail).length = rest := List.drop_left
  rw [List.cons_append] at hdrop
  rw [splitText, List.cons_append, List.length_cons, splitFrom, if_pos hpre, hdrop]
  exact congrArg ([] :: ·) (splitFrom_eq hseparator (by simp) (Nat.le_refl _))

theorem consHead_cons (c : Char) (part : List Char) (parts : List (List Char)) :
    consHead c (part :: parts) = (c :: part) :: parts := rfl

/-- A text up to the first separator. -/
theorem splitText_append (hseparator : separator ≠ []) {l rest : List Char}
    (h : ∀ t, t ≠ [] → t <:+ l → ¬ separator <+: t ++ (separator ++ rest)) :
    splitText separator (l ++ (separator ++ rest)) = l :: splitText separator rest := by
  induction l with
  | nil => exact splitText_separator hseparator rest
  | cons c l ih =>
    have hhead := h _ (List.cons_ne_nil c l) List.suffix_rfl
    rw [List.cons_append] at hhead
    rw [List.cons_append, splitText_cons hhead,
      ih fun t ht hsuffix => h t ht (hsuffix.trans (List.suffix_cons c l)), consHead_cons]

/-- A text without separators. -/
theorem splitText_of_not_infix {l : List Char} (h : ¬ separator <:+: l) :
    splitText separator l = [l] := by
  induction l with
  | nil => rfl
  | cons c l ih =>
    rw [splitText_cons fun hpre => h hpre.isInfix,
      ih fun hin => h (hin.trans (List.suffix_cons c l).isInfix)]
    rfl

/-- What does not contain a character is on one side of it. -/
theorem infix_append_cons {c : Char} (hc : c ∉ separator) {l l' : List Char}
    (h : separator <:+: l ++ c :: l') : separator <:+: l ∨ separator <:+: l' := by
  have hhead : ∀ k, separator <+: k ++ c :: l' → separator <+: k := by
    intro k hpre
    have hk : k ++ [c] <+: k ++ c :: l' := ⟨l', by simp⟩
    rcases List.prefix_or_prefix_of_prefix hpre hk with h | h
    · rcases List.prefix_concat_iff.1 h with rfl | h
      · exact absurd (List.mem_append_right k List.mem_cons_self) hc
      · exact h
    · exact absurd (h.subset (List.mem_append_right k List.mem_cons_self)) hc
  induction l with
  | nil =>
    rcases List.infix_cons_iff.1 h with h | h
    · have := hhead [] h
      exact .inl this.isInfix
    · exact .inr h
  | cons d l ih =>
    rw [List.cons_append] at h
    rcases List.infix_cons_iff.1 h with h | h
    · exact .inl (hhead (d :: l) h).isInfix
    · exact (ih h).imp_left fun h => h.trans (List.suffix_cons d l).isInfix

/-- A separator that is on one line does not begin on the line before. -/
theorem not_prefix_of_line_end {l t x : List Char} (hline : '\n' ∉ separator)
    (hend : l = [] ∨ l.getLast? = some '\n') (hin : ¬ separator <:+: l) (ht : t ≠ [])
    (hsuffix : t <:+ l) : ¬ separator <+: t ++ x := by
  intro hpre
  rcases List.prefix_or_prefix_of_prefix hpre (List.prefix_append t x) with h | h
  · exact hin (h.isInfix.trans hsuffix.isInfix)
  · have hlast : t.getLast? = some '\n' := by
      obtain ⟨u, rfl⟩ := hsuffix
      rcases hend with hnil | hend
      · exact absurd (List.append_eq_nil_iff.1 hnil).2 ht
      · rwa [List.getLast?_append_of_ne_nil _ ht] at hend
    exact hline (h.subset (List.mem_of_getLast? hlast))

end Split

end MailRuntime.Js
