import MailRuntime.Inbound.Redelivery

/-!
# Subjects and reply marks

Threads are found by the subject without the reply and forward marks at its head. The marks are
taken off before the white space around the subject is, so a mark that stands behind white space
is not at the head yet when marks are looked for, and is at the head of what comes out. Where no
mark stands behind white space, in the subject or in what is put before it, one time is enough,
and the marks make no difference.
-/

namespace MailRuntime

open Js

/-- The marks, in small letters. -/
def replyMarks : List (List Char) := ["re:".toList, "fwd:".toList, "fw:".toList]

/-- Marks in any letter case, with white space around them. -/
inductive MarkPrefix : List Char → Prop where
  /-- No mark. -/
  | nil : MarkPrefix []
  /-- A mark before others. -/
  | mark {before mark tail rest : List Char} (hbefore : ∀ c ∈ before, isSpace c = true)
      (hmark : mark.map Char.toLower ∈ replyMarks) (htail : ∀ c ∈ tail, isSpace c = true)
      (hrest : MarkPrefix rest) : MarkPrefix (before ++ (mark ++ (tail ++ rest)))

/-- The text begins with a mark. -/
def Marked (l : List Char) : Prop := (replyMark l).isSome = true

/-- The text begins with white space, and a mark stands behind it. -/
def MarkedLater (l : List Char) : Prop :=
  l.head?.any isSpace = true ∧ Marked (l.dropWhile isSpace)

instance (l : List Char) : Decidable (MarkedLater l) := by
  unfold MarkedLater Marked
  infer_instance

/-- What one character turns into in lower case. -/
def LowersTo (c : Char) (piece : List Char) : Prop :=
  if c.toNat < 128 then piece = [c.toLower]
  else piece ≠ [] ∧ ∀ d ∈ piece, ∀ mark ∈ replyMarks, d.toLower ∉ mark

/-- `toLowerCase` lowers character by character. An ASCII letter turns into its small form, other
ASCII stays, and nothing else turns into a letter or the colon of a mark. -/
def LowersByCharacter (env : Env) : Prop :=
  ∀ s : String, ∃ pieces, List.Forall₂ LowersTo s.toList pieces ∧
    (env.toLowerCase s).toList = pieces.flatten

/-! ### One mark -/

theorem afterIgnoringCase_eq_some {part : String} {l rest : List Char} :
    afterIgnoringCase part l = some rest ↔
      ∃ mark, l = mark ++ rest ∧ mark.map Char.toLower = part.toList := by
  unfold afterIgnoringCase
  constructor
  · intro h
    split at h
    · next htake =>
      obtain rfl := Option.some.inj h
      exact ⟨l.take part.length, (List.take_append_drop _ _).symm, htake⟩
    · cases h
  · rintro ⟨mark, rfl, hmark⟩
    have hlength : part.length = mark.length := by
      rw [← String.length_toList, ← hmark, List.length_map]
    rw [hlength, List.take_left, if_pos hmark, List.drop_left]

/-- No mark is the beginning of another. -/
theorem mark_unique {mark mark' tail tail' : List Char} (hmark : mark.map Char.toLower ∈ replyMarks)
    (hmark' : mark'.map Char.toLower ∈ replyMarks) (h : mark ++ tail = mark' ++ tail') :
    mark = mark' ∧ tail = tail' := by
  have hfree : ∀ m ∈ replyMarks, ∀ m' ∈ replyMarks, m <+: m' ∨ m' <+: m → m.length = m'.length := by
    decide
  have hwhich : mark <+: mark' ∨ mark' <+: mark :=
    List.prefix_or_prefix_of_prefix (h ▸ List.prefix_append mark tail) (List.prefix_append mark' tail')
  have hlength := hfree _ hmark _ hmark'
    (hwhich.imp (fun h => h.map Char.toLower) fun h => h.map Char.toLower)
  rw [List.length_map, List.length_map] at hlength
  exact List.append_inj h hlength

/-- A mark at the head, and what is left of the text without it and the white space behind it. -/
theorem replyMark_eq_some {l rest : List Char} :
    replyMark l = some rest ↔ ∃ mark tail, l = mark ++ tail ∧
      mark.map Char.toLower ∈ replyMarks ∧ rest = tail.dropWhile isSpace := by
  have hsound : ∀ rest', replyMark l = some rest' → ∃ mark tail, l = mark ++ tail ∧
      mark.map Char.toLower ∈ replyMarks ∧ rest' = tail.dropWhile isSpace := by
    intro rest' h
    obtain ⟨tail, htail, hrest⟩ := Option.bind_eq_some_iff.1 h
    obtain rfl := Option.some.inj hrest
    obtain h | ⟨-, h⟩ := Option.or_eq_some_iff.1 htail
    · obtain ⟨mark, rfl, hmark⟩ := afterIgnoringCase_eq_some.1 h
      exact ⟨mark, tail, rfl, by simp [hmark, replyMarks], rfl⟩
    · obtain h | ⟨-, h⟩ := Option.or_eq_some_iff.1 h
      · obtain ⟨mark, rfl, hmark⟩ := afterIgnoringCase_eq_some.1 h
        exact ⟨mark, tail, rfl, by simp [hmark, replyMarks], rfl⟩
      · obtain ⟨mark, rfl, hmark⟩ := afterIgnoringCase_eq_some.1 h
        exact ⟨mark, tail, rfl, by simp [hmark, replyMarks], rfl⟩
  constructor
  · exact hsound rest
  · rintro ⟨mark, tail, rfl, hmark, rfl⟩
    have hsome : (replyMark (mark ++ tail)).isSome = true := by
      unfold replyMark
      have hone : ∀ part : String, mark.map Char.toLower = part.toList →
          afterIgnoringCase part (mark ++ tail) = some tail := fun part h =>
        afterIgnoringCase_eq_some.2 ⟨mark, rfl, h⟩
      simp only [replyMarks, List.mem_cons, List.not_mem_nil, or_false] at hmark
      obtain h | h | h := hmark
      · simp [hone _ h]
      · cases afterIgnoringCase "re:" (mark ++ tail) <;> simp [hone _ h]
      · cases afterIgnoringCase "re:" (mark ++ tail) <;>
          cases afterIgnoringCase "fwd:" (mark ++ tail) <;> simp [hone _ h]
    obtain ⟨rest', hrest'⟩ := Option.isSome_iff_exists.1 hsome
    obtain ⟨mark', tail', heq, hmark', rfl⟩ := hsound rest' hrest'
    obtain ⟨-, rfl⟩ := mark_unique hmark hmark' heq
    exact hrest'

theorem marked_iff {l : List Char} :
    Marked l ↔ ∃ mark tail, l = mark ++ tail ∧ mark.map Char.toLower ∈ replyMarks := by
  unfold Marked
  rw [Option.isSome_iff_exists]
  constructor
  · rintro ⟨rest, h⟩
    obtain ⟨mark, tail, hl, hmark, -⟩ := replyMark_eq_some.1 h
    exact ⟨mark, tail, hl, hmark⟩
  · rintro ⟨mark, tail, hl, hmark⟩
    exact ⟨_, replyMark_eq_some.2 ⟨mark, tail, hl, hmark, rfl⟩⟩

/-- The marks are ASCII. -/
theorem toNat_lt_of_mark {mark : List Char} (h : mark ∈ replyMarks) {c : Char} (hc : c ∈ mark) :
    c.toNat < 128 := by
  have hmarks : ∀ m ∈ replyMarks, m.all (fun d => d.toNat < 128) = true := by decide
  exact of_decide_eq_true (List.all_eq_true.1 (hmarks mark h) c hc)

/-- There is no white space in a mark, and something in it. -/
theorem isSpace_mark {mark : List Char} (h : mark.map Char.toLower ∈ replyMarks) :
    mark ≠ [] ∧ ∀ c ∈ mark, isSpace c = false := by
  have hmarks : ∀ m ∈ replyMarks, m ≠ [] ∧ m.all (fun c => !isSpace c) = true := by decide
  obtain ⟨hne, hspace⟩ := hmarks _ h
  constructor
  · rintro rfl
    exact hne rfl
  · intro c hc
    rw [← isSpace_toLower]
    simpa using List.all_eq_true.1 hspace _ (List.mem_map_of_mem hc)

theorem dropWhile_mark {mark : List Char} (h : mark.map Char.toLower ∈ replyMarks)
    (tail : List Char) : (mark ++ tail).dropWhile isSpace = mark ++ tail := by
  obtain ⟨hne, hspace⟩ := isSpace_mark h
  cases mark with
  | nil => exact absurd rfl hne
  | cons c mark =>
    rw [List.cons_append, List.dropWhile_cons_of_neg]
    simp [hspace c List.mem_cons_self]

theorem Marked.dropWhile_eq {l : List Char} (h : Marked l) : l.dropWhile isSpace = l := by
  obtain ⟨mark, tail, rfl, hmark⟩ := marked_iff.1 h
  exact dropWhile_mark hmark tail

/-! ### All marks -/

/-- The text without the marks at its head. -/
def dropMarks (l : List Char) : List Char := dropReplyMarks l.length l

theorem length_of_replyMark {l rest : List Char} (h : replyMark l = some rest) :
    rest.length < l.length := by
  obtain ⟨mark, tail, rfl, hmark, rfl⟩ := replyMark_eq_some.1 h
  have hpos := List.length_pos_iff.2 (isSpace_mark hmark).1
  have hle := (List.dropWhile_sublist (l := tail) isSpace).length_le
  rw [List.length_append]
  omega

theorem dropReplyMarks_of_le {n : Nat} {l : List Char} (h : l.length ≤ n) :
    dropReplyMarks n l = dropMarks l := by
  have hall : ∀ n m : Nat, ∀ l : List Char, l.length ≤ n → l.length ≤ m →
      dropReplyMarks n l = dropReplyMarks m l := by
    intro n
    induction n with
    | zero =>
      intro m l hn hm
      obtain rfl := List.length_eq_zero_iff.1 (Nat.le_zero.1 hn)
      cases m <;> rfl
    | succ n ih =>
      intro m l hn hm
      cases m with
      | zero =>
        obtain rfl := List.length_eq_zero_iff.1 (Nat.le_zero.1 hm)
        rfl
      | succ m =>
        rw [dropReplyMarks, dropReplyMarks]
        cases hrest : replyMark l with
        | none => rfl
        | some rest =>
          have hlt := length_of_replyMark hrest
          exact ih m rest (by omega) (by omega)
  exact hall n l.length l h (Nat.le_refl _)

theorem dropMarks_of_some {l rest : List Char} (h : replyMark l = some rest) :
    dropMarks l = dropMarks rest := by
  have hlt := length_of_replyMark h
  rw [← dropReplyMarks_of_le (Nat.le_succ l.length), dropReplyMarks, h]
  exact dropReplyMarks_of_le (Nat.le_of_lt hlt)

theorem dropMarks_of_not {l : List Char} (h : ¬ Marked l) : dropMarks l = l := by
  have hnone := Option.not_isSome_iff_eq_none.1 h
  rw [← dropReplyMarks_of_le (Nat.le_succ l.length), dropReplyMarks, hnone]

/-- A mark is taken off, with the white space behind it. -/
theorem dropMarks_append {mark : List Char} (h : mark.map Char.toLower ∈ replyMarks)
    (tail : List Char) : dropMarks (mark ++ tail) = dropMarks (tail.dropWhile isSpace) :=
  dropMarks_of_some (replyMark_eq_some.2 ⟨mark, tail, rfl, h, rfl⟩)

/-- No mark is left, nor white space behind the last. The induction is on the length. -/
theorem dropMarks_spec (l : List Char) : ¬ Marked (dropMarks l) ∧
    (Marked l → (dropMarks l).dropWhile isSpace = dropMarks l) := by
  obtain ⟨n, hn⟩ : ∃ n, l.length ≤ n := ⟨_, Nat.le_refl _⟩
  induction n generalizing l with
  | zero =>
    obtain rfl := List.length_eq_zero_iff.1 (Nat.le_zero.1 hn)
    have hnil : ¬ Marked [] := by
      unfold Marked
      decide
    exact ⟨hnil, fun h => absurd h hnil⟩
  | succ n ih =>
    by_cases h : Marked l
    · obtain ⟨rest, hrest⟩ := Option.isSome_iff_exists.1 h
      have hlt := length_of_replyMark hrest
      obtain ⟨hnot, hspace⟩ := ih rest (by omega)
      rw [dropMarks_of_some hrest]
      refine ⟨hnot, fun _ => ?_⟩
      by_cases hmarked : Marked rest
      · exact hspace hmarked
      · obtain ⟨mark, tail, -, -, rfl⟩ := replyMark_eq_some.1 hrest
        rw [dropMarks_of_not hmarked, List.dropWhile_idempotent]
    · rw [dropMarks_of_not h]
      exact ⟨h, fun hmarked => absurd hmarked h⟩

/-- The marks before a text are taken off, with the white space around them. -/
theorem dropMarks_prefix {marks : List Char} (h : MarkPrefix marks) (l : List Char) :
    dropMarks ((marks ++ l).dropWhile isSpace) = dropMarks (l.dropWhile isSpace) := by
  induction h with
  | nil => rfl
  | @mark before mark tail rest hbefore hmark htail _ ih =>
    have hskip : ∀ (space after : List Char), (∀ c ∈ space, isSpace c = true) →
        (space ++ after).dropWhile isSpace = after.dropWhile isSpace := by
      intro space after hspace
      rw [List.dropWhile_append_of_pos hspace]
    simp only [List.append_assoc]
    rw [hskip _ _ hbefore, dropWhile_mark hmark, dropMarks_append hmark, hskip _ _ htail, ih]

/-! ### Marks and white space -/

/-- Taking white space off the end of a text makes no mark and takes none. -/
theorem marked_rdropWhile (l : List Char) : Marked (l.rdropWhile isSpace) ↔ Marked l := by
  rw [marked_iff, marked_iff]
  constructor
  · rintro ⟨mark, tail, h, hmark⟩
    obtain ⟨space, hspace⟩ := List.rdropWhile_prefix isSpace l
    refine ⟨mark, tail ++ space, ?_, hmark⟩
    rw [← hspace, h, List.append_assoc]
  · rintro ⟨mark, tail, rfl, hmark⟩
    obtain ⟨hne, hspace⟩ := isSpace_mark hmark
    refine ⟨mark, tail.rdropWhile isSpace, ?_, hmark⟩
    have hkept : mark.reverse.dropWhile isSpace = mark.reverse := by
      rw [List.dropWhile_eq_self_iff]
      intro hpos
      have hlast := hspace _ (List.mem_reverse.1 (List.getElem_mem hpos))
      rw [hlast]
      exact Bool.false_ne_true
    unfold List.rdropWhile
    rw [List.reverse_append, List.dropWhile_append, hkept]
    split
    · next hempty => simp [List.isEmpty_iff.1 hempty]
    · simp

/-- What is left of a subject after trimming begins with a mark just if one stood behind white
space. -/
theorem marked_trimChars_dropMarks (l : List Char) :
    Marked (trimChars (dropMarks l)) ↔ MarkedLater l := by
  rw [trimChars_eq, marked_rdropWhile]
  obtain ⟨hnot, hspace⟩ := dropMarks_spec l
  by_cases h : Marked l
  · rw [hspace h]
    refine iff_of_false hnot ?_
    rintro ⟨hhead, -⟩
    obtain ⟨mark, tail, rfl, hmark⟩ := marked_iff.1 h
    obtain ⟨hne, hmarkSpace⟩ := isSpace_mark hmark
    cases mark with
    | nil => exact hne rfl
    | cons c mark =>
      have hc := hmarkSpace c List.mem_cons_self
      simp [hc] at hhead
  · rw [dropMarks_of_not h]
    unfold MarkedLater
    constructor
    · intro hlater
      refine ⟨?_, hlater⟩
      cases l with
      | nil => exact hlater
      | cons c rest =>
        by_contra hc
        rw [List.dropWhile_cons_of_neg (by simpa using hc)] at hlater
        exact h hlater
    · rintro ⟨-, hlater⟩
      exact hlater

/-! ### Marks in lower case -/

/-- A text begins with a word of the characters of marks just if it does after lowering. The
induction is on the text: an ASCII character stays where it is, and any other is the end of it. -/
theorem take_flatten {l : List Char} {pieces : List (List Char)}
    (h : List.Forall₂ LowersTo l pieces) {word : List Char}
    (hword : ∀ c ∈ word, ∃ mark ∈ replyMarks, c ∈ mark) :
    (pieces.flatten.take word.length).map Char.toLower = word ↔
      (l.take word.length).map Char.toLower = word := by
  induction h generalizing word with
  | nil => rfl
  | @cons c piece l pieces hpiece _ ih =>
    cases word with
    | nil => simp
    | cons d word =>
      have hrest := ih fun x hx => hword x (List.mem_cons_of_mem _ hx)
      obtain ⟨mark, hmark, hd⟩ := hword d List.mem_cons_self
      unfold LowersTo at hpiece
      split at hpiece
      · subst hpiece
        simp only [List.flatten_cons, List.cons_append, List.nil_append, List.length_cons,
          List.take_succ_cons, List.map_cons, toLower_toLower, List.cons.injEq, hrest]
      · next hlarge =>
        obtain ⟨hne, hpiece⟩ := hpiece
        have hc : c.toLower = c := by
          obtain ⟨h, -⟩ | ⟨-, h, -⟩ := toLower_cases c
          · exact h
          · omega
        cases piece with
        | nil => exact absurd rfl hne
        | cons e piece =>
          simp only [List.flatten_cons, List.cons_append, List.length_cons, List.take_succ_cons,
            List.map_cons, List.cons.injEq, hc]
          constructor
          · rintro ⟨rfl, -⟩
            exact absurd hd (hpiece e List.mem_cons_self mark hmark)
          · rintro ⟨rfl, -⟩
            exact absurd (toNat_lt_of_mark hmark hd) hlarge

theorem marked_iff_take {l : List Char} :
    Marked l ↔ ∃ mark ∈ replyMarks, (l.take mark.length).map Char.toLower = mark := by
  rw [marked_iff]
  constructor
  · rintro ⟨mark, tail, rfl, hmark⟩
    exact ⟨_, hmark, by rw [List.length_map, List.take_left]⟩
  · rintro ⟨mark, hmark, htake⟩
    exact ⟨_, _, (List.take_append_drop _ _).symm, htake ▸ hmark⟩

theorem marked_toLowerCase {env : Env} (hlower : LowersByCharacter env) (s : String) :
    Marked (env.toLowerCase s).toList ↔ Marked s.toList := by
  obtain ⟨pieces, hpieces, htext⟩ := hlower s
  rw [htext, marked_iff_take, marked_iff_take]
  have hmark : ∀ mark ∈ replyMarks, ∀ c ∈ mark, ∃ m ∈ replyMarks, c ∈ m :=
    fun mark hmark c hc => ⟨mark, hmark, hc⟩
  constructor
  · rintro ⟨mark, hmem, h⟩
    exact ⟨mark, hmem, (take_flatten hpieces (hmark mark hmem)).1 h⟩
  · rintro ⟨mark, hmem, h⟩
    exact ⟨mark, hmem, (take_flatten hpieces (hmark mark hmem)).2 h⟩

/-! ### Subjects -/

theorem normalizeSubject_eq (env : Env) (s : String) :
    normalizeSubject env (some s) =
      env.toLowerCase (String.ofList (trimChars (dropMarks s.toList))) := by
  unfold normalizeSubject trim
  dsimp only
  rw [String.toList_ofList]
  rfl

section Subjects

variable {env : Env}

/-- A normalized subject begins with a mark just if one stood behind white space. -/
theorem marked_normalizeSubject (hlower : LowersByCharacter env) (s : String) :
    Marked (normalizeSubject env (some s)).toList ↔ MarkedLater s.toList := by
  rw [normalizeSubject_eq, marked_toLowerCase hlower, String.toList_ofList,
    marked_trimChars_dropMarks]

/-- White space at the head makes no difference if no mark stands behind it. -/
theorem trimChars_dropMarks_dropWhile {l : List Char} (h : ¬ MarkedLater l) :
    trimChars (dropMarks (l.dropWhile isSpace)) = trimChars (dropMarks l) := by
  cases l with
  | nil => rfl
  | cons c rest =>
    by_cases hc : isSpace c = true
    · have hlater : ¬ Marked ((c :: rest).dropWhile isSpace) := fun hmarked =>
        h ⟨by simpa using hc, hmarked⟩
      have hnot : ¬ Marked (c :: rest) := by
        intro hmarked
        rw [hmarked.dropWhile_eq] at hlater
        exact hlater hmarked
      rw [dropMarks_of_not hlater, dropMarks_of_not hnot, trimChars_eq, trimChars_eq,
        List.dropWhile_idempotent]
    · rw [List.dropWhile_cons_of_neg hc]

/-- What begins with no mark is normalized once. -/
theorem normalizeSubject_normalizeSubject (honce : LowersOnce env)
    (hlower : LowersByCharacter env) (s : String) :
    normalizeSubject env (some (normalizeSubject env (some s))) = normalizeSubject env (some s) ↔
      ¬ MarkedLater s.toList := by
  have hmarked := marked_normalizeSubject hlower s
  constructor
  · intro h hlater
    -- the second time the mark is taken off
    have htwice : Marked (normalizeSubject env (some (normalizeSubject env (some s)))).toList := by
      rw [h]
      exact hmarked.2 hlater
    rw [marked_normalizeSubject hlower] at htwice
    obtain ⟨hhead, -⟩ := htwice
    obtain ⟨mark, tail, hl, hmark⟩ := marked_iff.1 (hmarked.2 hlater)
    obtain ⟨hne, hspace⟩ := isSpace_mark hmark
    rw [hl] at hhead
    cases mark with
    | nil => exact hne rfl
    | cons c mark =>
      have hc := hspace c List.mem_cons_self
      simp [hc] at hhead
  · intro hlater
    have hnot : ¬ Marked (normalizeSubject env (some s)).toList := fun h => hlater (hmarked.1 h)
    rw [normalizeSubject_eq env (normalizeSubject env (some s)), dropMarks_of_not hnot]
    have hagain := honce (String.ofList (dropMarks s.toList))
    unfold trim at hagain
    rw [String.toList_ofList] at hagain
    rw [normalizeSubject_eq]
    exact hagain

/-- Marks before a subject that has none behind white space make no difference, if there is no
white space before them. -/
theorem normalizeSubject_append (hlower : LowersByCharacter env) {marks : List Char}
    (hmarks : MarkPrefix marks) {s : String} (hlater : ¬ MarkedLater s.toList) :
    normalizeSubject env (some (String.ofList marks ++ s)) = normalizeSubject env (some s) ↔
      ¬ MarkedLater marks := by
  have htext : (String.ofList marks ++ s).toList = marks ++ s.toList := by simp
  constructor
  · rintro h ⟨hhead, hmarked⟩
    apply hlater
    rw [← marked_normalizeSubject hlower, ← h, marked_normalizeSubject hlower, htext]
    constructor
    · cases marks with
      | nil => cases hhead
      | cons c rest => exact hhead
    · obtain ⟨mark, tail, heq, hmark⟩ := marked_iff.1 hmarked
      obtain ⟨hne, -⟩ := isSpace_mark hmark
      rw [List.dropWhile_append, heq, if_neg (by simp [hne]), List.append_assoc]
      exact marked_iff.2 ⟨mark, tail ++ s.toList, rfl, hmark⟩
  · intro hnot
    cases hmarks with
    | nil =>
      have hsame : String.ofList [] ++ s = s := by simp
      rw [hsame]
    | @mark before mark tail rest hbefore hmark htail hrest =>
      cases before with
      | nil =>
        have hhead := dropWhile_mark hmark (tail ++ (rest ++ s.toList))
        have hall := dropMarks_prefix (.mark hbefore hmark htail hrest) s.toList
        simp only [List.nil_append, List.append_assoc] at htext hall ⊢
        rw [hhead] at hall
        rw [normalizeSubject_eq, normalizeSubject_eq, htext, hall,
          trimChars_dropMarks_dropWhile hlater]
      | cons c before =>
        refine absurd ⟨?_, ?_⟩ hnot
        · simpa using hbefore c List.mem_cons_self
        · rw [List.dropWhile_append_of_pos hbefore, dropWhile_mark hmark]
          exact marked_iff.2 ⟨mark, _, rfl, hmark⟩

/-- **Subjects are normalized once, and without their marks**, if and only if no mark stands
behind white space at the head of the subject, or of the marks that are put before it. -/
theorem normalizeSubject_stable_iff (env : Env) (honce : LowersOnce env)
    (hlower : LowersByCharacter env) (s : String) {marks : List Char} (hmarks : MarkPrefix marks) :
    (normalizeSubject env (some (normalizeSubject env (some s))) =
          normalizeSubject env (some s) ∧
        normalizeSubject env (some (String.ofList marks ++ s)) = normalizeSubject env (some s)) ↔
      ¬ MarkedLater s.toList ∧ ¬ MarkedLater marks := by
  rw [normalizeSubject_normalizeSubject honce hlower]
  exact and_congr_right fun hlater => normalizeSubject_append hlower hmarks hlater

end Subjects

/-! A subject with white space before its mark, where `toLowerCase` lowers ASCII. -/

theorem mailEnv_lowersByCharacter : LowersByCharacter mailEnv := by
  intro s
  refine ⟨s.toList.map fun c => [c.toLower], ?_, ?_⟩
  · induction s.toList with
    | nil => exact .nil
    | cons c rest ih =>
      refine .cons ?_ ih
      unfold LowersTo
      split
      · rfl
      · next hlarge =>
        refine ⟨List.cons_ne_nil _ _, fun d hd mark hmark hmem => hlarge ?_⟩
        obtain rfl := List.mem_singleton.1 hd
        rw [toLower_toLower] at hmem
        obtain ⟨hc, -⟩ | ⟨-, -, hc⟩ := toLower_cases c
        · exact hc ▸ toNat_lt_of_mark hmark hmem
        · have := toNat_lt_of_mark hmark hmem
          omega
  · show (String.ofList (s.toList.map Char.toLower)).toList = _
    rw [String.toList_ofList, ← List.flatMap_def, List.map_eq_flatMap]

/-- A mark before a subject without one. -/
theorem reply_normalized :
    normalizeSubject mailEnv (some (normalizeSubject mailEnv (some "Hello"))) =
        normalizeSubject mailEnv (some "Hello") ∧
      normalizeSubject mailEnv (some (String.ofList "Re: ".toList ++ "Hello")) =
        normalizeSubject mailEnv (some "Hello") :=
  (normalizeSubject_stable_iff mailEnv mailEnv_lowersOnce mailEnv_lowersByCharacter "Hello"
    (@MarkPrefix.mark [] "Re:".toList [' '] [] (by simp) (by decide) (by simp [isSpace]) .nil)).2
    ⟨by decide, by decide⟩

/-- White space before a mark. -/
theorem spaced_reply_not_normalized :
    ¬ ∀ (s : String) (marks : List Char), MarkPrefix marks →
      normalizeSubject mailEnv (some (normalizeSubject mailEnv (some s))) =
          normalizeSubject mailEnv (some s) ∧
        normalizeSubject mailEnv (some (String.ofList marks ++ s)) =
          normalizeSubject mailEnv (some s) := by
  intro h
  have hspaced : ¬ normalizeSubject mailEnv (some (normalizeSubject mailEnv (some " Re: x"))) =
      normalizeSubject mailEnv (some " Re: x") := by
    decide
  exact hspaced (h " Re: x" [] .nil).1

end MailRuntime
