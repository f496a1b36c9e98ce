import Mathlib.Algebra.GroupWithZero.Nat
import Mathlib.Order.WellFounded
import MailRuntime.Mail.Leaves

/-!
# The descent into the parts

`collectContent` calls itself on the parts that `parseMultipart` splits a body into. The boundary
is what the headers of the part say, and those may say what they like. But a part begins after
one delimiter at least, and nothing that is done to it on the way makes it longer, so its body is
shorter than the body that it was split from. So the descent ends, and what it collects is the
same however deep it may go.
-/

namespace MailRuntime

namespace Js

/-! ### Weights

The length of a text, in characters or in UTF-16 units, is the sum of what its characters weigh. -/

/-- What each character weighs: something, and a replacement for another no more than that. -/
structure Weight where
  of : Char → Nat
  pos : ∀ c, 0 < of c
  replacement : ∀ c, of replacementChar ≤ of c

/-- What a text weighs. -/
def Weight.text (w : Weight) (l : List Char) : Nat := (l.map w.of).sum

/-- Each character weighs one. -/
def Weight.characters : Weight where
  of _ := 1
  pos _ := Nat.one_pos
  replacement _ := Nat.le_refl _

theorem length_units_pos (c : Char) : 0 < (units c).length := by
  unfold units
  split
  · exact Nat.one_pos
  · exact Nat.two_pos

/-- Each character weighs as much as it has UTF-16 units. -/
def Weight.utf16 : Weight where
  of c := (units c).length
  pos := length_units_pos
  replacement := length_units_pos

theorem Weight.text_characters (l : List Char) : Weight.characters.text l = l.length := by
  induction l with
  | nil => rfl
  | cons c rest ih =>
    show 1 + Weight.characters.text rest = rest.length + 1
    omega

theorem Weight.text_utf16 (l : List Char) : Weight.utf16.text l = (Js.utf16 l).length := by
  unfold Js.utf16
  rw [List.length_flatMap]
  rfl

section Weight

variable (w : Weight)

@[simp] theorem Weight.text_nil : w.text [] = 0 := rfl

@[simp] theorem Weight.text_cons (c : Char) (l : List Char) :
    w.text (c :: l) = w.of c + w.text l := rfl

@[simp] theorem Weight.text_append (l l' : List Char) :
    w.text (l ++ l') = w.text l + w.text l' := by
  unfold Weight.text
  rw [List.map_append, List.sum_append]

/-- What is cut off a text weighs no more than the text. -/
theorem Weight.text_le_of_suffix {l l' : List Char} (h : l <:+ l') : w.text l ≤ w.text l' := by
  obtain ⟨before, rfl⟩ := h
  rw [Weight.text_append]
  omega

theorem Weight.text_le_of_prefix {l l' : List Char} (h : l <+: l') : w.text l ≤ w.text l' := by
  obtain ⟨tail, rfl⟩ := h
  rw [Weight.text_append]
  omega

theorem mem_drop_consHead (c : Char) (parts : List (List Char)) :
    ∀ part ∈ (consHead c parts).drop 1, part ∈ parts.drop 1 := by
  cases parts with
  | nil => simp [consHead]
  | cons part parts => simp [consHead]

/-- The parts of a text are no longer than the text, and those after a separator are shorter by
the separator. -/
theorem Weight.text_splitFrom {separator : List Char} (fuel : Nat) (l : List Char) :
    (∀ part ∈ splitFrom separator fuel l, w.text part ≤ w.text l) ∧
      ∀ part ∈ (splitFrom separator fuel l).drop 1, w.text part + w.text separator ≤ w.text l := by
  induction fuel generalizing l with
  | zero => simp [splitFrom]
  | succ fuel ih =>
    cases l with
    | nil => simp [splitFrom]
    | cons c rest =>
      rw [splitFrom]
      split
      · next h =>
        obtain ⟨tail, htail⟩ := List.isPrefixOf_iff_prefix.1 h
        obtain ⟨hall, -⟩ := ih tail
        rw [← htail, List.drop_left, Weight.text_append]
        refine ⟨fun part hpart => ?_, fun part hpart => ?_⟩
        · obtain rfl | hpart := List.mem_cons.1 hpart
          · exact Nat.zero_le _
          · have := hall part hpart
            omega
        · have := hall part hpart
          omega
      · obtain ⟨hall, hrest⟩ := ih rest
        rw [Weight.text_cons]
        refine ⟨fun part hpart => ?_, fun part hpart => ?_⟩
        · cases hsplit : splitFrom separator fuel rest with
          | nil =>
            rw [hsplit] at hpart
            obtain rfl := List.mem_singleton.1 hpart
            simp
          | cons first parts =>
            rw [hsplit] at hpart hall
            obtain rfl | hpart := List.mem_cons.1 hpart
            · have := hall first List.mem_cons_self
              rw [Weight.text_cons]
              omega
            · have := hall part (List.mem_cons_of_mem _ hpart)
              omega
        · have := hrest part (mem_drop_consHead c _ part hpart)
          omega

theorem Weight.text_dropUnits (n : Nat) (l : List Char) : w.text (dropUnits n l) ≤ w.text l := by
  fun_induction dropUnits n l with
  | case1 => exact Nat.le_refl _
  | case2 => exact Nat.le_refl _
  | case3 n c rest _ _ ih =>
    rw [Weight.text_cons]
    omega
  | case4 n c rest =>
    have := w.replacement c
    rw [Weight.text_cons, Weight.text_cons]
    omega

end Weight

theorem suffix_of_after {part : String} {l rest : List Char} (h : after part l = some rest) :
    rest <:+ l := by
  unfold after at h
  split at h
  · obtain rfl := Option.some.inj h
    exact List.drop_suffix _ _
  · cases h

end Js

open Js

variable {env : Env} (w : Weight)

/-! ### The parts of a body -/

/-- The body is cut off the text, but for what a cut inside a character leaves. -/
theorem text_body_splitHeaderAndBody (raw : List Char) :
    w.text (splitHeaderAndBody env raw).2 ≤ w.text raw := by
  unfold splitHeaderAndBody
  split
  · exact Nat.zero_le _
  · next rawHeaders marker hmarker =>
    obtain ⟨hraw, -, -⟩ := breakAt_eq_some hmarker
    dsimp only
    split
    · next first body hbody =>
      obtain ⟨hraw, -, -⟩ := breakAt_eq_some hbody
      have hdrop := w.text_le_of_suffix (List.drop_suffix 2 body)
      rw [hraw, Weight.text_append]
      omega
    · have hdrop := w.text_dropUnits 4 marker
      rw [hraw, Weight.text_append]
      omega

theorem dropFirstBreak_suffix (l : List Char) : dropFirstBreak l <:+ l := by
  unfold dropFirstBreak
  cases h : (after "\r\n" l).or (after "\n" l) with
  | none => exact List.suffix_rfl
  | some rest =>
    obtain h | ⟨-, h⟩ := Option.or_eq_some_iff.1 h
    · exact suffix_of_after h
    · exact suffix_of_after h

theorem dropLastBreak_isPrefix (l : List Char) : dropLastBreak l <+: l := by
  unfold dropLastBreak
  split
  · next rest h =>
    rw [← List.reverse_reverse l, h]
    simp
  · next rest h =>
    rw [← List.reverse_reverse l, h]
    simp
  · exact List.prefix_rfl

/-- **The body of a part weighs less than the body it was split from**, whatever the boundary. -/
theorem text_lt_of_mem_parseMultipart {body boundary : List Char} {part : Headers × List Char}
    (h : part ∈ parseMultipart env body boundary) : w.text part.2 < w.text body := by
  obtain ⟨text, htext, rfl⟩ := List.mem_map.1 h
  obtain ⟨piece, hpiece, rfl⟩ := List.mem_map.1 (List.mem_of_mem_filter htext)
  have hpos := w.pos '-'
  have hpieces := (w.text_splitFrom body.length body).2 piece hpiece
  have hdelimiter : w.text ("--".toList ++ boundary) = w.of '-' + (w.of '-' + w.text boundary) := rfl
  have hfirst := w.text_le_of_suffix (dropFirstBreak_suffix piece)
  have hlast := w.text_le_of_prefix (dropLastBreak_isPrefix (dropFirstBreak piece))
  have hbody : w.text (splitHeaderAndBody env (dropLastBreak (dropFirstBreak piece))).2 ≤
      w.text (dropLastBreak (dropFirstBreak piece)) := text_body_splitHeaderAndBody w _
  omega

theorem length_lt_of_mem_parseMultipart {body boundary : List Char} {part : Headers × List Char}
    (h : part ∈ parseMultipart env body boundary) : part.2.length < body.length := by
  have hlt := text_lt_of_mem_parseMultipart Weight.characters h
  rwa [Weight.text_characters, Weight.text_characters] at hlt

/-! ### The descent -/

/-- `collectContent` of the whole calls itself on the part. -/
def PartOf (env : Env) (part whole : Headers × List Char) : Prop :=
  isMultipart env whole.1 = true ∧ ∃ boundary, extractBoundary (contentTypeOf whole.1) = some boundary ∧
    part ∈ parseMultipart env whole.2 boundary

/-- There is no endless chain of calls. -/
theorem wellFounded_partOf (env : Env) : WellFounded (PartOf env) := by
  refine Subrelation.wf ?_ (measure fun entity : Headers × List Char => entity.2.length).wf
  rintro part whole ⟨-, boundary, -, hpart⟩
  exact length_lt_of_mem_parseMultipart hpart

mutual

/-- What `collectContent` comes to, call by call: `none` where it throws. -/
inductive Collects (env : Env) : Headers × List Char → Content → Option Content → Prop where
  /-- A part without parts of its own. -/
  | leaf {entity : Headers × List Char} {output : Content}
      (hleaf : isMultipart env entity.1 = false) :
      Collects env entity output (collectLeaf env output entity)
  /-- A multipart without a boundary. -/
  | unbounded {entity : Headers × List Char} {output : Content}
      (hmultipart : isMultipart env entity.1 = true)
      (hboundary : extractBoundary (contentTypeOf entity.1) = none) :
      Collects env entity output (some output)
  /-- A multipart: its parts one after the other. -/
  | multipart {entity : Headers × List Char} {output : Content} {result : Option Content}
      {boundary : List Char} (hmultipart : isMultipart env entity.1 = true)
      (hboundary : extractBoundary (contentTypeOf entity.1) = some boundary)
      (hparts : CollectsAll env (parseMultipart env entity.2 boundary) output result) :
      Collects env entity output result

/-- What the loop over the parts comes to. -/
inductive CollectsAll (env : Env) :
    List (Headers × List Char) → Content → Option Content → Prop where
  /-- The loop is through. -/
  | done {output : Content} : CollectsAll env [] output (some output)
  /-- A part is collected, and the loop goes on. -/
  | next {part : Headers × List Char} {parts : List (Headers × List Char)} {output output' : Content}
      {result : Option Content} (hpart : Collects env part output (some output'))
      (hparts : CollectsAll env parts output' result) :
      CollectsAll env (part :: parts) output result
  /-- A part throws, and the loop ends. -/
  | thrown {part : Headers × List Char} {parts : List (Headers × List Char)} {output : Content}
      (hpart : Collects env part output none) : CollectsAll env (part :: parts) output none

end

/-- It goes no deeper if it may. -/
theorem visited_of_lt {fuel fuel' : Nat} {part : Headers × List Char} (h : part.2.length < fuel)
    (h' : part.2.length < fuel') : visited env fuel part = visited env fuel' part := by
  induction fuel generalizing fuel' part with
  | zero => omega
  | succ fuel ih =>
    obtain ⟨fuel', rfl⟩ : ∃ n, fuel' = n + 1 := ⟨fuel' - 1, by omega⟩
    rw [visited, visited]
    split
    · cases extractBoundary (contentTypeOf part.1) with
      | none => rfl
      | some boundary =>
        refine List.flatMap_congr fun p hp => ?_
        have hlt := length_lt_of_mem_parseMultipart hp
        exact ih (by omega) (by omega)
    · rfl

/-- One call, with the loop over the parts written out. -/
theorem collectContent_succ (fuel : Nat) (entity : Headers × List Char) (output : Content) :
    collectContent env (fuel + 1) entity output =
      if isMultipart env entity.1 then
        match extractBoundary (contentTypeOf entity.1) with
        | none => some output
        | some boundary =>
          (parseMultipart env entity.2 boundary).foldlM
            (fun output part => collectContent env fuel part output) output
      else collectLeaf env output entity := rfl

theorem collectsAll_foldlM {f : Content → Headers × List Char → Option Content}
    {parts : List (Headers × List Char)}
    (h : ∀ part ∈ parts, ∀ output, Collects env part output (f output part)) (output : Content) :
    CollectsAll env parts output (parts.foldlM f output) := by
  induction parts generalizing output with
  | nil => exact .done
  | cons part parts ih =>
    have hpart := h part List.mem_cons_self output
    rw [List.foldlM_cons]
    cases hresult : f output part with
    | none =>
      rw [hresult] at hpart
      exact .thrown hpart
    | some output' =>
      rw [hresult] at hpart
      exact .next hpart (ih (fun p hp => h p (List.mem_cons_of_mem _ hp)) output')

/-- The calls come to an end, and to what `collectContent` gives. -/
theorem collects_collectContent {fuel : Nat} {entity : Headers × List Char}
    (h : entity.2.length < fuel) (output : Content) :
    Collects env entity output (collectContent env fuel entity output) := by
  induction fuel generalizing entity output with
  | zero => omega
  | succ fuel ih =>
    rw [collectContent_succ]
    cases hmultipart : isMultipart env entity.1 with
    | false => exact .leaf hmultipart
    | true =>
      rw [if_pos rfl]
      cases hboundary : extractBoundary (contentTypeOf entity.1) with
      | none => exact .unbounded hmultipart hboundary
      | some boundary =>
        refine .multipart hmultipart hboundary (collectsAll_foldlM ?_ output)
        intro part hpart output'
        have hlt := length_lt_of_mem_parseMultipart hpart
        exact ih (by omega) output'

mutual

/-- They come to nothing else. -/
theorem Collects.eq_collectContent {entity : Headers × List Char} {output : Content}
    {result : Option Content} (h : Collects env entity output result) {fuel : Nat}
    (hfuel : entity.2.length < fuel) : collectContent env fuel entity output = result := by
  obtain ⟨fuel, rfl⟩ : ∃ n, fuel = n + 1 := ⟨fuel - 1, by omega⟩
  rw [collectContent_succ]
  cases h with
  | leaf hleaf => rw [hleaf, if_neg Bool.false_ne_true]
  | unbounded hmultipart hboundary => rw [hmultipart, if_pos rfl, hboundary]
  | multipart hmultipart hboundary hparts =>
    rw [hmultipart, if_pos rfl, hboundary]
    refine hparts.eq_foldlM fun part hpart => ?_
    have hlt := length_lt_of_mem_parseMultipart hpart
    omega

theorem CollectsAll.eq_foldlM {parts : List (Headers × List Char)} {output : Content}
    {result : Option Content} (h : CollectsAll env parts output result) {fuel : Nat}
    (hfuel : ∀ part ∈ parts, part.2.length < fuel) :
    parts.foldlM (fun output part => collectContent env fuel part output) output = result := by
  cases h with
  | done => rfl
  | next hpart hparts =>
    rw [List.foldlM_cons, hpart.eq_collectContent (hfuel _ List.mem_cons_self)]
    exact hparts.eq_foldlM fun part hmem => hfuel part (List.mem_cons_of_mem _ hmem)
  | thrown hpart =>
    rw [List.foldlM_cons, hpart.eq_collectContent (hfuel _ List.mem_cons_self)]
    rfl

end

/-- **The descent ends.** Whatever the headers and the boundary, the body of each part is shorter,
in UTF-16 units and in characters, than the body that it was split from. There is no endless chain
of calls; from every header map and body the calls come to exactly one result; and it is what the
parser collects, however much deeper it might have gone. -/
theorem collectContent_terminates (env : Env) :
    (∀ (body boundary : List Char), ∀ part ∈ parseMultipart env body boundary,
      (utf16 part.2).length < (utf16 body).length ∧ part.2.length < body.length) ∧
    WellFounded (PartOf env) ∧
    (∀ (entity : Headers × List Char) (output : Content),
      ∃! result, Collects env entity output result) ∧
    ∀ (fuel : Nat) (entity : Headers × List Char) (output : Content), entity.2.length < fuel →
      Collects env entity output (collectContent env fuel entity output) := by
  refine ⟨?_, wellFounded_partOf env, ?_, ?_⟩
  · intro body boundary part hpart
    have hunits := text_lt_of_mem_parseMultipart Weight.utf16 hpart
    rw [Weight.text_utf16, Weight.text_utf16] at hunits
    exact ⟨hunits, length_lt_of_mem_parseMultipart hpart⟩
  · intro entity output
    refine ⟨_, collects_collectContent (Nat.lt_succ_self _) output, ?_⟩
    intro result hresult
    exact (hresult.eq_collectContent (Nat.lt_succ_self _)).symm
  · intro fuel entity output h
    exact collects_collectContent h output

end MailRuntime
