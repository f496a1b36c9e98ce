import MailRuntime.Mail.Entities

/-!
# The leaves that are visited

`collectContent` walks down a tree of MIME entities and collects from its leaves. Which leaves it
comes to, with which headers and bodies, is a function of the text alone (`visited`), and what it
collects is collected from those (`collectContent_eq`). For a tree that splits where it should, and
whose boundaries are read as they are, they are the leaves of the tree.
-/

namespace MailRuntime

open Js

attribute [local instance] decidableCharacters decidableCharacter

/-! ### The walk -/

/-- `headers["content-type"] ?? "text/plain"`. -/
def contentTypeOf (headers : Headers) : List Char :=
  (headers.get "content-type").getD "text/plain".toList

/-- `contentType.toLowerCase().startsWith("multipart/")`. -/
def isMultipart (env : Env) (headers : Headers) : Bool :=
  startsWith "multipart/" (env.toLowerCase (String.ofList (contentTypeOf headers))).toList

/-- The parts without parts of their own that `collectContent` comes to. -/
def visited (env : Env) : Nat → Headers × List Char → List (Headers × List Char)
  | 0, _ => []
  | fuel + 1, part =>
    if isMultipart env part.1 then
      match extractBoundary (contentTypeOf part.1) with
      | none => []
      | some boundary => (parseMultipart env part.2 boundary).flatMap (visited env fuel)
    else [part]

/-- What it does with such a part. -/
def collectLeaf (env : Env) (output : Content) (leaf : Headers × List Char) : Option Content :=
  collectPart env leaf.1 (contentTypeOf leaf.1) leaf.2 output

/-- It collects from the parts it visits, and from nothing else. -/
theorem collectContent_eq (env : Env) (fuel : Nat) (part : Headers × List Char)
    (output : Content) :
    collectContent env fuel part output = (visited env fuel part).foldlM (collectLeaf env) output := by
  induction fuel generalizing part output with
  | zero => rfl
  | succ fuel ih =>
    obtain ⟨headers, body⟩ := part
    rw [collectContent, visited]
    dsimp only
    rw [← contentTypeOf, ← isMultipart]
    split
    · cases extractBoundary (contentTypeOf headers) with
      | none => rfl
      | some boundary =>
        show (parseMultipart env body boundary).foldlM _ output =
          ((parseMultipart env body boundary).flatMap (visited env fuel)).foldlM _ output
        induction parseMultipart env body boundary generalizing output with
        | nil => rfl
        | cons p parts ihp =>
          rw [List.foldlM_cons, List.flatMap_cons, List.foldlM_append, ih]
          exact congrArg _ (funext fun output => ihp output)
    · show collectLeaf env output (headers, body) = [(headers, body)].foldlM _ output
      rw [List.foldlM_cons]
      exact (bind_pure _).symm

/-! ### Trees that are walked as they are -/

namespace Entity

variable {env : Env}

/-- The content type of the entity is read as what it is: a leaf's as no multipart, and a
multipart's as one with its boundary, which is the text after the first `boundary=`, up to a quote
or a semicolon. -/
def Typed (env : Env) : Entity → Prop
  | leaf fields _ => isMultipart env (headersOf env fields) = false
  | multipart fields boundary _ _ _ =>
    isMultipart env (headersOf env fields) = true ∧
      extractBoundary (contentTypeOf (headersOf env fields)) = some boundary ∧
      boundary ≠ [] ∧ '\r' ∉ boundary ∧ '\n' ∉ boundary

/-- `collectContent` visits the leaves of the tree, in order, each with its own headers and its
own body, and nothing else. -/
def VisitsLeaves (env : Env) (e : Entity) : Prop :=
  visited env (e.body.length + 1) (headersOf env e.fields, e.body) =
    e.leaves.map fun leaf => (headersOf env leaf.1, leaf.2)

instance (env : Env) (e : Entity) : Decidable (e.VisitsLeaves env) := by
  unfold VisitsLeaves
  infer_instance

theorem length_body_lt (boundary : List Char) {parts : List Entity} {part : Entity}
    (h : part ∈ parts) : part.body.length < (partsText boundary parts).length := by
  induction parts with
  | nil => cases h
  | cons p parts ih =>
    have htext : partsText boundary (p :: parts) =
        delimiter boundary ++ ((crlf ++ p.text ++ crlf) ++ partsText boundary parts) := rfl
    have hlength := p.length_text
    rw [htext]
    simp only [List.length_append, List.length_cons, List.length_nil]
    rcases List.mem_cons.1 h with rfl | h
    · omega
    · have := ih h
      omega

/-- A multipart is walked part by part. -/
theorem visited_multipart {fields : List Field} {boundary : List Char}
    {preamble epilogue : Option (List Char)} {parts : List Entity}
    (htyped : (multipart fields boundary preamble parts epilogue).Typed env)
    (hsplits : (multipart fields boundary preamble parts epilogue).Splits) (fuel : Nat) :
    visited env (fuel + 1)
        (headersOf env fields, (multipart fields boundary preamble parts epilogue).body) =
      (parts.map fun part => (headersOf env part.fields, part.body)).flatMap (visited env fuel) := by
  obtain ⟨hmultipart, hboundary, hne, hcr, hlf⟩ := htyped
  rw [visited, if_pos hmultipart]
  show (match extractBoundary (contentTypeOf (headersOf env fields)) with
    | none => []
    | some boundary => (parseMultipart env _ boundary).flatMap (visited env fuel)) = _
  rw [hboundary]
  exact congrArg (List.flatMap _) (parseMultipart_body hne hcr hlf hsplits)

mutual

/-- A walk with enough fuel. -/
theorem visited_entity (e : Entity) (htyped : ∀ x ∈ e.nodes, x.Typed env)
    (hsplits : ∀ x ∈ e.nodes, x.Splits) (fuel : Nat) (hfuel : e.body.length < fuel) :
    visited env fuel (headersOf env e.fields, e.body) =
      e.leaves.map fun leaf => (headersOf env leaf.1, leaf.2) := by
  match e, fuel with
  | leaf fields body, fuel + 1 =>
    have hleaf : isMultipart env (headersOf env fields) = false := htyped _ (self_mem_nodes _)
    rw [visited]
    show (if isMultipart env (headersOf env fields) then _ else _) = _
    rw [hleaf]
    rfl
  | multipart fields boundary preamble parts epilogue, fuel + 1 =>
    have hparts : ∀ x ∈ nodesOf parts, x.Typed env ∧ x.Splits := fun x hx =>
      ⟨htyped x (List.mem_cons_of_mem _ hx), hsplits x (List.mem_cons_of_mem _ hx)⟩
    have hlength : ∀ part ∈ parts, part.body.length < fuel := by
      intro part hpart
      have h1 := length_body_lt boundary hpart
      have h2 : (multipart fields boundary preamble parts epilogue).body =
          preambleText preamble ++ (partsText boundary parts ++
            (delimiter boundary ++ epilogueText epilogue)) := rfl
      rw [h2] at hfuel
      simp only [List.length_append] at hfuel
      omega
    rw [Entity.fields, visited_multipart (htyped _ (self_mem_nodes _)) (hsplits _ (self_mem_nodes _))]
    exact visited_parts parts (fun x hx => (hparts x hx).1) (fun x hx => (hparts x hx).2) fuel
      hlength

theorem visited_parts (parts : List Entity) (htyped : ∀ x ∈ nodesOf parts, x.Typed env)
    (hsplits : ∀ x ∈ nodesOf parts, x.Splits) (fuel : Nat)
    (hfuel : ∀ part ∈ parts, part.body.length < fuel) :
    (parts.map fun part => (headersOf env part.fields, part.body)).flatMap (visited env fuel) =
      (leavesOf parts).map fun leaf => (headersOf env leaf.1, leaf.2) := by
  match parts with
  | [] => rfl
  | part :: parts =>
    have hhead := visited_entity part (fun x hx => htyped x (List.mem_append_left _ hx))
      (fun x hx => hsplits x (List.mem_append_left _ hx)) fuel (hfuel part List.mem_cons_self)
    have htail := visited_parts parts (fun x hx => htyped x (List.mem_append_right _ hx))
      (fun x hx => hsplits x (List.mem_append_right _ hx)) fuel
      fun p hp => hfuel p (List.mem_cons_of_mem _ hp)
    rw [List.map_cons, List.flatMap_cons, hhead, htail, leavesOf, List.map_append]

end

end Entity

/-! ### The result -/

open Entity

/-- **A tree is walked as it is** if every content type is read as what the entity is, every
delimiter is nowhere but where it delimits, and every part has header fields or no body, no two
line feeds in a row, and does not start with two hyphens. -/
theorem visitsLeaves_of_splits (env : Env) (e : Entity) (htyped : ∀ x ∈ e.nodes, x.Typed env)
    (hsplits : ∀ x ∈ e.nodes, x.Splits) : e.VisitsLeaves env :=
  visited_entity e htyped hsplits _ (Nat.lt_succ_self _)

/-- A multipart with one part, between boundaries `b`. -/
def simpleMultipart (part : Entity) : Entity :=
  multipart [plainField "content-type" "multipart/mixed; boundary=b"
    ⟨by decide, by decide, by decide⟩ (by decide)] "b".toList none [part] none

/-- A leaf with one header field. -/
def simpleLeaf (body : String) : Entity :=
  leaf [plainField "x" "y" ⟨by decide, by decide, by decide⟩ (by decide)] body.toList

theorem typed_simpleMultipart {fields : List Field} {body : List Char}
    (h : isMultipart Env.bare (headersOf Env.bare fields) = false) :
    ∀ x ∈ (simpleMultipart (leaf fields body)).nodes, x.Typed Env.bare := by
  intro x hx
  simp only [simpleMultipart, nodes, nodesOf, List.mem_cons, List.append_nil, List.not_mem_nil,
    or_false] at hx
  rcases hx with rfl | rfl
  · exact ⟨by decide +kernel, by decide +kernel, by decide, by decide, by decide⟩
  · exact h

theorem splits_simpleMultipart {fields : List Field} {body : List Char}
    (h : ¬ delimiter "b".toList <:+: (leaf fields body).text) (hpart : (leaf fields body).Extractable) :
    ∀ x ∈ (simpleMultipart (leaf fields body)).nodes, x.Splits := by
  intro x hx
  simp only [simpleMultipart, nodes, nodesOf, List.mem_cons, List.append_nil, List.not_mem_nil,
    or_false] at hx
  rcases hx with rfl | rfl
  · refine ⟨fun l hl => (by cases hl), fun l hl => (by cases hl), fun part hmem => ?_⟩
    obtain rfl := List.mem_singleton.1 hmem
    exact ⟨h, hpart⟩
  · trivial

/-- A body may have blank lines. -/
theorem blank_line_visited : (simpleMultipart (simpleLeaf "a\r\n\r\nb")).VisitsLeaves Env.bare :=
  visitsLeaves_of_splits Env.bare _ (typed_simpleMultipart (by decide +kernel))
    (splits_simpleMultipart (by decide +kernel)
      ⟨fun h => (by cases h), by decide +kernel, by decide +kernel⟩)

/-- No line of a part starts with the delimiter. -/
def Entity.Delimited : Entity → Prop
  | leaf _ _ => True
  | multipart _ boundary _ parts _ =>
    ∀ part ∈ parts, ∀ line ∈ splitLines part.text, ¬ delimiter boundary <+: line

instance (e : Entity) : Decidable e.Delimited := by
  cases e <;> unfold Entity.Delimited <;> infer_instance

/-- A multipart whose boundary is not the last parameter, with a space before the semicolon. -/
def spacedMultipart (part : Entity) : Entity :=
  multipart [plainField "content-type" "multipart/mixed; boundary=b ; charset=utf-8"
    ⟨by decide, by decide, by decide⟩ (by decide)] "b".toList none [part] none

/-- A part without header fields loses its body, a body with two line feeds in a row loses what is
before them, a body with the delimiter in the middle of a line is split there, and where the
boundary is read with a space after it no part is found. -/
theorem bodies_cut :
    ((simpleMultipart (leaf [] "hi".toList)).Delimited ∧
      ¬ (simpleMultipart (leaf [] "hi".toList)).VisitsLeaves Env.bare) ∧
    ((simpleMultipart (simpleLeaf "a\n\nb")).Delimited ∧
      ¬ (simpleMultipart (simpleLeaf "a\n\nb")).VisitsLeaves Env.bare) ∧
    ((simpleMultipart (simpleLeaf "a--b")).Delimited ∧
      ¬ (simpleMultipart (simpleLeaf "a--b")).VisitsLeaves Env.bare) ∧
    ((spacedMultipart (simpleLeaf "hi")).Delimited ∧
      ¬ (spacedMultipart (simpleLeaf "hi")).VisitsLeaves Env.bare) := by
  decide +kernel

end MailRuntime
