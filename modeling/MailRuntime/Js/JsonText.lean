import MailRuntime.Js.JsonNumbers

/-!
# JSON texts

`JSON.stringify` and `JSON.parse`. The text of a string is read as UTF-16 units, so that an
escaped surrogate pair is one character; a surrogate on its own reads as the replacement
character. An object keeps each key once, at its first place and with its last value.
-/

namespace MailRuntime.Js

/-! ### `JSON.stringify` -/

/-- A character between quotes. -/
def quoteChar (c : Char) : List Char :=
  if c = '"' then ['\\', '"']
  else if c = '\\' then ['\\', '\\']
  else if c.toNat = 8 then ['\\', 'b']
  else if c.toNat = 9 then ['\\', 't']
  else if c.toNat = 10 then ['\\', 'n']
  else if c.toNat = 12 then ['\\', 'f']
  else if c.toNat = 13 then ['\\', 'r']
  else if c.toNat < 32 then
    ['\\', 'u', '0', '0', (c.toNat / 16).digitChar, (c.toNat % 16).digitChar]
  else [c]

/-- A string between quotes. -/
def quoteChars (s : String) : List Char := '"' :: (s.toList.flatMap quoteChar ++ ['"'])

mutual

/-- `JSON.stringify(value)`. -/
def jsonChars : Json → List Char
  | .null => ['n', 'u', 'l', 'l']
  | .bool true => ['t', 'r', 'u', 'e']
  | .bool false => ['f', 'a', 'l', 's', 'e']
  | .num n => integerChars n
  | .decimal text => text.toList
  | .str s => quoteChars s
  | .arr [] => ['[', ']']
  | .arr (item :: rest) => '[' :: (jsonChars item ++ itemsTail rest)
  | .obj [] => ['{', '}']
  | .obj ((key, value) :: rest) =>
    '{' :: (quoteChars key ++ ':' :: (jsonChars value ++ fieldsTail rest))

/-- The further items of an array, and its end. -/
def itemsTail : List Json → List Char
  | [] => [']']
  | item :: rest => ',' :: (jsonChars item ++ itemsTail rest)

/-- The further fields of an object, and its end. -/
def fieldsTail : List (String × Json) → List Char
  | [] => ['}']
  | (key, value) :: rest =>
    ',' :: (quoteChars key ++ ':' :: (jsonChars value ++ fieldsTail rest))

end

/-- `JSON.stringify(value)` as a string. -/
def stringify (value : Json) : String := String.ofList (jsonChars value)

/-- A new line, indented. -/
def newLine (depth : Nat) : List Char := '\n' :: List.replicate (2 * depth) ' '

mutual

/-- `JSON.stringify(value, null, 2)`, inside `depth` arrays and objects. -/
def prettyChars (depth : Nat) : Json → List Char
  | .arr (item :: rest) =>
    '[' :: (newLine (depth + 1) ++ prettyChars (depth + 1) item ++ prettyItems depth rest)
  | .obj ((key, value) :: rest) =>
    '{' :: (newLine (depth + 1) ++ quoteChars key ++ ':' :: ' ' :: prettyChars (depth + 1) value ++
      prettyFields depth rest)
  | value => jsonChars value

/-- The further items of an array on lines of their own. -/
def prettyItems (depth : Nat) : List Json → List Char
  | [] => newLine depth ++ [']']
  | item :: rest =>
    ',' :: (newLine (depth + 1) ++ prettyChars (depth + 1) item ++ prettyItems depth rest)

/-- The further fields of an object on lines of their own. -/
def prettyFields (depth : Nat) : List (String × Json) → List Char
  | [] => newLine depth ++ ['}']
  | (key, value) :: rest =>
    ',' :: (newLine (depth + 1) ++ quoteChars key ++ ':' :: ' ' :: prettyChars (depth + 1) value ++
      prettyFields depth rest)

end

/-! ### `JSON.parse` -/

/-- The unit of an escape of one letter. -/
def escapedUnit (c : Char) : Option Nat :=
  if c = '"' ∨ c = '\\' ∨ c = '/' then some c.toNat
  else if c = 'b' then some 8
  else if c = 't' then some 9
  else if c = 'n' then some 10
  else if c = 'f' then some 12
  else if c = 'r' then some 13
  else none

/-- The unit of four hexadecimal digits. -/
def hexUnit (x y z w : Char) : Option Nat := do
  let x ← hexValue x
  let y ← hexValue y
  let z ← hexValue z
  let w ← hexValue w
  pure (((x * 16 + y) * 16 + z) * 16 + w)

/-- Units in front of what is read after them. -/
def withUnits (us : List Nat) (read : Option (List Nat × List Char)) :
    Option (List Nat × List Char) :=
  read.map fun (vs, rest) => (us ++ vs, rest)

/-- The units up to the closing quote, and what is after it. -/
def readUnits : List Char → Option (List Nat × List Char)
  | [] => none
  | c :: rest =>
    if c = '"' then some ([], rest)
    else if c = '\\' then
      match rest with
      | 'u' :: x :: y :: z :: w :: rest =>
        match hexUnit x y z w with
        | some u => withUnits [u] (readUnits rest)
        | none => none
      | letter :: rest =>
        match escapedUnit letter with
        | some u => withUnits [u] (readUnits rest)
        | none => none
      | [] => none
    else if c.toNat < 32 then none
    else withUnits (units c) (readUnits rest)

/-- The first unit of a pair. -/
def isHigh (u : Nat) : Bool := 0xD800 ≤ u && u < 0xDC00

/-- The second unit of a pair. -/
def isLow (u : Nat) : Bool := 0xDC00 ≤ u && u < 0xE000

/-- The character of a unit that is not in a pair. -/
def unitChar (u : Nat) : Char := if isHigh u || isLow u then replacementChar else Char.ofNat u

/-- The characters of UTF-16 units. -/
def decodeUnits : List Nat → List Char
  | [] => []
  | [u] => [unitChar u]
  | u :: v :: rest =>
    if isHigh u && isLow v then
      Char.ofNat (0x10000 + (u - 0xD800) * 0x400 + (v - 0xDC00)) :: decodeUnits rest
    else unitChar u :: decodeUnits (v :: rest)

/-- A string after its opening quote, and what is after it. -/
def readString (l : List Char) : Option (String × List Char) :=
  (readUnits l).map fun (us, rest) => (String.ofList (decodeUnits us), rest)

/-- White space between the tokens of a JSON text. -/
def isJsonSpace (c : Char) : Bool := c = ' ' || c = '\t' || c = '\n' || c = '\r'

/-- The text after white space. -/
def skipSpace (l : List Char) : List Char := l.dropWhile isJsonSpace

/-- `fields[key] = value`. -/
def setField (fields : Fields) (key : String) (value : Json) : Fields :=
  if fields.any fun p => p.1 == key then
    fields.map fun p => if p.1 == key then (key, value) else p
  else fields ++ [(key, value)]

/-- A word or a number, and what is after it. -/
def readLiteral (l : List Char) : Option (Json × List Char) :=
  match after "null" l with
  | some rest => some (.null, rest)
  | none =>
    match after "true" l with
    | some rest => some (.bool true, rest)
    | none =>
      match after "false" l with
      | some rest => some (.bool false, rest)
      | none => readNumber l

mutual

/-- A value and what is after it. -/
def parseValue : Nat → List Char → Option (Json × List Char)
  | 0, _ => none
  | fuel + 1, l =>
    match skipSpace l with
    | [] => none
    | c :: rest =>
      if c = '"' then (readString rest).map fun (s, rest) => (.str s, rest)
      else if c = '[' then
        match skipSpace rest with
        | ']' :: rest => some (.arr [], rest)
        | rest => do
          let (item, rest) ← parseValue fuel rest
          let (items, rest) ← parseItems fuel rest
          pure (.arr (item :: items), rest)
      else if c = '{' then
        match skipSpace rest with
        | '}' :: rest => some (.obj [], rest)
        | rest => do
          let (key, value, rest) ← parseField fuel rest
          let (fields, rest) ← parseFields fuel [(key, value)] rest
          pure (.obj fields, rest)
      else readLiteral (c :: rest)

/-- The further items of an array. -/
def parseItems : Nat → List Char → Option (List Json × List Char)
  | 0, _ => none
  | fuel + 1, l =>
    match skipSpace l with
    | ']' :: rest => some ([], rest)
    | ',' :: rest => do
      let (item, rest) ← parseValue fuel rest
      let (items, rest) ← parseItems fuel rest
      pure (item :: items, rest)
    | _ => none

/-- A field of an object: its key, its value and what is after it. -/
def parseField : Nat → List Char → Option (String × Json × List Char)
  | 0, _ => none
  | fuel + 1, l =>
    match skipSpace l with
    | '"' :: rest => do
      let (key, rest) ← readString rest
      match skipSpace rest with
      | ':' :: rest => do
        let (value, rest) ← parseValue fuel rest
        pure (key, value, rest)
      | _ => none
    | _ => none

/-- The fields of an object after those read so far. -/
def parseFields : Nat → Fields → List Char → Option (Fields × List Char)
  | 0, _, _ => none
  | fuel + 1, fields, l =>
    match skipSpace l with
    | '}' :: rest => some (fields, rest)
    | ',' :: rest => do
      let (key, value, rest) ← parseField fuel rest
      parseFields fuel (setField fields key value) rest
    | _ => none

end

/-- `JSON.parse(text)`, its numbers read as they are written: `none` where it throws. -/
def parse (l : List Char) : Option Json :=
  match parseValue (l.length + 1) l with
  | some (value, rest) => if skipSpace rest = [] then some value else none
  | none => none

example : (parse "[ \"\\ud83d\\ude00\\n\", -2.50]".toList).map stringify =
    some "[\"😀\\n\",-2.5]" := by decide +kernel

/-! ### Strings read back -/

/-- A character is not a surrogate. -/
theorem unitChar_toNat (c : Char) : unitChar c.toNat = c := by
  have hvalid := c.valid
  have hchar : Char.ofNat c.toNat = c := Char.ofNat_toNat c
  have hnot : (isHigh c.toNat || isLow c.toNat) = false := by
    have hrange : c.toNat < 0xD800 ∨ (0xDFFF < c.toNat ∧ c.toNat < 0x110000) := hvalid
    simp only [isHigh, isLow, Bool.or_eq_false_iff, Bool.and_eq_false_iff, decide_eq_false_iff_not]
    omega
  rw [unitChar, hnot, hchar]
  rfl

theorem isHigh_toNat (c : Char) : isHigh c.toNat = false := by
  have hrange : c.toNat < 0xD800 ∨ (0xDFFF < c.toNat ∧ c.toNat < 0x110000) := c.valid
  simp only [isHigh, Bool.and_eq_false_iff, decide_eq_false_iff_not]
  omega

/-- The units of a character decode to it, whatever follows. -/
theorem decodeUnits_units (c : Char) (us : List Nat) :
    decodeUnits (units c ++ us) = c :: decodeUnits us := by
  have hrange : c.toNat < 0xD800 ∨ (0xDFFF < c.toNat ∧ c.toNat < 0x110000) := c.valid
  unfold units
  split
  · next hsmall =>
    cases us with
    | nil => simp [decodeUnits, unitChar_toNat]
    | cons u us => simp [decodeUnits, isHigh_toNat, unitChar_toNat]
  · next hlarge =>
    have hhigh : isHigh (0xD800 + (c.toNat - 0x10000) / 0x400) = true := by
      simp only [isHigh, Bool.and_eq_true, decide_eq_true_eq]
      omega
    have hlow : isLow (0xDC00 + (c.toNat - 0x10000) % 0x400) = true := by
      simp only [isLow, Bool.and_eq_true, decide_eq_true_eq]
      omega
    have hpoint : 0x10000 + (0xD800 + (c.toNat - 0x10000) / 0x400 - 0xD800) * 0x400 +
        (0xDC00 + (c.toNat - 0x10000) % 0x400 - 0xDC00) = c.toNat := by
      omega
    show decodeUnits (_ :: _ :: us) = _
    simp only [decodeUnits, hhigh, hlow, Bool.and_self, if_true, hpoint, Char.ofNat_toNat]

theorem decodeUnits_flatMap (l : List Char) : decodeUnits (l.flatMap units) = l := by
  induction l with
  | nil => rfl
  | cons c rest ih => rw [List.flatMap_cons, decodeUnits_units, ih]

theorem units_of_lt {c : Char} (h : c.toNat < 0x10000) : units c = [c.toNat] := if_pos h

/-- The lower digit of a hexadecimal number reads as itself. -/
theorem hexValue_digitChar : ∀ n < 16, hexValue n.digitChar = some n := by decide

/-- An escape of one letter. -/
theorem readUnits_letter {letter : Char} {u : Nat} (hu : escapedUnit letter = some u)
    (rest : List Char) : readUnits ('\\' :: letter :: rest) = withUnits [u] (readUnits rest) := by
  have hne : letter ≠ 'u' := by
    rintro rfl
    have hnone : escapedUnit 'u' = none := by decide
    rw [hnone] at hu
    cases hu
  conv => lhs; unfold readUnits
  rw [if_neg (by decide), if_pos rfl]
  split
  · next heq => exact absurd (List.cons.inj heq).1 hne
  · next heq =>
    obtain ⟨rfl, rfl⟩ := List.cons.inj heq
    rw [hu]
  · next heq => cases heq

/-- An escape of four digits. -/
theorem readUnits_hex {x y z w : Char} {u : Nat} (hu : hexUnit x y z w = some u)
    (rest : List Char) :
    readUnits ('\\' :: 'u' :: x :: y :: z :: w :: rest) = withUnits [u] (readUnits rest) := by
  conv => lhs; unfold readUnits
  simp only [hu]
  rfl

/-- A character that is not escaped. -/
theorem readUnits_plain {c : Char} (hquote : c ≠ '"') (hslash : c ≠ '\\') (hc : ¬ c.toNat < 32)
    (rest : List Char) : readUnits (c :: rest) = withUnits (units c) (readUnits rest) := by
  conv => lhs; unfold readUnits
  rw [if_neg hquote, if_neg hslash, if_neg hc]

/-- A character between quotes reads as its units. -/
theorem readUnits_quoteChar (c : Char) (rest : List Char) :
    readUnits (quoteChar c ++ rest) = withUnits (units c) (readUnits rest) := by
  unfold quoteChar
  split
  · next h =>
    subst h
    exact readUnits_letter (by decide) rest
  · next hquote =>
    split
    · next h =>
      subst h
      exact readUnits_letter (by decide) rest
    · next hslash =>
      by_cases hc : c.toNat < 32
      · have hunits : units c = [c.toNat] := units_of_lt (by omega)
        rw [hunits]
        split
        · next h => rw [h]; exact readUnits_letter (by decide) rest
        split
        · next h => rw [h]; exact readUnits_letter (by decide) rest
        split
        · next h => rw [h]; exact readUnits_letter (by decide) rest
        split
        · next h => rw [h]; exact readUnits_letter (by decide) rest
        split
        · next h => rw [h]; exact readUnits_letter (by decide) rest
        apply readUnits_hex
        have hzero : hexValue '0' = some 0 := by decide
        simp only [hexUnit, hzero, hexValue_digitChar (c.toNat / 16) (by omega),
          hexValue_digitChar (c.toNat % 16) (by omega), Option.bind_eq_bind, Option.bind_some,
          Option.pure_def, Option.some.injEq]
        omega
      · have h8 : ¬ c.toNat = 8 := by omega
        have h9 : ¬ c.toNat = 9 := by omega
        have h10 : ¬ c.toNat = 10 := by omega
        have h12 : ¬ c.toNat = 12 := by omega
        have h13 : ¬ c.toNat = 13 := by omega
        simp only [h8, h9, h10, h12, h13, hc, if_false]
        exact readUnits_plain hquote hslash hc rest

theorem readUnits_quoted (l rest : List Char) :
    readUnits (l.flatMap quoteChar ++ '"' :: rest) = some (l.flatMap units, rest) := by
  induction l with
  | nil =>
    show readUnits ('"' :: rest) = some ([], rest)
    unfold readUnits
    rfl
  | cons c l ih =>
    rw [List.flatMap_cons, List.append_assoc, readUnits_quoteChar, ih]
    rfl

/-- A string reads back. -/
theorem readString_quoted (s : String) (rest : List Char) :
    readString (s.toList.flatMap quoteChar ++ '"' :: rest) = some (s, rest) := by
  unfold readString
  rw [readUnits_quoted, Option.map_some]
  dsimp only
  rw [decodeUnits_flatMap, String.ofList_toList]

/-! ### Values read back -/

mutual

/-- A value as it is in memory: its numbers are numbers, and an object has a key once. -/
def Proper : Json → Prop
  | .decimal text => IsDecimal text
  | .arr items => ProperItems items
  | .obj fields => (fields.map Prod.fst).Nodup ∧ ProperFields fields
  | _ => True

/-- Every item is as it is in memory. -/
def ProperItems : List Json → Prop
  | [] => True
  | item :: rest => Proper item ∧ ProperItems rest

/-- Every field's value is as it is in memory. -/
def ProperFields : List (String × Json) → Prop
  | [] => True
  | (_, value) :: rest => Proper value ∧ ProperFields rest

end

theorem skipSpace_cons {c : Char} (h : isJsonSpace c = false) (rest : List Char) :
    skipSpace (c :: rest) = c :: rest := by
  simp [skipSpace, h]

/-- A text that reads as a number begins with a sign or a digit. -/
theorem readNumber_head {l : List Char} {v : Json} {rest : List Char}
    (h : readNumber l = some (v, rest)) :
    ∃ c l', l = c :: l' ∧ (c = '-' ∨ c.isDigit = true) := by
  cases l with
  | nil => simp [readNumber, readSigned, readMagnitude] at h
  | cons c l' =>
    refine ⟨c, l', rfl, ?_⟩
    by_contra hc
    rw [not_or] at hc
    have hdigit : c.isDigit = false := by simpa using hc.2
    have hnone : readMagnitude (c :: l') = none := by
      unfold readMagnitude
      simp [hdigit]
    have hsigned : readSigned (c :: l') = none := by
      unfold readSigned
      split
      · next heq => exact absurd (List.cons.inj heq).1 hc.1
      · rw [hnone]
        rfl
    rw [readNumber, hsigned] at h
    cases h

theorem isJsonSpace_of_isDigit {c : Char} (h : c.isDigit = true) : isJsonSpace c = false := by
  have hrange : 48 ≤ c.toNat ∧ c.toNat ≤ 57 := by
    simpa [Char.isDigit, UInt32.le_iff_toNat_le] using h
  have hne : ∀ d : Char, d.toNat < 48 → c ≠ d := by
    rintro d hd rfl
    omega
  simp [isJsonSpace, hne ' ' (by decide), hne '\t' (by decide), hne '\n' (by decide),
    hne '\r' (by decide)]

/-- A text that does not begin a string, an array or an object is a word or a number. -/
theorem parseValue_literal {c : Char} (hspace : isJsonSpace c = false) (hquote : c ≠ '"')
    (harr : c ≠ '[') (hobj : c ≠ '{') (fuel : Nat) (rest : List Char) :
    parseValue (fuel + 1) (c :: rest) = readLiteral (c :: rest) := by
  unfold parseValue
  rw [skipSpace_cons hspace]
  dsimp only
  rw [if_neg hquote, if_neg harr, if_neg hobj]

/-- A text that reads as a number reads as that value. -/
theorem parseValue_number {l : List Char} {v : Json} {rest : List Char}
    (h : readNumber l = some (v, rest)) (fuel : Nat) :
    parseValue (fuel + 1) l = some (v, rest) := by
  obtain ⟨c, l', rfl, hc⟩ := readNumber_head h
  have hspace : isJsonSpace c = false := by
    obtain rfl | hc := hc
    · decide
    · exact isJsonSpace_of_isDigit hc
  have hne : ∀ d : Char, d ≠ '-' → d.isDigit = false → c ≠ d := by
    rintro d hd hdigit rfl
    obtain hc | hc := hc
    · exact hd hc
    · rw [hdigit] at hc
      cases hc
  have hafter : ∀ (d : Char) (part : List Char), d ≠ '-' → d.isDigit = false →
      after (String.ofList (d :: part)) (c :: l') = none := by
    intro d part hd hdigit
    have hcd : d ≠ c := (hne d hd hdigit).symm
    simp [after, startsWith, hcd]
  have hliteral : readLiteral (c :: l') = readNumber (c :: l') := by
    have hnull := hafter 'n' ['u', 'l', 'l'] (by decide) (by decide)
    have htrue := hafter 't' ['r', 'u', 'e'] (by decide) (by decide)
    have hfalse := hafter 'f' ['a', 'l', 's', 'e'] (by decide) (by decide)
    unfold readLiteral
    rw [show "null" = String.ofList ['n', 'u', 'l', 'l'] by rfl, hnull,
      show "true" = String.ofList ['t', 'r', 'u', 'e'] by rfl, htrue,
      show "false" = String.ofList ['f', 'a', 'l', 's', 'e'] by rfl, hfalse]
  rw [parseValue_literal hspace (hne _ (by decide) (by decide)) (hne _ (by decide) (by decide))
    (hne _ (by decide) (by decide)), hliteral]
  exact h

theorem endsNumber_cons {c : Char} (hdigit : c.isDigit = false) (hpoint : c ≠ '.') (he : c ≠ 'e')
    (hE : c ≠ 'E') (rest : List Char) : EndsNumber (c :: rest) := by
  intro c' hc'
  obtain rfl : c = c' := by simpa using hc'
  exact ⟨hdigit, hpoint, he, hE⟩

theorem endsNumber_itemsTail (items : List Json) (rest : List Char) :
    EndsNumber (itemsTail items ++ rest) := by
  cases items <;>
    exact endsNumber_cons (by decide) (by decide) (by decide) (by decide) _

theorem endsNumber_fieldsTail (fields : Fields) (rest : List Char) :
    EndsNumber (fieldsTail fields ++ rest) := by
  cases fields <;>
    exact endsNumber_cons (by decide) (by decide) (by decide) (by decide) _

/-- A key that is new comes last. -/
theorem setField_of_not_mem {fields : Fields} {key : String} (h : key ∉ fields.map Prod.fst)
    (value : Json) : setField fields key value = fields ++ [(key, value)] := by
  unfold setField
  rw [if_neg]
  simp only [List.any_eq_true, not_exists, not_and, beq_iff_eq]
  rintro p hp rfl
  exact h (List.mem_map_of_mem hp)

/-- No value's text begins with white space, or like the end of an array. -/
theorem jsonChars_head {v : Json} (hv : Proper v) (rest : List Char) (hrest : EndsNumber rest) :
    ∃ c l, jsonChars v ++ rest = c :: l ∧ isJsonSpace c = false ∧ c ≠ ']' := by
  have hnumber : ∀ {l : List Char} {w : Json}, readNumber l = some (w, rest) →
      ∃ c l', l = c :: l' ∧ isJsonSpace c = false ∧ c ≠ ']' := by
    intro l w h
    obtain ⟨c, l', hl, hc⟩ := readNumber_head h
    refine ⟨c, l', hl, ?_⟩
    obtain rfl | hc := hc
    · exact ⟨by decide, by decide⟩
    · refine ⟨isJsonSpace_of_isDigit hc, ?_⟩
      rintro rfl
      exact absurd hc (by decide)
  cases v with
  | null => exact ⟨_, _, rfl, by decide, by decide⟩
  | bool b => cases b <;> exact ⟨_, _, rfl, by decide, by decide⟩
  | num n => exact hnumber (readNumber_integer n hrest)
  | decimal text => exact hnumber (readNumber_decimal hv hrest)
  | str s => exact ⟨_, _, rfl, by decide, by decide⟩
  | arr items => cases items <;> exact ⟨_, _, rfl, by decide, by decide⟩
  | obj fields =>
    cases fields with
    | nil => exact ⟨_, _, rfl, by decide, by decide⟩
    | cons f fields => exact ⟨_, _, rfl, by decide, by decide⟩

/-- A field reads back once its value does. -/
theorem parseField_written {fuel : Nat} (key : String) {v : Json} {rest : List Char}
    (hvalue : parseValue fuel (jsonChars v ++ rest) = some (v, rest)) :
    parseField (fuel + 1) (quoteChars key ++ ':' :: (jsonChars v ++ rest)) =
      some (key, v, rest) := by
  have hquote : quoteChars key ++ ':' :: (jsonChars v ++ rest) =
      '"' :: (key.toList.flatMap quoteChar ++ '"' :: ':' :: (jsonChars v ++ rest)) := by
    simp [quoteChars]
  have hspace : skipSpace (':' :: (jsonChars v ++ rest)) = ':' :: (jsonChars v ++ rest) :=
    skipSpace_cons (by decide) _
  unfold parseField
  rw [hquote, skipSpace_cons (by decide)]
  simp only [readString_quoted, Option.bind_eq_bind, Option.bind_some, hspace, hvalue, Option.pure_def]

mutual

/-- A value's text reads as the value, whatever follows that does not go on with a number. -/
theorem parseValue_written : ∀ (v : Json), Proper v → ∀ (fuel : Nat) (rest : List Char),
    (jsonChars v).length < fuel → EndsNumber rest →
      parseValue fuel (jsonChars v ++ rest) = some (v, rest)
  | v, _, 0, _, hfuel, _ => absurd hfuel (Nat.not_lt_zero _)
  | .null, _, fuel + 1, rest, _, _ =>
    parseValue_literal (by decide) (by decide) (by decide) (by decide) fuel _
  | .bool true, _, fuel + 1, rest, _, _ =>
    parseValue_literal (by decide) (by decide) (by decide) (by decide) fuel _
  | .bool false, _, fuel + 1, rest, _, _ =>
    parseValue_literal (by decide) (by decide) (by decide) (by decide) fuel _
  | .num n, _, fuel + 1, rest, _, hrest => parseValue_number (readNumber_integer n hrest) fuel
  | .decimal text, hv, fuel + 1, rest, _, hrest =>
    parseValue_number (readNumber_decimal hv hrest) fuel
  | .str s, _, fuel + 1, rest, _, _ => by
    have htext : jsonChars (.str s) ++ rest =
        '"' :: (s.toList.flatMap quoteChar ++ '"' :: rest) := by
      simp [jsonChars, quoteChars]
    unfold parseValue
    rw [htext, skipSpace_cons (by decide)]
    dsimp only
    rw [if_pos rfl, readString_quoted]
    rfl
  | .arr [], _, fuel + 1, rest, _, _ => by
    have htext : jsonChars (.arr []) ++ rest = '[' :: ']' :: rest := by
      simp [jsonChars]
    unfold parseValue
    rw [htext, skipSpace_cons (by decide)]
    dsimp only
    rw [if_neg (by decide), if_pos rfl, skipSpace_cons (by decide)]
    rfl
  | .arr (item :: items), hv, fuel + 1, rest, hfuel, _ => by
    obtain ⟨hitem, hitems⟩ : Proper item ∧ ProperItems items := by
      simpa only [Proper, ProperItems] using hv
    have htext : jsonChars (.arr (item :: items)) ++ rest =
        '[' :: (jsonChars item ++ (itemsTail items ++ rest)) := by
      simp [jsonChars]
    have hlength : (jsonChars item).length + (itemsTail items).length < fuel := by
      simp only [jsonChars, List.length_cons, List.length_append] at hfuel
      omega
    have htail := endsNumber_itemsTail items rest
    have hfirst := parseValue_written item hitem fuel (itemsTail items ++ rest) (by omega) htail
    have hothers := parseItems_written items hitems fuel rest (by omega)
    obtain ⟨c, l, hl, hspace, hclose⟩ := jsonChars_head hitem (itemsTail items ++ rest) htail
    unfold parseValue
    rw [htext, skipSpace_cons (by decide)]
    dsimp only
    rw [if_neg (by decide), if_pos rfl]
    rw [hl] at hfirst
    rw [hl, skipSpace_cons hspace]
    split
    · next heq => exact absurd (List.cons.inj heq).1 hclose
    · simp only [hfirst, hothers, Option.bind_eq_bind, Option.bind_some, Option.pure_def]
  | .obj [], _, fuel + 1, rest, _, _ => by
    have htext : jsonChars (.obj []) ++ rest = '{' :: '}' :: rest := by
      simp [jsonChars]
    unfold parseValue
    rw [htext, skipSpace_cons (by decide)]
    dsimp only
    rw [if_neg (by decide), if_neg (by decide), if_pos rfl, skipSpace_cons (by decide)]
    rfl
  | .obj ((key, value) :: fields), hv, fuel + 1, rest, hfuel, _ => by
    obtain ⟨hkeys, hvalue, hfields⟩ : (((key, value) :: fields).map Prod.fst).Nodup ∧
        Proper value ∧ ProperFields fields := by
      simpa only [Proper, ProperFields] using hv
    have htext : jsonChars (.obj ((key, value) :: fields)) ++ rest =
        '{' :: (quoteChars key ++ ':' :: (jsonChars value ++ (fieldsTail fields ++ rest))) := by
      simp [jsonChars]
    have hlength : (jsonChars value).length + (fieldsTail fields).length + 1 < fuel := by
      simp only [jsonChars, List.length_cons, List.length_append] at hfuel
      omega
    obtain ⟨below, rfl⟩ : ∃ n, fuel = n + 1 := ⟨fuel - 1, by omega⟩
    have htail := endsNumber_fieldsTail fields rest
    have hfirst := parseField_written key
      (parseValue_written value hvalue below (fieldsTail fields ++ rest) (by omega) htail)
    have hothers := parseFields_written fields hfields (below + 1) [(key, value)] rest (by omega)
      hkeys
    have hopen : quoteChars key ++ ':' :: (jsonChars value ++ (fieldsTail fields ++ rest)) =
        '"' :: (key.toList.flatMap quoteChar ++ '"' :: ':' ::
          (jsonChars value ++ (fieldsTail fields ++ rest))) := by
      simp [quoteChars]
    unfold parseValue
    rw [htext, skipSpace_cons (by decide)]
    dsimp only
    rw [if_neg (by decide), if_neg (by decide), if_pos rfl]
    rw [hopen] at hfirst
    rw [hopen, skipSpace_cons (by decide)]
    split
    · next heq => exact absurd (List.cons.inj heq).1 (by decide)
    · simp only [hfirst, hothers, Option.bind_eq_bind, Option.bind_some, Option.pure_def,
        List.singleton_append]

/-- The further items of an array read back. -/
theorem parseItems_written : ∀ (items : List Json), ProperItems items →
    ∀ (fuel : Nat) (rest : List Char), (itemsTail items).length < fuel →
      parseItems fuel (itemsTail items ++ rest) = some (items, rest)
  | _, _, 0, _, hfuel => absurd hfuel (Nat.not_lt_zero _)
  | [], _, fuel + 1, rest, _ => by
    show parseItems (fuel + 1) (']' :: rest) = _
    unfold parseItems
    rw [skipSpace_cons (by decide)]
    rfl
  | item :: items, hitems, fuel + 1, rest, hfuel => by
    obtain ⟨hitem, hitems⟩ : Proper item ∧ ProperItems items := by
      simpa only [ProperItems] using hitems
    have htext : itemsTail (item :: items) ++ rest =
        ',' :: (jsonChars item ++ (itemsTail items ++ rest)) := by
      simp [itemsTail]
    have hlength : (jsonChars item).length + (itemsTail items).length < fuel := by
      simp only [itemsTail, List.length_cons, List.length_append] at hfuel
      omega
    have hfirst := parseValue_written item hitem fuel (itemsTail items ++ rest) (by omega)
      (endsNumber_itemsTail items rest)
    have hothers := parseItems_written items hitems fuel rest (by omega)
    unfold parseItems
    rw [htext, skipSpace_cons (by decide)]
    simp only [hfirst, hothers, Option.bind_eq_bind, Option.bind_some, Option.pure_def]

/-- The further fields of an object read back, after those before them. -/
theorem parseFields_written : ∀ (fields : List (String × Json)), ProperFields fields →
    ∀ (fuel : Nat) (before : Fields) (rest : List Char), (fieldsTail fields).length < fuel →
      ((before ++ fields).map Prod.fst).Nodup →
        parseFields fuel before (fieldsTail fields ++ rest) = some (before ++ fields, rest)
  | _, _, 0, _, _, hfuel, _ => absurd hfuel (Nat.not_lt_zero _)
  | [], _, fuel + 1, before, rest, _, _ => by
    show parseFields (fuel + 1) before ('}' :: rest) = _
    unfold parseFields
    rw [skipSpace_cons (by decide), List.append_nil]
    rfl
  | (key, value) :: fields, hfields, fuel + 1, before, rest, hfuel, hkeys => by
    obtain ⟨hvalue, hfields⟩ : Proper value ∧ ProperFields fields := by
      simpa only [ProperFields] using hfields
    have htext : fieldsTail ((key, value) :: fields) ++ rest =
        ',' :: (quoteChars key ++ ':' :: (jsonChars value ++ (fieldsTail fields ++ rest))) := by
      simp [fieldsTail]
    have hlength : (jsonChars value).length + (fieldsTail fields).length + 1 < fuel := by
      simp only [fieldsTail, List.length_cons, List.length_append] at hfuel
      omega
    obtain ⟨below, rfl⟩ : ∃ n, fuel = n + 1 := ⟨fuel - 1, by omega⟩
    have hfirst := parseField_written key
      (parseValue_written value hvalue below (fieldsTail fields ++ rest) (by omega)
        (endsNumber_fieldsTail fields rest))
    have hnew : key ∉ before.map Prod.fst := by
      intro h
      rw [List.map_append, List.nodup_append] at hkeys
      exact hkeys.2.2 key h key (by simp) rfl
    have happend : before ++ (key, value) :: fields = before ++ [(key, value)] ++ fields := by
      simp
    rw [happend] at hkeys ⊢
    have hothers := parseFields_written fields hfields (below + 1) (before ++ [(key, value)]) rest
      (by omega) hkeys
    unfold parseFields
    rw [htext, skipSpace_cons (by decide)]
    simp only [hfirst, setField_of_not_mem hnew, hothers, Option.bind_eq_bind, Option.bind_some]

end

/-- A value's JSON text parses to the value. -/
theorem parse_jsonChars {v : Json} (hv : Proper v) : parse (jsonChars v) = some v := by
  have hread := parseValue_written v hv ((jsonChars v).length + 1) [] (by omega) (by
    intro c hc
    cases hc)
  rw [List.append_nil] at hread
  unfold parse
  rw [hread]
  rfl

end MailRuntime.Js
