import MailRuntime.Js.Encoding

/-!
# Regular expressions and decoders

The few shapes of regular expressions the source uses, on lists of characters, and what
it decodes bytes with. An expression is a function of the text from a position on, which
says what it matched there; `replaceAll`, `firstMatch` and `breakAt` walk it along a text.

Where the source cuts a character in two that UTF-16 writes as a pair, the half that stays
is U+FFFD, which is what it is encoded as.
-/

namespace MailRuntime.Js

/-! ### Matching -/

/-- The text starts with `part`. -/
def startsWith (part : String) (l : List Char) : Bool := part.toList.isPrefixOf l

/-- What follows `part` at the head of the text. -/
def after (part : String) (l : List Char) : Option (List Char) :=
  if startsWith part l then some (l.drop part.length) else none

/-- What follows `part` at the head of the text, its ASCII letters in either case. -/
def afterIgnoringCase (part : String) (l : List Char) : Option (List Char) :=
  if (l.take part.length).map Char.toLower = part.toList then some (l.drop part.length) else none

/-- `text.replace(/…/g, …)`: `find` says what a match at the head is replaced by and what
follows it. The first argument bounds the number of steps. -/
def replaceFrom (find : List Char → Option (List Char × List Char)) : Nat → List Char → List Char
  | 0, l => l
  | _, [] => []
  | fuel + 1, c :: rest =>
    match find (c :: rest) with
    | some (replacement, rest) => replacement ++ replaceFrom find fuel rest
    | none => c :: replaceFrom find fuel rest

/-- `text.replace(/…/g, …)`. -/
def replaceAll (find : List Char → Option (List Char × List Char)) (l : List Char) : List Char :=
  replaceFrom find l.length l

/-- `text.match(/…/)`: the first position that matches. -/
def firstMatch {α : Type} (find : List Char → Option α) (l : List Char) : Option α :=
  l.tails.findSome? find

/-- The text before the first position where `found` holds, and the text from there. -/
def breakAt (found : List Char → Bool) : List Char → Option (List Char × List Char)
  | [] => if found [] then some ([], []) else none
  | c :: rest =>
    if found (c :: rest) then some ([], c :: rest)
    else (breakAt found rest).map fun (before, tail) => (c :: before, tail)

/-- `[…]+`: the characters in a class, if there are any, and what follows them. -/
def oneOrMore (inClass : Char → Bool) (l : List Char) : Option (List Char × List Char) :=
  if (l.takeWhile inClass).isEmpty then none
  else some (l.takeWhile inClass, l.dropWhile inClass)

/-! ### White space and lines -/

/-- `/\s+/` at the head, replaced. -/
def spacesAs (replacement : List Char) (l : List Char) : Option (List Char × List Char) :=
  (oneOrMore isSpace l).map fun (_, rest) => (replacement, rest)

/-- `text.replace(/\s+/g, " ")`. -/
def collapseSpaces (l : List Char) : List Char := replaceAll (spacesAs [' ']) l

/-- A character before the first of some parts. -/
def consHead (c : Char) : List (List Char) → List (List Char)
  | [] => [[c]]
  | part :: parts => (c :: part) :: parts

/-- `text.split(/\r?\n/)`. -/
def splitLines : List Char → List (List Char)
  | [] => [[]]
  | '\r' :: '\n' :: rest => [] :: splitLines rest
  | '\n' :: rest => [] :: splitLines rest
  | c :: rest => consHead c (splitLines rest)

/-- The non-blank parts of `text.split(/\s+/)`. -/
def splitSpaces (l : List Char) : List (List Char) :=
  (l.splitOnP isSpace).filter fun part => !part.isEmpty

/-- `text.split(separator)`, of a separator that is not empty. -/
def splitFrom (separator : List Char) : Nat → List Char → List (List Char)
  | 0, l => [l]
  | _, [] => [[]]
  | fuel + 1, c :: rest =>
    if separator.isPrefixOf (c :: rest) then
      [] :: splitFrom separator fuel ((c :: rest).drop separator.length)
    else consHead c (splitFrom separator fuel rest)

/-- `text.split(separator)`, of a separator that is not empty. -/
def splitText (separator : List Char) (l : List Char) : List (List Char) :=
  splitFrom separator l.length l

/-! ### UTF-16 units -/

/-- The UTF-16 units of a character. -/
def units (c : Char) : List Nat :=
  if c.toNat < 0x10000 then [c.toNat]
  else [0xD800 + (c.toNat - 0x10000) / 0x400, 0xDC00 + (c.toNat - 0x10000) % 0x400]

/-- The UTF-16 units of a text. -/
def utf16 (l : List Char) : List Nat := l.flatMap units

/-- What a decoder and an encoder put for what they cannot read or write. -/
def replacementChar : Char := '\uFFFD'

/-- `text.slice(0, n)`. -/
def takeUnits : Nat → List Char → List Char
  | _, [] => []
  | n, c :: rest =>
    if (units c).length ≤ n then c :: takeUnits (n - (units c).length) rest
    else if n = 0 then [] else [replacementChar]

/-- `text.slice(n)`. -/
def dropUnits : Nat → List Char → List Char
  | _, [] => []
  | n, c :: rest =>
    if n = 0 then c :: rest
    else if (units c).length ≤ n then dropUnits (n - (units c).length) rest
    else replacementChar :: rest

/-! ### Decoders -/

/-- Where the UTF-8 decoder stands inside a character: how many bytes are to come, the bounds
of the next one, and the code point so far. -/
structure Utf8State where
  needed : Nat
  lower : Nat
  upper : Nat
  point : Nat
deriving DecidableEq, Repr

/-- The first byte of a character: what is decoded by it, and what is to come. -/
def utf8First (b : Nat) : List Char × Option Utf8State :=
  if b < 0x80 then ([Char.ofNat b], none)
  else if 0xC2 ≤ b ∧ b ≤ 0xDF then ([], some ⟨1, 0x80, 0xBF, b % 32⟩)
  else if 0xE0 ≤ b ∧ b ≤ 0xEF then
    ([], some ⟨2, if b = 0xE0 then 0xA0 else 0x80, if b = 0xED then 0x9F else 0xBF, b % 16⟩)
  else if 0xF0 ≤ b ∧ b ≤ 0xF4 then
    ([], some ⟨3, if b = 0xF0 then 0x90 else 0x80, if b = 0xF4 then 0x8F else 0xBF, b % 8⟩)
  else ([replacementChar], none)

/-- The decoder from a state on. A byte that cannot follow ends the character, and is read
again as a first byte. -/
def utf8Chars : Option Utf8State → List UInt8 → List Char
  | none, [] => []
  | some _, [] => [replacementChar]
  | none, b :: rest => (utf8First b.toNat).1 ++ utf8Chars (utf8First b.toNat).2 rest
  | some q, b :: rest =>
    if q.lower ≤ b.toNat ∧ b.toNat ≤ q.upper then
      let point := q.point * 64 + b.toNat % 64
      if q.needed = 1 then Char.ofNat point :: utf8Chars none rest
      else utf8Chars (some ⟨q.needed - 1, 0x80, 0xBF, point⟩) rest
    else replacementChar :: ((utf8First b.toNat).1 ++ utf8Chars (utf8First b.toNat).2 rest)

/-- `new TextDecoder().decode(bytes)`, which takes off a byte order mark. -/
def utf8Decode (bytes : List UInt8) : List Char :=
  match bytes with
  | 0xEF :: 0xBB :: 0xBF :: rest => utf8Chars none rest
  | bytes => utf8Chars none bytes

/-- The value of a base64 digit. -/
def base64Value (c : Char) : Option Nat :=
  let n := c.toNat
  if 65 ≤ n ∧ n ≤ 90 then some (n - 65)
  else if 97 ≤ n ∧ n ≤ 122 then some (n - 71)
  else if 48 ≤ n ∧ n ≤ 57 then some (n + 4)
  else if c = '+' then some 62
  else if c = '/' then some 63
  else none

/-- The bytes of base64 digits, four at a time; bits that do not fill a byte are lost. -/
def base64Bytes : List Nat → List UInt8
  | a :: b :: c :: d :: rest =>
    UInt8.ofNat (a * 4 + b / 16) :: UInt8.ofNat (b % 16 * 16 + c / 4) ::
      UInt8.ofNat (c % 4 * 64 + d) :: base64Bytes rest
  | [a, b, c] => [UInt8.ofNat (a * 4 + b / 16), UInt8.ofNat (b % 16 * 16 + c / 4)]
  | [a, b] => [UInt8.ofNat (a * 4 + b / 16)]
  | [_] | [] => []

/-- The text without the padding that completes its last four characters. -/
def withoutPadding (l : List Char) : List Char :=
  if l.length % 4 = 0 then
    match l.reverse with
    | '=' :: '=' :: rest => rest.reverse
    | '=' :: rest => rest.reverse
    | _ => l
  else l

/-- `atob` of a text without white space: `none` where it throws. -/
def atob (l : List Char) : Option (List UInt8) :=
  let digits := withoutPadding l
  if digits.length % 4 = 1 then none else (digits.mapM base64Value).map base64Bytes

/-- The value of a hexadecimal digit. -/
def hexValue (c : Char) : Option Nat :=
  let n := c.toNat
  if 48 ≤ n ∧ n ≤ 57 then some (n - 48)
  else if 65 ≤ n ∧ n ≤ 70 then some (n - 55)
  else if 97 ≤ n ∧ n ≤ 102 then some (n - 87)
  else none

example : atob "aGVsbG8=".toList = some (utf8 "hello") := by decide

example : String.ofList (utf8Decode (utf8 "héllo €")) = "héllo €" := by decide +kernel

/-! ### Capital letters -/

/-- A capital letter moves up by 32, every other character stays. -/
theorem toLower_cases (c : Char) :
    (c.toLower = c ∧ ¬ (65 ≤ c.toNat ∧ c.toNat ≤ 90)) ∨
      (65 ≤ c.toNat ∧ c.toNat ≤ 90 ∧ c.toLower.toNat = c.toNat + 32) := by
  unfold Char.toLower
  split
  next h =>
    right
    have h1 : 65 ≤ c.toNat := UInt32.le_iff_toNat_le.mp h.1
    have h2 : c.toNat ≤ 90 := UInt32.le_iff_toNat_le.mp h.2
    refine ⟨h1, h2, ?_⟩
    show (c.val + ('a'.val - 'A'.val)).toNat = c.toNat + 32
    rw [UInt32.toNat_add]
    show (c.toNat + 32) % 2 ^ 32 = c.toNat + 32
    omega
  next h =>
    left
    refine ⟨rfl, fun hrange => h ⟨?_, ?_⟩⟩
    · exact UInt32.le_iff_toNat_le.mpr hrange.1
    · exact UInt32.le_iff_toNat_le.mpr hrange.2

theorem toLower_toLower (c : Char) : c.toLower.toLower = c.toLower := by
  rcases toLower_cases c.toLower with ⟨h, -⟩ | ⟨hlow, hhigh, -⟩
  · exact h
  · rcases toLower_cases c with ⟨h, -⟩ | ⟨h65, -, h⟩
    · rw [h, h]
    · omega

theorem isSpace_toLower (c : Char) : isSpace c.toLower = isSpace c := by
  rcases toLower_cases c with ⟨h, -⟩ | ⟨hlow, hhigh, h⟩
  · rw [h]
  · simp only [isSpace, h]
    grind

/-! ### Characters of bytes -/

/-- The character with the number of a byte. -/
theorem toNat_ofNat_byte (byte : UInt8) : (Char.ofNat byte.toNat).toNat = byte.toNat := by
  have hlt := byte.toNat_lt
  have hvalid : byte.toNat.isValidChar := .inl (by omega)
  rw [Char.ofNat, dif_pos hvalid]
  rfl

theorem units_ofNat_byte (byte : UInt8) : units (Char.ofNat byte.toNat) = [byte.toNat] := by
  have hlt := byte.toNat_lt
  rw [units, toNat_ofNat_byte, if_pos (by omega)]

end MailRuntime.Js
