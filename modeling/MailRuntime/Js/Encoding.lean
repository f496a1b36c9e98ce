import MailRuntime.Js.Json

/-!
# Bytes and base64

`TextEncoder`, `btoa` and the string replacements that a message is put together with.
Bytes are a list, a text a string.
-/

namespace MailRuntime.Js

/-- `new TextEncoder().encode(text)`. -/
def utf8 (text : String) : List UInt8 := text.toList.flatMap String.utf8EncodeChar

/-- The digit of six bits. -/
def base64Digit (n : Nat) : Char :=
  if n < 26 then Char.ofNat (65 + n)
  else if n < 52 then Char.ofNat (97 + (n - 26))
  else if n < 62 then Char.ofNat (48 + (n - 52))
  else if n = 62 then '+' else '/'

/-- `btoa` of bytes, three at a time. -/
def base64Chars : List UInt8 → List Char
  | [] => []
  | [a] =>
    [base64Digit (a.toNat / 4), base64Digit (a.toNat % 4 * 16), '=', '=']
  | [a, b] =>
    [base64Digit (a.toNat / 4), base64Digit (a.toNat % 4 * 16 + b.toNat / 16),
      base64Digit (b.toNat % 16 * 4), '=']
  | a :: b :: c :: rest =>
    base64Digit (a.toNat / 4) :: base64Digit (a.toNat % 4 * 16 + b.toNat / 16) ::
      base64Digit (b.toNat % 16 * 4 + c.toNat / 64) :: base64Digit (c.toNat % 64) ::
      base64Chars rest

/-- `toBase64(bytes)`. -/
def toBase64 (bytes : List UInt8) : String := String.ofList (base64Chars bytes)

/-- `textToBase64(value)`. -/
def textToBase64 (value : String) : String := toBase64 (utf8 value)

/-- `value.replace(/\r?\n/g, " ")` on characters. -/
def unfoldChars : List Char → List Char
  | [] => []
  | '\r' :: '\n' :: rest => ' ' :: unfoldChars rest
  | '\n' :: rest => ' ' :: unfoldChars rest
  | c :: rest => c :: unfoldChars rest

/-- `normalizeHeaderValue`. -/
def normalizeHeaderValue (value : String) : String :=
  trim (String.ofList (unfoldChars value.toList))

/-- A line break every 76 characters, counting down from `room`. -/
def foldChars : Nat → List Char → List Char
  | _, [] => []
  | 0, c :: rest => '\r' :: '\n' :: c :: foldChars 75 rest
  | room + 1, c :: rest => c :: foldChars room rest

/-- `foldBase64`. -/
def foldBase64 (input : String) : String := String.ofList (foldChars 76 input.toList)

/-- The parts of a text between separators: `text.split(separator)` for one character. -/
def splitOnChar (separator : Char) (text : String) : List String :=
  (text.toList.splitOn separator).map String.ofList

example : textToBase64 "hello" = "aGVsbG8=" := by decide

example : normalizeHeaderValue " a\r\nb\nc " = "a b c" := by decide

/-! ### What is encoded can be told -/

theorem utf8_injective {a b : String} (h : utf8 a = utf8 b) : a = b := by
  have hbytes : a.toList.utf8Encode = b.toList.utf8Encode := by
    rw [List.utf8Encode, List.utf8Encode]
    exact congrArg List.toByteArray h
  rw [← String.toByteArray_inj, ← String.utf8Encode_toList, ← String.utf8Encode_toList]
  exact hbytes

/-- A digit tells its six bits. -/
theorem base64Digit_inj {m n : Nat} (hm : m < 64) (hn : n < 64)
    (h : base64Digit m = base64Digit n) : m = n := by
  have hall : ∀ a b : Fin 64, base64Digit a = base64Digit b → a = b := by decide +kernel
  exact congrArg Fin.val (hall ⟨m, hm⟩ ⟨n, hn⟩ h)

theorem base64Digit_ne {n : Nat} (hn : n < 64) : base64Digit n ≠ '=' := by
  have hall : ∀ a : Fin 64, base64Digit a ≠ '=' := by decide +kernel
  exact hall ⟨n, hn⟩

theorem base64Chars_injective : ∀ {l l' : List UInt8}, base64Chars l = base64Chars l' → l = l'
  | [], [], _ => rfl
  | [], [_], h | [], [_, _], h | [], _ :: _ :: _ :: _, h => by simp [base64Chars] at h
  | [_], [], h | [_, _], [], h | _ :: _ :: _ :: _, [], h => by simp [base64Chars] at h
  | [a], [a'], h => by
    simp only [base64Chars, List.cons.injEq, and_true] at h
    have h1 := base64Digit_inj (by have := a.toNat_lt; omega) (by have := a'.toNat_lt; omega) h.1
    have h2 := base64Digit_inj (by omega) (by omega) h.2
    have ha : a.toNat = a'.toNat := by omega
    rw [UInt8.toNat_inj.1 ha]
  | [a], [a', b'], h => by
    simp only [base64Chars, List.cons.injEq, and_true] at h
    exact absurd h.2.2.symm (base64Digit_ne (by omega))
  | [a, b], [a'], h => by
    simp only [base64Chars, List.cons.injEq, and_true] at h
    exact absurd h.2.2 (base64Digit_ne (by omega))
  | [a, b], [a', b'], h => by
    simp only [base64Chars, List.cons.injEq, and_true] at h
    have hlt := a.toNat_lt
    have hlt' := a'.toNat_lt
    have hltb := b.toNat_lt
    have hltb' := b'.toNat_lt
    have h1 := base64Digit_inj (by omega) (by omega) h.1
    have h2 := base64Digit_inj (by omega) (by omega) h.2.1
    have h3 := base64Digit_inj (by omega) (by omega) h.2.2
    have ha : a.toNat = a'.toNat := by omega
    have hb : b.toNat = b'.toNat := by omega
    rw [UInt8.toNat_inj.1 ha, UInt8.toNat_inj.1 hb]
  | [a], a' :: b' :: c' :: rest', h => by
    simp only [base64Chars, List.cons.injEq] at h
    exact absurd h.2.2.1.symm (base64Digit_ne (by have := c'.toNat_lt; omega))
  | [a, b], a' :: b' :: c' :: rest', h => by
    simp only [base64Chars, List.cons.injEq] at h
    exact absurd h.2.2.2.1.symm (base64Digit_ne (by omega))
  | a :: b :: c :: rest, [a'], h => by
    simp only [base64Chars, List.cons.injEq] at h
    exact absurd h.2.2.1 (base64Digit_ne (by have := c.toNat_lt; omega))
  | a :: b :: c :: rest, [a', b'], h => by
    simp only [base64Chars, List.cons.injEq] at h
    exact absurd h.2.2.2.1 (base64Digit_ne (by omega))
  | a :: b :: c :: rest, a' :: b' :: c' :: rest', h => by
    simp only [base64Chars, List.cons.injEq] at h
    have hlt := a.toNat_lt
    have hlt' := a'.toNat_lt
    have hltb := b.toNat_lt
    have hltb' := b'.toNat_lt
    have hltc := c.toNat_lt
    have hltc' := c'.toNat_lt
    have h1 := base64Digit_inj (by omega) (by omega) h.1
    have h2 := base64Digit_inj (by omega) (by omega) h.2.1
    have h3 := base64Digit_inj (by omega) (by omega) h.2.2.1
    have h4 := base64Digit_inj (by omega) (by omega) h.2.2.2.1
    have ha : a.toNat = a'.toNat := by omega
    have hb : b.toNat = b'.toNat := by omega
    have hc : c.toNat = c'.toNat := by omega
    rw [UInt8.toNat_inj.1 ha, UInt8.toNat_inj.1 hb, UInt8.toNat_inj.1 hc,
      base64Chars_injective h.2.2.2.2]

theorem toBase64_injective {l l' : List UInt8} (h : toBase64 l = toBase64 l') : l = l' :=
  base64Chars_injective (String.ofList_injective h)

theorem join_append {separator : String} {l l' : List String} (hl : l ≠ []) (hl' : l' ≠ []) :
    join separator (l ++ l') = join separator l ++ separator ++ join separator l' := by
  induction l with
  | nil => exact absurd rfl hl
  | cons item rest ih =>
    obtain ⟨item', rest', rfl⟩ := List.exists_cons_of_ne_nil hl'
    cases rest with
    | nil => rfl
    | cons next rest =>
      have ih := ih (by simp)
      simp only [List.cons_append, join] at ih ⊢
      rw [ih]
      simp only [String.append_assoc]

end MailRuntime.Js
