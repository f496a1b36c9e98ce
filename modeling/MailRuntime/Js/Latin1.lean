import MailRuntime.Js.Decoding
import MailRuntime.Js.JsonText

/-!
# Bytes as characters

`btoa` takes a text for bytes, one for each UTF-16 unit, and `atob` gives bytes as a text, one
character for each. So a text in UTF-8 that is read with `atob` is misread wherever it is not ASCII:
each of its characters turns into two or more. A JSON text in UTF-8 is misread as the text of a
value whose strings are misread.
-/

namespace MailRuntime.Js

/-- The character that `atob` gives for a byte. -/
def byteChar (b : UInt8) : Char := Char.ofNat b.toNat

/-- `btoa(text)`: `none` where it throws. -/
def btoa (text : List Char) : Option (List Char) :=
  if ∀ u ∈ utf16 text, u < 256 then some (base64Chars ((utf16 text).map UInt8.ofNat)) else none

/-- The bytes of a character in UTF-8, each read as a character. -/
def misread (c : Char) : List Char := (String.utf8EncodeChar c).map byteChar

/-- A string in UTF-8, read byte by byte. -/
def misreadString (s : String) : String := String.ofList (s.toList.flatMap misread)

mutual

/-- A value with its strings and its keys misread. -/
def misreadJson : Json → Json
  | .str s => .str (misreadString s)
  | .arr items => .arr (misreadItems items)
  | .obj fields => .obj (misreadFields fields)
  | value => value

/-- The items of an array, misread. -/
def misreadItems : List Json → List Json
  | [] => []
  | item :: rest => misreadJson item :: misreadItems rest

/-- The fields of an object, misread. -/
def misreadFields : List (String × Json) → List (String × Json)
  | [] => []
  | (key, value) :: rest => (misreadString key, misreadJson value) :: misreadFields rest

end

/-! ### Bytes -/

@[simp] theorem toNat_byteChar (b : UInt8) : (byteChar b).toNat = b.toNat := toNat_ofNat_byte b

theorem byteChar_injective {a b : UInt8} (h : byteChar a = byteChar b) : a = b := by
  have htoNat := congrArg Char.toNat h
  rw [toNat_byteChar, toNat_byteChar] at htoNat
  exact UInt8.toNat_inj.1 htoNat

theorem lt_of_units {c : Char} (h : ∀ u ∈ units c, u < 256) : c.toNat < 256 := by
  unfold units at h
  split at h
  · exact h _ List.mem_cons_self
  · have := h _ List.mem_cons_self
    omega

theorem utf16_of_lt {l : List Char} (h : ∀ c ∈ l, c.toNat < 256) : utf16 l = l.map Char.toNat := by
  induction l with
  | nil => rfl
  | cons c rest ih =>
    have hc := h c List.mem_cons_self
    have hrest := ih fun d hd => h d (List.mem_cons_of_mem _ hd)
    unfold utf16 at hrest ⊢
    rw [List.flatMap_cons, hrest, units_of_lt (by omega), List.map_cons]
    rfl

/-- `btoa` takes the texts of Latin-1. -/
theorem isSome_btoa (l : List Char) : (btoa l).isSome = true ↔ ∀ c ∈ l, c.toNat < 256 := by
  unfold btoa
  split
  · next h =>
    refine iff_of_true rfl fun c hc => lt_of_units fun u hu => h u ?_
    exact List.mem_flatMap.2 ⟨c, hc, hu⟩
  · next h =>
    refine iff_of_false Bool.false_ne_true fun hall => h ?_
    rw [utf16_of_lt hall]
    intro u hu
    obtain ⟨c, hc, rfl⟩ := List.mem_map.1 hu
    exact hall c hc

/-- What `btoa` writes is base64 that reads back. -/
theorem btoa_of_lt {l : List Char} (h : ∀ c ∈ l, c.toNat < 256) :
    ∃ bytes : List UInt8, btoa l = some (base64Chars bytes) ∧ bytes.map byteChar = l := by
  have hunits : ∀ u ∈ utf16 l, u < 256 := by
    rw [utf16_of_lt h]
    intro u hu
    obtain ⟨c, hc, rfl⟩ := List.mem_map.1 hu
    exact h c hc
  refine ⟨(utf16 l).map UInt8.ofNat, if_pos hunits, ?_⟩
  rw [utf16_of_lt h, List.map_map, List.map_map]
  rw [List.map_congr_left (g := id), List.map_id]
  intro c hc
  have hbyte : (UInt8.ofNat c.toNat).toNat = c.toNat := UInt8.toNat_ofNat_of_lt' (h c hc)
  show Char.ofNat (UInt8.ofNat c.toNat).toNat = c
  rw [hbyte, Char.ofNat_toNat]

/-! ### Characters misread -/

theorem misread_of_lt {c : Char} (h : c.toNat < 128) : misread c = [c] := by
  have hc : Char.ofNat c.toNat = c := Char.ofNat_toNat c
  unfold misread String.utf8EncodeChar
  have hval : c.val.toNat = c.toNat := rfl
  dsimp only
  rw [hval, if_pos (by omega), List.map_singleton]
  have hbyte : (UInt8.ofNat c.toNat).toNat = c.toNat := UInt8.toNat_ofNat_of_lt' (show c.toNat < 256 by omega)
  unfold byteChar
  rw [hbyte, hc]

/-- A character that is not ASCII turns into several that are not. -/
theorem misread_of_le {c : Char} (h : 128 ≤ c.toNat) :
    2 ≤ (misread c).length ∧ ∀ d ∈ misread c, 128 ≤ d.toNat := by
  have hvalid : c.val.toNat < 0xD800 ∨ (0xDFFF < c.val.toNat ∧ c.val.toNat < 0x110000) := c.valid
  have hval : 128 ≤ c.val.toNat := h
  have hbyte : ∀ n : Nat, 128 ≤ n → n < 256 → 128 ≤ (byteChar (UInt8.ofNat n)).toNat := by
    intro n hlow hhigh
    rw [toNat_byteChar, UInt8.toNat_ofNat_of_lt' hhigh]
    exact hlow
  unfold misread String.utf8EncodeChar
  generalize c.val.toNat = v at hvalid hval
  dsimp only
  rw [if_neg (by omega)]
  split
  · simp only [List.map_cons, List.map_nil, List.length_cons, List.length_nil, List.forall_mem_cons]
    exact ⟨by omega, hbyte _ (by omega) (by omega), hbyte _ (by omega) (by omega), by simp⟩
  split
  · simp only [List.map_cons, List.map_nil, List.length_cons, List.length_nil, List.forall_mem_cons]
    exact ⟨by omega, hbyte _ (by omega) (by omega), hbyte _ (by omega) (by omega),
      hbyte _ (by omega) (by omega), by simp⟩
  · simp only [List.map_cons, List.map_nil, List.length_cons, List.length_nil, List.forall_mem_cons]
    exact ⟨by omega, hbyte _ (by omega) (by omega), hbyte _ (by omega) (by omega),
      hbyte _ (by omega) (by omega), hbyte _ (by omega) (by omega), by simp⟩

/-- A text in UTF-8, read byte by byte. -/
theorem map_byteChar_utf8 (s : String) : (utf8 s).map byteChar = s.toList.flatMap misread := by
  unfold utf8 misread
  rw [List.map_flatMap]

theorem misreadString_injective {s t : String} (h : misreadString s = misreadString t) : s = t := by
  have hchars := String.ofList_injective h
  rw [← map_byteChar_utf8, ← map_byteChar_utf8] at hchars
  exact utf8_injective (List.map_injective_iff.2 (fun _ _ => byteChar_injective) hchars)

theorem lt_of_all {l : List Char} (h : l.all (fun c => decide (c.toNat < 128)) = true) :
    ∀ c ∈ l, c.toNat < 128 := by
  intro c hc
  exact of_decide_eq_true (List.all_eq_true.1 h c hc)

theorem flatMap_misread_of_lt {l : List Char} (h : ∀ c ∈ l, c.toNat < 128) :
    l.flatMap misread = l := by
  induction l with
  | nil => rfl
  | cons c rest ih =>
    rw [List.flatMap_cons, misread_of_lt (h c List.mem_cons_self),
      ih fun d hd => h d (List.mem_cons_of_mem _ hd)]
    rfl

/-- Only ASCII is read as it is: any other character makes the text longer. -/
theorem flatMap_misread_eq_iff (l : List Char) : l.flatMap misread = l ↔ ∀ c ∈ l, c.toNat < 128 := by
  have hlength : ∀ l : List Char, l.length ≤ (l.flatMap misread).length ∧
      ((∃ c ∈ l, 128 ≤ c.toNat) → l.length < (l.flatMap misread).length) := by
    intro l
    induction l with
    | nil => simp
    | cons c rest ih =>
      obtain ⟨hle, hlt⟩ := ih
      rw [List.flatMap_cons, List.length_append, List.length_cons]
      by_cases hc : c.toNat < 128
      · rw [misread_of_lt hc]
        refine ⟨by simp only [List.length_singleton]; omega, ?_⟩
        rintro ⟨d, hd, hwide⟩
        obtain rfl | hd := List.mem_cons.1 hd
        · omega
        · have := hlt ⟨d, hd, hwide⟩
          simp only [List.length_singleton]
          omega
      · have := (misread_of_le (Nat.le_of_not_lt hc)).1
        exact ⟨by omega, fun _ => by omega⟩
  constructor
  · intro h c hc
    by_contra hwide
    have hlt := (hlength l).2 ⟨c, hc, Nat.le_of_not_lt hwide⟩
    rw [h] at hlt
    omega
  · exact flatMap_misread_of_lt

/-! ### JSON texts misread -/

theorem lt_of_isDigit {c : Char} (h : c.isDigit = true) : c.toNat < 128 := by
  have hrange : 48 ≤ c.toNat ∧ c.toNat ≤ 57 := by
    simpa [Char.isDigit, UInt32.le_iff_toNat_le] using h
  omega

theorem lt_of_mem_signChars {negative : Bool} {c : Char} (h : c ∈ signChars negative) :
    c.toNat < 128 := by
  cases negative with
  | false => cases h
  | true =>
    obtain rfl := List.mem_singleton.1 h
    decide

/-- A number is written in ASCII. -/
theorem lt_of_mem_magnitudeChars {d : Nat} {e : Int} {c : Char} (h : c ∈ magnitudeChars d e) :
    c.toNat < 128 := by
  have hdigits : ∀ n : Nat, ∀ x ∈ Nat.toDigits 10 n, x.toNat < 128 := fun n x hx =>
    lt_of_isDigit (isDigit_toDigits x hx)
  have hzeros : ∀ n : Nat, ∀ x ∈ List.replicate n '0', x.toNat < 128 := by
    intro n x hx
    rw [List.eq_of_mem_replicate hx]
    decide
  have hpoint : ∀ l : List Char, (∀ x ∈ l, x.toNat < 128) → ∀ x ∈ '.' :: l, x.toNat < 128 := by
    intro l hl x hx
    obtain rfl | hx := List.mem_cons.1 hx
    · decide
    · exact hl x hx
  have htake : ∀ n : Nat, ∀ x ∈ (Nat.toDigits 10 d).take n, x.toNat < 128 := fun n x hx =>
    hdigits d x (List.mem_of_mem_take hx)
  have hdrop : ∀ n : Nat, ∀ x ∈ (Nat.toDigits 10 d).drop n, x.toNat < 128 := fun n x hx =>
    hdigits d x (List.mem_of_mem_drop hx)
  unfold magnitudeChars at h
  dsimp only at h
  split at h
  · obtain h | h := List.mem_append.1 h
    · exact hdigits d c h
    · exact hzeros _ c h
  split at h
  · obtain h | h := List.mem_append.1 h
    · exact htake _ c h
    · exact hpoint _ (hdrop _) c h
  split at h
  · obtain rfl | h := List.mem_cons.1 h
    · decide
    · refine hpoint _ ?_ c h
      intro x hx
      obtain hx | hx := List.mem_append.1 hx
      · exact hzeros _ x hx
      · exact hdigits d x hx
  · obtain h | h := List.mem_append.1 h
    · obtain h | h := List.mem_append.1 h
      · exact htake _ c h
      · split at h
        · cases h
        · exact hpoint _ (hdrop 1) c h
    · obtain rfl | h := List.mem_cons.1 h
      · decide
      · obtain rfl | h := List.mem_cons.1 h
        · split <;> decide
        · exact hdigits _ c h

theorem lt_of_mem_integerChars {n : Int} {c : Char} (h : c ∈ integerChars n) : c.toNat < 128 := by
  unfold integerChars at h
  split at h
  · obtain rfl := List.mem_singleton.1 h
    decide
  · obtain h | h := List.mem_append.1 h
    · exact lt_of_mem_signChars h
    · exact lt_of_mem_magnitudeChars h

theorem lt_of_mem_decimal {text : String} (htext : IsDecimal text) {c : Char}
    (h : c ∈ text.toList) : c.toNat < 128 := by
  obtain ⟨negative, d, e, -, -, hchars⟩ := htext
  rw [hchars] at h
  obtain h | h := List.mem_append.1 h
  · exact lt_of_mem_signChars h
  · exact lt_of_mem_magnitudeChars h

theorem quoteChar_of_le {c : Char} (h : 128 ≤ c.toNat) : quoteChar c = [c] := by
  have hquote : c ≠ '"' := by
    rintro rfl
    exact absurd h (by decide)
  have hslash : c ≠ '\\' := by
    rintro rfl
    exact absurd h (by decide)
  unfold quoteChar
  rw [if_neg hquote, if_neg hslash, if_neg (by omega), if_neg (by omega), if_neg (by omega),
    if_neg (by omega), if_neg (by omega), if_neg (by omega)]

theorem lt_of_mem_quoteChar {c : Char} (h : c.toNat < 128) : ∀ d ∈ quoteChar c, d.toNat < 128 := by
  have hdigit : ∀ n < 16, n.digitChar.toNat < 128 := by decide
  unfold quoteChar
  repeat' split
  all_goals
    intro d hd
    simp only [List.mem_cons, List.not_mem_nil, or_false] at hd
  · obtain rfl | rfl := hd <;> decide
  · obtain rfl | rfl := hd <;> decide
  · obtain rfl | rfl := hd <;> decide
  · obtain rfl | rfl := hd <;> decide
  · obtain rfl | rfl := hd <;> decide
  · obtain rfl | rfl := hd <;> decide
  · obtain rfl | rfl := hd <;> decide
  · obtain rfl | rfl | rfl | rfl | rfl | rfl := hd
    · decide
    · decide
    · decide
    · decide
    · exact hdigit _ (by omega)
    · exact hdigit _ (by omega)
  · rw [hd]
    exact h

/-- It makes no difference whether a character is quoted before it is misread, or after. -/
theorem flatMap_quoteChar_misread (c : Char) :
    (misread c).flatMap quoteChar = (quoteChar c).flatMap misread := by
  by_cases h : c.toNat < 128
  · rw [misread_of_lt h, flatMap_misread_of_lt (lt_of_mem_quoteChar h), List.flatMap_singleton]
  · have hwide := (misread_of_le (Nat.le_of_not_lt h)).2
    have hsame : ∀ l : List Char, (∀ d ∈ l, 128 ≤ d.toNat) → l.flatMap quoteChar = l := by
      intro l hl
      induction l with
      | nil => rfl
      | cons d rest ih =>
        rw [List.flatMap_cons, quoteChar_of_le (hl d List.mem_cons_self),
          ih fun x hx => hl x (List.mem_cons_of_mem _ hx)]
        rfl
    rw [quoteChar_of_le (Nat.le_of_not_lt h), List.flatMap_singleton, hsame _ hwide]

theorem quoteChars_misreadString (s : String) :
    quoteChars (misreadString s) = (quoteChars s).flatMap misread := by
  have hquote : misread '"' = ['"'] := misread_of_lt (by decide)
  unfold quoteChars misreadString
  rw [String.toList_ofList, List.flatMap_cons, List.flatMap_append, List.flatMap_singleton, hquote,
    List.flatMap_assoc, List.flatMap_assoc]
  simp only [flatMap_quoteChar_misread]
  rfl

/-- A character that stands for itself. -/
theorem misread_punctuation : misread '[' = ['['] ∧ misread ']' = [']'] ∧ misread '{' = ['{'] ∧
    misread '}' = ['}'] ∧ misread ',' = [','] ∧ misread ':' = [':'] := by
  refine ⟨?_, ?_, ?_, ?_, ?_, ?_⟩
  all_goals exact misread_of_lt (by decide)

mutual

/-- **The text of a value is misread as the text of the value with its strings misread.** -/
theorem jsonChars_misreadJson : ∀ (v : Json), Proper v →
    jsonChars (misreadJson v) = (jsonChars v).flatMap misread
  | .null, _ => (flatMap_misread_of_lt (lt_of_all rfl)).symm
  | .bool true, _ => (flatMap_misread_of_lt (lt_of_all rfl)).symm
  | .bool false, _ => (flatMap_misread_of_lt (lt_of_all rfl)).symm
  | .num n, _ => (flatMap_misread_of_lt fun _ => lt_of_mem_integerChars).symm
  | .decimal text, hv => (flatMap_misread_of_lt fun _ => lt_of_mem_decimal hv).symm
  | .str s, _ => quoteChars_misreadString s
  | .arr [], _ => (flatMap_misread_of_lt (lt_of_all rfl)).symm
  | .arr (item :: rest), hv => by
    obtain ⟨hitem, hrest⟩ : Proper item ∧ ProperItems rest := by
      simpa only [Proper, ProperItems] using hv
    simp only [misreadJson, misreadItems, jsonChars, List.flatMap_cons, List.flatMap_append,
      misread_punctuation, jsonChars_misreadJson item hitem, itemsTail_misreadItems rest hrest]
    rfl
  | .obj [], _ => (flatMap_misread_of_lt (lt_of_all rfl)).symm
  | .obj ((key, value) :: rest), hv => by
    obtain ⟨-, hvalue, hrest⟩ : (((key, value) :: rest).map Prod.fst).Nodup ∧
        Proper value ∧ ProperFields rest := by
      simpa only [Proper, ProperFields] using hv
    simp only [misreadJson, misreadFields, jsonChars, List.flatMap_cons, List.flatMap_append,
      misread_punctuation, quoteChars_misreadString, jsonChars_misreadJson value hvalue,
      fieldsTail_misreadFields rest hrest]
    rfl

theorem itemsTail_misreadItems : ∀ (items : List Json), ProperItems items →
    itemsTail (misreadItems items) = (itemsTail items).flatMap misread
  | [], _ => (flatMap_misread_of_lt (lt_of_all rfl)).symm
  | item :: rest, hitems => by
    obtain ⟨hitem, hrest⟩ : Proper item ∧ ProperItems rest := by
      simpa only [ProperItems] using hitems
    simp only [misreadItems, itemsTail, List.flatMap_cons, List.flatMap_append,
      misread_punctuation, jsonChars_misreadJson item hitem, itemsTail_misreadItems rest hrest]
    rfl

theorem fieldsTail_misreadFields : ∀ (fields : List (String × Json)), ProperFields fields →
    fieldsTail (misreadFields fields) = (fieldsTail fields).flatMap misread
  | [], _ => (flatMap_misread_of_lt (lt_of_all rfl)).symm
  | (key, value) :: rest, hfields => by
    obtain ⟨hvalue, hrest⟩ : Proper value ∧ ProperFields rest := by
      simpa only [ProperFields] using hfields
    simp only [misreadFields, fieldsTail, List.flatMap_cons, List.flatMap_append,
      misread_punctuation, quoteChars_misreadString, jsonChars_misreadJson value hvalue,
      fieldsTail_misreadFields rest hrest]
    rfl

end

theorem keys_misreadFields (fields : Fields) :
    (misreadFields fields).map Prod.fst = (fields.map Prod.fst).map misreadString := by
  induction fields with
  | nil => rfl
  | cons p rest ih =>
    obtain ⟨key, value⟩ := p
    rw [misreadFields, List.map_cons, ih]
    rfl

mutual

/-- A value that is as it is in memory is so after it was misread. -/
theorem proper_misreadJson : ∀ (v : Json), Proper v → Proper (misreadJson v)
  | .null, _ | .bool _, _ | .num _, _ | .str _, _ => trivial
  | .decimal _, hv => hv
  | .arr items, hv => by
    have hitems : ProperItems items := by simpa only [Proper] using hv
    simpa only [misreadJson, Proper] using properItems_misreadItems items hitems
  | .obj fields, hv => by
    obtain ⟨hkeys, hfields⟩ : (fields.map Prod.fst).Nodup ∧ ProperFields fields := by
      simpa only [Proper] using hv
    have hkeys' : ((misreadFields fields).map Prod.fst).Nodup := by
      rw [keys_misreadFields]
      exact List.Pairwise.map misreadString
        (fun _ _ hne heq => hne (misreadString_injective heq)) hkeys
    simpa only [misreadJson, Proper] using ⟨hkeys', properFields_misreadFields fields hfields⟩

theorem properItems_misreadItems : ∀ (items : List Json), ProperItems items →
    ProperItems (misreadItems items)
  | [], _ => trivial
  | item :: rest, hitems => by
    obtain ⟨hitem, hrest⟩ : Proper item ∧ ProperItems rest := by
      simpa only [ProperItems] using hitems
    simpa only [misreadItems, ProperItems] using
      ⟨proper_misreadJson item hitem, properItems_misreadItems rest hrest⟩

theorem properFields_misreadFields : ∀ (fields : List (String × Json)), ProperFields fields →
    ProperFields (misreadFields fields)
  | [], _ => trivial
  | (key, value) :: rest, hfields => by
    obtain ⟨hvalue, hrest⟩ : Proper value ∧ ProperFields rest := by
      simpa only [ProperFields] using hfields
    simpa only [misreadFields, ProperFields] using
      ⟨proper_misreadJson value hvalue, properFields_misreadFields rest hrest⟩

end

end MailRuntime.Js
