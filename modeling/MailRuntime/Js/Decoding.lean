import MailRuntime.Js.Text

/-!
# What is encoded is decoded

UTF-8 and base64, there and back.
-/

namespace MailRuntime.Js

/-! ### UTF-8 -/

section Utf8

variable {rest : List UInt8}

theorem utf8Chars_first {b : Nat} (hb : b < 256) (rest : List UInt8) :
    utf8Chars none (UInt8.ofNat b :: rest) = (utf8First b).1 ++ utf8Chars (utf8First b).2 rest := by
  rw [utf8Chars, UInt8.toNat_ofNat_of_lt' hb]

/-- The last byte of a character. -/
theorem utf8Chars_last {lower upper point b : Nat} (hb : b < 256) (hlower : lower ≤ b)
    (hupper : b ≤ upper) (rest : List UInt8) :
    utf8Chars (some ⟨1, lower, upper, point⟩) (UInt8.ofNat b :: rest) =
      Char.ofNat (point * 64 + b % 64) :: utf8Chars none rest := by
  rw [utf8Chars, UInt8.toNat_ofNat_of_lt' hb, if_pos ⟨hlower, hupper⟩]
  rfl

/-- A byte of a character that is not the last. -/
theorem utf8Chars_next {needed lower upper point b : Nat} (hb : b < 256) (hlower : lower ≤ b)
    (hupper : b ≤ upper) (rest : List UInt8) :
    utf8Chars (some ⟨needed + 2, lower, upper, point⟩) (UInt8.ofNat b :: rest) =
      utf8Chars (some ⟨needed + 1, 0x80, 0xBF, point * 64 + b % 64⟩) rest := by
  rw [utf8Chars, UInt8.toNat_ofNat_of_lt' hb, if_pos ⟨hlower, hupper⟩]
  rfl

theorem utf8First_two {b : Nat} (hlower : 0xC2 ≤ b) (hupper : b ≤ 0xDF) :
    utf8First b = ([], some ⟨1, 0x80, 0xBF, b % 32⟩) := by
  rw [utf8First, if_neg (by omega), if_pos ⟨hlower, hupper⟩]

theorem utf8First_three {b : Nat} (hlower : 0xE0 ≤ b) (hupper : b ≤ 0xEF) :
    utf8First b = ([], some ⟨2, if b = 0xE0 then 0xA0 else 0x80,
      if b = 0xED then 0x9F else 0xBF, b % 16⟩) := by
  rw [utf8First, if_neg (by omega), if_neg (by omega), if_pos ⟨hlower, hupper⟩]

theorem utf8First_four {b : Nat} (hlower : 0xF0 ≤ b) (hupper : b ≤ 0xF4) :
    utf8First b = ([], some ⟨3, if b = 0xF0 then 0x90 else 0x80,
      if b = 0xF4 then 0x8F else 0xBF, b % 8⟩) := by
  rw [utf8First, if_neg (by omega), if_neg (by omega), if_neg (by omega),
    if_pos ⟨hlower, hupper⟩]

/-- A character is read from its bytes. -/
theorem utf8Chars_encodeChar (c : Char) (rest : List UInt8) :
    utf8Chars none (String.utf8EncodeChar c ++ rest) = c :: utf8Chars none rest := by
  have hvalid : c.val.toNat < 0xD800 ∨ (0xDFFF < c.val.toNat ∧ c.val.toNat < 0x110000) := c.valid
  have hc : Char.ofNat c.val.toNat = c := Char.ofNat_toNat c
  unfold String.utf8EncodeChar
  generalize c.val.toNat = v at hvalid hc
  dsimp only
  split
  · next h =>
    rw [List.cons_append, utf8Chars_first (by omega), utf8First, if_pos (by omega), hc]
    rfl
  split
  · next h1 h2 =>
    have hhead : v / 64 % 32 + 0xC0 = v / 64 + 0xC0 := by omega
    rw [List.cons_append, List.cons_append, utf8Chars_first (by omega), hhead,
      utf8First_two (by omega) (by omega), List.nil_append, utf8Chars_last (by omega) (by omega)
      (by omega)]
    have hpoint : (v / 64 + 0xC0) % 32 * 64 + (v % 0x40 + 0x80) % 64 = v := by omega
    rw [hpoint, hc]
    rfl
  split
  · next h1 h2 h3 =>
    have hhead : v / 4096 % 0x10 + 0xE0 = v / 4096 + 0xE0 := by omega
    rw [List.cons_append, List.cons_append, List.cons_append, utf8Chars_first (by omega), hhead,
      utf8First_three (by omega) (by omega), List.nil_append,
      utf8Chars_next (by omega) (by split <;> omega) (by split <;> omega),
      utf8Chars_last (by omega) (by omega) (by omega)]
    have hpoint : ((v / 4096 + 0xE0) % 16 * 64 + (v / 64 % 0x40 + 0x80) % 64) * 64 +
        (v % 0x40 + 0x80) % 64 = v := by omega
    rw [hpoint, hc]
    rfl
  · next h1 h2 h3 =>
    have hhead : v / 262144 % 0x08 + 0xF0 = v / 262144 + 0xF0 := by omega
    rw [List.cons_append, List.cons_append, List.cons_append, List.cons_append,
      utf8Chars_first (by omega), hhead, utf8First_four (by omega) (by omega), List.nil_append,
      utf8Chars_next (by omega) (by split <;> omega) (by split <;> omega),
      utf8Chars_next (by omega) (by omega) (by omega),
      utf8Chars_last (by omega) (by omega) (by omega)]
    have hpoint : (((v / 262144 + 0xF0) % 8 * 64 + (v / 4096 % 0x40 + 0x80) % 64) * 64 +
        (v / 64 % 0x40 + 0x80) % 64) * 64 + (v % 0x40 + 0x80) % 64 = v := by omega
    rw [hpoint, hc]
    rfl

theorem utf8Chars_utf8 (text : String) : utf8Chars none (utf8 text) = text.toList := by
  rw [utf8]
  induction text.toList with
  | nil => rfl
  | cons c rest ih => rw [List.flatMap_cons, utf8Chars_encodeChar, ih]

/-- **A text is decoded from its bytes**, unless it starts with a byte order mark. -/
theorem utf8Decode_utf8 {text : String} (h : text.toList.head? ≠ some '\uFEFF') :
    utf8Decode (utf8 text) = text.toList := by
  unfold utf8Decode
  split
  · next rest hbytes =>
    have hchars := utf8Chars_utf8 text
    rw [hbytes] at hchars
    refine absurd ?_ h
    rw [← hchars]
    rfl
  · exact utf8Chars_utf8 text

end Utf8

/-! ### Base64 -/

/-- The digits of the bytes, six bits each. -/
def base64Digits : List UInt8 → List Nat
  | [] => []
  | [a] => [a.toNat / 4, a.toNat % 4 * 16]
  | [a, b] => [a.toNat / 4, a.toNat % 4 * 16 + b.toNat / 16, b.toNat % 16 * 4]
  | a :: b :: c :: rest =>
    a.toNat / 4 :: (a.toNat % 4 * 16 + b.toNat / 16) :: (b.toNat % 16 * 4 + c.toNat / 64) ::
      c.toNat % 64 :: base64Digits rest

/-- How many characters pad the text of that many bytes. -/
def base64Padding (n : Nat) : Nat := (3 - n % 3) % 3

theorem base64Chars_eq (bytes : List UInt8) :
    base64Chars bytes = (base64Digits bytes).map base64Digit ++
      List.replicate (base64Padding bytes.length) '=' := by
  fun_induction base64Chars bytes with
  | case1 => rfl
  | case2 a => rfl
  | case3 a b => rfl
  | case4 a b c rest ih =>
    have hpad : base64Padding (a :: b :: c :: rest).length = base64Padding rest.length := by
      simp only [base64Padding, List.length_cons]
      omega
    rw [hpad, ih]
    rfl

theorem lt_of_mem_base64Digits {bytes : List UInt8} : ∀ n ∈ base64Digits bytes, n < 64 := by
  fun_induction base64Digits bytes with
  | case1 => simp
  | case2 a =>
    have := a.toNat_lt
    simp only [List.mem_cons, List.not_mem_nil, or_false, forall_eq_or_imp, forall_eq]
    omega
  | case3 a b =>
    have := a.toNat_lt
    have := b.toNat_lt
    simp only [List.mem_cons, List.not_mem_nil, or_false, forall_eq_or_imp, forall_eq]
    omega
  | case4 a b c rest ih =>
    have := a.toNat_lt
    have := b.toNat_lt
    have := c.toNat_lt
    simp only [List.mem_cons, forall_eq_or_imp]
    refine ⟨by omega, by omega, by omega, by omega, ih⟩

theorem length_base64Digits (bytes : List UInt8) :
    (base64Digits bytes).length + base64Padding bytes.length = (bytes.length + 2) / 3 * 4 := by
  fun_induction base64Digits bytes with
  | case1 => rfl
  | case2 a => simp [base64Padding]
  | case3 a b => simp [base64Padding]
  | case4 a b c rest ih =>
    simp only [base64Padding, List.length_cons] at ih ⊢
    omega

theorem base64Bytes_digits (bytes : List UInt8) : base64Bytes (base64Digits bytes) = bytes := by
  have hbyte : ∀ (a : UInt8) (n : Nat), n = a.toNat → UInt8.ofNat n = a := by
    rintro a n rfl
    exact UInt8.ofNat_toNat
  fun_induction base64Digits bytes with
  | case1 => rfl
  | case2 a =>
    have := a.toNat_lt
    rw [base64Bytes, hbyte a _ (by omega)]
  | case3 a b =>
    have := a.toNat_lt
    have := b.toNat_lt
    rw [base64Bytes, hbyte a _ (by omega), hbyte b _ (by omega)]
  | case4 a b c rest ih =>
    have := a.toNat_lt
    have := b.toNat_lt
    have := c.toNat_lt
    rw [base64Bytes, hbyte a _ (by omega), hbyte b _ (by omega), hbyte c _ (by omega), ih]

theorem base64Value_digit {n : Nat} (hn : n < 64) : base64Value (base64Digit n) = some n := by
  have hall : ∀ a : Fin 64, base64Value (base64Digit a) = some a.val := by decide +kernel
  exact hall ⟨n, hn⟩

theorem mapM_base64Value {digits : List Nat} (h : ∀ n ∈ digits, n < 64) :
    (digits.map base64Digit).mapM base64Value = some digits := by
  induction digits with
  | nil => rfl
  | cons n rest ih =>
    rw [List.map_cons, List.mapM_cons, base64Value_digit (h n List.mem_cons_self),
      ih fun m hm => h m (List.mem_cons_of_mem _ hm)]
    rfl

/-- A text that does not end in padding is left alone. -/
theorem withoutPadding_of_last {l : List Char} (h : l.getLast? ≠ some '=') :
    withoutPadding l = l := by
  rw [List.getLast?_eq_head?_reverse] at h
  unfold withoutPadding
  split
  · split
    · next hrev => simp [hrev] at h
    · next hrev => simp [hrev] at h
    · rfl
  · rfl

theorem getLast_digits_ne {digits : List Nat} (h : ∀ n ∈ digits, n < 64) :
    (digits.map base64Digit).getLast? ≠ some '=' := by
  intro hlast
  obtain ⟨n, hn, heq⟩ := List.mem_map.1 (List.mem_of_getLast? hlast)
  exact base64Digit_ne (h n hn) heq

theorem withoutPadding_base64Chars (bytes : List UInt8) :
    withoutPadding (base64Chars bytes) = (base64Digits bytes).map base64Digit := by
  have hlt : ∀ n ∈ base64Digits bytes, n < 64 := lt_of_mem_base64Digits
  have hlast := getLast_digits_ne hlt
  have hlength := length_base64Digits bytes
  rw [base64Chars_eq]
  have hpad : base64Padding bytes.length < 3 := by
    rw [base64Padding]
    omega
  generalize base64Padding bytes.length = pad at hpad hlength
  have hmod : ((base64Digits bytes).map base64Digit ++ List.replicate pad '=').length % 4 = 0 := by
    rw [List.length_append, List.length_map, List.length_replicate]
    omega
  obtain rfl | rfl | rfl : pad = 0 ∨ pad = 1 ∨ pad = 2 := by omega
  · rw [List.replicate_zero, List.append_nil]
    exact withoutPadding_of_last hlast
  · rw [List.getLast?_eq_head?_reverse] at hlast
    have hreverse : ((base64Digits bytes).map base64Digit ++ List.replicate 1 '=').reverse =
        '=' :: ((base64Digits bytes).map base64Digit).reverse := List.reverse_append
    rw [withoutPadding, if_pos hmod, hreverse]
    split
    · next hrev =>
      rw [List.cons.injEq] at hrev
      simp [hrev.2] at hlast
    · next hrev =>
      rw [List.cons.injEq] at hrev
      rw [← hrev.2, List.reverse_reverse]
    · next h => exact absurd rfl (h _)
  · rw [withoutPadding, if_pos hmod, List.reverse_append]
    exact List.reverse_reverse _

/-- **Bytes are read from their base64.** -/
theorem atob_base64Chars (bytes : List UInt8) : atob (base64Chars bytes) = some bytes := by
  have hlength := length_base64Digits bytes
  have hcount : ((base64Digits bytes).map base64Digit).length % 4 ≠ 1 := by
    rw [List.length_map]
    simp only [base64Padding] at hlength
    omega
  rw [atob, withoutPadding_base64Chars, if_neg hcount, mapM_base64Value lt_of_mem_base64Digits, Option.map_some, base64Bytes_digits]

/-! ### Lines of base64 -/

theorem isSpace_base64Digit {n : Nat} (hn : n < 64) : isSpace (base64Digit n) = false := by
  have hall : ∀ a : Fin 64, isSpace (base64Digit a) = false := by decide +kernel
  exact hall ⟨n, hn⟩

/-- What stands in base64, before it is broken into lines. -/
theorem mem_base64Chars {bytes : List UInt8} {c : Char} (h : c ∈ base64Chars bytes) :
    (∃ n < 64, c = base64Digit n) ∨ c = '=' := by
  rw [base64Chars_eq, List.mem_append, List.mem_map] at h
  rcases h with ⟨n, hn, rfl⟩ | h
  · exact .inl ⟨n, lt_of_mem_base64Digits n hn, rfl⟩
  · exact .inr (List.eq_of_mem_replicate h)

theorem filter_foldChars {l : List Char} (h : ∀ c ∈ l, isSpace c = false) (room : Nat) :
    (foldChars room l).filter (fun c => !isSpace c) = l := by
  fun_induction foldChars room l with
  | case1 => rfl
  | case2 c rest ih =>
    have hc : isSpace c = false := h c List.mem_cons_self
    rw [List.filter_cons_of_neg (by decide), List.filter_cons_of_neg (by decide),
      List.filter_cons_of_pos (by simp [hc]), ih fun d hd => h d (List.mem_cons_of_mem _ hd)]
  | case3 room c rest ih =>
    have hc : isSpace c = false := h c List.mem_cons_self
    rw [List.filter_cons_of_pos (by simp [hc]), ih fun d hd => h d (List.mem_cons_of_mem _ hd)]

/-- Bytes are read from their base64 in lines. -/
theorem atob_foldBase64 (bytes : List UInt8) :
    atob ((foldBase64 (toBase64 bytes)).toList.filter fun c => !isSpace c) = some bytes := by
  have hspace : ∀ c ∈ base64Chars bytes, isSpace c = false := by
    intro c hc
    rcases mem_base64Chars hc with ⟨n, hn, rfl⟩ | rfl
    · exact isSpace_base64Digit hn
    · rfl
  rw [foldBase64, toBase64, String.toList_ofList, String.toList_ofList, filter_foldChars hspace,
    atob_base64Chars]

theorem mem_foldChars {room : Nat} {l : List Char} {c : Char} (h : c ∈ foldChars room l) :
    c ∈ l ∨ c = '\r' ∨ c = '\n' := by
  fun_induction foldChars room l with
  | case1 => cases h
  | case2 d rest ih =>
    simp only [List.mem_cons] at h ⊢
    rcases h with h | h | h | h
    · exact .inr (.inl h)
    · exact .inr (.inr h)
    · exact .inl (.inl h)
    · exact (ih h).imp_left .inr
  | case3 room d rest ih =>
    simp only [List.mem_cons] at h ⊢
    rcases h with h | h
    · exact .inl (.inl h)
    · exact (ih h).imp_left .inr

/-! ### What `atob` takes -/

/-- The text, without the padding that completes it, is made of base64 digits, and their number
leaves no digit over. -/
def IsBase64 (l : List Char) : Prop :=
  (withoutPadding l).length % 4 ≠ 1 ∧ ∀ c ∈ withoutPadding l, (base64Value c).isSome = true

instance (l : List Char) : Decidable (IsBase64 l) :=
  decidable_of_iff ((withoutPadding l).length % 4 ≠ 1 ∧
      (withoutPadding l).all (fun c => (base64Value c).isSome) = true)
    (and_congr_right fun _ => List.all_eq_true)

theorem isSome_mapM {α β : Type} (f : α → Option β) (l : List α) :
    (l.mapM f).isSome = true ↔ ∀ a ∈ l, (f a).isSome = true := by
  induction l with
  | nil => simp
  | cons a rest ih =>
    rw [List.mapM_cons]
    cases ha : f a with
    | none => simp [ha]
    | some b => cases hrest : rest.mapM f <;> simp_all

theorem isSome_atob (l : List Char) : (atob l).isSome = true ↔ IsBase64 l := by
  unfold atob IsBase64
  dsimp only
  split
  · next h => simp [h]
  · next h => simp [h, isSome_mapM]

end MailRuntime.Js
