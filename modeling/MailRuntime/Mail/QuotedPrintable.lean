import MailRuntime.Mail.Parser

/-!
# Quoted-printable

A byte string has many quoted-printable texts: each byte may be written with an `=` and two
hexadecimal digits, in either case, or, unless it is the byte of `=`, as the character with its
number, and a soft line break may stand between any two bytes, and before and after all of them.
The decoder reads the same bytes from all of them.
-/

namespace MailRuntime

open Js

/-- The text is a quoted-printable encoding of the bytes. -/
inductive QuotedPrintable : List UInt8 → List Char → Prop where
  /-- No bytes are the empty text. -/
  | nil : QuotedPrintable [] []
  /-- A byte as two hexadecimal digits, each in either case. -/
  | escaped {bytes : List UInt8} {text : List Char} {byte : UInt8} {high low : Char}
      (hhigh : hexValue high = some (byte.toNat / 16)) (hlow : hexValue low = some (byte.toNat % 16))
      (h : QuotedPrintable bytes text) : QuotedPrintable (byte :: bytes) ('=' :: high :: low :: text)
  /-- A byte other than that of `=`, as it is. -/
  | literal {bytes : List UInt8} {text : List Char} {byte : UInt8} (hbyte : byte.toNat ≠ 61)
      (h : QuotedPrintable bytes text) :
      QuotedPrintable (byte :: bytes) (Char.ofNat byte.toNat :: text)
  /-- A soft line break. -/
  | softBreak {bytes : List UInt8} {text : List Char} (h : QuotedPrintable bytes text) :
      QuotedPrintable bytes ('=' :: '\r' :: '\n' :: text)
  /-- A soft line break whose line end is a line feed alone. -/
  | softLineFeed {bytes : List UInt8} {text : List Char} (h : QuotedPrintable bytes text) :
      QuotedPrintable bytes ('=' :: '\n' :: text)

/-! ### One step of the decoder -/

theorem hexValue_ne_break {c : Char} {n : Nat} (h : hexValue c = some n) : c ≠ '\r' ∧ c ≠ '\n' := by
  constructor
  · rintro rfl
    cases h
  · rintro rfl
    cases h

theorem decodeQuotedPrintableBytes_escaped {a b : Char} {high low : Nat}
    (ha : hexValue a = some high) (hb : hexValue b = some low) (rest : List Char) :
    decodeQuotedPrintableBytes ('=' :: a :: b :: rest) =
      UInt8.ofNat (high * 16 + low) :: decodeQuotedPrintableBytes rest := by
  obtain ⟨hcr, hlf⟩ := hexValue_ne_break ha
  rw [decodeQuotedPrintableBytes]
  · rw [ha, hb]
  · rintro rfl
    exact absurd rfl hcr
  · rintro rfl
    exact absurd rfl hlf

theorem decodeQuotedPrintableBytes_literal {c : Char} (hc : c ≠ '=') (rest : List Char) :
    decodeQuotedPrintableBytes (c :: rest) =
      (units c).map UInt8.ofNat ++ decodeQuotedPrintableBytes rest := by
  rw [decodeQuotedPrintableBytes]
  all_goals
    intros
    exact hc ‹_›

/-- **Whatever the encoding, the bytes are decoded.** The induction is on the encoding: each of
its steps is one step of the decoder, which stands at the head of what is left. -/
theorem decodeQuotedPrintableBytes_of_quotedPrintable {bytes : List UInt8} {text : List Char}
    (h : QuotedPrintable bytes text) : decodeQuotedPrintableBytes text = bytes := by
  induction h with
  | nil => rfl
  | @escaped bytes text byte high low hhigh hlow h ih =>
    have hvalue : byte.toNat / 16 * 16 + byte.toNat % 16 = byte.toNat := by omega
    rw [decodeQuotedPrintableBytes_escaped hhigh hlow, ih, hvalue, UInt8.ofNat_toNat]
  | @literal bytes text byte hbyte h ih =>
    have hne : Char.ofNat byte.toNat ≠ '=' := by
      intro heq
      have htoNat := toNat_ofNat_byte byte
      rw [heq] at htoNat
      exact hbyte htoNat.symm
    rw [decodeQuotedPrintableBytes_literal hne, ih, units_ofNat_byte, List.map_singleton,
      UInt8.ofNat_toNat, List.singleton_append]
  | softBreak h ih => rw [decodeQuotedPrintableBytes, ih]
  | softLineFeed h ih => rw [decodeQuotedPrintableBytes, ih]

/-- Three bytes, in digits of both cases and as a character, with soft breaks before them, between
them and after them. -/
theorem mixed_encoding_decoded :
    decodeQuotedPrintableBytes "=\r\n=eE=\n=3dA=\r\n".toList = [0xEE, 0x3D, 0x41] :=
  decodeQuotedPrintableBytes_of_quotedPrintable
    (.softBreak (.escaped (by decide) (by decide)
      (.softLineFeed (.escaped (by decide) (by decide)
        (.literal (show (0x41 : UInt8).toNat ≠ 61 by decide) (.softBreak .nil))))))

end MailRuntime
