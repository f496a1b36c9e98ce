import MailRuntime.Js.Text
import Mathlib.Tactic.Ring

/-!
# The numbers of a JSON text

How `JSON.stringify` writes a number and how `JSON.parse` reads one. A number stands for
the text it is written as: `d × 10^e`, where `d` has no zero at its end. What a double
rounds away of a longer text is not followed here, but where it matters (`Doubles`).
-/

namespace MailRuntime.Js

/-! ### Writing -/

/-- `m` without the zeros at its end, and how many these are. -/
def stripZeros : Nat → Nat → Nat × Nat
  | 0, m => (m, 0)
  | fuel + 1, m =>
    if m % 10 = 0 then ((stripZeros fuel (m / 10)).1, (stripZeros fuel (m / 10)).2 + 1) else (m, 0)

/-- The minus sign of a negative number. -/
def signChars (negative : Bool) : List Char := if negative then ['-'] else []

/-- `Number::toString` of `d × 10^e`, where `d` has no zero at its end. -/
def magnitudeChars (d : Nat) (e : Int) : List Char :=
  let digits := Nat.toDigits 10 d
  let n := digits.length + e
  if 0 ≤ e ∧ n ≤ 21 then digits ++ List.replicate e.toNat '0'
  else if 0 < n ∧ n ≤ 21 then digits.take n.toNat ++ '.' :: digits.drop n.toNat
  else if -6 < n ∧ n ≤ 0 then '0' :: '.' :: (List.replicate (-n).toNat '0' ++ digits)
  else
    digits.take 1 ++ (if digits.length = 1 then [] else '.' :: digits.drop 1) ++
      'e' :: (if 0 ≤ n - 1 then '+' else '-') :: Nat.toDigits 10 (n - 1).natAbs

/-- The text of an integer. -/
def integerChars (n : Int) : List Char :=
  if n = 0 then ['0']
  else
    signChars (n < 0) ++
      magnitudeChars (stripZeros n.natAbs n.natAbs).1 (stripZeros n.natAbs n.natAbs).2

/-- The text is that of a number which is not an integer. -/
def IsDecimal (text : String) : Prop :=
  ∃ negative d e, d % 10 ≠ 0 ∧ e < 0 ∧ text.toList = signChars negative ++ magnitudeChars d e

/-! ### Reading -/

/-- The digits after a point, if there is one. -/
def readFraction : List Char → Option (List Char × List Char)
  | '.' :: rest =>
    if rest.takeWhile Char.isDigit = [] then none
    else some (rest.takeWhile Char.isDigit, rest.dropWhile Char.isDigit)
  | l => some ([], l)

/-- The digits of an exponent. -/
def readDigits (negative : Bool) (l : List Char) : Option (Int × List Char) :=
  let digits := l.takeWhile Char.isDigit
  if digits = [] then none
  else
    let n : Int := Nat.ofDigitChars 10 digits 0
    some (if negative then -n else n, l.dropWhile Char.isDigit)

/-- The exponent, if there is one. -/
def readExponent : List Char → Option (Int × List Char)
  | [] => some (0, [])
  | c :: rest =>
    if c = 'e' ∨ c = 'E' then
      match rest with
      | '+' :: rest => readDigits false rest
      | '-' :: rest => readDigits true rest
      | rest => readDigits false rest
    else some (0, c :: rest)

/-- A number without its sign: its digits as a number, the power of ten, and what is after it. -/
def readMagnitude (l : List Char) : Option (Nat × Int × List Char) :=
  let whole := l.takeWhile Char.isDigit
  if whole = [] ∨ (whole.head? = some '0' ∧ whole ≠ ['0']) then none
  else do
    let (fraction, rest) ← readFraction (l.dropWhile Char.isDigit)
    let (exponent, rest) ← readExponent rest
    pure (Nat.ofDigitChars 10 (whole ++ fraction) 0, exponent - fraction.length, rest)

/-- `n`, or `-n`. -/
def signed (negative : Bool) (n : Nat) : Int := if negative then -n else n

/-- The number `m × 10^e` with its sign. -/
def numberOf (negative : Bool) (m : Nat) (e : Int) : Json :=
  if m = 0 then .num 0
  else
    let d := (stripZeros m m).1
    let e := e + (stripZeros m m).2
    if 0 ≤ e then .num (signed negative (d * 10 ^ e.toNat))
    else .decimal (String.ofList (signChars negative ++ magnitudeChars d e))

/-- The sign, the digits and the power of ten that a text begins with. -/
def readSigned : List Char → Option (Bool × Nat × Int × List Char)
  | '-' :: rest => (readMagnitude rest).map (true, ·)
  | l => (readMagnitude l).map (false, ·)

/-- The number a text begins with, and what is after it. -/
def readNumber (l : List Char) : Option (Json × List Char) :=
  (readSigned l).map fun (negative, m, e, rest) => (numberOf negative m e, rest)

/-- `value < bound` for a number. -/
def below (bound : Int) : Json → Bool
  | .num n => n < bound
  | .decimal text =>
    match readSigned text.toList with
    | some (negative, m, e, _) =>
      signed negative (m * 10 ^ e.toNat) < bound * 10 ^ (-e).toNat
    | none => false
  | _ => false

/-- The text does not go on with a number. -/
def EndsNumber (rest : List Char) : Prop :=
  ∀ c, rest.head? = some c → c.isDigit = false ∧ c ≠ '.' ∧ c ≠ 'e' ∧ c ≠ 'E'

example : String.ofList (integerChars (-120)) = "-120" := by decide +kernel

example : readNumber "-1.50e1,".toList = some (.num (-15), [',']) := by rfl

/-! ### Digits -/

theorem stripZeros_of_mul {d : Nat} (hd : d % 10 ≠ 0) :
    ∀ {k fuel : Nat}, k ≤ fuel → stripZeros fuel (d * 10 ^ k) = (d, k)
  | 0, 0, _ => by simp [stripZeros]
  | 0, fuel + 1, _ => by simp [stripZeros, hd]
  | k + 1, 0, h => by omega
  | k + 1, fuel + 1, h => by
    have hm : d * 10 ^ (k + 1) = 10 * (d * 10 ^ k) := by
      rw [Nat.pow_succ]
      ring
    have hmod : d * 10 ^ (k + 1) % 10 = 0 := by
      rw [hm]
      omega
    have hdiv : d * 10 ^ (k + 1) / 10 = d * 10 ^ k := by
      rw [hm]
      omega
    unfold stripZeros
    rw [if_pos hmod, hdiv, stripZeros_of_mul hd (by omega)]

/-- With as much fuel as the number itself no zero is left at its end. -/
theorem stripZeros_self {d k : Nat} (hd : d % 10 ≠ 0) :
    stripZeros (d * 10 ^ k) (d * 10 ^ k) = (d, k) := by
  apply stripZeros_of_mul hd
  have hk : k < 10 ^ k := Nat.lt_pow_self (by omega)
  have hpos : 0 < d := by omega
  calc k ≤ 10 ^ k := hk.le
    _ ≤ d * 10 ^ k := Nat.le_mul_of_pos_left _ hpos

/-- Every positive number is one without a zero at its end times a power of ten. -/
theorem exists_strip {m : Nat} (hm : m ≠ 0) : ∃ d k, d % 10 ≠ 0 ∧ m = d * 10 ^ k := by
  induction m using Nat.strong_induction_on with
  | _ m ih =>
    by_cases hmod : m % 10 = 0
    · obtain ⟨d, k, hd, hk⟩ := ih (m / 10) (by omega) (by omega)
      refine ⟨d, k + 1, hd, ?_⟩
      have hdiv : m = 10 * (m / 10) := by omega
      rw [hdiv, hk, Nat.pow_succ]
      ring
    · exact ⟨m, 0, hmod, by rw [Nat.pow_zero, Nat.mul_one]⟩

theorem isDigit_toDigits {n : Nat} : ∀ c ∈ Nat.toDigits 10 n, c.isDigit = true :=
  fun _ hc => Nat.isDigit_of_mem_toDigits (by decide) (by decide) hc

/-- The first digit of a positive number is not a zero. -/
theorem head_toDigits {n : Nat} (hn : n ≠ 0) : (Nat.toDigits 10 n).head? ≠ some '0' := by
  induction n using Nat.strong_induction_on with
  | _ n ih =>
    rw [Nat.toDigits_eq_if (by decide)]
    split
    · next hlt =>
      have hdigit : ∀ m < 10, m ≠ 0 → m.digitChar ≠ '0' := by decide
      simpa using hdigit n hlt hn
    · next hle =>
      rw [List.head?_append_of_ne_nil _ Nat.toDigits_ne_nil]
      exact ih (n / 10) (by omega) (by omega)

/-- The text does not go on with a digit. -/
def EndsDigits (rest : List Char) : Prop := ∀ c, rest.head? = some c → c.isDigit = false

theorem EndsNumber.endsDigits {rest : List Char} (h : EndsNumber rest) : EndsDigits rest :=
  fun c hc => (h c hc).1

theorem takeWhile_isDigit {digits rest : List Char} (h : ∀ c ∈ digits, c.isDigit = true)
    (hrest : EndsDigits rest) : (digits ++ rest).takeWhile Char.isDigit = digits := by
  rw [List.takeWhile_append_of_pos h]
  cases rest with
  | nil => simp
  | cons c rest => simp [hrest c rfl]

theorem dropWhile_isDigit {digits rest : List Char} (h : ∀ c ∈ digits, c.isDigit = true)
    (hrest : EndsDigits rest) : (digits ++ rest).dropWhile Char.isDigit = rest := by
  rw [List.dropWhile_append_of_pos h]
  cases rest with
  | nil => simp
  | cons c rest => simp [hrest c rfl]

/-! ### Reading the parts -/

theorem readFraction_of_ne {rest : List Char} (h : rest.head? ≠ some '.') :
    readFraction rest = some ([], rest) := by
  cases rest with
  | nil => rfl
  | cons c rest =>
    have hc : c ≠ '.' := fun hc => h (by simp [hc])
    unfold readFraction
    split
    · next heq => exact absurd (List.cons.inj heq).1 hc
    · rfl

theorem readFraction_point {digits rest : List Char} (hne : digits ≠ [])
    (h : ∀ c ∈ digits, c.isDigit = true) (hrest : EndsDigits rest) :
    readFraction ('.' :: (digits ++ rest)) = some (digits, rest) := by
  simp only [readFraction, takeWhile_isDigit h hrest, dropWhile_isDigit h hrest, hne, if_false]

theorem readDigits_toDigits (negative : Bool) (n : Nat) {rest : List Char}
    (hrest : EndsDigits rest) :
    readDigits negative (Nat.toDigits 10 n ++ rest) = some (signed negative n, rest) := by
  simp only [readDigits, takeWhile_isDigit isDigit_toDigits hrest,
    dropWhile_isDigit isDigit_toDigits hrest, Nat.toDigits_ne_nil, if_false,
    Nat.ofDigitChars_ten_toDigits, signed]

theorem readExponent_of_ends {rest : List Char} (h : EndsNumber rest) :
    readExponent rest = some (0, rest) := by
  cases rest with
  | nil => rfl
  | cons c rest =>
    obtain ⟨-, -, he, hE⟩ := h c rfl
    simp [readExponent, he, hE]

/-- The exponent as it is written. -/
theorem readExponent_written (x : Int) {rest : List Char} (hrest : EndsDigits rest) :
    readExponent ('e' :: (if 0 ≤ x then '+' else '-') :: (Nat.toDigits 10 x.natAbs ++ rest)) =
      some (x, rest) := by
  unfold readExponent
  by_cases hx : 0 ≤ x
  · have habs : (x.natAbs : Int) = x := Int.natAbs_of_nonneg hx
    simp only [hx, if_true, true_or, readDigits_toDigits _ _ hrest, signed, habs]
    rfl
  · have habs : -(x.natAbs : Int) = x := by omega
    simp only [hx, if_false, true_or, if_true, readDigits_toDigits _ _ hrest, signed, habs]

theorem readMagnitude_append {whole after : List Char} (hdigits : ∀ c ∈ whole, c.isDigit = true)
    (hne : whole ≠ []) (hhead : whole.head? = some '0' → whole = ['0'])
    (hafter : EndsDigits after) :
    readMagnitude (whole ++ after) = (do
      let (fraction, rest) ← readFraction after
      let (exponent, rest) ← readExponent rest
      pure (Nat.ofDigitChars 10 (whole ++ fraction) 0, exponent - fraction.length, rest)) := by
  unfold readMagnitude
  simp only [takeWhile_isDigit hdigits hafter, dropWhile_isDigit hdigits hafter]
  rw [if_neg]
  rintro (h | ⟨h, h'⟩)
  · exact hne h
  · exact h' (hhead h)

/-! ### Reading back what was written -/

theorem endsDigits_cons {c : Char} {rest : List Char} (h : c.isDigit = false) :
    EndsDigits (c :: rest) := by
  intro c' hc'
  obtain rfl : c = c' := by simpa using hc'
  exact h

section Forms

variable {d : Nat} {digits rest : List Char} (hdigits : ∀ c ∈ digits, c.isDigit = true)
  (hne : digits ≠ []) (hhead : digits.head? ≠ some '0')
  (hvalue : Nat.ofDigitChars 10 digits 0 = d) (hrest : EndsNumber rest)

include hdigits hvalue hrest

include hne hhead in
/-- The digits and zeros after them. -/
theorem readMagnitude_whole (k : Nat) :
    readMagnitude (digits ++ List.replicate k '0' ++ rest) = some (d * 10 ^ k, 0, rest) := by
  have hnone : rest.head? ≠ some '.' := fun h => (hrest '.' h).2.1 rfl
  have hall : ∀ c ∈ digits ++ List.replicate k '0', c.isDigit = true := by
    intro c hc
    obtain hc | hc := List.mem_append.1 hc
    · exact hdigits c hc
    · rw [List.eq_of_mem_replicate hc]
      decide
  have hfirst : (digits ++ List.replicate k '0').head? ≠ some '0' := by
    rw [List.head?_append_of_ne_nil _ hne]
    exact hhead
  have happend : digits ++ List.replicate k '0' ≠ [] := by simp [hne]
  rw [readMagnitude_append hall happend (fun h => absurd h hfirst) hrest.endsDigits,
    readFraction_of_ne hnone]
  simp only [Option.bind_eq_bind, Option.bind_some, readExponent_of_ends hrest,
    Nat.ofDigitChars_append, hvalue, Nat.ofDigitChars_replicate_zero,
    List.length_nil, Option.pure_def, Option.some.injEq, Prod.mk.injEq, and_true]
  constructor
  · exact Nat.mul_comm _ _
  · omega

include hhead in
/-- The point stands among the digits. -/
theorem readMagnitude_inside {n : Nat} (hn : 0 < n) (hlt : n < digits.length) :
    readMagnitude (digits.take n ++ '.' :: digits.drop n ++ rest) =
      some (d, (n : Int) - digits.length, rest) := by
  have htake : digits.take n ≠ [] := List.ne_nil_of_length_pos (by rw [List.length_take]; omega)
  have hdrop : digits.drop n ≠ [] := List.ne_nil_of_length_pos (by rw [List.length_drop]; omega)
  have hfirst : (digits.take n).head? ≠ some '0' := by
    rw [List.head?_take, if_neg (by omega)]
    exact hhead
  rw [List.append_assoc, List.cons_append,
    readMagnitude_append (fun c hc => hdigits c (List.mem_of_mem_take hc)) htake
      (fun h => absurd h hfirst) (endsDigits_cons (by decide)),
    readFraction_point hdrop (fun c hc => hdigits c (List.mem_of_mem_drop hc)) hrest.endsDigits]
  simp only [Option.bind_eq_bind, Option.bind_some, readExponent_of_ends hrest,
    List.take_append_drop, hvalue, List.length_drop, Option.pure_def, Option.some.injEq,
    Prod.mk.injEq, and_true, true_and]
  omega

include hne in
/-- Zeros stand between the point and the digits. -/
theorem readMagnitude_after_zeros (k : Nat) :
    readMagnitude ('0' :: '.' :: (List.replicate k '0' ++ digits) ++ rest) =
      some (d, -((k : Int) + digits.length), rest) := by
  have hall : ∀ c ∈ List.replicate k '0' ++ digits, c.isDigit = true := by
    intro c hc
    obtain hc | hc := List.mem_append.1 hc
    · rw [List.eq_of_mem_replicate hc]
      decide
    · exact hdigits c hc
  have happend : List.replicate k '0' ++ digits ≠ [] := by simp [hne]
  have hzero : ∀ c ∈ ['0'], c.isDigit = true := by
    intro c hc
    obtain rfl := List.mem_singleton.1 hc
    rfl
  have hsplit : '0' :: '.' :: (List.replicate k '0' ++ digits) ++ rest =
      ['0'] ++ '.' :: ((List.replicate k '0' ++ digits) ++ rest) := rfl
  rw [hsplit, readMagnitude_append hzero (by simp) (fun _ => rfl) (endsDigits_cons (by decide)),
    readFraction_point happend hall hrest.endsDigits]
  simp only [Option.bind_eq_bind, Option.bind_some, readExponent_of_ends hrest,
    Nat.ofDigitChars_append, Nat.ofDigitChars_replicate_zero, List.length_append,
    List.length_replicate, Option.pure_def, Option.some.injEq, Prod.mk.injEq, and_true]
  constructor
  · simpa [Nat.ofDigitChars_cons] using hvalue
  · push_cast
    omega

include hne hhead in
/-- One digit, the others after the point, and an exponent. -/
theorem readMagnitude_exponent (x : Int) :
    readMagnitude (digits.take 1 ++ (if digits.length = 1 then [] else '.' :: digits.drop 1) ++
        'e' :: (if 0 ≤ x then '+' else '-') :: Nat.toDigits 10 x.natAbs ++ rest) =
      some (d, x - (digits.length - 1), rest) := by
  have hlength : 0 < digits.length := List.length_pos_of_ne_nil hne
  have hexp := readExponent_written x hrest.endsDigits
  have htake : digits.take 1 ≠ [] := List.ne_nil_of_length_pos (by rw [List.length_take]; omega)
  have hfirst : (digits.take 1).head? ≠ some '0' := by
    rw [List.head?_take, if_neg (by omega)]
    exact hhead
  have hone : ∀ c ∈ digits.take 1, c.isDigit = true :=
    fun c hc => hdigits c (List.mem_of_mem_take hc)
  by_cases hlen : digits.length = 1
  · have hall : digits.take 1 = digits := List.take_of_length_le (by omega)
    simp only [hlen, if_true, List.append_nil, List.append_assoc, List.cons_append]
    rw [readMagnitude_append hone htake (fun h => absurd h hfirst) (endsDigits_cons (by decide)),
      readFraction_of_ne (by simp)]
    simp only [Option.bind_eq_bind, Option.bind_some, hexp, List.append_nil, hall, hvalue,
      List.length_nil, Option.pure_def, Option.some.injEq, Prod.mk.injEq, and_true, true_and]
    omega
  · have hdrop : digits.drop 1 ≠ [] := List.ne_nil_of_length_pos (by rw [List.length_drop]; omega)
    simp only [hlen, if_false, List.append_assoc, List.cons_append]
    rw [readMagnitude_append hone htake (fun h => absurd h hfirst) (endsDigits_cons (by decide)),
      readFraction_point hdrop (fun c hc => hdigits c (List.mem_of_mem_drop hc))
        (endsDigits_cons (by decide))]
    simp only [Option.bind_eq_bind, Option.bind_some, hexp, List.take_append_drop, hvalue,
      List.length_drop, Option.pure_def, Option.some.injEq, Prod.mk.injEq, and_true, true_and]
    omega

end Forms

/-- What is written of `d × 10^e` reads as the same digits, with `j` zeros after them. -/
theorem readMagnitude_written {d : Nat} (hd : d ≠ 0) (e : Int) {rest : List Char}
    (hrest : EndsNumber rest) :
    ∃ j : Nat, readMagnitude (magnitudeChars d e ++ rest) = some (d * 10 ^ j, e - j, rest) := by
  have hdigits : ∀ c ∈ Nat.toDigits 10 d, c.isDigit = true := isDigit_toDigits
  have hhead := head_toDigits hd
  have hne : Nat.toDigits 10 d ≠ [] := Nat.toDigits_ne_nil
  have hlength : 0 < (Nat.toDigits 10 d).length := Nat.length_toDigits_pos
  have hvalue : Nat.ofDigitChars 10 (Nat.toDigits 10 d) 0 = d := Nat.ofDigitChars_ten_toDigits
  unfold magnitudeChars
  dsimp only
  split
  · refine ⟨e.toNat, ?_⟩
    rw [readMagnitude_whole hdigits hne hhead hvalue hrest]
    have he : e - (e.toNat : Int) = 0 := by omega
    rw [he]
  · next hwhole =>
    refine ⟨0, ?_⟩
    rw [Nat.pow_zero, Nat.mul_one, Int.natCast_zero, Int.sub_zero]
    split
    · next hinside =>
      have hn : 0 < ((Nat.toDigits 10 d).length + e).toNat := by omega
      have hlt : ((Nat.toDigits 10 d).length + e).toNat < (Nat.toDigits 10 d).length := by omega
      have he : (((Nat.toDigits 10 d).length + e).toNat : Int) - (Nat.toDigits 10 d).length = e := by
        omega
      rw [readMagnitude_inside hdigits hhead hvalue hrest hn hlt, he]
    · split
      · next hbefore =>
        have he : -(((-((Nat.toDigits 10 d).length + e)).toNat : Int) +
            (Nat.toDigits 10 d).length) = e := by
          omega
        rw [readMagnitude_after_zeros hdigits hne hvalue hrest, he]
      · have he : ((Nat.toDigits 10 d).length + e - 1) - ((Nat.toDigits 10 d).length - 1 : Int) = e := by
          omega
        rw [readMagnitude_exponent hdigits hne hhead hvalue hrest, he]

/-! ### Numbers -/

/-- The digits of a number do not begin with a sign. -/
theorem magnitudeChars_ne {d : Nat} (hd : d ≠ 0) (e : Int) {rest : List Char}
    (hrest : EndsNumber rest) : (magnitudeChars d e ++ rest).head? ≠ some '-' := by
  obtain ⟨j, hj⟩ := readMagnitude_written hd e hrest
  intro h
  obtain ⟨l, hl⟩ := List.head?_eq_some_iff.1 h
  have hdigit : ('-' : Char).isDigit = false := by decide
  have hwhole : ('-' :: l).takeWhile Char.isDigit = [] := by simp [hdigit]
  rw [hl] at hj
  unfold readMagnitude at hj
  simp [hwhole] at hj

/-- A sign and the digits after it. -/
theorem readSigned_written (negative : Bool) {d : Nat} (hd : d ≠ 0) (e : Int) {rest : List Char}
    (hrest : EndsNumber rest) :
    ∃ j : Nat, readSigned (signChars negative ++ magnitudeChars d e ++ rest) =
      some (negative, d * 10 ^ j, e - j, rest) := by
  obtain ⟨j, hj⟩ := readMagnitude_written hd e hrest
  refine ⟨j, ?_⟩
  cases negative with
  | true =>
    show (readMagnitude (magnitudeChars d e ++ rest)).map (true, ·) = _
    rw [hj]
    rfl
  | false =>
    have hhead := magnitudeChars_ne hd e hrest
    show readSigned (magnitudeChars d e ++ rest) = _
    unfold readSigned
    split
    · next heq => exact absurd (by rw [heq]; rfl) hhead
    · rw [hj]
      rfl

/-- A number read off its digits does not depend on the zeros at their end. -/
theorem numberOf_mul (negative : Bool) {d : Nat} (hd : d % 10 ≠ 0) (e : Int) (j : Nat) :
    numberOf negative (d * 10 ^ j) (e - j) =
      if 0 ≤ e then .num (signed negative (d * 10 ^ e.toNat))
      else .decimal (String.ofList (signChars negative ++ magnitudeChars d e)) := by
  have hpos : 0 < d * 10 ^ j := Nat.mul_pos (by omega) (Nat.pow_pos (by omega))
  have he : e - (j : Int) + j = e := by omega
  unfold numberOf
  rw [if_neg (by omega), stripZeros_self hd]
  simp only [he]

/-- An integer reads back. -/
theorem readNumber_integer (n : Int) {rest : List Char} (hrest : EndsNumber rest) :
    readNumber (integerChars n ++ rest) = some (.num n, rest) := by
  unfold integerChars readNumber
  by_cases hn : n = 0
  · have hdigit : ∀ c ∈ ['0'], c.isDigit = true := by
      intro c hc
      obtain rfl := List.mem_singleton.1 hc
      rfl
    have hzero : readMagnitude (['0'] ++ rest) = some (0, 0, rest) := by
      have hnone : rest.head? ≠ some '.' := fun h => (hrest '.' h).2.1 rfl
      rw [readMagnitude_append hdigit (by simp) (fun _ => rfl) hrest.endsDigits,
        readFraction_of_ne hnone]
      simp [readExponent_of_ends hrest, Nat.ofDigitChars_cons]
    have hsigned : readSigned (['0'] ++ rest) = some (false, 0, 0, rest) := by
      show (readMagnitude (['0'] ++ rest)).map (false, ·) = _
      rw [hzero]
      rfl
    rw [if_pos hn, hsigned, hn]
    rfl
  · obtain ⟨d, k, hd, hk⟩ := exists_strip (m := n.natAbs) (by omega)
    rw [if_neg hn, hk, stripZeros_self hd]
    obtain ⟨j, hj⟩ := readSigned_written (decide (n < 0)) (d := d) (by omega) k hrest
    rw [hj]
    have hnonneg : (0 : Int) ≤ k := by omega
    have hvalue : signed (decide (n < 0)) (d * 10 ^ (k : Int).toNat) = n := by
      rw [Int.toNat_natCast, ← hk]
      unfold signed
      by_cases hneg : n < 0
      · simp only [hneg, decide_true, if_true]
        omega
      · simp only [hneg, decide_false, if_false, Bool.false_eq_true]
        omega
    simp only [Option.map_some, numberOf_mul _ hd, hnonneg, if_true, hvalue]

/-- A number that is not an integer reads back. -/
theorem readNumber_decimal {text : String} (htext : IsDecimal text) {rest : List Char}
    (hrest : EndsNumber rest) :
    readNumber (text.toList ++ rest) = some (.decimal text, rest) := by
  obtain ⟨negative, d, e, hd, he, hchars⟩ := htext
  obtain ⟨j, hj⟩ := readSigned_written negative (d := d) (by omega) e hrest
  have hneg : ¬ 0 ≤ e := by omega
  unfold readNumber
  rw [hchars, hj]
  simp only [Option.map_some, numberOf_mul _ hd, hneg, if_false, ← hchars, String.ofList_toList]

end MailRuntime.Js
