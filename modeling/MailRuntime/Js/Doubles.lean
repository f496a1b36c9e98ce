import MailRuntime.Js.Infinities

/-!
# Numbers in memory

A number in memory is a double. `JSON.parse` makes the nearest one of a number in a text, and
`JSON.stringify` writes the shortest digits that are nearest to it. So what `JSON.parse` gives is
the value in the text with each number put down as the text of its double: `9007199254740993` as
`9007199254740992`, and `1e999` as an infinite number. The doubles and the rounding to them are
Lean's own model of `binary64`.
-/

namespace MailRuntime.Js

open Float.Model (UnpackedFloat)

/-! ### The text of a double -/

/-- The double nearest to `m × 10^e`. -/
def nearest (m : Nat) (e : Int) : Float.Model := .ofScientific m e

/-- How many digits `num / den` has before its point, or less than none if it begins with zeros
behind it. -/
def digitsBefore (num den : Nat) : Int :=
  if den ≤ num then (Nat.toDigits 10 (num / den)).length
  else 1 - (Nat.toDigits 10 ((den - 1) / num)).length

/-- The multiple of `10^t` next to `num / den` that `x` is the double of, the nearer one first,
and of two that are equally near the even one. -/
def nextMultiple (x : Float.Model) (num den : Nat) (t : Int) : Option Nat :=
  let num := num * 10 ^ (-t).toNat
  let den := den * 10 ^ t.toNat
  let s := num / den
  let rest := num % den
  let candidates :=
    if 2 * rest < den ∨ (2 * rest = den ∧ s % 2 = 0) then [s, s + 1] else [s + 1, s]
  candidates.find? fun s => nearest s t = x

/-- The fewest digits that `x` is the double of, from the power `t` of ten on down. With as many as
there are tries, 17, there always are some. -/
def shortestDigits (x : Float.Model) (num den : Nat) : Nat → Int → Nat × Int
  | 0, t => (num * 10 ^ (-t).toNat / (den * 10 ^ t.toNat), t)
  | tries + 1, t =>
    match nextMultiple x num den t with
    | some s => (s, t)
    | none => shortestDigits x num den tries (t - 1)

/-- The double nearest to `m × 10^e`, with its sign, as the number that its text is. -/
def doubleNumber (negative : Bool) (m : Nat) (e : Int) : Json :=
  match (nearest m e).unpack with
  | .finite _ k p _ =>
    let num := k * 2 ^ p.toNat
    let den := 2 ^ (-p).toNat
    let (s, t) := shortestDigits (nearest m e) num den 17 (digitsBefore num den - 1)
    numberOf negative s t
  | .infinity _ => .decimal (if negative then "-Infinity" else "Infinity")
  | _ => .num 0

/-! ### Values -/

mutual

/-- The value with its numbers as doubles. -/
def rounded : Json → Json
  | .num n => doubleNumber (n < 0) n.natAbs 0
  | .decimal text =>
    match readSigned text.toList with
    | some (negative, m, e, _) => doubleNumber negative m e
    | none => .decimal text
  | .arr items => .arr (roundedItems items)
  | .obj fields => .obj (roundedFields fields)
  | v => v

/-- The items with their numbers as doubles. -/
def roundedItems : List Json → List Json
  | [] => []
  | item :: rest => rounded item :: roundedItems rest

/-- The fields with their numbers as doubles. -/
def roundedFields : List (String × Json) → List (String × Json)
  | [] => []
  | (key, value) :: rest => (key, rounded value) :: roundedFields rest

end

/-- `JSON.parse(text)` with its numbers as doubles: `none` where it throws. -/
def parseDoubles (l : List Char) : Option Json := (parse l).map rounded

example : (parseDoubles "[9007199254740993, 0.1, 1e23, 5e-324]".toList).map stringify =
    some "[9007199254740992,0.1,1e+23,5e-324]" := by decide +kernel

example : (parseDoubles "[1e999, 2e-324, -0.30000000000000004]".toList).map stringify =
    some "[Infinity,0,-0.30000000000000004]" := by decide +kernel

/-- The number is finite, and its text is that of a double. -/
def IsDouble (v : Json) : Prop := finite v = v ∧ rounded v = v

mutual

/-- Every number of the value is finite, and its text is that of a double. -/
def Doubles : Json → Prop
  | .num n => IsDouble (.num n)
  | .decimal text => IsDouble (.decimal text)
  | .arr items => DoublesItems items
  | .obj fields => DoublesFields fields
  | _ => True

/-- Every number of the items is one of a double. -/
def DoublesItems : List Json → Prop
  | [] => True
  | item :: rest => Doubles item ∧ DoublesItems rest

/-- Every number of the fields is one of a double. -/
def DoublesFields : List (String × Json) → Prop
  | [] => True
  | (_, value) :: rest => Doubles value ∧ DoublesFields rest

end

/-! ### Values of doubles -/

mutual

/-- A value of doubles is written as it is. -/
theorem finite_of_doubles : ∀ {v : Json}, Doubles v → finite v = v
  | .null, _ => rfl
  | .bool _, _ => rfl
  | .num _, _ => rfl
  | .decimal _, h => h.1
  | .str _, _ => rfl
  | .arr _, h => congrArg Json.arr (finiteItems_of_doubles h)
  | .obj _, h => congrArg Json.obj (finiteFields_of_doubles h)

theorem finiteItems_of_doubles : ∀ {items : List Json}, DoublesItems items →
    finiteItems items = items
  | [], _ => rfl
  | item :: items, h => by
    rw [finiteItems, finite_of_doubles h.1, finiteItems_of_doubles h.2]

theorem finiteFields_of_doubles : ∀ {fields : List (String × Json)}, DoublesFields fields →
    finiteFields fields = fields
  | [], _ => rfl
  | (key, value) :: fields, h => by
    rw [finiteFields, finite_of_doubles h.1, finiteFields_of_doubles h.2]

end

mutual

/-- A value of doubles is read as it is. -/
theorem rounded_of_doubles : ∀ {v : Json}, Doubles v → rounded v = v
  | .null, _ => rfl
  | .bool _, _ => rfl
  | .num _, h => h.2
  | .decimal _, h => h.2
  | .str _, _ => rfl
  | .arr _, h => congrArg Json.arr (roundedItems_of_doubles h)
  | .obj _, h => congrArg Json.obj (roundedFields_of_doubles h)

theorem roundedItems_of_doubles : ∀ {items : List Json}, DoublesItems items →
    roundedItems items = items
  | [], _ => rfl
  | item :: items, h => by
    rw [roundedItems, rounded_of_doubles h.1, roundedItems_of_doubles h.2]

theorem roundedFields_of_doubles : ∀ {fields : List (String × Json)}, DoublesFields fields →
    roundedFields fields = fields
  | [], _ => rfl
  | (key, value) :: fields, h => by
    rw [roundedFields, rounded_of_doubles h.1, roundedFields_of_doubles h.2]

end

end MailRuntime.Js
