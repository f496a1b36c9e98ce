import Mathlib.Data.List.DropRight

/-!
# JSON values and the string helpers of the source

The values a text column, an R2 object or a provider's reply holds once they are
parsed. A number is an integer, or else the canonical text of one that is not; the
source only ever asks for the type of a number and whether it is an integer.
`undefined` is `none`, so a record's missing field and a field that was never there
read alike. The field readers below are the source's helpers of the same names, which
every module of it repeats for itself.
-/

namespace MailRuntime.Js

/-- A parsed JSON value. -/
inductive Json where
  | null
  | bool (b : Bool)
  | num (n : Int)
  | decimal (text : String)
  | str (s : String)
  | arr (items : List Json)
  | obj (fields : List (String × Json))

/-- The fields of an object, in order. -/
abbrev Fields := List (String × Json)

/-- An object under construction: a field may be `undefined`, which its JSON text drops. -/
abbrev Draft := List (String × Option Json)

/-! ### Strings -/

/-- JavaScript's white space and line terminators, what `trim` takes off. -/
def isSpace (c : Char) : Bool :=
  let n := c.toNat
  (9 ≤ n && n ≤ 13) || n == 32 || n == 0xA0 || n == 0x1680 || (0x2000 ≤ n && n ≤ 0x200A) ||
    n == 0x2028 || n == 0x2029 || n == 0x202F || n == 0x205F || n == 0x3000 || n == 0xFEFF

/-- `trim` on characters. -/
def trimChars (l : List Char) : List Char :=
  ((l.dropWhile isSpace).reverse.dropWhile isSpace).reverse

/-- `value.trim()`. -/
def trim (s : String) : String := String.ofList (trimChars s.toList)

/-- A string counts as true unless it is empty. -/
def truthy (s : String) : Bool := s != ""

/-- `value?.trim() || undefined`. -/
def trimmed (s : String) : Option String := if truthy (trim s) then some (trim s) else none

/-- `text.includes(part)`. -/
def includes (text part : String) : Bool :=
  text.toList.tails.any fun rest => part.toList.isPrefixOf rest

/-- `items.join(separator)`. -/
def join (separator : String) : List String → String
  | [] => ""
  | [item] => item
  | item :: rest => item ++ separator ++ join separator rest

/-! ### Reading a value -/

/-- `typeof value === "string" ? value : undefined`. -/
def string : Option Json → Option String
  | some (.str s) => some s
  | _ => none

/-- The value as a non-blank string, trimmed. -/
def asString (v : Option Json) : Option String := (string v).bind trimmed

/-- The value as an integer. -/
def asInteger : Option Json → Option Int
  | some (.num n) => some n
  | _ => none

/-- `typeof value === "number"`. -/
def isNumber : Option Json → Bool
  | some (.num _) | some (.decimal _) => true
  | _ => false

/-- The value as a boolean. -/
def asBool : Option Json → Option Bool
  | some (.bool b) => some b
  | _ => none

/-- The value as an object that is not an array. -/
def asRecord : Option Json → Option Fields
  | some (.obj fields) => some fields
  | _ => none

/-- The value as an array. -/
def asArray : Option Json → Option (List Json)
  | some (.arr items) => some items
  | _ => none

/-- `record?.key`. -/
def field (record : Option Fields) (key : String) : Option Json := record.bind fun r => r.lookup key

/-- `left ?? right`. -/
def orNullish : Option Json → Option Json → Option Json
  | none, right | some .null, right => right
  | left, _ => left

/-- The fields that are read of a value that is neither `null` nor `undefined`: only an object
has any of those the source asks for. -/
def fieldsOf : Option Json → Fields
  | some (.obj fields) => fields
  | _ => []

/-- `Object.entries`, of an object or an array, whose keys are its positions; there are none of
another value that is tested with `typeof` before. -/
def objectEntries : Option Json → Fields
  | some (.obj fields) => fields
  | some (.arr items) => items.zipIdx.map fun (item, i) => (toString i, item)
  | _ => []

mutual

/-- `String(value)`. -/
def toText : Json → String
  | .null => "null"
  | .bool b => if b then "true" else "false"
  | .num n => toString n
  | .decimal text => text
  | .str s => s
  | .arr items => join "," (itemTexts items)
  | .obj _ => "[object Object]"

/-- `String(item)` of the items of an array, where `null` is blank. -/
def itemTexts : List Json → List String
  | [] => []
  | .null :: rest => "" :: itemTexts rest
  | item :: rest => toText item :: itemTexts rest

end

/-! ### Building an object -/

/-- An optional string as a field's value. -/
def ofString (s : Option String) : Option Json := s.map .str

/-- The object that the JSON text of a draft parses to. -/
def Draft.stored (d : Draft) : Fields := d.filterMap fun (k, v) => v.map fun v => (k, v)

/-- `{ ...existing, ...input }`: the fields of `input` take the place of those of
`existing` with the same key, also where they are `undefined`. -/
def spread (existing : Fields) (input : Draft) : Draft :=
  (existing.filter fun (k, _) => !input.any fun (k', _) => k' == k).map
    (fun (k, v) => (k, some v)) ++ input

/-- `{ ...draft, key: value }`. -/
def Draft.set (d : Draft) (key : String) (value : Option Json) : Draft :=
  (d.filter fun (k, _) => k != key) ++ [(key, value)]

/-! ### Trimming twice -/

theorem trimChars_eq (l : List Char) :
    trimChars l = (l.dropWhile isSpace).rdropWhile isSpace := rfl

theorem trimChars_trimChars (l : List Char) : trimChars (trimChars l) = trimChars l := by
  simp only [trimChars_eq]
  have hprefix := List.rdropWhile_prefix isSpace (l.dropWhile isSpace)
  have hhead : ((l.dropWhile isSpace).rdropWhile isSpace).dropWhile isSpace =
      (l.dropWhile isSpace).rdropWhile isSpace := by
    refine List.dropWhile_eq_self_iff.2 fun hl => ?_
    have hpos : 0 < (l.dropWhile isSpace).length := hl.trans_le hprefix.length_le
    rw [List.IsPrefix.getElem hprefix hl]
    exact List.dropWhile_eq_self_iff.1 (List.dropWhile_idempotent isSpace l) hpos
  rw [hhead, List.rdropWhile_idempotent]

@[simp] theorem trim_trim (s : String) : trim (trim s) = trim s := by
  simp only [trim, String.toList_ofList, trimChars_trimChars]

theorem trimmed_of_trimmed {s t : String} (h : trimmed s = some t) : trimmed t = some t := by
  simp only [trimmed] at h
  split at h
  · next hs =>
    obtain rfl := Option.some.inj h
    simp [trimmed, hs]
  · cases h

theorem asString_eq_some {v : Option Json} {t : String} (h : asString v = some t) :
    trimmed t = some t := by
  obtain ⟨s, -, hs⟩ := Option.bind_eq_some_iff.1 h
  exact trimmed_of_trimmed hs

/-! ### Looking up a field that was built -/

theorem lookup_stored {d : Draft} (hd : (d.map Prod.fst).Nodup) (key : String) :
    d.stored.lookup key = (d.lookup key).join := by
  induction d with
  | nil => rfl
  | cons entry rest ih =>
    obtain ⟨k, v⟩ := entry
    simp only [List.map_cons, List.nodup_cons] at hd
    have ih := ih hd.2
    by_cases hk : key = k
    · subst hk
      have hrest : rest.lookup key = none := by
        rw [List.lookup_eq_none_iff]
        intro p hp
        have hne : key ≠ p.1 := fun h => hd.1 (h ▸ List.mem_map_of_mem hp)
        simpa using hne
      rw [hrest] at ih
      cases v with
      | none => simpa [Draft.stored] using ih
      | some j => simp [Draft.stored]
    · have hk' : (key == k) = false := by simpa using hk
      cases v with
      | none => simpa [Draft.stored, List.lookup_cons, hk'] using ih
      | some j => simpa [Draft.stored, List.lookup_cons, hk'] using ih

theorem stored_spread (fs : Fields) (d : Draft) :
    (spread fs d).stored = (fs.filter fun p => !d.any fun q => q.1 == p.1) ++ d.stored := by
  have hall : ∀ l : Fields,
      (l.map fun p => (p.1, some p.2)).filterMap (fun p => p.2.map fun v => (p.1, v)) = l := by
    intro l
    induction l with
    | nil => rfl
    | cons p rest ih => simp
  simp only [spread, Draft.stored, List.filterMap_append]
  rw [hall]

/-- A field of the spread-in object reads as it is there, whatever was there before. -/
theorem lookup_spread {fs : Fields} {d : Draft} (hd : (d.map Prod.fst).Nodup) {key : String}
    {v : Option Json} (h : d.lookup key = some v) : (spread fs d).stored.lookup key = v := by
  have hkeep : (fs.filter fun p => !d.any fun q => q.1 == p.1).lookup key = none := by
    rw [List.lookup_eq_none_iff]
    intro p hp
    have hp := (List.mem_filter.1 hp).2
    obtain ⟨l₁, l₂, hl, -⟩ := List.lookup_eq_some_iff.1 h
    have hne : key ≠ p.1 := by
      rintro rfl
      simp [hl] at hp
    simpa using hne
  rw [stored_spread, List.lookup_append, hkeep, lookup_stored hd, h]
  cases v <;> rfl

/-- A field that is not spread in reads as before. -/
theorem lookup_spread_of_not_mem {fs : Fields} {d : Draft} {key : String}
    (h : key ∉ d.map Prod.fst) : (spread fs d).stored.lookup key = fs.lookup key := by
  have hd : d.stored.lookup key = none := by
    rw [List.lookup_eq_none_iff]
    intro p hp
    obtain ⟨q, hq, hqp⟩ := List.mem_filterMap.1 hp
    obtain ⟨j, hj, rfl⟩ := Option.map_eq_some_iff.1 hqp
    have hne : key ≠ q.1 := fun hk => h (hk ▸ List.mem_map_of_mem hq)
    simpa using hne
  rw [stored_spread, List.lookup_append, hd, Option.or_none]
  induction fs with
  | nil => rfl
  | cons p rest ih =>
    obtain ⟨k, v⟩ := p
    by_cases hk : key = k
    · subst hk
      have hp : (d.any fun q => q.1 == key) = false := by
        refine Bool.eq_false_iff.2 fun hany => ?_
        obtain ⟨q, hq, hqp⟩ := List.any_eq_true.1 hany
        exact h (List.mem_map.2 ⟨q, hq, by simpa using hqp⟩)
      simp [hp]
    · have hk' : (key == k) = false := by simpa using hk
      by_cases hp : (d.any fun q => q.1 == k) = true
      · simpa [hp, List.lookup_cons, hk'] using ih
      · simpa [hp, List.lookup_cons, hk'] using ih

end MailRuntime.Js
