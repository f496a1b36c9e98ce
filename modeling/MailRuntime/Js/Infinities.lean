import MailRuntime.Js.JsonText

/-!
# Numbers that are not finite

`JSON.parse` makes an infinite number of `1e999`, and `JSON.stringify` writes it as `null`.
Such a number is the decimal `Infinity` here; what is written of a value is the JSON text of
the value without it, and reads back as that.
-/

namespace MailRuntime.Js

/-- The text of a number that is not finite. -/
def isInfinite (text : String) : Bool := text == "Infinity" || text == "-Infinity"

mutual

/-- The value as `JSON.stringify` writes it: a number that is not finite is `null`. -/
def finite : Json → Json
  | .decimal text => if isInfinite text then .null else .decimal text
  | .arr items => .arr (finiteItems items)
  | .obj fields => .obj (finiteFields fields)
  | v => v

/-- The items as `JSON.stringify` writes them. -/
def finiteItems : List Json → List Json
  | [] => []
  | item :: rest => finite item :: finiteItems rest

/-- The fields as `JSON.stringify` writes them. -/
def finiteFields : List (String × Json) → List (String × Json)
  | [] => []
  | (key, value) :: rest => (key, finite value) :: finiteFields rest

end

/-- The characters of `JSON.stringify(value)`, where numbers may be infinite. -/
def written (v : Json) : List Char := jsonChars (finite v)

/-- What is written reads back without its infinite numbers. -/
theorem parse_written {v : Json} (h : Proper (finite v)) : parse (written v) = some (finite v) :=
  parse_jsonChars h

theorem finiteItems_eq_map (items : List Json) : finiteItems items = items.map finite := by
  induction items with
  | nil => rfl
  | cons item items ih => simp [finiteItems, ih]

theorem finiteFields_eq_map (fields : Fields) :
    finiteFields fields = fields.map fun p => (p.1, finite p.2) := by
  induction fields with
  | nil => rfl
  | cons p fields ih => simp [finiteFields, ih]

theorem keys_finiteFields (fields : Fields) :
    (finiteFields fields).map Prod.fst = fields.map Prod.fst := by
  simp [finiteFields_eq_map, Function.comp_def]

theorem lookup_finiteFields (fields : Fields) (key : String) :
    (finiteFields fields).lookup key = (fields.lookup key).map finite := by
  induction fields with
  | nil => rfl
  | cons p fields ih =>
    obtain ⟨other, value⟩ := p
    simp only [finiteFields, List.lookup_cons, ih]
    split <;> rfl

mutual

/-- What is written has no infinite number left. -/
@[simp] theorem finite_finite : ∀ v : Json, finite (finite v) = finite v
  | .null => rfl
  | .bool _ => rfl
  | .num _ => rfl
  | .decimal text => by
    simp only [finite]
    split
    · rfl
    · next h => simp [finite, h]
  | .str _ => rfl
  | .arr items => congrArg Json.arr (finiteItems_finiteItems items)
  | .obj fields => congrArg Json.obj (finiteFields_finiteFields fields)

@[simp] theorem finiteItems_finiteItems : ∀ items : List Json,
    finiteItems (finiteItems items) = finiteItems items
  | [] => rfl
  | item :: items => by
    simp only [finiteItems, finite_finite item, finiteItems_finiteItems items]

@[simp] theorem finiteFields_finiteFields : ∀ fields : List (String × Json),
    finiteFields (finiteFields fields) = finiteFields fields
  | [] => rfl
  | (key, value) :: fields => by
    simp only [finiteFields, finite_finite value, finiteFields_finiteFields fields]

end

theorem properFields_iff (fields : Fields) :
    ProperFields fields ↔ ∀ p ∈ fields, Proper p.2 := by
  induction fields with
  | nil => simp [ProperFields]
  | cons p fields ih => simp [ProperFields, ih]

theorem properItems_iff (items : List Json) : ProperItems items ↔ ∀ v ∈ items, Proper v := by
  induction items with
  | nil => simp [ProperItems]
  | cons v items ih => simp [ProperItems, ih]

/-! ### Objects under construction -/

/-- The draft as it is written. -/
def Draft.finite (d : Draft) : Draft := d.map fun p => (p.1, p.2.map Js.finite)

theorem Draft.keys_finite (d : Draft) : (Draft.finite d).map Prod.fst = d.map Prod.fst := by
  simp [Draft.finite, Function.comp_def]

theorem finiteFields_stored (d : Draft) :
    finiteFields (Draft.stored d) = Draft.stored (Draft.finite d) := by
  induction d with
  | nil => rfl
  | cons p d ih =>
    obtain ⟨key, value⟩ := p
    cases value with
    | none => simpa [Draft.stored, Draft.finite] using ih
    | some value => simpa [Draft.stored, Draft.finite, finiteFields] using ih

theorem finiteFields_spread (fs : Fields) (d : Draft) :
    finiteFields (spread fs d).stored = (spread (finiteFields fs) (Draft.finite d)).stored := by
  have hany : ∀ key, ((Draft.finite d).any fun q => q.1 == key) = d.any fun q => q.1 == key := by
    intro key
    simp [Draft.finite, List.any_map, Function.comp_def]
  have happend : ∀ l l' : Fields, finiteFields (l ++ l') = finiteFields l ++ finiteFields l' := by
    intro l l'
    simp [finiteFields_eq_map]
  rw [stored_spread, stored_spread, happend, finiteFields_stored]
  simp only [hany]
  congr 1
  rw [finiteFields_eq_map, finiteFields_eq_map, List.filter_map]
  rfl

end MailRuntime.Js
