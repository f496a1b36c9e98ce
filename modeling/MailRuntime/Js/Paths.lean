import MailRuntime.Js.Objects

/-!
# Values up to the order of keys

A path leads from a value to one inside it, by keys and by places in arrays. Two values are
the same up to the order of keys when every path leads to the same thing in both, and their
ties are in order when it leads to objects that list the keys comparing equal alike.
-/

namespace MailRuntime.Js

/-- One step of a path. -/
inductive PathStep where
  /-- To the value of a field. -/
  | key (k : String)
  /-- To the item of an array. -/
  | item (i : Nat)

/-- The value one step inside. -/
def Json.child : PathStep → Json → Option Json
  | .key k, .obj fields => fields.lookup k
  | .item i, .arr items => items[i]?
  | _, _ => none

/-- The value a path leads to. -/
def Json.follow : List PathStep → Json → Option Json
  | [], v => some v
  | step :: path, v => (v.child step).bind (Json.follow path)

/-- What a value is, without what is inside it. -/
inductive Shape where
  | null
  | bool (b : Bool)
  | num (n : Int)
  | decimal (text : String)
  | str (s : String)
  | arr (length : Nat)
  | obj

/-- The shape of a value. -/
def Json.shape : Json → Shape
  | .null => .null
  | .bool b => .bool b
  | .num n => .num n
  | .decimal text => .decimal text
  | .str s => .str s
  | .arr items => .arr items.length
  | .obj _ => .obj

/-- The values are equal up to the order of keys, at every depth. -/
def SameUpToOrder (v w : Json) : Prop :=
  ∀ path, (v.follow path).map Json.shape = (w.follow path).map Json.shape

/-- Wherever both values have an object, the two list the keys that compare equal, and are no
array index, in the same order. -/
def TiesInOrder (le : String → String → Bool) (v w : Json) : Prop :=
  ∀ path fields others, v.follow path = some (.obj fields) → w.follow path = some (.obj others) →
    ∀ key, tiedKeys le key fields = tiedKeys le key others

/-! ### One level at a time -/

/-- A relation that says two things of what there is. -/
theorem rel_iff_rel_and {α : Type*} {r s t : α → α → Prop} {a b : Option α}
    (h : ∀ x y, a = some x → b = some y → (r x y ↔ s x y ∧ t x y)) :
    Option.Rel r a b ↔ Option.Rel s a b ∧ ∀ x y, a = some x → b = some y → t x y := by
  cases a <;> cases b <;> simp_all

/-- What is inside is smaller. -/
theorem sizeOf_child {step : PathStep} {v w : Json} (h : v.child step = some w) :
    sizeOf w < sizeOf v := by
  cases step with
  | key k =>
    cases v with
    | obj fields =>
      have hmem : (k, w) ∈ fields := List.lookup_eq_some_iff.1 h |>.elim fun _ h => by
        obtain ⟨after, rfl, -⟩ := h
        simp
      have hlt := List.sizeOf_lt_of_mem hmem
      simp only [Prod.mk.sizeOf_spec] at hlt
      simp only [Json.obj.sizeOf_spec]
      omega
    | _ => cases h
  | item i =>
    cases v with
    | arr items =>
      have hlt := List.sizeOf_lt_of_mem (List.mem_of_getElem? h)
      simp only [Json.arr.sizeOf_spec]
      omega
    | _ => cases h

theorem sameUpToOrder_iff (v w : Json) : SameUpToOrder v w ↔ v.shape = w.shape ∧
    ∀ step, Option.Rel SameUpToOrder (v.child step) (w.child step) := by
  constructor
  · intro h
    refine ⟨Option.some.inj (h []), fun step => ?_⟩
    have hstep : ∀ path, ((v.child step).bind (Json.follow path)).map Json.shape =
        ((w.child step).bind (Json.follow path)).map Json.shape := fun path => h (step :: path)
    cases hv : v.child step with
    | none =>
      cases hw : w.child step with
      | none => exact .none
      | some y =>
        have hnil := hstep []
        rw [hv, hw] at hnil
        cases hnil
    | some x =>
      cases hw : w.child step with
      | none =>
        have hnil := hstep []
        rw [hv, hw] at hnil
        cases hnil
      | some y =>
        refine .some fun path => ?_
        have hpath := hstep path
        rwa [hv, hw] at hpath
  · rintro ⟨hshape, hinside⟩ path
    cases path with
    | nil => exact congrArg some hshape
    | cons step path =>
      have hstep := hinside step
      show ((v.child step).bind (Json.follow path)).map Json.shape =
        ((w.child step).bind (Json.follow path)).map Json.shape
      generalize v.child step = x, w.child step = y at hstep ⊢
      cases hstep with
      | some h => exact h path
      | none => rfl

theorem tiesInOrder_iff (le : String → String → Bool) (v w : Json) : TiesInOrder le v w ↔
    (∀ fields others, v = .obj fields → w = .obj others →
      ∀ key, tiedKeys le key fields = tiedKeys le key others) ∧
    ∀ step x y, v.child step = some x → w.child step = some y → TiesInOrder le x y := by
  constructor
  · intro h
    constructor
    · rintro fields others rfl rfl
      exact h [] fields others rfl rfl
    · intro step x y hx hy path fields others hfields hothers
      apply h (step :: path) fields others
      · rw [Json.follow, hx]
        exact hfields
      · rw [Json.follow, hy]
        exact hothers
  · rintro ⟨hhere, hinside⟩ path fields others hfields hothers
    cases path with
    | nil => exact hhere fields others (Option.some.inj hfields) (Option.some.inj hothers)
    | cons step path =>
      obtain ⟨x, hx, hfields⟩ := Option.bind_eq_some_iff.1 hfields
      obtain ⟨y, hy, hothers⟩ := Option.bind_eq_some_iff.1 hothers
      exact hinside step x y hx hy path fields others hfields hothers

/-- Values with the same fields in another order are the same up to the order of keys. -/
theorem SameUpToOrder.of_perm {fields others : Fields} (h : (fields.map Prod.fst).Nodup)
    (hperm : fields.Perm others) : SameUpToOrder (.obj fields) (.obj others) := by
  have h' : (others.map Prod.fst).Nodup := (hperm.map Prod.fst).nodup_iff.1 h
  have hlookup := (perm_iff_lookup h h').1 hperm
  rw [sameUpToOrder_iff]
  refine ⟨rfl, fun step => ?_⟩
  cases step with
  | key k =>
    show Option.Rel SameUpToOrder (fields.lookup k) (others.lookup k)
    rw [hlookup]
    cases others.lookup k with
    | none => exact .none
    | some x => exact .some fun path => rfl
  | item i => exact .none

end MailRuntime.Js
