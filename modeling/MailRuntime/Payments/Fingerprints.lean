import MailRuntime.Payments.X402
import MailRuntime.Js.Infinities
import MailRuntime.Js.Paths

/-!
# The texts that payment proofs are fingerprinted by

`fingerprintPaymentProof` hashes the JSON text of the normalized proof. Two proofs have one
text exactly when they are equal up to the order of keys once `JSON.stringify` has written
their infinite numbers as `null`, and list the keys that `localeCompare` takes for equal in
the same order: a stable sort leaves such keys where they were.
-/

namespace MailRuntime.X402

open Js

/-- What the standard says of the runtime: `localeCompare` is some total preorder, and
`JSON.stringify` writes a value's JSON text. -/
structure Standard (env : Env) : Prop where
  total : ∀ a b, env.localeLe a b ∨ env.localeLe b a
  trans : ∀ a b c, env.localeLe a b → env.localeLe b c → env.localeLe a c
  stringify_eq : ∀ v, env.stringify v = String.ofList (written v)

section Normalize

variable (env : Env)

theorem normalizeItems_eq_map (items : List Json) :
    normalizeItems env items = items.map (normalizeProofValue env) := by
  induction items with
  | nil => rfl
  | cons item items ih => simp [normalizeItems, ih]

theorem normalizeEntries_eq_map (fields : Fields) :
    normalizeEntries env fields = fields.map fun p => (p.1, normalizeProofValue env p.2) := by
  induction fields with
  | nil => rfl
  | cons p fields ih => simp [normalizeEntries, ih]

/-- The fields of a normalized object. -/
def normalFields (fields : Fields) : Fields :=
  fromEntries ((normalizeEntries env fields).insertionSort (entryLe env.localeLe))

/-! ### Finite values stay as they are -/

mutual

/-- Normalizing commutes with writing infinite numbers as `null`. -/
theorem finite_normalizeProofValue : ∀ v : Json,
    finite (normalizeProofValue env v) = normalizeProofValue env (finite v)
  | .null => rfl
  | .bool _ => rfl
  | .num _ => rfl
  | .decimal text => by
    show finite (.decimal text) = normalizeProofValue env (finite (.decimal text))
    unfold finite
    split <;> rfl
  | .str _ => rfl
  | .arr items => congrArg Json.arr (finiteItems_normalizeItems items)
  | .obj fields => by
    show Json.obj (finiteFields (normalFields env fields)) =
      .obj (normalFields env (finiteFields fields))
    have hentries := finiteFields_normalizeEntries fields
    rw [normalFields, normalFields, ← hentries, finiteFields_eq_map, finiteFields_eq_map,
      insertionSort_map, fromEntries_map]

theorem finiteItems_normalizeItems : ∀ items : List Json,
    finiteItems (normalizeItems env items) = normalizeItems env (finiteItems items)
  | [] => rfl
  | item :: items => by
    show finite (normalizeProofValue env item) :: finiteItems (normalizeItems env items) =
      normalizeProofValue env (finite item) :: normalizeItems env (finiteItems items)
    rw [finite_normalizeProofValue item, finiteItems_normalizeItems items]

theorem finiteFields_normalizeEntries : ∀ fields : List (String × Json),
    finiteFields (normalizeEntries env fields) = normalizeEntries env (finiteFields fields)
  | [] => rfl
  | (key, value) :: fields => by
    show (key, finite (normalizeProofValue env value)) ::
        finiteFields (normalizeEntries env fields) =
      (key, normalizeProofValue env (finite value)) :: normalizeEntries env (finiteFields fields)
    rw [finite_normalizeProofValue value, finiteFields_normalizeEntries fields]

end

/-! ### Normalized values are proper -/

theorem keys_normalizeEntries (fields : Fields) :
    (normalizeEntries env fields).map Prod.fst = fields.map Prod.fst := by
  simp [normalizeEntries_eq_map, Function.comp_def]

theorem normalFields_perm (fields : Fields) :
    (normalFields env fields).Perm (normalizeEntries env fields) :=
  (fromEntries_perm _).trans (List.perm_insertionSort _ _)

mutual

/-- Normalizing keeps what JSON text can say. -/
theorem proper_normalizeProofValue : ∀ v : Json, Proper v → Proper (normalizeProofValue env v)
  | .null, h => h
  | .bool _, h => h
  | .num _, h => h
  | .decimal _, h => h
  | .str _, h => h
  | .arr items, h => by
    have hitems : ProperItems items := by simpa only [Proper] using h
    show Proper (.arr (normalizeItems env items))
    simpa only [Proper] using properItems_normalizeItems items hitems
  | .obj fields, h => by
    obtain ⟨hkeys, hfields⟩ : (fields.map Prod.fst).Nodup ∧ ProperFields fields := by
      simpa only [Proper] using h
    have hperm := normalFields_perm env fields
    have hentries := (properFields_iff _).1 (properFields_normalizeEntries fields hfields)
    show Proper (.obj (normalFields env fields))
    unfold Proper
    constructor
    · rw [(hperm.map Prod.fst).nodup_iff, keys_normalizeEntries]
      exact hkeys
    · rw [properFields_iff]
      intro p hp
      exact hentries p (hperm.mem_iff.1 hp)

theorem properItems_normalizeItems : ∀ items : List Json,
    ProperItems items → ProperItems (normalizeItems env items)
  | [], h => h
  | item :: items, h => by
    obtain ⟨hitem, hitems⟩ : Proper item ∧ ProperItems items := by
      simpa only [ProperItems] using h
    unfold normalizeItems ProperItems
    exact ⟨proper_normalizeProofValue item hitem, properItems_normalizeItems items hitems⟩

theorem properFields_normalizeEntries : ∀ fields : List (String × Json),
    ProperFields fields → ProperFields (normalizeEntries env fields)
  | [], h => h
  | (key, value) :: fields, h => by
    obtain ⟨hvalue, hfields⟩ : Proper value ∧ ProperFields fields := by
      simpa only [ProperFields] using h
    unfold normalizeEntries ProperFields
    exact ⟨proper_normalizeProofValue value hvalue, properFields_normalizeEntries fields hfields⟩

end

/-- A value inside a proper one is proper. -/
theorem proper_child {step : PathStep} {v x : Json} (h : Proper v) (hx : v.child step = some x) :
    Proper x := by
  cases step with
  | key k =>
    cases v with
    | obj fields =>
      obtain ⟨hkeys, hfields⟩ : (fields.map Prod.fst).Nodup ∧ ProperFields fields := by
        simpa only [Proper] using h
      exact (properFields_iff fields).1 hfields _ ((mem_iff_lookup hkeys k x).2 hx)
    | _ => cases hx
  | item i =>
    cases v with
    | arr items =>
      have hitems : ProperItems items := by simpa only [Proper] using h
      exact (properItems_iff items).1 hitems x (List.mem_of_getElem? hx)
    | _ => cases hx

end Normalize

/-! ### When two values have one normal form -/

section NormalForm

variable {env : Env}

theorem shape_normalizeProofValue (v : Json) : (normalizeProofValue env v).shape = v.shape := by
  cases v with
  | arr items =>
    show Shape.arr (normalizeItems env items).length = .arr items.length
    rw [normalizeItems_eq_map, List.length_map]
  | _ => rfl

theorem map_eq_map_iff_rel {α β : Type*} (f : α → β) (a b : Option α) :
    a.map f = b.map f ↔ Option.Rel (fun x y => f x = f y) a b := by
  cases a <;> cases b <;> simp

/-- Arrays have one normal form when their items have. -/
theorem normalizeItems_eq_iff (items others : List Json) :
    normalizeItems env items = normalizeItems env others ↔
      ∀ i : Nat, Option.Rel (fun x y => normalizeProofValue env x = normalizeProofValue env y)
        items[i]? others[i]? := by
  rw [normalizeItems_eq_map, normalizeItems_eq_map, List.ext_getElem?_iff]
  simp only [List.getElem?_map, map_eq_map_iff_rel]

theorem lookup_normalizeEntries (fields : Fields) (key : String) :
    (normalizeEntries env fields).lookup key =
      (fields.lookup key).map (normalizeProofValue env) := by
  induction fields with
  | nil => rfl
  | cons p fields ih =>
    obtain ⟨other, value⟩ := p
    simp only [normalizeEntries, List.lookup_cons, ih]
    split <;> rfl

/-- Objects have one normal form when their values have and their ties are in order. -/
theorem normalFields_eq_iff (h : Standard env) {fields others : Fields}
    (hfields : (fields.map Prod.fst).Nodup) (hothers : (others.map Prod.fst).Nodup) :
    normalFields env fields = normalFields env others ↔
      (∀ key, Option.Rel (fun x y => normalizeProofValue env x = normalizeProofValue env y)
        (fields.lookup key) (others.lookup key)) ∧
      ∀ key, tiedKeys env.localeLe key fields = tiedKeys env.localeLe key others := by
  rw [← keys_normalizeEntries env] at hfields hothers
  unfold normalFields
  rw [fromEntries_insertionSort_eq_iff h.total h.trans hfields hothers]
  simp only [lookup_normalizeEntries, map_eq_map_iff_rel, tiedKeys, keys_normalizeEntries]

/-- Two values have one normal form when what is inside them has and their ties are in order. -/
theorem normalizeProofValue_eq_iff_child (h : Standard env) {v w : Json} (hv : Proper v)
    (hw : Proper w) : normalizeProofValue env v = normalizeProofValue env w ↔
      v.shape = w.shape ∧
      (∀ step, Option.Rel (fun x y => normalizeProofValue env x = normalizeProofValue env y)
        (v.child step) (w.child step)) ∧
      ∀ fields others, v = .obj fields → w = .obj others →
        ∀ key, tiedKeys env.localeLe key fields = tiedKeys env.localeLe key others := by
  by_cases hshape : v.shape = w.shape
  · cases v with
    | arr items =>
      cases w with
      | arr others =>
        have hiff : normalizeItems env items = normalizeItems env others ↔ _ :=
          normalizeItems_eq_iff items others
        constructor
        · intro heq
          refine ⟨hshape, ?_, by simp⟩
          intro step
          cases step with
          | key k => exact .none
          | item i => exact hiff.1 (Json.arr.inj heq) i
        · rintro ⟨-, hinside, -⟩
          exact congrArg Json.arr (hiff.2 fun i => hinside (.item i))
      | _ => cases hshape
    | obj fields =>
      cases w with
      | obj others =>
        obtain ⟨hfields, -⟩ : (fields.map Prod.fst).Nodup ∧ ProperFields fields := by
          simpa only [Proper] using hv
        obtain ⟨hothers, -⟩ : (others.map Prod.fst).Nodup ∧ ProperFields others := by
          simpa only [Proper] using hw
        have hiff := normalFields_eq_iff h hfields hothers
        constructor
        · intro heq
          obtain ⟨hinside, hties⟩ := hiff.1 (Json.obj.inj heq)
          refine ⟨hshape, ?_, ?_⟩
          · intro step
            cases step with
            | key k => exact hinside k
            | item i => exact .none
          · rintro _ _ ⟨⟩ ⟨⟩
            exact hties
        · rintro ⟨-, hinside, hties⟩
          exact congrArg Json.obj
            (hiff.2 ⟨fun key => hinside (.key key), hties fields others rfl rfl⟩)
      | _ => cases hshape
    | _ =>
      -- A value with nothing inside it is its shape.
      cases w <;> cases hshape
      all_goals exact iff_of_true rfl ⟨rfl, fun step => by cases step <;> exact .none, by simp⟩
  · constructor
    · intro heq
      have hv : (normalizeProofValue env v).shape = v.shape := shape_normalizeProofValue v
      rw [heq, shape_normalizeProofValue] at hv
      exact absurd hv.symm hshape
    · rintro ⟨hsame, -⟩
      exact absurd hsame hshape

/-- Two values have one normal form exactly when they are the same up to the order of keys and
their ties are in order. The induction is on the size of the first. -/
theorem normalizeProofValue_eq_iff (h : Standard env) {v w : Json} (hv : Proper v)
    (hw : Proper w) : normalizeProofValue env v = normalizeProofValue env w ↔
      SameUpToOrder v w ∧ TiesInOrder env.localeLe v w := by
  generalize hsize : sizeOf v = n
  induction n using Nat.strong_induction_on generalizing v w with
  | _ n ih =>
    subst hsize
    have hinside : ∀ step x y, v.child step = some x → w.child step = some y →
        (normalizeProofValue env x = normalizeProofValue env y ↔
          SameUpToOrder x y ∧ TiesInOrder env.localeLe x y) := by
      intro step x y hx hy
      exact ih (sizeOf x) (sizeOf_child hx) (proper_child hv hx) (proper_child hw hy) rfl
    have hrel := fun step => rel_iff_rel_and (hinside step)
    rw [normalizeProofValue_eq_iff_child h hv hw, sameUpToOrder_iff, tiesInOrder_iff]
    constructor
    · rintro ⟨hshape, heq, hties⟩
      exact ⟨⟨hshape, fun step => ((hrel step).1 (heq step)).1⟩, hties,
        fun step => ((hrel step).1 (heq step)).2⟩
    · rintro ⟨⟨hshape, hsame⟩, hties, hbelow⟩
      exact ⟨hshape, fun step => (hrel step).2 ⟨hsame step, hbelow step⟩, hties⟩

/-! ### The texts -/

/-- One text is written of two values only if they are the same without their infinite
numbers. -/
theorem written_injective {v w : Json} (hv : Proper (finite v)) (hw : Proper (finite w))
    (h : written v = written w) : finite v = finite w := by
  have hparse := parse_written hv
  rw [h, parse_written hw] at hparse
  exact (Option.some.inj hparse).symm

/-- A value's shape as `JSON.stringify` writes it. -/
def finiteShape : Shape → Shape
  | .decimal text => if isInfinite text then .null else .decimal text
  | s => s

theorem shape_finite (v : Json) : (finite v).shape = finiteShape v.shape := by
  cases v with
  | decimal text =>
    show (finite (.decimal text)).shape = finiteShape (.decimal text)
    simp only [finite, finiteShape]
    split <;> rfl
  | arr items => simp [finite, Json.shape, finiteShape, finiteItems_eq_map]
  | _ => rfl

theorem child_finite (step : PathStep) (v : Json) :
    (finite v).child step = (v.child step).map finite := by
  cases v with
  | decimal text =>
    unfold finite
    split <;> cases step <;> rfl
  | arr items =>
    cases step with
    | key k => rfl
    | item i =>
      show (finiteItems items)[i]? = items[i]?.map finite
      rw [finiteItems_eq_map, List.getElem?_map]
  | obj fields =>
    cases step with
    | key k =>
      exact lookup_finiteFields fields k
    | item i => rfl
  | _ => cases step <;> rfl

/-- A path leads to the same thing once infinite numbers are `null`. -/
theorem follow_finite (path : List PathStep) (v : Json) :
    (finite v).follow path = (v.follow path).map finite := by
  induction path generalizing v with
  | nil => rfl
  | cons step path ih =>
    simp only [Json.follow, child_finite]
    cases v.child step with
    | none => rfl
    | some x => exact ih x

theorem sameUpToOrder_finite {v w : Json} (h : SameUpToOrder v w) :
    SameUpToOrder (finite v) (finite w) := by
  intro path
  have hshape : Json.shape ∘ finite = finiteShape ∘ Json.shape := funext shape_finite
  rw [follow_finite, follow_finite, Option.map_map, Option.map_map, hshape, ← Option.map_map,
    ← Option.map_map, h path]

/-- An object stays one with the same keys. -/
theorem finite_eq_obj_iff (v : Json) (fields : Fields) :
    finite v = .obj fields ↔ ∃ before, v = .obj before ∧ fields = finiteFields before := by
  cases v with
  | decimal text =>
    unfold finite
    split <;> simp
  | obj before => simp [finite, eq_comm]
  | _ => simp [finite]

theorem tiesInOrder_finite (le : String → String → Bool) (v w : Json) :
    TiesInOrder le (finite v) (finite w) ↔ TiesInOrder le v w := by
  have hobj : ∀ (path : List PathStep) (v : Json) (fields : Fields),
      (finite v).follow path = some (.obj fields) ↔
        ∃ before, v.follow path = some (.obj before) ∧ fields = finiteFields before := by
    intro path v fields
    rw [follow_finite, Option.map_eq_some_iff]
    simp only [finite_eq_obj_iff]
    constructor
    · rintro ⟨_, hfollow, before, rfl, rfl⟩
      exact ⟨before, hfollow, rfl⟩
    · rintro ⟨before, hfollow, rfl⟩
      exact ⟨_, hfollow, before, rfl, rfl⟩
  have hkeys : ∀ (key : String) (fields : Fields),
      tiedKeys le key (finiteFields fields) = tiedKeys le key fields := by
    intro key fields
    rw [tiedKeys, keys_finiteFields, tiedKeys]
  constructor
  · intro h path fields others hfields hothers key
    rw [← hkeys key fields, ← hkeys key others]
    exact h path _ _ ((hobj path v _).2 ⟨fields, hfields, rfl⟩)
      ((hobj path w _).2 ⟨others, hothers, rfl⟩) key
  · intro h path fields others hfields hothers key
    obtain ⟨before, hbefore, rfl⟩ := (hobj path v fields).1 hfields
    obtain ⟨after, hafter, rfl⟩ := (hobj path w others).1 hothers
    rw [hkeys, hkeys]
    exact h path before after hbefore hafter key

/-- Two proofs have one text exactly when they are the same up to the order of keys, once
infinite numbers are `null`, and their ties are in order. -/
theorem normalized_text_eq_iff (h : Standard env) {v w : Json} (hv : Proper (finite v))
    (hw : Proper (finite w)) :
    env.stringify (normalizeProofValue env v) = env.stringify (normalizeProofValue env w) ↔
      SameUpToOrder (finite v) (finite w) ∧ TiesInOrder env.localeLe v w := by
  have hproper : ∀ {v : Json}, Proper (finite v) →
      Proper (finite (normalizeProofValue env v)) := by
    intro v hv
    rw [finite_normalizeProofValue]
    exact proper_normalizeProofValue env _ hv
  rw [h.stringify_eq, h.stringify_eq, ← tiesInOrder_finite, ← normalizeProofValue_eq_iff h hv hw,
    ← finite_normalizeProofValue, ← finite_normalizeProofValue]
  constructor
  · intro heq
    exact written_injective (hproper hv) (hproper hw) (String.ofList_injective heq)
  · intro heq
    simp only [written, heq]

/-- The text tells exactly the values apart that differ by more than the order of keys if, and
only if, no two that do not differ so have ties in another order, and none that do are the same
once infinite numbers are `null`. -/
theorem text_canonical_iff (h : Standard env) {v w : Json} (hv : Proper (finite v))
    (hw : Proper (finite w)) :
    (env.stringify (normalizeProofValue env v) = env.stringify (normalizeProofValue env w) ↔
        SameUpToOrder v w) ↔
      (SameUpToOrder v w → TiesInOrder env.localeLe v w) ∧
        (SameUpToOrder (finite v) (finite w) → TiesInOrder env.localeLe v w →
          SameUpToOrder v w) := by
  rw [normalized_text_eq_iff h hv hw]
  constructor
  · intro hiff
    exact ⟨fun hsame => (hiff.2 hsame).2, fun hfinite hties => hiff.1 ⟨hfinite, hties⟩⟩
  · rintro ⟨hties, hsame⟩
    constructor
    · rintro ⟨hfinite, hinOrder⟩
      exact hsame hfinite hinOrder
    · intro h
      exact ⟨sameUpToOrder_finite h, hties h⟩

end NormalForm

/-! ### Where the texts go wrong -/

/-- A collation that takes an accent after its letter for the accented letter. -/
def collated (key : String) : String := if key = "e\u0301" then "é" else key

/-- A runtime with that collation. -/
def collatingEnv : Env :=
  { Env.bare with
    localeLe := fun a b => collated a ≤ collated b
    stringify := fun v => String.ofList (written v) }

theorem standard_collatingEnv : Standard collatingEnv where
  total a b := by
    show decide (collated a ≤ collated b) = true ∨ decide (collated b ≤ collated a) = true
    simpa only [decide_eq_true_eq] using String.le_total (collated a) (collated b)
  trans a b c hab hbc := by
    have hab : collated a ≤ collated b := of_decide_eq_true hab
    have hbc : collated b ≤ collated c := of_decide_eq_true hbc
    exact decide_eq_true (String.le_trans hab hbc)
  stringify_eq _ := rfl

/-- A proof with one key before another. -/
def twoKeys (first second : String × Json) : Json := .obj [first, second]

/-- Keys that are apart in the alphabet: the order of the text is that of the keys. -/
theorem text_canonical_iff_letters :
    let v := twoKeys ("b", .num 1) ("a", .num 2)
    let w := twoKeys ("a", .num 2) ("b", .num 1)
    (collatingEnv.stringify (normalizeProofValue collatingEnv v) =
        collatingEnv.stringify (normalizeProofValue collatingEnv w) ↔ SameUpToOrder v w) ↔
      (SameUpToOrder v w → TiesInOrder collatingEnv.localeLe v w) ∧
        (SameUpToOrder (finite v) (finite w) → TiesInOrder collatingEnv.localeLe v w →
          SameUpToOrder v w) :=
  text_canonical_iff standard_collatingEnv
    (by simp [twoKeys, finite, finiteFields, Proper, ProperFields])
    (by simp [twoKeys, finite, finiteFields, Proper, ProperFields])

/-- A proof splits in two where two of its keys compare equal, and two proofs become one where
one of them has a number too large for a double. -/
theorem accented_keys_split_and_infinite_merges :
    let forth := twoKeys ("é", .num 1) ("e\u0301", .num 2)
    let back := twoKeys ("e\u0301", .num 2) ("é", .num 1)
    let infinite := twoKeys ("a", .decimal "Infinity") ("b", .num 1)
    let without := twoKeys ("a", .null) ("b", .num 1)
    Standard collatingEnv ∧
    (SameUpToOrder forth back ∧
      collatingEnv.stringify (normalizeProofValue collatingEnv forth) ≠
        collatingEnv.stringify (normalizeProofValue collatingEnv back)) ∧
    ¬ SameUpToOrder infinite without ∧
      collatingEnv.stringify (normalizeProofValue collatingEnv infinite) =
        collatingEnv.stringify (normalizeProofValue collatingEnv without) := by
  refine ⟨standard_collatingEnv, ⟨?_, ?_⟩, ?_, ?_⟩
  · exact SameUpToOrder.of_perm (by decide) (List.Perm.swap _ _ _)
  · decide +kernel
  · intro h
    have hvalue := h [.key "a"]
    cases hvalue
  · decide +kernel

end MailRuntime.X402
