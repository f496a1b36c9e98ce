import MailRuntime.Js.Json
import MailRuntime.Js.Sorting

/-!
# The order of an object's own keys

An object lists the keys that are array indices first, by size, and the others in the order
they were set. What `Object.fromEntries` makes of sorted entries is therefore sorted only
among the other keys, and of those that compare equal the order before the sort remains.
-/

namespace MailRuntime.Js

/-- The number a key is, if it is an array index. -/
def arrayIndex (key : String) : Option Nat :=
  let n := Nat.ofDigitChars 10 key.toList 0
  if key.toList = Nat.toDigits 10 n ∧ n < 4294967295 then some n else none

/-- The size of an array index. -/
def indexLe (p q : String × Json) : Prop := (arrayIndex p.1).getD 0 ≤ (arrayIndex q.1).getD 0

instance (p q : String × Json) : Decidable (indexLe p q) :=
  inferInstanceAs (Decidable ((arrayIndex p.1).getD 0 ≤ (arrayIndex q.1).getD 0))

/-- `Object.fromEntries(entries)`, of entries with distinct keys. -/
def fromEntries (entries : Fields) : Fields :=
  (entries.filter fun p => (arrayIndex p.1).isSome).insertionSort indexLe ++
    entries.filter fun p => (arrayIndex p.1).isNone

example : (fromEntries [("b", .null), ("10", .null), ("01", .null), ("9", .null)]).map Prod.fst =
    ["9", "10", "b", "01"] := by decide +kernel

/-- Two keys are the same array index only if they are the same key. -/
theorem arrayIndex_injective {k k' : String} {n : Nat} (h : arrayIndex k = some n)
    (h' : arrayIndex k' = some n) : k = k' := by
  have hdigits : ∀ {k : String}, arrayIndex k = some n → k.toList = Nat.toDigits 10 n := by
    intro k h
    simp only [arrayIndex] at h
    split at h
    · next hk =>
      obtain rfl := Option.some.inj h
      exact hk.1
    · cases h
  rw [← String.toList_inj, hdigits h, hdigits h']

theorem fromEntries_perm (entries : Fields) : (fromEntries entries).Perm entries := by
  have hsplit : (entries.filter (fun p => (arrayIndex p.1).isSome) ++
      entries.filter fun p => !(arrayIndex p.1).isSome).Perm entries :=
    List.filter_append_perm _ _
  simp only [Option.not_isSome] at hsplit
  exact ((List.perm_insertionSort _ _).append_right _).trans hsplit

/-- The keys that are no array index keep their order. -/
theorem filter_fromEntries (entries : Fields) :
    (fromEntries entries).filter (fun p => (arrayIndex p.1).isNone) =
      entries.filter fun p => (arrayIndex p.1).isNone := by
  have hindices : ((entries.filter fun p => (arrayIndex p.1).isSome).insertionSort
      indexLe).filter (fun p => (arrayIndex p.1).isNone) = [] := by
    rw [List.filter_eq_nil_iff]
    intro p hp
    have hsome := (List.mem_filter.1 ((List.mem_insertionSort indexLe).1 hp)).2
    rw [Option.isNone_iff_eq_none]
    intro hnone
    rw [hnone] at hsome
    cases hsome
  unfold fromEntries
  rw [List.filter_append, hindices, List.nil_append, List.filter_filter]
  simp only [Bool.and_self]

/-- The order does not depend on the values. -/
theorem fromEntries_map (f : Json → Json) (entries : Fields) :
    fromEntries (entries.map fun p => (p.1, f p.2)) =
      (fromEntries entries).map fun p => (p.1, f p.2) := by
  unfold fromEntries
  rw [List.map_append, List.filter_map, List.filter_map,
    List.map_insertionSort indexLe indexLe (fun p => (p.1, f p.2)) _ fun _ _ _ _ => Iff.rfl]
  rfl

/-! ### Fields under distinct keys -/

theorem mem_iff_lookup {fields : Fields} (h : (fields.map Prod.fst).Nodup) (key : String)
    (value : Json) : (key, value) ∈ fields ↔ fields.lookup key = some value := by
  induction fields with
  | nil => simp
  | cons p fields ih =>
    obtain ⟨other, entry⟩ := p
    obtain ⟨hnew, hrest⟩ := List.nodup_cons.1 h
    by_cases hkey : key = other
    · subst hkey
      have hnot : (key, value) ∉ fields := by
        intro hmem
        exact hnew (List.mem_map.2 ⟨(key, value), hmem, rfl⟩)
      simp [hnot, eq_comm]
    · have hne : (key == other) = false := by simpa using hkey
      simp [List.lookup_cons, hne, ih hrest, hkey]

/-- Two fields of one key are one field. -/
theorem eq_of_fst_eq {fields : Fields} (h : (fields.map Prod.fst).Nodup) {p q : String × Json}
    (hp : p ∈ fields) (hq : q ∈ fields) (hkey : p.1 = q.1) : p = q := by
  have hlookup := (mem_iff_lookup h p.1 p.2).1 hp
  have hlookup' := (mem_iff_lookup h q.1 q.2).1 hq
  rw [← hkey, hlookup] at hlookup'
  exact Prod.ext hkey (Option.some.inj hlookup')

/-- Objects with the same fields in some order answer alike, and only they. -/
theorem perm_iff_lookup {fields others : Fields} (h : (fields.map Prod.fst).Nodup)
    (h' : (others.map Prod.fst).Nodup) :
    fields.Perm others ↔ ∀ key, fields.lookup key = others.lookup key := by
  rw [List.perm_ext_iff_of_nodup (List.Nodup.of_map _ h) (List.Nodup.of_map _ h')]
  constructor
  · intro hmem key
    apply Option.ext
    intro value
    simp only [← mem_iff_lookup h, ← mem_iff_lookup h', hmem]
  · rintro hlookup ⟨key, value⟩
    rw [mem_iff_lookup h, mem_iff_lookup h', hlookup]

/-- Lists of fields with the same keys are the same where no two of them differ under a key. -/
theorem eq_of_map_fst_eq {l l' : Fields} (hkeys : l.map Prod.fst = l'.map Prod.fst)
    (h : ∀ p ∈ l, ∀ q ∈ l', p.1 = q.1 → p = q) : l = l' := by
  induction l generalizing l' with
  | nil =>
    cases l' with
    | nil => rfl
    | cons q l' => cases hkeys
  | cons p l ih =>
    cases l' with
    | nil => cases hkeys
    | cons q l' =>
      obtain ⟨hkey, hkeys⟩ := List.cons.inj hkeys
      congr 1
      · exact h p List.mem_cons_self q List.mem_cons_self hkey
      · apply ih hkeys
        intro p hp q hq
        exact h p (List.mem_cons_of_mem _ hp) q (List.mem_cons_of_mem _ hq)

/-! ### Sorted entries -/

/-- The order of the entries by their keys. -/
def entryLe (le : String → String → Bool) (p q : String × Json) : Prop := le p.1 q.1

instance (le : String → String → Bool) (p q : String × Json) : Decidable (entryLe le p q) :=
  inferInstanceAs (Decidable (le p.1 q.1 = true))

theorem insertionSort_map (le : String → String → Bool) (f : Json → Json) (entries : Fields) :
    (entries.map fun p => (p.1, f p.2)).insertionSort (entryLe le) =
      (entries.insertionSort (entryLe le)).map fun p => (p.1, f p.2) :=
  (List.map_insertionSort (entryLe le) (entryLe le) (fun p => (p.1, f p.2)) entries
    fun _ _ _ _ => Iff.rfl).symm

/-- The keys of the fields that compare equal to `key` and are no array index, in order. -/
def tiedKeys (le : String → String → Bool) (key : String) (fields : Fields) : List String :=
  (fields.map Prod.fst).filter fun other =>
    (arrayIndex other).isNone && (le key other && le other key)

/-- Two objects are the same exactly when they have the same fields and list those that are
no array index in the same order. -/
theorem fromEntries_eq_iff {fields others : Fields} (h : (fields.map Prod.fst).Nodup) :
    fromEntries fields = fromEntries others ↔ fields.Perm others ∧
      fields.filter (fun p => (arrayIndex p.1).isNone) =
        others.filter fun p => (arrayIndex p.1).isNone := by
  constructor
  · intro heq
    constructor
    · exact (fromEntries_perm fields).symm.trans (heq ▸ fromEntries_perm others)
    · rw [← filter_fromEntries, heq, filter_fromEntries]
  · rintro ⟨hperm, hnone⟩
    have hindices : (fields.filter fun p => (arrayIndex p.1).isSome).insertionSort indexLe =
        (others.filter fun p => (arrayIndex p.1).isSome).insertionSort indexLe := by
      have hle : ∀ p q, indexLe p q ∨ indexLe q p := fun p q => Nat.le_total _ _
      have htrans : ∀ p q s, indexLe p q → indexLe q s → indexLe p s :=
        fun p q s => Nat.le_trans
      apply List.Perm.eq_of_pairwise _ (sorted_insertionSort hle htrans _)
        (sorted_insertionSort hle htrans _)
      · exact ((List.perm_insertionSort _ _).trans (hperm.filter _)).trans
          (List.perm_insertionSort _ _).symm
      · intro p q hp hq hpq hqp
        obtain ⟨hp, hpsome⟩ := List.mem_filter.1 ((List.mem_insertionSort indexLe).1 hp)
        obtain ⟨hq, hqsome⟩ := List.mem_filter.1 ((List.mem_insertionSort indexLe).1 hq)
        obtain ⟨m, hm⟩ := Option.isSome_iff_exists.1 hpsome
        obtain ⟨n, hn⟩ := Option.isSome_iff_exists.1 hqsome
        have hmn : m = n := by
          simp only [indexLe, hm, hn, Option.getD_some] at hpq hqp
          omega
        subst hmn
        exact eq_of_fst_eq h hp (hperm.mem_iff.2 hq) (arrayIndex_injective hm hn)
    unfold fromEntries
    rw [hindices, hnone]

/-- Sorted by a preorder of their keys, two objects are the same exactly when they have the
same fields and list the keys that compare equal in the same order. -/
theorem fromEntries_insertionSort_eq_iff {le : String → String → Bool}
    (htotal : ∀ a b, le a b ∨ le b a) (htrans : ∀ a b c, le a b → le b c → le a c)
    {fields others : Fields} (h : (fields.map Prod.fst).Nodup)
    (h' : (others.map Prod.fst).Nodup) :
    fromEntries (fields.insertionSort (entryLe le)) =
        fromEntries (others.insertionSort (entryLe le)) ↔
      (∀ key, fields.lookup key = others.lookup key) ∧
        ∀ key, tiedKeys le key fields = tiedKeys le key others := by
  have hleTotal : ∀ p q, entryLe le p q ∨ entryLe le q p := fun p q => htotal p.1 q.1
  have hleTrans : ∀ p q s, entryLe le p q → entryLe le q s → entryLe le p s :=
    fun p q s => htrans p.1 q.1 s.1
  have hsorted : ((fields.insertionSort (entryLe le)).map Prod.fst).Nodup :=
    ((List.perm_insertionSort (entryLe le) fields).map Prod.fst).nodup_iff.2 h
  have hperm : (fields.insertionSort (entryLe le)).Perm (others.insertionSort (entryLe le)) ↔
      fields.Perm others := by
    have hl := List.perm_insertionSort (entryLe le) fields
    have hr := List.perm_insertionSort (entryLe le) others
    constructor
    · intro hperm
      exact (hl.symm.trans hperm).trans hr
    · intro hperm
      exact (hl.trans hperm).trans hr.symm
  -- The keys of the fields that are tied with one are the tied keys.
  have htied : ∀ (fields : Fields) (p : String × Json),
      ((fields.filter fun q => (arrayIndex q.1).isNone).filter
        fun q => Tied (entryLe le) p q).map Prod.fst = tiedKeys le p.1 fields := by
    intro fields p
    unfold tiedKeys
    rw [List.filter_filter, List.filter_map]
    congr 2
    funext q
    rw [Bool.eq_iff_iff]
    simp only [Function.comp_apply, Bool.and_eq_true, decide_eq_true_eq]
    exact and_comm
  rw [fromEntries_eq_iff hsorted, hperm, insertionSort_filter hleTotal hleTrans,
    insertionSort_filter hleTotal hleTrans, insertionSort_eq_iff hleTotal hleTrans,
    perm_iff_lookup h h']
  apply and_congr_right
  intro hlookup
  constructor
  · intro heq key
    rw [← htied fields (key, .null), heq, htied]
  · intro heq p
    apply eq_of_map_fst_eq
    · rw [htied, htied, heq]
    · intro q hq s hs hkey
      have hq := (List.mem_filter.1 (List.mem_filter.1 hq).1).1
      have hs := (List.mem_filter.1 (List.mem_filter.1 hs).1).1
      exact eq_of_fst_eq h hq (((perm_iff_lookup h h').2 hlookup).mem_iff.2 hs) hkey

end MailRuntime.Js
