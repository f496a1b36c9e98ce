import Mathlib.Data.List.Sort

/-!
# Sorting where distinct elements may compare equal

What a stable sort by a total preorder determines: two elements are tied when each may
come before the other, and two lists sort to the same list exactly when, for every element,
the elements tied with it are the same in both, in the same order.
-/

namespace MailRuntime.Js

section Preorder

variable {α : Type*} {r : α → α → Prop} [DecidableRel r]

/-- Each of the two may come before the other. -/
def Tied (r : α → α → Prop) (a b : α) : Prop := r a b ∧ r b a

instance (a b : α) : Decidable (Tied r a b) :=
  inferInstanceAs (Decidable (r a b ∧ r b a))

/-- Elements that are all tied keep their places among themselves. -/
theorem filter_insertionSort {p : α → Bool} {l : List α}
    (h : ∀ a ∈ l, ∀ b ∈ l, p a = true → p b = true → r a b) :
    (l.insertionSort r).filter p = l.filter p := by
  have hpairwise : (l.filter p).Pairwise r := by
    apply List.pairwise_of_forall_mem_list
    intro a ha b hb
    exact h a (List.mem_filter.1 ha).1 b (List.mem_filter.1 hb).1 (List.mem_filter.1 ha).2
      (List.mem_filter.1 hb).2
  have hsub : List.Sublist (l.filter p) (l.insertionSort r) :=
    List.sublist_insertionSort hpairwise List.filter_sublist
  have hfilter : List.Sublist (l.filter p) ((l.insertionSort r).filter p) := by
    have hself := hsub.filter p
    simpa only [List.filter_filter, Bool.and_self] using hself
  have hlength : (l.filter p).length = ((l.insertionSort r).filter p).length :=
    ((List.perm_insertionSort r l).filter p).length_eq.symm
  exact (hfilter.eq_of_length hlength).symm

/-- A sorted list is determined by the elements tied with each. -/
theorem eq_of_filter_tied (hrefl : ∀ a, r a a) {l l' : List α} (hl : l.Pairwise r)
    (hl' : l'.Pairwise r)
    (h : ∀ a, l.filter (fun b => Tied r a b) = l'.filter (fun b => Tied r a b)) : l = l' := by
  have hmem : ∀ {l l' : List α}, (∀ a, l.filter (fun b => Tied r a b) =
      l'.filter (fun b => Tied r a b)) → ∀ a ∈ l, a ∈ l' := by
    intro l l' h a ha
    have hin : a ∈ l.filter (fun b => Tied r a b) := by
      simp [ha, Tied, hrefl]
    rw [h a] at hin
    exact (List.mem_filter.1 hin).1
  induction l generalizing l' with
  | nil =>
    cases l' with
    | nil => rfl
    | cons b l' =>
      have hb := hmem (fun a => (h a).symm) b List.mem_cons_self
      cases hb
  | cons a l ih =>
    cases l' with
    | nil =>
      have ha := hmem h a List.mem_cons_self
      cases ha
    | cons b l' =>
      have hle : ∀ {c d : α} {m : List α}, (c :: m).Pairwise r → d ∈ c :: m → r c d := by
        intro c d m hm hd
        obtain rfl | hd := List.mem_cons.1 hd
        · exact hrefl _
        · exact (List.pairwise_cons.1 hm).1 d hd
      have hab : r a b := hle hl (hmem (fun a => (h a).symm) b List.mem_cons_self)
      have hba : r b a := hle hl' (hmem h a List.mem_cons_self)
      have hhead := h a
      rw [List.filter_cons_of_pos (by simp [Tied, hrefl]),
        List.filter_cons_of_pos (by simp [Tied, hab, hba])] at hhead
      obtain ⟨rfl, -⟩ := List.cons.inj hhead
      congr 1
      apply ih (List.pairwise_cons.1 hl).2 (List.pairwise_cons.1 hl').2
      intro c
      have hc := h c
      simp only [List.filter_cons] at hc
      split at hc
      · exact (List.cons.inj hc).2
      · exact hc

section Total

variable (htotal : ∀ a b, r a b ∨ r b a) (htrans : ∀ a b c, r a b → r b c → r a c)

include htrans

/-- Sorting leaves the elements tied with one in their order. -/
theorem filter_tied_insertionSort (l : List α) (a : α) :
    (l.insertionSort r).filter (fun b => Tied r a b) = l.filter (fun b => Tied r a b) := by
  apply filter_insertionSort
  intro b _ c _ hb hc
  exact htrans b a c (of_decide_eq_true hb).2 (of_decide_eq_true hc).1

include htotal

theorem sorted_insertionSort (l : List α) : (l.insertionSort r).Pairwise r := by
  have : Std.Total r := ⟨htotal⟩
  have : IsTrans α r := ⟨htrans⟩
  exact List.pairwise_insertionSort r l

/-- Two lists sort to the same list exactly when the elements tied with each are the same in
both, in the same order. -/
theorem insertionSort_eq_iff (l l' : List α) :
    l.insertionSort r = l'.insertionSort r ↔
      ∀ a, l.filter (fun b => Tied r a b) = l'.filter (fun b => Tied r a b) := by
  constructor
  · intro h a
    rw [← filter_tied_insertionSort htrans, h, filter_tied_insertionSort htrans]
  · intro h
    apply eq_of_filter_tied (fun a => (htotal a a).elim id id)
      (sorted_insertionSort htotal htrans l) (sorted_insertionSort htotal htrans l')
    intro a
    rw [filter_tied_insertionSort htrans, filter_tied_insertionSort htrans]
    exact h a

/-- What is kept of a sorted list is what is kept, sorted. -/
theorem insertionSort_filter (p : α → Bool) (l : List α) :
    (l.insertionSort r).filter p = (l.filter p).insertionSort r := by
  apply eq_of_filter_tied (fun a => (htotal a a).elim id id)
    ((sorted_insertionSort htotal htrans l).filter p)
    (sorted_insertionSort htotal htrans (l.filter p))
  intro a
  rw [filter_tied_insertionSort htrans, List.filter_filter, List.filter_filter]
  simp only [Bool.and_comm]
  rw [← List.filter_filter, filter_tied_insertionSort htrans, List.filter_filter]

end Total

end Preorder

end MailRuntime.Js
