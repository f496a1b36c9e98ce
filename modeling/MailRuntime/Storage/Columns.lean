import MailRuntime.Storage.Rows
import Mathlib.Data.List.Nodup

/-!
# The status column of a table

Statements that write the status of the rows with one identifier, and nothing else that a
`WHERE` looks at. Whatever statuses such statements have written, in whatever number, one that
writes the status the row had to begin with leaves all statuses as they were.
-/

namespace MailRuntime

/-- The identifier and the status of a row, and what else of it a `WHERE` looks at. -/
structure StatusColumn (ρ τ κ : Type) where
  id : ρ → String
  status : ρ → τ
  keys : ρ → κ

namespace StatusColumn

variable {ρ τ κ : Type} (C : StatusColumn ρ τ κ) {id : String} {rows rows' : List ρ}
  {target : ρ → Bool} {set : ρ → ρ} {st : τ}

/-- The identifiers and the statuses. -/
def statuses (rows : List ρ) : List (String × τ) := rows.map fun r => (C.id r, C.status r)

/-- A row but for its status, if it has that identifier. -/
def but (id : String) (r : ρ) : String × κ × Option τ :=
  (C.id r, C.keys r, if C.id r = id then none else some (C.status r))

/-- The rows are the same, but for the status of those with an identifier. -/
def SameBut (id : String) (rows rows' : List ρ) : Prop :=
  rows'.map (C.but id) = rows.map (C.but id)

/-- What an `UPDATE` sets: the status is `st` and nothing a `WHERE` looks at is changed. -/
structure Sets (set : ρ → ρ) (st : τ) : Prop where
  id : ∀ r, C.id (set r) = C.id r
  keys : ∀ r, C.keys (set r) = C.keys r
  status : ∀ r, C.status (set r) = st

variable {C}

/-- A row, after an `UPDATE`. -/
def updateRow (target : ρ → Bool) (set : ρ → ρ) (r : ρ) : ρ := if target r then set r else r

theorem Sets.id_updateRow (hset : C.Sets set st) (r : ρ) : C.id (updateRow target set r) = C.id r := by
  unfold updateRow
  split
  · exact hset.id r
  · rfl

theorem Sets.but_updateRow (hset : C.Sets set st) (htarget : ∀ r, target r = true → C.id r = id)
    (r : ρ) : C.but id (updateRow target set r) = C.but id r := by
  unfold updateRow
  split
  · next h =>
    have hid := htarget r h
    simp [but, hset.id, hset.keys, hid]
  · rfl

theorem SameBut.refl (id : String) (rows : List ρ) : C.SameBut id rows rows := rfl

/-- An `UPDATE` of the rows with the identifier changes nothing else. -/
theorem SameBut.update (h : C.SameBut id rows rows') (hset : C.Sets set st)
    (htarget : ∀ r, target r = true → C.id r = id) :
    C.SameBut id rows (rows'.map (updateRow target set)) := by
  unfold SameBut
  rw [List.map_map, ← h]
  exact List.map_congr_left fun r _ => hset.but_updateRow htarget r

/-- A row that was there is there, but for its status. -/
theorem SameBut.exists_row (h : C.SameBut id rows rows') {r : ρ} (hr : r ∈ rows) :
    ∃ r' ∈ rows', C.id r' = C.id r ∧ C.keys r' = C.keys r := by
  have hmem : C.but id r ∈ rows'.map (C.but id) := h ▸ List.mem_map_of_mem hr
  obtain ⟨r', hr', heq⟩ := List.mem_map.1 hmem
  simp only [but, Prod.mk.injEq] at heq
  exact ⟨r', hr', heq.1, heq.2.1⟩

/-- **Restoration**: writing the status that the only row with the identifier had leaves all
statuses as they were. -/
theorem SameBut.restore (h : C.SameBut id rows rows') (hkeys : (rows.map C.id).Nodup) {row : ρ}
    (hrow : row ∈ rows) (hid : C.id row = id) (hset : C.Sets set (C.status row))
    (htarget : ∀ r', C.id r' = id → C.keys r' = C.keys row → target r' = true)
    (htarget' : ∀ r', target r' = true → C.id r' = id) :
    C.statuses (rows'.map (updateRow target set)) = C.statuses rows := by
  have hsame : ∀ r ∈ rows, C.id r = id → r = row := by
    intro r hr hrid
    exact List.inj_on_of_nodup_map hkeys hr hrow (hrid.trans hid.symm)
  clear hkeys hrow
  unfold SameBut at h
  unfold statuses
  induction rows' generalizing rows with
  | nil =>
    cases rows with
    | nil => rfl
    | cons r rest => cases h
  | cons r' rest' ih =>
    cases rows with
    | nil => cases h
    | cons r rest =>
      rw [List.map_cons, List.map_cons, List.cons.injEq] at h
      obtain ⟨hhead, htail⟩ := h
      have hrest := ih htail fun q hq => hsame q (List.mem_cons_of_mem _ hq)
      rw [List.map_cons, List.map_cons, List.map_cons, hrest, hset.id_updateRow]
      simp only [but, Prod.mk.injEq] at hhead
      obtain ⟨hheadId, hheadKeys, hheadStatus⟩ := hhead
      have hstatus : C.status (updateRow target set r') = C.status r := by
        unfold updateRow
        by_cases hr : C.id r = id
        · obtain rfl := hsame r List.mem_cons_self hr
          rw [if_pos (htarget r' (hheadId.trans hr) hheadKeys)]
          exact hset.status r'
        · have hr' : C.id r' ≠ id := fun hr' => hr (hheadId.symm.trans hr')
          rw [if_neg fun ht => hr' (htarget' r' ht)]
          simpa [hr, hr'] using hheadStatus
      rw [hheadId, hstatus]

end StatusColumn

end MailRuntime
