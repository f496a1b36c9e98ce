import MailRuntime.Interaction.Faults
import MailRuntime.Repositories.Deployments

/-!
# Deployments up to their statuses

All that an activation writes to an existing deployment is its status and the time of the
update. `Reached s g s'` says that the deployments of `s'` are those of `s` with statuses
`g`, and that nothing else has changed that decides whether a deployment is visible. Each
`UPDATE` then changes `g` at one identifier, unless the index refuses it, and putting the
snapshots back leads to the statuses of the start again.

## What is proved

`reached_write`: what an `UPDATE` does. `Midway.restore`: wherever an activation is broken
off, restoring the snapshots succeeds and leaves the deployments as they were.
-/

namespace MailRuntime

open Interaction Js

/-- A deployment without the time of its last update. -/
def DeploymentRow.undated (d : DeploymentRow) : DeploymentRow := { d with updatedAt := 0 }

/-- The two databases have the same deployments, up to `updated_at`. -/
def Db.SameDeployments (s s' : Db) : Prop :=
  s.agentDeployments.map DeploymentRow.undated = s'.agentDeployments.map DeploymentRow.undated

instance (s s' : Db) : Decidable (s.SameDeployments s') := inferInstanceAs (Decidable (_ = _))

/-- The primary key and the index of active targets. -/
structure Db.DeploymentsKeyed (s : Db) : Prop where
  ids : (s.agentDeployments.map DeploymentRow.id).Nodup
  targets : s.activeTargets.Nodup

theorem Db.SameDeployments.rfl {s : Db} : s.SameDeployments s := Eq.refl _

theorem Db.SameDeployments.length {s s' : Db} (h : s.SameDeployments s') :
    s.agentDeployments.length = s'.agentDeployments.length := by
  simpa using congrArg List.length h

theorem Db.SameDeployments.of_eq {s s' : Db} (h : s'.agentDeployments = s.agentDeployments) :
    s.SameDeployments s' := by rw [Db.SameDeployments, h]

theorem Db.DeploymentsKeyed.eq_of_id {s : Db} (hs : s.DeploymentsKeyed) {d d' : DeploymentRow}
    (hd : d ∈ s.agentDeployments) (hd' : d' ∈ s.agentDeployments) (h : d.id = d'.id) : d = d' :=
  List.inj_on_of_nodup_map hs.ids hd hd' h

/-- The deployment with another status, written at another time. -/
def DeploymentRow.as (d : DeploymentRow) (status : DeploymentStatus) (updatedAt : Nat) :
    DeploymentRow := { d with status := status, updatedAt := updatedAt }

/-- `s'` has the deployments of `s` with statuses `g`, and what makes them visible. -/
structure Reached (s : Db) (g : DeploymentRow → DeploymentStatus) (s' : Db) : Prop where
  rows : ∃ u : DeploymentRow → Nat,
    s'.agentDeployments = s.agentDeployments.map fun d => d.as (g d) (u d)
  agents : s'.agents = s.agents
  versions : s'.agentVersions = s.agentVersions
  mailboxes : s'.mailboxes = s.mailboxes

/-- The targets that are active under `g`. -/
def Db.targetsUnder (s : Db) (g : DeploymentRow → DeploymentStatus) :
    List (DeploymentTarget × String) :=
  (s.agentDeployments.filter fun d => g d == .active).map fun d => (d.targetType, d.targetId)

variable {s s' : Db} {g : DeploymentRow → DeploymentStatus}

/-- The database that has not been written. -/
theorem Reached.refl (hd : s'.agentDeployments = s.agentDeployments) (ha : s'.agents = s.agents)
    (hv : s'.agentVersions = s.agentVersions) (hm : s'.mailboxes = s.mailboxes) :
    Reached s DeploymentRow.status s' := by
  refine ⟨⟨DeploymentRow.updatedAt, ?_⟩, ha, hv, hm⟩
  rw [hd]
  exact (List.map_id' s.agentDeployments).symm

theorem Reached.congr {g' : DeploymentRow → DeploymentStatus} (h : Reached s g s')
    (hg : ∀ d ∈ s.agentDeployments, g' d = g d) : Reached s g' s' := by
  obtain ⟨⟨u, hu⟩, ha, hv, hm⟩ := h
  refine ⟨⟨u, ?_⟩, ha, hv, hm⟩
  rw [hu]
  exact List.map_congr_left fun d hd => by rw [hg d hd]

/-- With the statuses of the start, the deployments are those of the start. -/
theorem Reached.same (h : Reached s g s') (hg : ∀ d ∈ s.agentDeployments, g d = d.status) :
    s.SameDeployments s' := by
  obtain ⟨u, hu⟩ := h.rows
  rw [Db.SameDeployments, hu, List.map_map]
  refine List.map_congr_left fun d hd => ?_
  rw [Function.comp_apply, hg d hd]
  rfl

theorem Reached.visible (h : Reached s g s') (d : DeploymentRow) :
    s'.deploymentVisible d = s.deploymentVisible d := by
  simp only [Db.deploymentVisible, Db.ownsAgent, Db.ownsMailbox, h.agents, h.versions, h.mailboxes]

theorem deploymentVisible_as (d : DeploymentRow) (status : DeploymentStatus) (u : Nat) :
    s.deploymentVisible (d.as status u) = s.deploymentVisible d := rfl

theorem Reached.activeTargets (h : Reached s g s') : s'.activeTargets = s.targetsUnder g := by
  obtain ⟨u, hu⟩ := h.rows
  rw [Db.activeTargets, hu, List.filter_map, List.map_map]
  rfl

/-- The statuses after an `UPDATE` of the deployments in `p`. -/
def setWhere (p : DeploymentRow → Bool) (status : DeploymentStatus)
    (g : DeploymentRow → DeploymentStatus) : DeploymentRow → DeploymentStatus :=
  fun d => if p d then status else g d

/-- **What an `UPDATE` does**: the deployments in `p` get the status, or, if the index refuses
it, nothing happens. -/
theorem reached_write (h : Reached s g s') (target : DeploymentRow → Bool)
    (status : DeploymentStatus) (updatedAt : Nat) {p : DeploymentRow → Bool}
    (hp : ∀ d v u, target (d.as v u) = p d) :
    if (s.targetsUnder (setWhere p status g)).Nodup then
      ∃ s'', s'.writeDeploymentStatus target status updatedAt =
        (some (s.agentDeployments.countP p), s'') ∧ Reached s (setWhere p status g) s''
    else s'.writeDeploymentStatus target status updatedAt = (none, s') := by
  obtain ⟨u, hu⟩ := h.rows
  have hreached : Reached s (setWhere p status g)
      (deploymentRows.updated s' target fun d => d.as status updatedAt).2 := by
    refine ⟨⟨fun d => if p d then updatedAt else u d, ?_⟩, h.agents, h.versions, h.mailboxes⟩
    refine (Rows.get_updated (R := deploymentRows)).trans ?_
    rw [show deploymentRows.get s' = s'.agentDeployments from rfl, hu, List.map_map]
    refine List.map_congr_left fun d _ => ?_
    rw [Function.comp_apply, hp, setWhere]
    by_cases hpd : p d = true
    · simp only [hpd, if_true]
      rfl
    · simp only [hpd]
      rfl
  have hcount : (deploymentRows.updated s' target fun d => d.as status updatedAt).1 =
      s.agentDeployments.countP p := by
    change s'.agentDeployments.countP target = _
    rw [hu, List.countP_map]
    exact List.countP_congr fun d _ => by rw [Function.comp_apply, hp]
  have htargets := hreached.activeTargets
  split
  · next hnodup =>
    refine ⟨_, ?_, hreached⟩
    rw [← htargets] at hnodup
    rw [← hcount]
    exact if_pos hnodup
  · next hnodup =>
    rw [← htargets] at hnodup
    exact if_neg hnodup

/-! ### Fewer active deployments -/

/-- Statuses that activate nothing do not break the index. -/
theorem targetsUnder_nodup (g' : DeploymentRow → DeploymentStatus)
    (hs : (s.targetsUnder g).Nodup)
    (h : ∀ d ∈ s.agentDeployments, g' d = .active → g d = .active) :
    (s.targetsUnder g').Nodup := by
  refine hs.sublist (List.Sublist.map _ ?_)
  have hfilter : (s.agentDeployments.filter fun d => g' d == .active) =
      (s.agentDeployments.filter fun d => g d == .active).filter fun d => g' d == .active := by
    rw [List.filter_filter]
    refine List.filter_congr fun d hd => ?_
    by_cases hg' : g' d = .active
    · rw [hg', h d hd hg']
      rfl
    · rw [beq_eq_false_iff_ne.2 hg', Bool.false_and]
  rw [hfilter]
  exact List.filter_sublist

theorem targetsUnder_status : s.targetsUnder DeploymentRow.status = s.activeTargets := rfl

/-! ### Midway through an activation -/

/-- `s'` differs from `s` in the statuses of the deployments in `ids` at most. -/
def Midway (s : Db) (ids : List String) (s' : Db) : Prop :=
  ∃ g, Reached s g s' ∧ ∀ d ∈ s.agentDeployments, d.id ∉ ids → g d = d.status

theorem Midway.same (h : Midway s [] s') : s.SameDeployments s' := by
  obtain ⟨g, hg, hsame⟩ := h
  exact hg.same fun d hd => hsame d hd List.not_mem_nil

theorem Midway.mono {ids ids' : List String} (h : Midway s ids s')
    (hids : ∀ i ∈ ids, i ∈ ids') : Midway s ids' s' := by
  obtain ⟨g, hg, hsame⟩ := h
  exact ⟨g, hg, fun d hd hd' => hsame d hd fun hi => hd' (hids _ hi)⟩

theorem Midway.length {ids : List String} (h : Midway s ids s') :
    s'.agentDeployments.length = s.agentDeployments.length := by
  obtain ⟨g, ⟨⟨u, hu⟩, -⟩, -⟩ := h
  rw [hu, List.length_map]

/-- An `UPDATE` of deployments in `ids`, whatever comes of it. -/
theorem Midway.write {ids : List String} (h : Midway s ids s')
    {target p : DeploymentRow → Bool} {status : DeploymentStatus} {updatedAt : Nat}
    (hp : ∀ d v u, target (d.as v u) = p d) (hids : ∀ d, p d = true → d.id ∈ ids) :
    Midway s ids (s'.writeDeploymentStatus target status updatedAt).2 := by
  obtain ⟨g, hg, hsame⟩ := h
  have hw := reached_write hg target status updatedAt hp
  split at hw
  · obtain ⟨s'', hs'', hreached⟩ := hw
    rw [hs'']
    refine ⟨_, hreached, fun d hd hd' => ?_⟩
    rw [setWhere, if_neg fun hpd => hd' (hids d hpd)]
    exact hsame d hd hd'
  · rw [hw]
    exact ⟨g, hg, hsame⟩

/-! ### The programs -/

/-- Every statement of the program is an `UPDATE` of deployments in `ids`, under a label. -/
def Writes {α : Type} (s : Db) (ids : List String) (l : Label) (p : Op α) : Prop :=
  p.Each (fun run => ∀ s', Midway s ids s' → Midway s ids (run s')) fun name run =>
    (∀ s', name s' = l) ∧ ∀ s', Midway s ids s' → Midway s ids (run s')

variable {ids : List String} {l : Label}

theorem writes_updateDeployments {target : Db → DeploymentRow → Bool} {p : DeploymentRow → Bool}
    {status : DeploymentStatus} {updatedAt : Nat}
    (hp : ∀ g s', Reached s g s' → ∀ d v u, target s' (d.as v u) = p d)
    (hids : ∀ d, p d = true → d.id ∈ ids) :
    Writes s ids l (updateDeployments l target status updatedAt) := by
  refine .bind (Prog.each_perform.2 ⟨fun _ => rfl, fun s' h => ?_⟩) fun changes => ?_
  · obtain ⟨g, hg, hsame⟩ := h
    exact Midway.write ⟨g, hg, hsame⟩ (hp g s' hg) hids
  · cases changes <;> trivial

theorem writes_setDeploymentStatus {agentId deploymentId : String} {status : DeploymentStatus}
    {updatedAt : Nat} (hid : deploymentId ∈ ids) :
    Writes s ids l (setDeploymentStatus l agentId deploymentId status updatedAt) := by
  refine .bind (writes_updateDeployments
    (p := fun d => d.id == deploymentId && d.agentId == agentId && s.deploymentVisible d)
    (fun g s' hg d v u => ?_) fun d hd => ?_) fun changes => ?_
  · rw [deploymentVisible_as, hg.visible]
    rfl
  · simp only [Bool.and_eq_true, beq_iff_eq] at hd
    rw [hd.1.1]
    exact hid
  · rw [requireStateUpdateApplied]
    split <;> trivial

theorem writes_setDeploymentsStatus {status : DeploymentStatus} {updatedAt : Nat}
    (deploymentIds : List String) (hids : ∀ i ∈ deploymentIds, i ∈ ids) :
    Writes s ids (.write .agentDeployments)
      (setDeploymentsStatus status updatedAt deploymentIds) := by
  induction deploymentIds with
  | nil => trivial
  | cons deploymentId rest ih =>
    refine .bind (writes_updateDeployments
      (p := fun d => d.id == deploymentId && s.deploymentVisible d)
      (fun g s' hg d v u => ?_) fun d hd => ?_) fun changes => ?_
    · rw [deploymentVisible_as, hg.visible]
      rfl
    · simp only [Bool.and_eq_true, beq_iff_eq] at hd
      rw [hd.1]
      exact hids _ List.mem_cons_self
    · refine .bind ?_ fun _ => ih fun i hi => hids i (List.mem_cons_of_mem _ hi)
      rw [requireStateUpdateApplied]
      split <;> trivial

theorem writes_restoreDeploymentStatuses {updatedAt : Nat} (snapshots : List DeploymentRow)
    (hids : ∀ d ∈ snapshots, d.id ∈ ids) :
    Writes s ids (.undo .agentDeployments) (restoreDeploymentStatuses updatedAt snapshots) := by
  induction snapshots with
  | nil => trivial
  | cons snapshot rest ih =>
    exact .bind (writes_setDeploymentStatus (hids _ List.mem_cons_self)) fun _ =>
      ih fun d hd => hids d (List.mem_cons_of_mem _ hd)

/-! ### Putting the snapshots back -/

/-- The one deployment an `UPDATE` by identifier and agent is about. -/
theorem picks_iff (hs : s.DeploymentsKeyed) {c d : DeploymentRow} (hc : c ∈ s.agentDeployments)
    (hv : s.deploymentVisible c = true) (hd : d ∈ s.agentDeployments) :
    (d.id == c.id && d.agentId == c.agentId && s.deploymentVisible d) = true ↔ d = c := by
  constructor
  · intro h
    simp only [Bool.and_eq_true, beq_iff_eq] at h
    exact hs.eq_of_id hd hc h.1.1
  · rintro rfl
    simp only [beq_self_eq_true, hv, Bool.and_self]

/-- **Restoring the snapshots** succeeds and leaves the deployments as they were, if all
snapshots but the first are of active deployments. -/
theorem Midway.restore (hs : s.DeploymentsKeyed) (updatedAt : Nat) {snapshots : List DeploymentRow}
    (hmem : ∀ d ∈ snapshots, d ∈ s.agentDeployments ∧ s.deploymentVisible d = true)
    (hactive : ∀ d ∈ snapshots.tail, d.status = .active)
    (h : Midway s (snapshots.map DeploymentRow.id) s') :
    ∃ s'', (restoreDeploymentStatuses updatedAt snapshots).run s' = (.ok (), s'') ∧
      Midway s [] s'' := by
  induction snapshots generalizing s' with
  | nil => exact ⟨s', rfl, h⟩
  | cons c rest ih =>
    obtain ⟨g, hg, hsame⟩ := h
    obtain ⟨hc, hv⟩ := hmem c List.mem_cons_self
    have hpicks := fun d hd => picks_iff hs hc hv (d := d) hd
    -- after this write only the other snapshots may still differ, and they were active
    have hrest : ∀ d ∈ s.agentDeployments, d.id ∉ rest.map DeploymentRow.id →
        setWhere (fun d => d.id == c.id && d.agentId == c.agentId && s.deploymentVisible d)
          c.status g d = d.status := by
      intro d hd hd'
      rw [setWhere]
      by_cases hdc : d = c
      · rw [if_pos ((hpicks d hd).2 hdc), hdc]
      · rw [if_neg fun hp => hdc ((hpicks d hd).1 hp)]
        refine hsame d hd fun hmem => ?_
        rw [List.map_cons, List.mem_cons] at hmem
        rcases hmem with hid | hid
        · exact hdc (hs.eq_of_id hd hc hid)
        · exact hd' hid
    have hnodup := targetsUnder_nodup
      (setWhere (fun d => d.id == c.id && d.agentId == c.agentId && s.deploymentVisible d) c.status g)
      (targetsUnder_status ▸ hs.targets) fun d hd hg' => by
        by_cases hd' : d.id ∈ rest.map DeploymentRow.id
        · obtain ⟨d', hd'', hid⟩ := List.mem_map.1 hd'
          obtain rfl := hs.eq_of_id (hmem d' (List.mem_cons_of_mem _ hd'')).1 hd hid
          exact hactive d' hd''
        · rw [← hrest d hd hd']
          exact hg'
    have hwrite := reached_write hg
      (fun d => d.id == c.id && d.agentId == c.agentId && s'.deploymentVisible d) c.status updatedAt
      (p := fun d => d.id == c.id && d.agentId == c.agentId && s.deploymentVisible d)
      fun d v u => by
        rw [deploymentVisible_as, hg.visible]
        rfl
    rw [if_pos hnodup] at hwrite
    obtain ⟨s₁, hs₁, hreached⟩ := hwrite
    have hcount : (s.agentDeployments.countP fun d =>
        d.id == c.id && d.agentId == c.agentId && s.deploymentVisible d) ≠ 0 := by
      rw [Ne, List.countP_eq_zero]
      exact fun hnone => hnone c hc ((hpicks c hc).2 rfl)
    obtain ⟨s₂, hs₂, hmid⟩ := ih (fun d hd => hmem d (List.mem_cons_of_mem _ hd))
      (fun d hd => hactive d (List.mem_of_mem_tail hd)) ⟨_, hreached, hrest⟩
    refine ⟨s₂, ?_, hmid⟩
    simp only [restoreDeploymentStatuses, setDeploymentStatus, updateDeployments, Prog.run_bind,
      Prog.run_perform, hs₁, Prog.andThen_ok, Prog.pure_eq, Prog.run_ret,
      requireStateUpdateApplied, if_neg hcount, hs₂]

end MailRuntime
