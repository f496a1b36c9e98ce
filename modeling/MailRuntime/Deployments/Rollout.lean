import MailRuntime.Deployments.Restoration

/-!
# What a failed rollout leaves behind

A rollout inserts a row before it activates it, and takes the row back only where the new
deployment is not consistent. So whatever fails after the insertion leaves a deployment
more than there was, and without any failing statement a rollout does so where the index
refuses the activation: where the target has an active deployment that the rollout has
not seen and paused.

## What is proved

`struck_rollout` is the part about failing statements, `restores_rollout_iff` the one about
rollouts that throw by themselves; `restores_iff` puts the three calls together.
-/

namespace MailRuntime

open Interaction Js

/-- There is one deployment more. -/
def Grown (s s' : Db) : Prop := s'.agentDeployments.length = s.agentDeployments.length + 1

variable {α : Type} {s s' : Db} {env : Env}

theorem Grown.not_same (h : Grown s s') : ¬s.SameDeployments s' := by
  intro hsame
  have hlength := hsame.length
  rw [Grown] at h
  omega

theorem length_writeDeploymentStatus {target : DeploymentRow → Bool} {status : DeploymentStatus}
    {updatedAt : Nat} : (s.writeDeploymentStatus target status updatedAt).2.agentDeployments.length =
      s.agentDeployments.length := by
  rw [Db.writeDeploymentStatus]
  split
  · exact List.length_map _
  · rfl

/-- No statement of the program changes the number of deployments. -/
def KeepsNumber (p : Op α) : Prop :=
  p.Each (fun run => ∀ s : Db, (run s).agentDeployments.length = s.agentDeployments.length)
    fun _ run => ∀ s, (run s).agentDeployments.length = s.agentDeployments.length

theorem keepsNumber_updateDeployments {l : Label} {target : Db → DeploymentRow → Bool}
    {status : DeploymentStatus} {updatedAt : Nat} :
    KeepsNumber (updateDeployments l target status updatedAt) := by
  refine .bind (Prog.each_perform.2 fun s => length_writeDeploymentStatus) fun changes => ?_
  cases changes <;> trivial

theorem keepsNumber_requireStateUpdateApplied {changes : Nat} {target : String} :
    KeepsNumber (requireStateUpdateApplied changes target) := by
  rw [requireStateUpdateApplied]
  split <;> trivial

theorem keepsNumber_setDeploymentStatus {l : Label} {agentId deploymentId : String}
    {status : DeploymentStatus} {updatedAt : Nat} :
    KeepsNumber (setDeploymentStatus l agentId deploymentId status updatedAt) :=
  .bind keepsNumber_updateDeployments fun _ => keepsNumber_requireStateUpdateApplied

theorem keepsNumber_setDeploymentsStatus {status : DeploymentStatus} {updatedAt : Nat}
    (ids : List String) : KeepsNumber (setDeploymentsStatus status updatedAt ids) := by
  induction ids with
  | nil => trivial
  | cons id rest ih =>
    exact .bind keepsNumber_updateDeployments fun _ =>
      .bind keepsNumber_requireStateUpdateApplied fun _ => ih

theorem keepsNumber_restoreAndThrow (updatedAt : Nat) (snapshots : List DeploymentRow)
    (error : Exn) : KeepsNumber (restoreAndThrow updatedAt snapshots error : Op α) := by
  refine .bind (.tryCatch ?_ fun _ => trivial) fun _ => trivial
  induction snapshots with
  | nil => trivial
  | cons snapshot rest ih => exact .bind keepsNumber_setDeploymentStatus fun _ => ih

theorem keepsNumber_activateInPlaceOf (updatedAt : Nat) (agentId deploymentId : String)
    (previouslyActive : List DeploymentRow) :
    KeepsNumber (activateInPlaceOf updatedAt agentId deploymentId previouslyActive) :=
  .bind (keepsNumber_setDeploymentsStatus _) fun _ =>
    .bind keepsNumber_setDeploymentStatus fun _ => keepsNumber_setDeploymentsStatus _

theorem KeepsNumber.run {p : Op α} (hp : KeepsNumber p) (h : Grown s s') :
    Grown s (p.run s').2 :=
  Prog.Each.run_keep (A := Grown s) (fun _ hr s₁ hs₁ => (hr s₁).trans hs₁)
    (fun _ _ hr s₁ hs₁ => (hr s₁).trans hs₁) hp h

/-! ### Failing statements -/

theorem run_restoreAndThrow_error (updatedAt : Nat) (snapshots : List DeploymentRow)
    (error : Exn) : ∃ s'', (restoreAndThrow updatedAt snapshots error : Op α).run s =
      (.error error, s'') := by
  simp only [restoreAndThrow, catchAll, Prog.run_bind, Prog.tryCatch_eq, Prog.run_tryCatch]
  rcases (restoreDeploymentStatuses updatedAt snapshots).run s with ⟨_ | _, s''⟩
  · exact ⟨s'', rfl⟩
  · exact ⟨s'', rfl⟩

/-- Wherever an activation is struck that has the new row already, that row stays. -/
theorem struck_grown {updatedAt : Nat} {snapshots : List DeploymentRow} {body : Op Unit}
    (hbody : KeepsNumber body) (hplain : body.Plain) (f : Exn → Exn) (h : Grown s s') :
    Struck s False (tryCatch body fun e => restoreAndThrow updatedAt snapshots (f e)) s' := by
  intro x hx hl
  have hkeeps : KeepsNumber (tryCatch body fun e => restoreAndThrow updatedAt snapshots (f e)) :=
    .tryCatch hbody fun e => keepsNumber_restoreAndThrow _ snapshots (f e)
  obtain ⟨hfound, hstored, hrefused, hlost⟩ := Prog.Each.strikes_keep (A := Grown s)
    (fun _ hr s₁ hs₁ => (hr s₁).trans hs₁) (fun _ _ hr s₁ hs₁ => (hr s₁).trans hs₁) hkeeps h hx
  rcases Prog.mem_strikes_tryCatch hx with ⟨y, hy, rfl⟩ | ⟨e, s'', -, hx⟩
  · obtain ⟨⟨e, he⟩, ⟨e', he'⟩⟩ := hplain s' y hy
    constructor
    · obtain ⟨s'', hs''⟩ := run_restoreAndThrow_error (α := Unit) (s := y.found)
        updatedAt snapshots (f e)
      have hend : (y.orElse fun e => restoreAndThrow updatedAt snapshots (f e)).refused =
          (.error (f e), s'') := by
        rw [Strike.orElse, he]
        exact hs''
      rw [hend] at hrefused
      exact ⟨f e, s'', hend, iff_of_false hrefused.not_same fun h => by
        rcases h with h | h
        · exact hfound.not_same h
        · exact h.1⟩
    · obtain ⟨s'', hs''⟩ := run_restoreAndThrow_error (α := Unit) (s := y.stored)
        updatedAt snapshots (f e')
      have hend : (y.orElse fun e => restoreAndThrow updatedAt snapshots (f e)).lost =
          (.error (f e'), s'') := by
        rw [Strike.orElse, he']
        exact hs''
      rw [hend] at hlost
      exact ⟨f e', s'', hend, iff_of_false hlost.not_same fun h => by
        rcases h with h | h
        · exact hstored.not_same h
        · exact h.1⟩
  · exact struck_restoreAndThrow _ (f e) x hx hl

theorem struck_deleteDeployment {id : String} : Struck s False (deleteDeployment id) s' := by
  intro x hx hl
  refine absurd ?_ hl
  have hlabel : (deleteDeployment id).Each (fun _ => True)
      fun name _ => ∀ s, name s = .undo .agentDeployments :=
    .bind (.tryCatch (Prog.each_perform.2 fun _ => rfl) fun _ => trivial) fun _ => trivial
  exact hlabel.strikes_label (B := fun l => l = .undo .agentDeployments) (fun _ _ h s => h s) hx

theorem strikes_insertDeployment {row : DeploymentRow} {x : Strike Db Label Exn Unit}
    (hx : x ∈ (insertDeployment row).strikes s) :
    x.refused = (.error Exn.d1, x.found) ∧ x.lost = (.error Exn.d1, x.stored) := by
  rcases Prog.mem_strikes_bind hx with ⟨z, hz, rfl⟩ | ⟨n, _, -, hx⟩
  · rw [execute, Prog.strikes_perform] at hz
    obtain rfl := List.mem_singleton.1 hz
    exact ⟨rfl, rfl⟩
  · split at hx <;> cases hx

theorem struck_insertDeploymentOrConflict {row : DeploymentRow} (hrow : row.status ≠ .active) :
    Struck s False (insertDeploymentOrConflict row) s' := by
  intro x hx _
  rcases Prog.mem_strikes_tryCatch hx with ⟨y, hy, rfl⟩ | ⟨e, s'', -, hx⟩
  · -- an exception of D1 itself is not a broken constraint, and is passed on
    obtain ⟨hrefused, hlost⟩ := strikes_insertDeployment hy
    refine ⟨⟨Exn.d1, y.found, ?_, by simp [Strike.orElse]⟩,
      ⟨Exn.d1, y.stored, ?_, by simp [Strike.orElse]⟩⟩
    · rw [Strike.orElse, hrefused]
      rfl
    · rw [Strike.orElse, hlost]
      rfl
  · by_cases he : e.isUniqueConstraintError
    · simp only [he, Bool.not_true, Bool.false_eq_true, if_false, if_neg hrow] at hx
      cases hx
    · simp only [he, Bool.not_false, if_true] at hx
      cases hx

theorem struck_getAgentVersion {agentId versionId : String} :
    Struck s False (getAgentVersion agentId versionId) s' := by
  refine (struck_query (by decide)).bind fun version _ _ => ?_
  cases version with
  | none => exact struck_ret
  | some version =>
    exact (struck_query (by decide)).bind fun _ _ _ =>
      (struck_query (by decide)).bind fun _ _ _ => struck_ret

theorem struck_hasConsistentMailbox {tenantId targetId : String} {targetType : DeploymentTarget} :
    Struck s False (hasConsistentMailbox tenantId targetType targetId) s' := by
  rw [hasConsistentMailbox]
  split
  · exact (struck_query (by decide)).bind fun _ _ _ => struck_ret
  · exact struck_ret

theorem struck_createAgentDeployment {tenantId agentId versionId targetId : String}
    {targetType : DeploymentTarget} : Struck s False
      (createAgentDeployment env tenantId agentId versionId targetType targetId .paused) s' := by
  refine struck_draw.bind fun id _ _ => struck_draw.bind fun timestamp _ _ =>
    (struck_insertDeploymentOrConflict DeploymentStatus.noConfusion).bind fun _ _ _ =>
    (struck_query (by decide)).bind fun agent _ _ =>
    struck_getAgentVersion.bind fun version _ _ =>
    struck_hasConsistentMailbox.bind fun consistent _ _ => ?_
  split
  · refine struck_getAgentDeployment.bind fun created _ _ => ?_
    cases created with
    | some created => exact struck_ret
    | none => exact struck_deleteDeployment.bind fun _ _ _ => struck_throw
  · exact struck_deleteDeployment.bind fun _ _ _ => struck_throw

theorem struck_readBackRollout {updatedAt : Nat} {snapshots : List DeploymentRow}
    {agentId createdId : String} :
    Struck s False (readBackRollout updatedAt snapshots agentId createdId) s' := by
  refine struck_getAgentDeployment.bind fun rolledOut _ _ => ?_
  cases rolledOut with
  | some rolledOut => exact struck_ret
  | none =>
    exact (struck_restoreDeploymentStatuses _).bind fun _ _ _ =>
      struck_deleteDeployment.bind fun _ _ _ => struck_throw

/-! ### Creating a deployment -/

/-- The target of a deployment is not a mailbox, or one of the tenant. -/
def Db.consistentMailbox (s : Db) (tenantId : String) (targetType : DeploymentTarget)
    (targetId : String) : Bool :=
  targetType != .mailbox || (s.mailbox targetId).any fun m => m.tenantId == tenantId

/-- A new deployment is created, rather than refused or taken back. -/
def Db.acceptsDeployment (s : Db) (row : DeploymentRow) : Bool :=
  s.deploymentFree row && (s.agent row.agentId).any (fun a => a.tenantId == row.tenantId) &&
  (s.agentVersion row.agentId row.agentVersionId).isSome &&
  s.consistentMailbox row.tenantId row.targetType row.targetId

theorem run_insertDeployment {row : DeploymentRow} : (insertDeployment row).run s =
    if s.deploymentFree row then (.ok (), deploymentRows.inserted s row)
    else (.error Exn.unique, s) := by
  simp only [insertDeployment, Rows.insert, insertRow, execute, Prog.run_bind, Prog.run_perform,
    Prog.andThen_ok]
  by_cases h : s.deploymentFree row
  · simp [h]
  · simp [h]

theorem run_insertDeploymentOrConflict {row : DeploymentRow} (hrow : row.status ≠ .active) :
    (insertDeploymentOrConflict row).run s =
      if s.deploymentFree row then (.ok (), deploymentRows.inserted s row)
      else (.error Exn.unique, s) := by
  simp only [insertDeploymentOrConflict, Prog.tryCatch_eq, Prog.run_tryCatch,
    run_insertDeployment]
  by_cases h : s.deploymentFree row
  · simp [h]
  · simp [h, hrow, Exn.unique, Exn.isUniqueConstraintError]

theorem run_getAgentVersion {agentId versionId : String} :
    (getAgentVersion agentId versionId).run s = (.ok (s.agentVersion agentId versionId), s) := by
  simp only [getAgentVersion, query, Prog.run_bind, Prog.run_perform, Prog.andThen_ok]
  cases s.agentVersion agentId versionId with
  | none => rfl
  | some version => rfl

theorem run_hasConsistentMailbox {tenantId targetId : String} {targetType : DeploymentTarget} :
    (hasConsistentMailbox tenantId targetType targetId).run s =
      (.ok (s.consistentMailbox tenantId targetType targetId), s) := by
  rw [hasConsistentMailbox, Db.consistentMailbox]
  by_cases h : targetType = .mailbox
  · simp [h, getMailboxById, query]
  · simp [h]

theorem run_deleteDeployment {id : String} : (deleteDeployment id).run s =
    (.ok (), (deploymentRows.deleted s fun d => d.id == id).2) := by
  simp [deleteDeployment, catchAll, execute]

/-- A deployment that is accepted is visible, and no other has its identifier. -/
theorem deployment_inserted {row : DeploymentRow} (h : s.acceptsDeployment row = true) :
    (deploymentRows.inserted s row).deployment row.agentId row.id = some row := by
  simp only [Db.acceptsDeployment, Bool.and_eq_true, Option.any_eq_true] at h
  obtain ⟨⟨⟨hfree, a, ha, htenant⟩, hversion⟩, hmailbox⟩ := h
  have hagent : s.ownsAgent row.tenantId row.agentId = true := by
    have hid := List.find?_some ha
    exact List.any_eq_true.2 ⟨a, List.mem_of_find?_eq_some ha, by simp_all⟩
  have hversion : (s.agentVersions.any fun v =>
      v.id == row.agentVersionId && v.agentId == row.agentId) = true := by
    obtain ⟨v, hv⟩ := Option.isSome_iff_exists.1 hversion
    have hid := List.find?_some hv
    simp only [Bool.and_eq_true] at hid
    exact List.any_eq_true.2 ⟨v, List.mem_of_find?_eq_some hv, by simp [hid.1.1, hid.1.2]⟩
  have hmailbox : (row.targetType != .mailbox ||
      s.ownsMailbox row.tenantId row.targetId) = true := by
    rw [Db.consistentMailbox, Bool.or_eq_true] at hmailbox
    rw [Bool.or_eq_true]
    refine hmailbox.imp id fun hmailbox => ?_
    obtain ⟨m, hm, hmt⟩ := (Option.any_eq_true _ _).1 hmailbox
    have hid := List.find?_some hm
    exact List.any_eq_true.2 ⟨m, List.mem_of_find?_eq_some hm, by simp_all⟩
  have hvisible : (deploymentRows.inserted s row).deploymentVisible row = true := by
    change s.deploymentVisible row = true
    simp only [Db.deploymentVisible, hagent, hversion, hmailbox, Bool.and_self]
  have hnone : (s.agentDeployments.find? fun d => d.id == row.id && d.agentId == row.agentId &&
      (deploymentRows.inserted s row).deploymentVisible d) = none := by
    rw [List.find?_eq_none]
    intro d hd hp
    simp only [Db.deploymentFree, Bool.and_eq_true, Bool.not_eq_true', List.any_eq_false] at hfree
    simp only [Bool.and_eq_true] at hp
    exact hfree.1 d hd hp.1.1
  change (s.agentDeployments ++ [row]).find? _ = _
  rw [List.find?_append, hnone, Option.none_or]
  simp [hvisible]

/-- The row a rollout inserts. -/
def rolloutRow (env : Env) (draws : Nat) (tenantId agentId agentVersionId : String)
    (targetType : DeploymentTarget) (targetId : String) : DeploymentRow where
  id := env.createId "agd" draws
  tenantId := tenantId
  agentId := agentId
  agentVersionId := agentVersionId
  targetType := targetType
  targetId := targetId
  status := .paused
  updatedAt := env.clock (draws + 1)

/-- A deployment is created, or the deployments are as they were. -/
theorem run_createAgentDeployment (tenantId agentId versionId targetId : String)
    (targetType : DeploymentTarget) {row : DeploymentRow}
    (hrow : row = rolloutRow env s.draws tenantId agentId versionId targetType targetId) :
    if s.acceptsDeployment row then
      (createAgentDeployment env tenantId agentId versionId targetType targetId .paused).run s =
        (.ok row, deploymentRows.inserted { s with draws := s.draws + 1 + 1 } row)
    else ∃ e s', (createAgentDeployment env tenantId agentId versionId targetType targetId
      .paused).run s = (.error e, s') ∧ s'.agentDeployments = s.agentDeployments := by
  have hfields : row = ⟨env.createId "agd" s.draws, tenantId, agentId, versionId, targetType,
    targetId, .paused, env.clock (s.draws + 1)⟩ := hrow
  have hpaused : row.status ≠ .active := by
    rw [hfields]
    exact DeploymentStatus.noConfusion
  have hid : row.id = env.createId "agd" s.draws := by rw [hfields]
  have hagent : row.agentId = agentId := by rw [hfields]
  simp only [createAgentDeployment, createId, nowIso, Prog.run_bind, Prog.run_draw,
    Prog.andThen_ok, ← hfields]
  rw [run_insertDeploymentOrConflict hpaused]
  have hfree : ({ s with draws := s.draws + 1 + 1 } : Db).deploymentFree row =
      s.deploymentFree row := rfl
  rw [hfree]
  by_cases hf : s.deploymentFree row = true
  · rw [if_pos hf]
    generalize hs₁ : deploymentRows.inserted { s with draws := s.draws + 1 + 1 } row = s₁
    have hdelete : (deploymentRows.deleted s₁ fun d => d.id == row.id).2.agentDeployments =
        s.agentDeployments := by
      rw [← hs₁]
      change (s.agentDeployments ++ [row]).filter _ = _
      simp only [Db.deploymentFree, Bool.and_eq_true, Bool.not_eq_true', List.any_eq_false] at hf
      rw [List.filter_append, List.filter_eq_self.2 fun d hd => by simpa using hf.1 d hd]
      simp
    have hchecks : ((s₁.agent agentId).any (fun a => a.tenantId == tenantId) &&
        (s₁.agentVersion agentId versionId).isSome &&
        s₁.consistentMailbox tenantId targetType targetId) = s.acceptsDeployment row := by
      rw [← hs₁, Db.acceptsDeployment, hf, Bool.true_and, hfields]
      rfl
    simp only [Prog.andThen_ok, getAgent, query, Prog.run_bind, Prog.run_perform,
      run_getAgentVersion, run_hasConsistentMailbox, hchecks, ← hid]
    by_cases haccepts : s.acceptsDeployment row = true
    · have hread : s₁.deployment agentId row.id = some row := by
        rw [← hs₁, ← hagent]
        exact deployment_inserted haccepts
      rw [if_pos haccepts, if_pos haccepts, Prog.run_bind, run_getAgentDeployment,
        Prog.andThen_ok, hread]
      rfl
    · rw [if_neg haccepts, if_neg haccepts, Prog.run_bind, run_deleteDeployment, Prog.andThen_ok]
      exact ⟨_, _, rfl, hdelete⟩
  · have hnot : ¬s.acceptsDeployment row = true := by
      simp [Db.acceptsDeployment, hf]
    rw [if_neg hnot, if_neg hf]
    exact ⟨_, _, rfl, rfl⟩

/-! ### The whole rollout -/

theorem struck_rollout {tenantId agentId versionId targetId : String}
    {targetType : DeploymentTarget} : Struck s False
      (rolloutAgentDeployment env tenantId agentId versionId targetType targetId) s := by
  refine struck_draw.bind fun timestamp s₁ hs₁ =>
    struck_listActiveDeploymentsForTarget.bind fun previouslyActive s₂ hs₂ =>
    struck_createAgentDeployment.bind fun created s₃ hs₃ => ?_
  have hrows : s₂.agentDeployments = s.agentDeployments := by
    rw [← (Prod.mk.inj hs₂).2, ← (Prod.mk.inj hs₁).2]
  have hgrown : Grown s s₃ := by
    have hrun := run_createAgentDeployment tenantId agentId versionId targetId targetType
      (Eq.refl (rolloutRow env s₂.draws tenantId agentId versionId targetType targetId))
    split at hrun
    · rw [← (Prod.mk.inj (hrun.symm.trans hs₃)).2, Grown, ← hrows]
      exact List.length_append
    · obtain ⟨e, s', hrun, -⟩ := hrun
      cases (Prod.mk.inj (hrun.symm.trans hs₃)).1
  exact (struck_grown (keepsNumber_activateInPlaceOf _ _ _ _) plain_activateInPlaceOf _ hgrown).bind
    fun _ _ _ => struck_readBackRollout

/-! ### Rollouts that throw by themselves -/

/-- The statuses after some deployments have been set to one. -/
theorem run_setDeploymentsStatus {b : Db} {status : DeploymentStatus} (updatedAt : Nat)
    (hstatus : status ≠ .active) (ids : List String)
    (hids : ∀ i ∈ ids, ∃ d ∈ b.agentDeployments, d.id = i ∧ b.deploymentVisible d = true)
    {g : DeploymentRow → DeploymentStatus} (hg : Reached b g s')
    (hnodup : (b.targetsUnder g).Nodup) :
    ∃ s'', (setDeploymentsStatus status updatedAt ids).run s' = (.ok (), s'') ∧
      Reached b (setWhere (fun d => ids.contains d.id && b.deploymentVisible d) status g) s'' := by
  induction ids generalizing s' g with
  | nil => exact ⟨s', rfl, hg.congr fun d _ => by simp [setWhere]⟩
  | cons i rest ih =>
    have hwrite := reached_write hg (fun d => d.id == i && s'.deploymentVisible d) status updatedAt
      (p := fun d => d.id == i && b.deploymentVisible d) fun d v u => by
        rw [deploymentVisible_as, hg.visible]
        rfl
    have hnodup' : (b.targetsUnder
        (setWhere (fun d => d.id == i && b.deploymentVisible d) status g)).Nodup := by
      refine targetsUnder_nodup _ hnodup fun d _ hd => ?_
      rw [setWhere] at hd
      split at hd
      · exact absurd hd hstatus
      · exact hd
    rw [if_pos hnodup'] at hwrite
    obtain ⟨s₁, hs₁, hreached⟩ := hwrite
    have hcount : (b.agentDeployments.countP fun d => d.id == i && b.deploymentVisible d) ≠ 0 := by
      obtain ⟨d, hd, rfl, hv⟩ := hids i List.mem_cons_self
      rw [Ne, List.countP_eq_zero]
      exact fun hnone => hnone d hd (by simp [hv])
    obtain ⟨s₂, hs₂, hreached₂⟩ := ih (fun j hj => hids j (List.mem_cons_of_mem _ hj)) hreached
      hnodup'
    refine ⟨s₂, ?_, hreached₂.congr fun d _ => ?_⟩
    · simp only [setDeploymentsStatus, updateDeployments, Prog.run_bind, Prog.run_perform, hs₁,
        Prog.andThen_ok, Prog.pure_eq, Prog.run_ret, requireStateUpdateApplied, if_neg hcount, hs₂]
    · simp only [setWhere, List.contains_cons]
      by_cases hv : b.deploymentVisible d = true
      · by_cases hi : (d.id == i) = true
        · simp [hv, hi]
        · simp [hv, hi]
      · simp [hv]

theorem run_setDeploymentStatus {b : Db} (l : Label) (status : DeploymentStatus) (updatedAt : Nat)
    {d : DeploymentRow} (hd : d ∈ b.agentDeployments) (hv : b.deploymentVisible d = true)
    {g : DeploymentRow → DeploymentStatus} (hg : Reached b g s') :
    if (b.targetsUnder (setWhere (fun r => r.id == d.id && r.agentId == d.agentId &&
        b.deploymentVisible r) status g)).Nodup then
      ∃ s'', (setDeploymentStatus l d.agentId d.id status updatedAt).run s' = (.ok (), s'') ∧
        Reached b (setWhere (fun r => r.id == d.id && r.agentId == d.agentId &&
          b.deploymentVisible r) status g) s''
    else (setDeploymentStatus l d.agentId d.id status updatedAt).run s' =
      (.error Exn.unique, s') := by
  have hwrite := reached_write hg
    (fun r => r.id == d.id && r.agentId == d.agentId && s'.deploymentVisible r) status updatedAt
    (p := fun r => r.id == d.id && r.agentId == d.agentId && b.deploymentVisible r) fun r v u => by
      rw [deploymentVisible_as, hg.visible]
      rfl
  have hcount : (b.agentDeployments.countP fun r =>
      r.id == d.id && r.agentId == d.agentId && b.deploymentVisible r) ≠ 0 := by
    rw [Ne, List.countP_eq_zero]
    exact fun hnone => hnone d hd (by simp [hv])
  simp only [setDeploymentStatus, updateDeployments, Prog.run_bind, Prog.run_perform,
    Prog.andThen_ok]
  split at hwrite
  · next hnodup =>
    obtain ⟨s'', hs'', hreached⟩ := hwrite
    rw [if_pos hnodup]
    refine ⟨s'', ?_, hreached⟩
    simp only [hs'', Prog.pure_eq, Prog.run_ret, Prog.andThen_ok, requireStateUpdateApplied,
      if_neg hcount]
  · next hnodup =>
    rw [if_neg hnodup, hwrite]
    rfl

/-- The target has an active deployment that a rollout for the tenant does not see. -/
def Db.rolloutBlocked (s : Db) (tenantId : String) (targetType : DeploymentTarget)
    (targetId : String) : Bool :=
  s.agentDeployments.any fun d =>
    d.targetType == targetType && d.targetId == targetId && d.status == .active &&
    !(d.tenantId == tenantId && s.deploymentVisible d)

/-- The active deployments a rollout sees. -/
def Db.rolledOver (s : Db) (tenantId : String) (targetType : DeploymentTarget)
    (targetId : String) : List DeploymentRow :=
  (s.agentDeployments.filter fun d =>
    d.tenantId == tenantId && d.targetType == targetType && d.targetId == targetId &&
    d.status == .active && s.deploymentVisible d).filter fun d => some d.id != none

theorem mem_rolledOver {tenantId targetId : String} {targetType : DeploymentTarget}
    {d : DeploymentRow} : d ∈ s.rolledOver tenantId targetType targetId ↔
      d ∈ s.agentDeployments ∧ d.tenantId = tenantId ∧ d.targetType = targetType ∧
        d.targetId = targetId ∧ d.status = .active ∧ s.deploymentVisible d = true := by
  simp [Db.rolledOver, List.mem_filter, and_assoc]

/-- The index refuses the activation of a rollout exactly where it is blocked. -/
theorem activation_nodup_iff (hs : s.DeploymentsKeyed) {row : DeploymentRow}
    (hnew : s.deploymentFree row = true) {b : Db}
    (hb : b.agentDeployments = s.agentDeployments ++ [row])
    (hvisible : ∀ d, b.deploymentVisible d = s.deploymentVisible d)
    (hrow : s.deploymentVisible row = true) :
    (b.targetsUnder (setWhere (fun r => r.id == row.id && r.agentId == row.agentId &&
        b.deploymentVisible r) .active (setWhere (fun d =>
          ((s.rolledOver row.tenantId row.targetType row.targetId).map DeploymentRow.id).contains
            d.id && b.deploymentVisible d) .paused DeploymentRow.status))).Nodup ↔
      s.rolloutBlocked row.tenantId row.targetType row.targetId = false := by
  have hfresh : ∀ d ∈ s.agentDeployments, (d.id == row.id) = false := by
    simp only [Db.deploymentFree, Bool.and_eq_true, Bool.not_eq_true', List.any_eq_false] at hnew
    exact fun d hd => by simpa using hnew.1 d hd
  -- what is active after the old deployments are paused, besides the new one
  have hactive : ∀ d ∈ s.agentDeployments, setWhere (fun r => r.id == row.id &&
        r.agentId == row.agentId && b.deploymentVisible r) .active (setWhere (fun d =>
          ((s.rolledOver row.tenantId row.targetType row.targetId).map DeploymentRow.id).contains
            d.id && b.deploymentVisible d) .paused DeploymentRow.status) d = .active ↔
      d.status = .active ∧ d ∉ s.rolledOver row.tenantId row.targetType row.targetId := by
    intro d hd
    have hmem : (((s.rolledOver row.tenantId row.targetType row.targetId).map
        DeploymentRow.id).contains d.id && b.deploymentVisible d) = true ↔
        d ∈ s.rolledOver row.tenantId row.targetType row.targetId := by
      simp only [Bool.and_eq_true, List.contains_iff_mem, List.mem_map, hvisible]
      constructor
      · rintro ⟨⟨d', hd', hid⟩, -⟩
        obtain rfl := hs.eq_of_id (mem_rolledOver.1 hd').1 hd hid
        exact hd'
      · exact fun hd' => ⟨⟨d, hd', rfl⟩, (mem_rolledOver.1 hd').2.2.2.2.2⟩
    simp only [setWhere, hfresh d hd, Bool.false_and, Bool.false_eq_true, if_false]
    by_cases hover : d ∈ s.rolledOver row.tenantId row.targetType row.targetId
    · rw [if_pos (hmem.2 hover)]
      exact iff_of_false DeploymentStatus.noConfusion fun h => h.2 hover
    · rw [if_neg fun h => hover (hmem.1 h)]
      exact ⟨fun h => ⟨h, hover⟩, fun h => h.1⟩
  generalize hG : setWhere (fun r => r.id == row.id && r.agentId == row.agentId &&
    b.deploymentVisible r) .active (setWhere (fun d =>
      ((s.rolledOver row.tenantId row.targetType row.targetId).map DeploymentRow.id).contains
        d.id && b.deploymentVisible d) .paused DeploymentRow.status) = G at hactive ⊢
  have hGrow : G row = .active := by
    rw [← hG, setWhere, if_pos (by simp [hvisible, hrow])]
  have hsplit : b.targetsUnder G =
      s.targetsUnder G ++ [(row.targetType, row.targetId)] := by
    simp only [Db.targetsUnder, hb, List.filter_append, List.map_append]
    simp [hGrow]
  have hold : (s.targetsUnder G).Nodup :=
    targetsUnder_nodup _ (targetsUnder_status ▸ hs.targets) fun d hd h => ((hactive d hd).1 h).1
  have hin : (row.targetType, row.targetId) ∈ s.targetsUnder G ↔
      s.rolloutBlocked row.tenantId row.targetType row.targetId = true := by
    simp only [Db.targetsUnder, List.mem_map, List.mem_filter, beq_iff_eq, Db.rolloutBlocked,
      List.any_eq_true, Prod.mk.injEq]
    constructor
    · rintro ⟨d, ⟨hd, hGd⟩, htype, hid⟩
      obtain ⟨hstatus, hover⟩ := (hactive d hd).1 hGd
      refine ⟨d, hd, ?_⟩
      rw [Bool.and_eq_true, Bool.not_eq_true', ← Bool.not_eq_true]
      refine ⟨by simp [htype, hid, hstatus], fun h => hover (mem_rolledOver.2 ?_)⟩
      simp only [Bool.and_eq_true, beq_iff_eq] at h
      exact ⟨hd, h.1, htype, hid, hstatus, h.2⟩
    · rintro ⟨d, hd, hp⟩
      rw [Bool.and_eq_true, Bool.not_eq_true', ← Bool.not_eq_true] at hp
      obtain ⟨htarget, hunseen⟩ := hp
      simp only [Bool.and_eq_true, beq_iff_eq] at htarget
      obtain ⟨⟨htype, hid⟩, hstatus⟩ := htarget
      refine ⟨d, ⟨hd, (hactive d hd).2 ⟨hstatus, fun hover => hunseen ?_⟩⟩, htype, hid⟩
      obtain ⟨-, htenant, -, -, -, hv⟩ := mem_rolledOver.1 hover
      simp [htenant, hv]
  rw [hsplit, List.nodup_append, ← Bool.not_eq_true, ← hin]
  constructor
  · rintro ⟨-, -, hne⟩ hmem
    exact hne _ hmem _ List.mem_cons_self rfl
  · intro hmem
    refine ⟨hold, List.nodup_singleton _, fun t ht t' ht' h => hmem ?_⟩
    rw [← List.mem_singleton.1 ht', ← h]
    exact ht

/-- The activation of a new deployment succeeds unless the index refuses it. -/
theorem run_activateInPlaceOf {b : Db} (updatedAt : Nat) {row : DeploymentRow}
    (previouslyActive : List DeploymentRow) (hnodup : b.activeTargets.Nodup)
    (hrow : row ∈ b.agentDeployments) (hv : b.deploymentVisible row = true)
    (hprevious : ∀ d ∈ previouslyActive,
      d ∈ b.agentDeployments ∧ b.deploymentVisible d = true) :
    if (b.targetsUnder (setWhere (fun r => r.id == row.id && r.agentId == row.agentId &&
        b.deploymentVisible r) .active (setWhere (fun d =>
          (previouslyActive.map DeploymentRow.id).contains d.id && b.deploymentVisible d)
            .paused DeploymentRow.status))).Nodup then
      ∃ g s', (activateInPlaceOf updatedAt row.agentId row.id previouslyActive).run b =
        (.ok (), s') ∧ Reached b g s'
    else ∃ e s', (activateInPlaceOf updatedAt row.agentId row.id previouslyActive).run b =
      (.error e, s') := by
  have hids : ∀ i ∈ previouslyActive.map DeploymentRow.id,
      ∃ d ∈ b.agentDeployments, d.id = i ∧ b.deploymentVisible d = true := by
    intro i hi
    obtain ⟨d, hd, rfl⟩ := List.mem_map.1 hi
    exact ⟨d, (hprevious d hd).1, rfl, (hprevious d hd).2⟩
  obtain ⟨s₁, hs₁, hreached₁⟩ := run_setDeploymentsStatus updatedAt
    (show DeploymentStatus.paused ≠ .active from DeploymentStatus.noConfusion) _ hids (Reached.refl rfl rfl rfl rfl) hnodup
  have hactivate := run_setDeploymentStatus (.write .agentDeployments) .active updatedAt hrow hv hreached₁
  simp only [activateInPlaceOf, Prog.run_bind, hs₁, Prog.andThen_ok]
  split at hactivate
  · next hfree =>
    obtain ⟨s₂, hs₂, hreached₂⟩ := hactivate
    obtain ⟨s₃, hs₃, hreached₃⟩ := run_setDeploymentsStatus updatedAt
      (show DeploymentStatus.rolledBack ≠ .active from DeploymentStatus.noConfusion) _ hids hreached₂ hfree
    rw [if_pos hfree, hs₂, Prog.andThen_ok]
    exact ⟨_, s₃, hs₃, hreached₃⟩
  · next hrefused =>
    rw [if_neg hrefused, hactivate, Prog.andThen_error]
    exact ⟨_, _, rfl⟩

/-- A visible deployment reads back whatever its status is by now. -/
theorem deployment_isSome {b : Db} {g : DeploymentRow → DeploymentStatus} {row : DeploymentRow}
    (h : Reached b g s') (hrow : row ∈ b.agentDeployments)
    (hv : b.deploymentVisible row = true) :
    ∃ d, s'.deployment row.agentId row.id = some d := by
  obtain ⟨u, hu⟩ := h.rows
  rw [← Option.isSome_iff_exists, Db.deployment, List.find?_isSome]
  refine ⟨row.as (g row) (u row), ?_, ?_⟩
  · rw [hu]
    exact List.mem_map_of_mem hrow
  · rw [deploymentVisible_as, h.visible, hv]
    simp [DeploymentRow.as]

/-- A rollout throws and leaves its row exactly where it is blocked after the row is in. -/
theorem restores_rollout_iff (hs : s.DeploymentsKeyed)
    {tenantId agentId versionId targetId : String} {targetType : DeploymentTarget} :
    Restores s ((rolloutAgentDeployment env tenantId agentId versionId targetType targetId).run s) ↔
      ¬(s.acceptsDeployment
          (rolloutRow env (s.draws + 1) tenantId agentId versionId targetType targetId) = true ∧
        s.rolloutBlocked tenantId targetType targetId = true) := by
  generalize hrow : rolloutRow env (s.draws + 1) tenantId agentId versionId targetType targetId =
    row
  have hcreate := run_createAgentDeployment (s := { s with draws := s.draws + 1 }) _ _ _ _ _ hrow.symm
  have haccepts : Db.acceptsDeployment { s with draws := s.draws + 1 } row =
      s.acceptsDeployment row := rfl
  simp only [rolloutAgentDeployment, run_nowIso, listActiveDeploymentsForTarget, Rows.select,
    query, Prog.run_bind, Prog.run_perform, Prog.andThen_ok, Prog.pure_eq, Prog.run_ret]
  rw [haccepts] at hcreate
  split at hcreate
  · next haccepted =>
    rw [hcreate, Prog.andThen_ok]
    have hrow' : row = ⟨env.createId "agd" (s.draws + 1), tenantId, agentId, versionId,
      targetType, targetId, .paused, env.clock (s.draws + 1 + 1)⟩ := hrow.symm
    have htenant : row.tenantId = tenantId := by rw [hrow']
    have hagent : row.agentId = agentId := by rw [hrow']
    have htype : row.targetType = targetType := by rw [hrow']
    have hid : row.targetId = targetId := by rw [hrow']
    have hread := deployment_inserted haccepted
    obtain ⟨hmem, hvisible, -⟩ := Db.deployment_mem hread
    have hfree : s.deploymentFree row = true := by
      simp only [Db.acceptsDeployment, Bool.and_eq_true] at haccepted
      exact haccepted.1.1.1
    have htargets : (deploymentRows.inserted
        { s with draws := s.draws + 1 + 1 + 1 } row).activeTargets.Nodup := by
      change (((s.agentDeployments ++ [row]).filter _).map _).Nodup
      rw [List.filter_append, List.map_append]
      have hold := hs.targets
      rw [Db.activeTargets] at hold
      simpa [hrow'] using hold
    have hrun := run_activateInPlaceOf (env.clock s.draws)
      (s.rolledOver tenantId targetType targetId) htargets hmem hvisible fun d hd =>
        ⟨List.mem_append_left _ (mem_rolledOver.1 hd).1, (mem_rolledOver.1 hd).2.2.2.2.2⟩
    have hiff := activation_nodup_iff hs hfree (b := deploymentRows.inserted
      { s with draws := s.draws + 1 + 1 + 1 } row) rfl (fun _ => rfl) hvisible
    rw [htenant, htype, hid] at hiff
    simp only [hiff] at hrun
    simp only [haccepted, true_and, Bool.not_eq_true, Prog.tryCatch_eq,
      Prog.run_bind, Prog.run_tryCatch]
    change Restores s (Prog.andThen (Prog.orElse ((activateInPlaceOf (env.clock s.draws)
      row.agentId row.id (s.rolledOver tenantId targetType targetId)).run _) _) _) ↔ _
    split at hrun
    · next hunblocked =>
      obtain ⟨g, s₁, hs₁, hreached⟩ := hrun
      obtain ⟨d, hd⟩ := deployment_isSome hreached hmem hvisible
      refine iff_of_true ?_ hunblocked
      rw [hs₁, Prog.orElse_ok, Prog.andThen_ok, readBackRollout, Prog.run_bind,
        run_getAgentDeployment, Prog.andThen_ok, ← hagent, hd]
      exact restores_ok
    · next hblocked =>
      obtain ⟨e, s₁, hs₁⟩ := hrun
      have hgrown : Grown s s₁ := by
        have hkeep := keepsNumber_activateInPlaceOf (env.clock s.draws) row.agentId row.id
          (s.rolledOver tenantId targetType targetId)
        have hstart : Grown s (deploymentRows.inserted
          { s with draws := s.draws + 1 + 1 + 1 } row) := List.length_append
        have hend := hkeep.run hstart
        rw [hs₁] at hend
        exact hend
      refine iff_of_false (fun h => ?_) hblocked
      rw [hs₁, Prog.orElse_error] at h
      have hend := (keepsNumber_restoreAndThrow (α := Unit) (env.clock s.draws)
        ({ row with status := .paused } :: s.rolledOver tenantId targetType targetId)
        (activationError targetType targetId e)).run hgrown
      obtain ⟨s₂, hs₂⟩ := run_restoreAndThrow_error (α := Unit) (s := s₁)
        (env.clock s.draws)
        ({ row with status := .paused } :: s.rolledOver tenantId targetType targetId)
        (activationError targetType targetId e)
      rw [hs₂] at hend
      change Restores s (Prog.andThen ((restoreAndThrow (env.clock s.draws)
        ({ row with status := .paused } :: s.rolledOver tenantId targetType targetId)
        (activationError targetType targetId e) : Op Unit).run s₁) _) at h
      rw [hs₂, Prog.andThen_error] at h
      exact hend.not_same (h ⟨_, rfl⟩)
  · next hrefused =>
    obtain ⟨e, s', hrun, hsame⟩ := hcreate
    rw [hrun, Prog.andThen_error]
    exact iff_of_true (fun _ => .of_eq hsame) fun h => hrefused h.1

/-! ### The three calls -/

/-- The call inserts its row and then throws without any failing statement: the target has an
active deployment that it does not see. -/
def DeploymentCall.blocked (env : Env) (s : Db) : DeploymentCall → Prop
  | rollout tenantId agentId agentVersionId targetType targetId =>
    s.acceptsDeployment (rolloutRow env (s.draws + 1) tenantId agentId agentVersionId targetType
      targetId) = true ∧ s.rolloutBlocked tenantId targetType targetId = true
  | update _ _ _ | rollback _ _ => False

/-- **When a call that throws leaves the deployments as they were**: without a failing
statement, unless it is blocked; with one, exactly if that statement leaves them so, or is a
status update of an activation that restores its snapshots. -/
theorem restores_iff (env : Env) (call : DeploymentCall) (s : Db) (hs : s.DeploymentsKeyed) :
    (Restores s ((call.op env).run s) ↔ ¬call.blocked env s) ∧
      ∀ x ∈ (call.op env).strikes s, x.label ≠ .undo .agentDeployments →
        (Restores s x.refused ↔ s.SameDeployments x.found ∨
          call.activates s ∧ x.label = .write .agentDeployments) ∧
        (Restores s x.lost ↔ s.SameDeployments x.stored ∨
          call.activates s ∧ x.label = .write .agentDeployments) := by
  cases call with
  | update agentId deploymentId status =>
    obtain ⟨hrun, hstruck⟩ := handled_update env agentId deploymentId status hs
    refine ⟨iff_of_true hrun not_false, fun x hx hl => ?_⟩
    exact ⟨(hstruck x hx hl).1.restored_iff, (hstruck x hx hl).2.restored_iff⟩
  | rollback agentId deploymentId =>
    obtain ⟨hrun, hstruck⟩ := handled_rollback env agentId deploymentId hs
    refine ⟨iff_of_true hrun not_false, fun x hx hl => ?_⟩
    exact ⟨(hstruck x hx hl).1.restored_iff, (hstruck x hx hl).2.restored_iff⟩
  | rollout tenantId agentId versionId targetType targetId =>
    refine ⟨?_, fun x hx hl => ?_⟩
    · rw [DeploymentCall.blocked, ← restores_rollout_iff hs, DeploymentCall.op, Prog.run_map]
      rcases (rolloutAgentDeployment env tenantId agentId versionId targetType targetId).run s with
        ⟨e | d, s'⟩
      · exact ⟨fun h _ => h ⟨e, rfl⟩, fun h _ => h ⟨e, rfl⟩⟩
      · exact iff_of_true restores_ok restores_ok
    · have hstruck : Struck s False ((rolloutAgentDeployment env tenantId agentId versionId
          targetType targetId) >>= fun d => .ret (some d)) s :=
        struck_rollout.bind fun _ _ _ => struck_ret
      exact ⟨(hstruck x hx hl).1.restored_iff, (hstruck x hx hl).2.restored_iff⟩

instance {α : Type} (s : Db) (r : Except Exn α × Db) : Decidable (Restores s r) :=
  match h : r.1 with
  | .error e => decidable_of_iff (s.SameDeployments r.2) ⟨fun hs _ => hs, fun hr => hr ⟨e, h⟩⟩
  | .ok _ => isTrue fun ⟨_, he⟩ => by rw [h] at he; cases he

/-- A tenant whose agent has two versions, the first of which is deployed. -/
def deployedDb : Db where
  agents := [⟨"a", "t", .active, none⟩]
  agentVersions := [⟨"v1", "a", none⟩, ⟨"v2", "a", none⟩]
  agentDeployments := [⟨"d", "t", "a", "v1", .tenantDefault, "t", .active, 0⟩]

/-- The tenant's rollout of the second version. -/
def sampleRollout : DeploymentCall := .rollout "t" "a" "v2" .tenantDefault "t"

theorem deployedDb_keyed : deployedDb.DeploymentsKeyed := ⟨by decide, by decide⟩

/-- A rollout whose first status update is refused keeps its new row, and one whose read-back
is refused has replaced the active deployment as well. -/
theorem rollout_keeps_row :
    ∃ x ∈ (sampleRollout.op Env.bare).strikes deployedDb,
      x.label ≠ .undo .agentDeployments ∧ ¬Restores deployedDb x.refused := by decide +kernel

/-- Rolling the deployment back that is active already, and a rollout whose status update of the
old deployment goes wrong. -/
theorem restores_iff_deployedDb :
    (Restores deployedDb (((DeploymentCall.rollback "a" "d").op Env.bare).run deployedDb) ↔
      ¬(DeploymentCall.rollback "a" "d").blocked Env.bare deployedDb) ∧
    ∃ x ∈ (sampleRollout.op Env.bare).strikes deployedDb, x.label = .write .agentDeployments ∧
      (Restores deployedDb x.refused ↔ deployedDb.SameDeployments x.found ∨
        sampleRollout.activates deployedDb ∧ x.label = .write .agentDeployments) ∧
      (Restores deployedDb x.lost ↔ deployedDb.SameDeployments x.stored ∨
        sampleRollout.activates deployedDb ∧ x.label = .write .agentDeployments) := by
  obtain ⟨x, hx, hlabel⟩ : ∃ x ∈ (sampleRollout.op Env.bare).strikes deployedDb,
      x.label = .write .agentDeployments := by decide +kernel
  have hstatement : x.label ≠ .undo .agentDeployments := by
    rw [hlabel]
    decide
  exact ⟨(restores_iff Env.bare (.rollback "a" "d") deployedDb deployedDb_keyed).1, x, hx, hlabel,
    (restores_iff Env.bare sampleRollout deployedDb deployedDb_keyed).2 x hx hstatement⟩

end MailRuntime
