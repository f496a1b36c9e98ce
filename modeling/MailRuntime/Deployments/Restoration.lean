import MailRuntime.Deployments.Statuses

/-!
# What a failed activation leaves behind

A status update, a rollout or a rollback of a deployment throws. Are the deployments as
they were? The question is asked of every point at which a statement may fail, where the
compensating statements themselves succeed: those are the ones under an `undo` label.

## What is proved

**`restores_iff`**: a call that throws leaves the deployments as they were exactly when
nothing had been changed at the statement that failed, or when that statement is a status
update of an activation that restores its snapshots. A rollout restores statuses but keeps
its row, and no call restores anything when its read-back fails.
-/

namespace MailRuntime

open Interaction Js

/-- A call that changes a target's active deployment. -/
inductive DeploymentCall where
  | update (agentId deploymentId : String) (status : DeploymentStatus)
  | rollout (tenantId agentId agentVersionId : String) (targetType : DeploymentTarget)
      (targetId : String)
  | rollback (agentId deploymentId : String)
deriving DecidableEq, Repr

/-- The call. -/
def DeploymentCall.op (env : Env) : DeploymentCall → Op (Option DeploymentRow)
  | update agentId deploymentId status =>
    updateAgentDeploymentStatus env agentId deploymentId status
  | rollout tenantId agentId agentVersionId targetType targetId =>
    some <$> rolloutAgentDeployment env tenantId agentId agentVersionId targetType targetId
  | rollback agentId deploymentId => rollbackAgentDeployment env agentId deploymentId

/-- If the call throws, the deployments are as they were. -/
def Restores {α : Type} (s : Db) (r : Except Exn α × Db) : Prop :=
  (∃ e, r.1 = .error e) → s.SameDeployments r.2

/-- The deployment a call is about. -/
def Db.deployment (s : Db) (agentId deploymentId : String) : Option DeploymentRow :=
  s.agentDeployments.find? fun d =>
    d.id == deploymentId && d.agentId == agentId && s.deploymentVisible d

/-- The call activates an existing deployment, and restores its snapshots if a status update
fails. -/
def DeploymentCall.activates (s : Db) : DeploymentCall → Prop
  | update agentId deploymentId status =>
    status = .active ∧ ∃ d, s.deployment agentId deploymentId = some d ∧ d.status ≠ .active
  | rollout _ _ _ _ _ => False
  | rollback _ _ => True

variable {α β : Type} {s s' : Db} {guarded : Prop}

/-- How the run ends that goes wrong at the statement, where it left `left`. -/
def EndsBy (s : Db) (guarded : Prop) (l : Label) (left : Db) (r : Except Exn α × Db) : Prop :=
  ∃ e s'', r = (.error e, s'') ∧
    (s.SameDeployments s'' ↔ s.SameDeployments left ∨ guarded ∧ l = .write .agentDeployments)

theorem EndsBy.restored_iff {l : Label} {left : Db} {r : Except Exn α × Db}
    (h : EndsBy s guarded l left r) :
    Restores s r ↔ s.SameDeployments left ∨ guarded ∧ l = .write .agentDeployments := by
  obtain ⟨e, s'', rfl, hiff⟩ := h
  rw [← hiff]
  exact ⟨fun h => h ⟨e, rfl⟩, fun h _ => h⟩

theorem EndsBy.andThen {l : Label} {left : Db} {r : Except Exn α × Db} {f : α → Op β}
    (h : EndsBy s guarded l left r) : EndsBy s guarded l left (Prog.andThen r f) := by
  obtain ⟨e, s'', rfl, hiff⟩ := h
  exact ⟨e, s'', rfl, hiff⟩

/-- Every strike of the program but those at compensating statements ends so. -/
def Struck (s : Db) (guarded : Prop) (p : Op α) (s' : Db) : Prop :=
  ∀ x ∈ p.strikes s', x.label ≠ .undo .agentDeployments →
    EndsBy s guarded x.label x.found x.refused ∧ EndsBy s guarded x.label x.stored x.lost

theorem Struck.bind {p : Op α} {f : α → Op β} (hp : Struck s guarded p s')
    (hf : ∀ a s'', p.run s' = (.ok a, s'') → Struck s guarded (f a) s'') :
    Struck s guarded (p >>= f) s' := by
  intro x hx hl
  rcases Prog.mem_strikes_bind hx with ⟨y, hy, rfl⟩ | ⟨a, s'', hr, hx⟩
  · obtain ⟨hrefused, hlost⟩ := hp y hy hl
    exact ⟨hrefused.andThen, hlost.andThen⟩
  · exact hf a s'' hr x hx hl

theorem struck_ret {a : α} : Struck s guarded (.ret a) s' := fun _ hx => by cases hx

theorem struck_throw {e : Exn} : Struck s guarded (.throw e : Op α) s' := fun _ hx => by cases hx

theorem struck_draw {f : Db → α × Db} : Struck s guarded (.draw f) s' := fun _ hx => by cases hx

/-- Where nothing handles the exception, the deployments stay as the statement left them. -/
theorem Struck.of_plain {p : Op α} (hp : p.Plain)
    (hl : ∀ x ∈ p.strikes s', ¬(guarded ∧ x.label = .write .agentDeployments)) :
    Struck s guarded p s' := by
  intro x hx _
  obtain ⟨⟨e, he⟩, ⟨e', he'⟩⟩ := hp s' x hx
  have hnot := hl x hx
  exact ⟨⟨e, _, he, by simp [hnot]⟩, ⟨e', _, he', by simp [hnot]⟩⟩

theorem struck_query {l : Label} {f : Db → α} (hl : l ≠ .write .agentDeployments) :
    Struck s guarded (query l f) s' := by
  refine .of_plain (Prog.plain_perform _ _ _) fun x hx => ?_
  obtain rfl := List.mem_singleton.1 hx
  exact fun h => hl h.2

theorem struck_getAgentDeployment {agentId deploymentId : String} :
    Struck s guarded (getAgentDeployment agentId deploymentId) s' := struck_query (by decide)

theorem struck_listActiveDeploymentsForTarget {tenantId targetId : String}
    {targetType : DeploymentTarget} {exclude : Option String} :
    Struck s guarded (listActiveDeploymentsForTarget tenantId targetType targetId exclude) s' :=
  .bind (struck_query (by decide)) fun _ _ _ => struck_ret

/-! ### The guarded part -/

theorem plain_updateDeployments {l : Label} {target : Db → DeploymentRow → Bool}
    {status : DeploymentStatus} {updatedAt : Nat} :
    (updateDeployments l target status updatedAt).Plain := by
  refine .bind (Prog.plain_perform _ _ _) fun changes => ?_
  cases changes
  · exact Prog.plain_throw _
  · exact Prog.plain_ret _

theorem plain_requireStateUpdateApplied {changes : Nat} {target : String} :
    (requireStateUpdateApplied changes target).Plain := by
  rw [requireStateUpdateApplied]
  split
  · exact Prog.plain_throw _
  · exact Prog.plain_ret _

theorem plain_setDeploymentStatus {l : Label} {agentId deploymentId : String}
    {status : DeploymentStatus} {updatedAt : Nat} :
    (setDeploymentStatus l agentId deploymentId status updatedAt).Plain :=
  .bind plain_updateDeployments fun _ => plain_requireStateUpdateApplied

theorem plain_setDeploymentsStatus {status : DeploymentStatus} {updatedAt : Nat}
    (ids : List String) : (setDeploymentsStatus status updatedAt ids).Plain := by
  induction ids with
  | nil => exact Prog.plain_ret _
  | cons id rest ih =>
    exact .bind plain_updateDeployments fun _ => .bind plain_requireStateUpdateApplied fun _ => ih

theorem plain_activateInPlaceOf {updatedAt : Nat} {agentId deploymentId : String}
    {previouslyActive : List DeploymentRow} :
    (activateInPlaceOf updatedAt agentId deploymentId previouslyActive).Plain :=
  .bind (plain_setDeploymentsStatus _) fun _ => .bind plain_setDeploymentStatus fun _ =>
    plain_setDeploymentsStatus _

theorem writes_activateInPlaceOf {ids : List String} {updatedAt : Nat}
    {agentId deploymentId : String} {previouslyActive : List DeploymentRow}
    (hid : deploymentId ∈ ids) (hids : ∀ d ∈ previouslyActive, d.id ∈ ids) :
    Writes s ids (.write .agentDeployments)
      (activateInPlaceOf updatedAt agentId deploymentId previouslyActive) := by
  have hmap : ∀ i ∈ previouslyActive.map DeploymentRow.id, i ∈ ids := by
    intro i hi
    obtain ⟨d, hd, rfl⟩ := List.mem_map.1 hi
    exact hids d hd
  exact .bind (writes_setDeploymentsStatus _ hmap) fun _ =>
    .bind (writes_setDeploymentStatus hid) fun _ => writes_setDeploymentsStatus _ hmap

/-- The snapshots of an activation: the deployments it writes, all visible, the first of which
alone may not have been active. -/
structure Snapshots (s : Db) (snapshots : List DeploymentRow) : Prop where
  mem : ∀ d ∈ snapshots, d ∈ s.agentDeployments ∧ s.deploymentVisible d = true
  active : ∀ d ∈ snapshots.tail, d.status = .active

section Guarded

variable (updatedAt : Nat) {snapshots : List DeploymentRow}

theorem run_restoreAndThrow (hs : s.DeploymentsKeyed) (hsnap : Snapshots s snapshots)
    (h : Midway s (snapshots.map DeploymentRow.id) s') (error : Exn) :
    ∃ s'', (restoreAndThrow updatedAt snapshots error : Op α).run s' = (.error error, s'') ∧
      s.SameDeployments s'' := by
  obtain ⟨s'', hrun, hmid⟩ := Midway.restore hs updatedAt hsnap.mem hsnap.active h
  refine ⟨s'', ?_, hmid.same⟩
  simp only [restoreAndThrow, catchAll, Prog.run_bind, Prog.tryCatch_eq, Prog.run_tryCatch, hrun,
    Prog.orElse_ok, Prog.andThen_ok, Prog.throw_eq, Prog.run_throw]

/-- Statements that put snapshots back are compensating ones. -/
theorem struck_restoreDeploymentStatuses :
    Struck s guarded (catchAll (restoreDeploymentStatuses updatedAt snapshots) ()) s' := by
  intro x hx hl
  have hwrites : Writes s (snapshots.map DeploymentRow.id) (.undo .agentDeployments)
      (catchAll (restoreDeploymentStatuses updatedAt snapshots) ()) :=
    .tryCatch (writes_restoreDeploymentStatuses _ fun d hd => List.mem_map_of_mem hd)
      fun _ => trivial
  exact absurd (hwrites.strikes_label (B := fun l => l = .undo .agentDeployments)
    (fun _ _ h s => h.1 s) hx) hl

theorem struck_restoreAndThrow (error : Exn) :
    Struck s guarded (restoreAndThrow updatedAt snapshots error : Op α) s' :=
  (struck_restoreDeploymentStatuses updatedAt).bind fun _ _ _ => struck_throw

/-- Wherever the guarded statements are struck, the snapshots are put back. -/
theorem struck_guarded (hs : s.DeploymentsKeyed) (hsnap : Snapshots s snapshots) (hg : guarded)
    {body : Op Unit} (hbody : Writes s (snapshots.map DeploymentRow.id)
      (.write .agentDeployments) body) (hplain : body.Plain) (f : Exn → Exn)
    (h : Midway s (snapshots.map DeploymentRow.id) s') :
    Struck s guarded (tryCatch body fun e => restoreAndThrow updatedAt snapshots (f e)) s' := by
  intro x hx hl
  rcases Prog.mem_strikes_tryCatch hx with ⟨y, hy, rfl⟩ | ⟨e, s'', -, hx⟩
  · obtain ⟨⟨e, he⟩, ⟨e', he'⟩⟩ := hplain s' y hy
    obtain ⟨hfound, hstored, -⟩ := hbody.strikes_keep (fun _ h => h) (fun _ _ h => h.2) h hy
    have hlabel := hbody.strikes_label (B := fun l => l = .write .agentDeployments)
      (fun _ _ h s => h.1 s) hy
    constructor
    · obtain ⟨s'', hrun, hsame⟩ := run_restoreAndThrow (α := Unit) updatedAt hs
        hsnap hfound (f e)
      refine ⟨f e, s'', ?_, iff_of_true hsame (.inr ⟨hg, hlabel⟩)⟩
      rw [Strike.orElse, he]
      exact hrun
    · obtain ⟨s'', hrun, hsame⟩ := run_restoreAndThrow (α := Unit) updatedAt hs
        hsnap hstored (f e')
      refine ⟨f e', s'', ?_, iff_of_true hsame (.inr ⟨hg, hlabel⟩)⟩
      rw [Strike.orElse, he']
      exact hrun
  · exact struck_restoreAndThrow updatedAt (f e) x hx hl

/-- The guarded statements end midway, or throw with the snapshots put back. -/
theorem run_guarded (hs : s.DeploymentsKeyed) (hsnap : Snapshots s snapshots) {body : Op Unit}
    (hbody : Writes s (snapshots.map DeploymentRow.id) (.write .agentDeployments) body)
    (f : Exn → Exn) (h : Midway s (snapshots.map DeploymentRow.id) s') :
    (∃ s'', (tryCatch body fun e => restoreAndThrow updatedAt snapshots (f e)).run s' =
        (.ok (), s'') ∧ Midway s (snapshots.map DeploymentRow.id) s'') ∨
      ∃ e s'', (tryCatch body fun e => restoreAndThrow updatedAt snapshots (f e)).run s' =
        (.error e, s'') ∧ s.SameDeployments s'' := by
  have hmid := hbody.run_keep (fun _ h => h) (fun _ _ h => h.2) h
  simp only [Prog.tryCatch_eq, Prog.run_tryCatch]
  rcases hr : body.run s' with ⟨e | _, s''⟩
  · rw [hr] at hmid
    obtain ⟨s₂, hrun, hsame⟩ := run_restoreAndThrow (α := Unit) updatedAt hs hsnap
      hmid (f e)
    exact .inr ⟨f e, s₂, hrun, hsame⟩
  · rw [hr] at hmid
    exact .inl ⟨s'', rfl, hmid⟩

theorem struck_readBackDeployment {agentId deploymentId after : String} :
    Struck s guarded (readBackDeployment updatedAt snapshots agentId deploymentId after) s' := by
  refine struck_getAgentDeployment.bind fun updated _ _ => ?_
  cases updated with
  | some updated => exact struck_ret
  | none => exact struck_restoreAndThrow updatedAt _

theorem restores_readBackDeployment (hs : s.DeploymentsKeyed) (hsnap : Snapshots s snapshots)
    {agentId deploymentId after : String} (h : Midway s (snapshots.map DeploymentRow.id) s') :
    Restores s
      ((readBackDeployment updatedAt snapshots agentId deploymentId after).run s') := by
  simp only [readBackDeployment, getAgentDeployment, Rows.first, query, Prog.run_bind,
    Prog.run_perform, Prog.andThen_ok]
  split
  · rintro ⟨e, he⟩
    cases he
  · next error =>
    obtain ⟨s'', hrun, hsame⟩ := run_restoreAndThrow (α := DeploymentRow)
      updatedAt hs hsnap h (Exn.error ("Agent deployment " ++ deploymentId ++
        " no longer passed read-back validation after " ++ after))
    rw [hrun]
    exact fun _ => hsame

end Guarded

theorem Restores.bind {p : Op α} {f : α → Op β} (hp : Restores s (p.run s'))
    (hf : ∀ a s'', p.run s' = (.ok a, s'') → Restores s ((f a).run s'')) :
    Restores s ((p >>= f).run s') := by
  rw [Prog.run_bind]
  rcases hr : p.run s' with ⟨e | a, s''⟩
  · rw [hr] at hp
    exact fun _ => hp ⟨e, rfl⟩
  · exact hf a s'' hr

theorem restores_ok {a : α} : Restores s (.ok a, s') := fun ⟨_, h⟩ => by cases h

theorem restores_query {l : Label} {f : Db → α} : Restores s ((query l f).run s') := restores_ok

/-! ### Status updates and rollbacks -/

theorem Db.deployment_mem {agentId deploymentId : String} {d : DeploymentRow}
    (h : s.deployment agentId deploymentId = some d) :
    d ∈ s.agentDeployments ∧ s.deploymentVisible d = true ∧ d.id = deploymentId := by
  have hp := List.find?_some h
  simp only [Bool.and_eq_true, beq_iff_eq] at hp
  exact ⟨List.mem_of_find?_eq_some h, hp.2, hp.1.1⟩

/-- The deployment an activation is about, and those that were active for its target. -/
theorem snapshots_cons {agentId deploymentId tenantId targetId : String}
    {targetType : DeploymentTarget} {exclude : Option String} {d : DeploymentRow}
    {previouslyActive : List DeploymentRow} {s₁ s₂ : Db}
    (h : s.deployment agentId deploymentId = some d)
    (hs₁ : Reached s DeploymentRow.status s₁) (hrows : s₁.agentDeployments = s.agentDeployments)
    (hlist : (listActiveDeploymentsForTarget tenantId targetType targetId exclude).run s₁ =
      (.ok previouslyActive, s₂)) :
    Snapshots s (d :: previouslyActive) ∧ s₂ = s₁ := by
  obtain ⟨hmem, hvisible, -⟩ := Db.deployment_mem h
  simp only [listActiveDeploymentsForTarget, Rows.select, query, Prog.run_bind, Prog.run_perform,
    Prog.andThen_ok, Prog.pure_eq, Prog.run_ret, Prod.mk.injEq, Except.ok.injEq] at hlist
  obtain ⟨rfl, rfl⟩ := hlist
  refine ⟨⟨fun d' hd' => ?_, fun d' hd' => ?_⟩, rfl⟩
  · rcases List.mem_cons.1 hd' with rfl | hd'
    · exact ⟨hmem, hvisible⟩
    · obtain ⟨hd', hp⟩ := List.mem_filter.1 (List.mem_filter.1 hd').1
      simp only [Bool.and_eq_true, hs₁.visible] at hp
      exact ⟨hrows ▸ hd', hp.2⟩
  · obtain ⟨-, hp⟩ := List.mem_filter.1 (List.mem_filter.1 hd').1
    simp only [Bool.and_eq_true, beq_iff_eq] at hp
    exact hp.1.2

/-- Statements that write only what is already so much different. -/
theorem midway_start {ids : List String} {s₁ : Db} (h : Reached s DeploymentRow.status s₁) :
    Midway s ids s₁ := ⟨_, h, fun _ _ _ => rfl⟩

/-- A status update of one deployment that is not guarded leaves the deployments as they are
if it throws. -/
theorem restores_setDeploymentStatus {l : Label} {agentId deploymentId : String}
    {status : DeploymentStatus} {updatedAt : Nat} (h : Reached s DeploymentRow.status s') :
    Restores s ((setDeploymentStatus l agentId deploymentId status updatedAt).run s') := by
  have hwrite := reached_write h
    (fun d => d.id == deploymentId && d.agentId == agentId && s'.deploymentVisible d) status updatedAt
    (p := fun d => d.id == deploymentId && d.agentId == agentId && s.deploymentVisible d)
    fun d v u => by
      rw [deploymentVisible_as, h.visible]
      rfl
  simp only [setDeploymentStatus, updateDeployments, Prog.run_bind, Prog.run_perform,
    Prog.andThen_ok]
  split at hwrite
  · obtain ⟨s'', hs'', hreached⟩ := hwrite
    rw [hs'']
    simp only [Prog.pure_eq, Prog.run_ret, Prog.andThen_ok, requireStateUpdateApplied]
    split
    · next hcount =>
      refine fun _ => hreached.same fun d hd => ?_
      rw [List.countP_eq_zero] at hcount
      rw [setWhere, if_neg (hcount d hd)]
    · exact restores_ok
  · rw [hwrite]
    exact fun _ => h.same fun _ _ => rfl

theorem plain_rethrow {p : Op α} (hp : p.Plain) (f : Exn → Exn) :
    (tryCatch p fun e => throw (f e) : Op α).Plain := by
  intro s x hx
  rcases Prog.mem_strikes_tryCatch hx with ⟨y, hy, rfl⟩ | ⟨e, s', -, hx⟩
  · obtain ⟨⟨e, he⟩, ⟨e', he'⟩⟩ := hp s y hy
    exact ⟨⟨f e, by simp [Strike.orElse, he]⟩, ⟨f e', by simp [Strike.orElse, he']⟩⟩
  · cases hx

theorem Restores.rethrow {p : Op α} (hp : Restores s (p.run s')) (f : Exn → Exn) :
    Restores s ((tryCatch p fun e => throw (f e) : Op α).run s') := by
  simp only [Prog.tryCatch_eq, Prog.run_tryCatch]
  rcases hr : p.run s' with ⟨e | a, s''⟩
  · rw [hr] at hp
    exact fun _ => hp ⟨e, rfl⟩
  · exact restores_ok

section Existing

variable {env : Env} {agentId deploymentId : String}

/-- The database after a value is drawn. -/
theorem reached_drawn (n : Nat) : Reached s DeploymentRow.status { s with draws := n } :=
  .refl rfl rfl rfl rfl

theorem run_getAgentDeployment : (getAgentDeployment agentId deploymentId).run s =
    (.ok (s.deployment agentId deploymentId), s) := rfl

theorem deployment_drawn (n : Nat) : Db.deployment { s with draws := n } agentId deploymentId =
    s.deployment agentId deploymentId := rfl

/-- The program restores the deployments if it throws by itself, and where it is struck as
its statements say. -/
def Handled (s : Db) (guarded : Prop) (p : Op α) (s' : Db) : Prop :=
  Restores s (p.run s') ∧ Struck s guarded p s'

theorem Handled.bind {p : Op α} {f : α → Op β} (hp : Handled s guarded p s')
    (hf : ∀ a s'', p.run s' = (.ok a, s'') → Handled s guarded (f a) s'') :
    Handled s guarded (p >>= f) s' :=
  ⟨hp.1.bind fun a s'' h => (hf a s'' h).1, hp.2.bind fun a s'' h => (hf a s'' h).2⟩

theorem handled_ret {a : α} : Handled s guarded (.ret a) s' := ⟨restores_ok, struck_ret⟩

theorem handled_guarded {updatedAt : Nat} {snapshots : List DeploymentRow}
    (hs : s.DeploymentsKeyed) (hsnap : Snapshots s snapshots) (hg : guarded) {body : Op Unit}
    (hbody : Writes s (snapshots.map DeploymentRow.id) (.write .agentDeployments) body)
    (hplain : body.Plain) (f : Exn → Exn)
    (h : Midway s (snapshots.map DeploymentRow.id) s') :
    Handled s guarded (tryCatch body fun e => restoreAndThrow updatedAt snapshots (f e)) s' := by
  refine ⟨?_, struck_guarded updatedAt hs hsnap hg hbody hplain f h⟩
  rcases run_guarded updatedAt hs hsnap hbody f h with
    ⟨s'', hrun, -⟩ | ⟨e, s'', hrun, hsame⟩
  · rw [hrun]
    exact restores_ok
  · rw [hrun]
    exact fun _ => hsame

theorem handled_readBackDeployment {updatedAt : Nat} {snapshots : List DeploymentRow}
    (hs : s.DeploymentsKeyed) (hsnap : Snapshots s snapshots) {after : String}
    (h : Midway s (snapshots.map DeploymentRow.id) s') :
    Handled s guarded
      (readBackDeployment updatedAt snapshots agentId deploymentId after) s' :=
  ⟨restores_readBackDeployment updatedAt hs hsnap h, struck_readBackDeployment updatedAt⟩

variable (env agentId deploymentId)

/-- `updateAgentDeploymentStatus`. -/
theorem handled_update (status : DeploymentStatus) (hs : s.DeploymentsKeyed) :
    Handled s (DeploymentCall.activates s (.update agentId deploymentId status))
      (updateAgentDeploymentStatus env agentId deploymentId status) s := by
  have hdrawn := reached_drawn (s := s) (s.draws + 1)
  refine Handled.bind ⟨restores_ok, struck_draw⟩ fun timestamp s₁ hs₁ => ?_
  obtain ⟨-, rfl⟩ := Prod.mk.inj hs₁
  refine Handled.bind ⟨restores_query, struck_getAgentDeployment⟩ fun found s₂ hs₂ => ?_
  rw [run_getAgentDeployment, deployment_drawn] at hs₂
  obtain ⟨hfound, rfl⟩ := Prod.mk.inj hs₂
  obtain hfound := Except.ok.inj hfound
  cases found with
  | none => exact handled_ret
  | some current =>
    obtain ⟨hmem, hvisible, hid⟩ := Db.deployment_mem hfound
    by_cases hactivates : status = .active ∧ current.status ≠ .active
    · -- the statuses that an activation writes are put back
      simp only [if_pos hactivates]
      refine Handled.bind ⟨restores_ok, struck_listActiveDeploymentsForTarget⟩
        fun previouslyActive s₂ hs₂ => ?_
      obtain ⟨hsnap, rfl⟩ := snapshots_cons hfound hdrawn rfl hs₂
      have hids : ∀ i ∈ previouslyActive.map DeploymentRow.id,
          i ∈ (current :: previouslyActive).map DeploymentRow.id :=
        fun i hi => List.mem_cons_of_mem _ hi
      have hbody : Writes s ((current :: previouslyActive).map DeploymentRow.id)
          (.write .agentDeployments) (do
            setDeploymentStatus (.write .agentDeployments) current.agentId current.id .paused
              timestamp
            setDeploymentsStatus .paused timestamp (previouslyActive.map DeploymentRow.id)
            setDeploymentStatus (.write .agentDeployments) current.agentId current.id .active
              timestamp) :=
        .bind (writes_setDeploymentStatus List.mem_cons_self) fun _ =>
          .bind (writes_setDeploymentsStatus _ hids) fun _ =>
            writes_setDeploymentStatus List.mem_cons_self
      refine Handled.bind (handled_guarded hs hsnap ⟨hactivates.1, current, hfound, hactivates.2⟩
        hbody (.bind plain_setDeploymentStatus fun _ => .bind (plain_setDeploymentsStatus _)
          fun _ => plain_setDeploymentStatus) _ (midway_start hdrawn)) fun _ s₃ hs₃ => ?_
      rcases run_guarded timestamp hs hsnap hbody
        (activationError current.targetType current.targetId) (midway_start hdrawn) with
        ⟨s₄, hs₄, hmid⟩ | ⟨e, s₄, hs₄, -⟩
      · obtain ⟨-, rfl⟩ := Prod.mk.inj (hs₄.symm.trans hs₃)
        exact Handled.bind (handled_readBackDeployment hs hsnap hmid) fun _ _ _ => handled_ret
      · cases (Prod.mk.inj (hs₄.symm.trans hs₃)).1
    · -- a single status is written, and nothing puts it back
      have hnot : ¬DeploymentCall.activates s (.update agentId deploymentId status) := by
        rintro ⟨hstatus, d, hd, hne⟩
        obtain rfl := Option.some.inj (hfound.symm.trans hd)
        exact hactivates ⟨hstatus, hne⟩
      simp only [if_neg hactivates]
      have hsnap : Snapshots s [current] :=
        ⟨fun d hd => List.mem_singleton.1 hd ▸ ⟨hmem, hvisible⟩, fun d hd => by cases hd⟩
      refine Handled.bind ⟨(restores_setDeploymentStatus hdrawn).rethrow _,
        .of_plain (plain_rethrow plain_setDeploymentStatus _) fun _ _ h => hnot h.1⟩
        fun _ s₃ hs₃ => ?_
      have hmid : Midway s ([current].map DeploymentRow.id) s₃ := by
        have hwrites : Writes s ([current].map DeploymentRow.id) (.write .agentDeployments)
            (tryCatch (setDeploymentStatus (.write .agentDeployments) agentId deploymentId status
              timestamp) fun e =>
                throw (activationError current.targetType current.targetId e)) :=
          .tryCatch (writes_setDeploymentStatus (hid ▸ List.mem_cons_self)) fun _ => trivial
        have hkeep := hwrites.run_keep (fun _ h => h) (fun _ _ h => h.2) (midway_start hdrawn)
        rw [hs₃] at hkeep
        exact hkeep
      exact Handled.bind (handled_readBackDeployment hs hsnap hmid) fun _ _ _ => handled_ret

/-- `rollbackAgentDeployment`. -/
theorem handled_rollback (hs : s.DeploymentsKeyed) :
    Handled s (DeploymentCall.activates s (.rollback agentId deploymentId))
      (rollbackAgentDeployment env agentId deploymentId) s := by
  have hdrawn := reached_drawn (s := s) (s.draws + 1)
  refine Handled.bind ⟨restores_query, struck_getAgentDeployment⟩ fun found s₁ hs₁ => ?_
  rw [run_getAgentDeployment] at hs₁
  obtain ⟨hfound, rfl⟩ := Prod.mk.inj hs₁
  obtain hfound := Except.ok.inj hfound
  cases found with
  | none => exact handled_ret
  | some deployment =>
    refine Handled.bind ⟨restores_ok, struck_draw⟩ fun timestamp s₁ hs₁ => ?_
    obtain ⟨-, rfl⟩ := Prod.mk.inj hs₁
    refine Handled.bind ⟨restores_ok, struck_listActiveDeploymentsForTarget⟩
      fun previouslyActive s₂ hs₂ => ?_
    obtain ⟨hsnap, rfl⟩ := snapshots_cons hfound hdrawn rfl hs₂
    have hbody : Writes s ((deployment :: previouslyActive).map DeploymentRow.id)
        (.write .agentDeployments) (activateInPlaceOf timestamp deployment.agentId deployment.id
          previouslyActive) :=
      writes_activateInPlaceOf List.mem_cons_self fun d hd =>
        List.mem_cons_of_mem _ (List.mem_map_of_mem hd)
    refine Handled.bind (handled_guarded hs hsnap trivial hbody plain_activateInPlaceOf _
      (midway_start hdrawn)) fun _ s₃ hs₃ => ?_
    rcases run_guarded timestamp hs hsnap hbody
      (activationError deployment.targetType deployment.targetId) (midway_start hdrawn) with
      ⟨s₄, hs₄, hmid⟩ | ⟨e, s₄, hs₄, -⟩
    · obtain ⟨-, rfl⟩ := Prod.mk.inj (hs₄.symm.trans hs₃)
      exact Handled.bind (handled_readBackDeployment hs hsnap hmid) fun _ _ _ => handled_ret
    · cases (Prod.mk.inj (hs₄.symm.trans hs₃)).1

end Existing

end MailRuntime
