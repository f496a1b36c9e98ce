import MailRuntime.Auth.Issuing

/-!
# What is checked before a token is minted

Whoever mints a token has looked at the agent and at the mailboxes first, one statement after
the other, and the database may have changed in between. So what a check tells is what was true
of some of the databases that its statements found (`Vouched`), each fact of one of them.
-/

namespace MailRuntime.Auth

open Js Interaction

/-! ### What a call has seen -/

/-- One of the databases had the property. -/
def Saw (seen : Set Db) (p : Db → Prop) : Prop := ∃ s ∈ seen, p s

theorem Saw.mono {seen seen' : Set Db} {p : Db → Prop} (h : Saw seen p) (hsub : seen ⊆ seen') :
    Saw seen' p := by
  obtain ⟨s, hs, hp⟩ := h
  exact ⟨s, hsub hs, hp⟩

theorem Saw.insert {seen : Set Db} {p : Db → Prop} (h : Saw seen p) (s : Db) :
    Saw (insert s seen) p := h.mono (Set.subset_insert s seen)

theorem saw_new {s : Db} {seen : Set Db} {p : Db → Prop} (h : p s) : Saw (insert s seen) p :=
  ⟨s, Set.mem_insert s seen, h⟩

theorem Saw.imp {seen : Set Db} {p q : Db → Prop} (h : Saw seen p) (hpq : ∀ s, p s → q s) :
    Saw seen q := by
  obtain ⟨s, hs, hp⟩ := h
  exact ⟨s, hs, hpq s hp⟩

/-- The mailbox is one of the tenant's, as `getMailboxById` finds it. -/
def Db.mailboxOfTenant (s : Db) (tenantId mailboxId : String) : Bool :=
  (s.mailbox mailboxId).any fun m => m.tenantId == tenantId

/-- And it is active. -/
def Db.mailboxInUse (s : Db) (tenantId mailboxId : String) : Bool :=
  (s.mailbox mailboxId).any fun m => m.tenantId == tenantId && m.status == "active"

/-- The agent that a token is bound to, if it is. -/
def Authority.agent (a : Authority) : Option String := a.agentId.filter truthy

/-- The agent was the tenant's. -/
def AgentSeen (a : Authority) (seen : Set Db) : Prop :=
  ∀ agentId, a.agent = some agentId → Saw seen fun s => s.agentOfTenant a.tenantId agentId = true

/-- The mailboxes were the tenant's. -/
def MailboxesSeen (a : Authority) (seen : Set Db) : Prop :=
  ∀ mailboxId ∈ a.mailboxes, Saw seen fun s => Db.mailboxOfTenant s a.tenantId mailboxId = true

/-- The mailboxes were the tenant's, and active. -/
def InUseSeen (a : Authority) (seen : Set Db) : Prop :=
  ∀ mailboxId ∈ a.mailboxes, Saw seen fun s => Db.mailboxInUse s a.tenantId mailboxId = true

/-- The agent was bound to the mailbox, or deployed to it. -/
def ActiveFor (agentId mailboxId : String) (seen : Set Db) : Prop :=
  Saw seen fun s => s.activeMailboxBinding agentId mailboxId [] = true ∨
    s.activeMailboxDeployment agentId mailboxId = true

/-- The agent was bound to the mailbox in a role that sends, or it was not bound to it and it was
deployed to it. -/
def SendsFor (agentId mailboxId : String) (seen : Set Db) : Prop :=
  (Saw seen fun s => s.activeMailboxBinding agentId mailboxId sendCapableMailboxRoles = true) ∨
    ((Saw seen fun s => s.activeMailboxBinding agentId mailboxId [] = false) ∧
      Saw seen fun s => s.activeMailboxDeployment agentId mailboxId = true)

/-- What was seen before a token was minted, of its agent and its mailboxes: they were the
tenant's, and the agent was active for every mailbox. -/
structure Vouched (a : Authority) (seen : Set Db) : Prop where
  agent : AgentSeen a seen
  mailboxes : MailboxesSeen a seen
  active : ∀ agentId, a.agent = some agentId → ∀ mailboxId ∈ a.mailboxes,
    ActiveFor agentId mailboxId seen

/-- A token for mailboxes is bound to an agent, if its scopes need one. -/
def Authority.Bound (a : Authority) : Prop :=
  a.mailboxes ≠ [] → ∀ scope ∈ a.scopes, scope ∈ agentRequiredMailboxScopes →
    a.agent.isSome = true

/-- A token that may send from mailboxes is bound to an agent that could. -/
def SendsSeen (a : Authority) (seen : Set Db) : Prop :=
  "draft:send" ∈ a.scopes → ∀ agentId, a.agent = some agentId → ∀ mailboxId ∈ a.mailboxes,
    SendsFor agentId mailboxId seen

section Growth

variable {a : Authority} {agentId mailboxId : String} {seen seen' : Set Db}

theorem AgentSeen.mono (h : AgentSeen a seen) (hsub : seen ⊆ seen') : AgentSeen a seen' :=
  fun agentId ha => (h agentId ha).mono hsub

theorem MailboxesSeen.mono (h : MailboxesSeen a seen) (hsub : seen ⊆ seen') :
    MailboxesSeen a seen' := fun mailboxId hm => (h mailboxId hm).mono hsub

theorem InUseSeen.mono (h : InUseSeen a seen) (hsub : seen ⊆ seen') : InUseSeen a seen' :=
  fun mailboxId hm => (h mailboxId hm).mono hsub

theorem ActiveFor.mono (h : ActiveFor agentId mailboxId seen) (hsub : seen ⊆ seen') :
    ActiveFor agentId mailboxId seen' := Saw.mono h hsub

theorem SendsFor.mono (h : SendsFor agentId mailboxId seen) (hsub : seen ⊆ seen') :
    SendsFor agentId mailboxId seen' := by
  obtain h | ⟨h, h'⟩ := h
  · exact .inl (h.mono hsub)
  · exact .inr ⟨h.mono hsub, h'.mono hsub⟩

theorem Vouched.mono (h : Vouched a seen) (hsub : seen ⊆ seen') : Vouched a seen' where
  agent := h.agent.mono hsub
  mailboxes := h.mailboxes.mono hsub
  active agentId ha mailboxId hm := (h.active agentId ha mailboxId hm).mono hsub

theorem SendsSeen.mono (h : SendsSeen a seen) (hsub : seen ⊆ seen') : SendsSeen a seen' :=
  fun hs agentId ha mailboxId hm => (h hs agentId ha mailboxId hm).mono hsub

/-- Who could send was active. -/
theorem SendsFor.activeFor (h : SendsFor agentId mailboxId seen) :
    ActiveFor agentId mailboxId seen := by
  obtain h | ⟨-, h⟩ := h
  · exact h.imp fun s hs => .inl (Db.activeMailboxBinding_any hs)
  · exact h.imp fun s hs => .inr hs

/-- A mailbox that was active was the tenant's. -/
theorem InUseSeen.mailboxes (h : InUseSeen a seen) : MailboxesSeen a seen := by
  intro mailboxId hm
  refine (h mailboxId hm).imp fun s hs => ?_
  unfold Db.mailboxInUse at hs
  unfold Db.mailboxOfTenant
  cases hrow : s.mailbox mailboxId with
  | none =>
    rw [hrow] at hs
    cases hs
  | some m =>
    rw [hrow] at hs
    simp only [Option.any_some, Bool.and_eq_true] at hs ⊢
    exact hs.1

end Growth

/-! ### Statements -/

section Steps

variable {α β : Type} {Q : Unit → Set Db → Prop} {seen : Set Db}

/-- What a query answers is so in a database that is found. -/
theorem sees_query_bind {l : Label} {f : Db → α} {next : α → Op β} {Q : β → Set Db → Prop}
    (h : ∀ s, (next (f s)).Sees Q (insert s seen)) : (query l f >>= next).Sees Q seen :=
  ⟨h, trivial⟩

theorem sees_ensure {condition : Bool} {e : Exn} (h : condition = true → Q () seen) :
    (ensure condition e).Sees Q seen := by
  cases condition with
  | false => exact trivial
  | true => exact h rfl

theorem sees_ensure_bind {condition : Bool} {e : Exn} {f : Unit → Op α} {Q : α → Set Db → Prop}
    (h : condition = true → (f ()).Sees Q seen) : (ensure condition e >>= f).Sees Q seen := by
  cases condition with
  | false => exact trivial
  | true => exact h rfl

end Steps

/-! ### Checks -/

section Checks

variable {a : Authority} {agentId mailboxId tenantId : String} {seen : Set Db}

theorem sees_checkAgent (missing foreign : Exn) :
    (checkAgent missing foreign a.tenantId a.agentId).Sees (fun _ => AgentSeen a) seen := by
  unfold checkAgent
  cases ha : a.agentId.filter truthy with
  | none =>
    intro agentId h
    rw [Authority.agent, ha] at h
    cases h
  | some agentId =>
    refine sees_query_bind fun s => ?_
    cases hrow : s.agent agentId with
    | none => exact trivial
    | some agent =>
      refine sees_ensure fun htenant id hid => ?_
      obtain rfl : agentId = id := Option.some.inj (ha.symm.trans hid)
      refine saw_new ?_
      rw [Db.agentOfTenant, hrow]
      exact htenant

/-- Each mailbox is looked at. -/
theorem sees_checkMailboxes (missing : String → Exn) (foreign : Exn) (inactive : Option Exn)
    (mailboxIds : List String) :
    (checkMailboxes missing foreign inactive tenantId mailboxIds).Sees (fun _ seen =>
      ∀ mailboxId ∈ mailboxIds, Saw seen fun s =>
        (if inactive.isSome then Db.mailboxInUse s tenantId mailboxId
          else Db.mailboxOfTenant s tenantId mailboxId) = true) seen := by
  induction mailboxIds generalizing seen with
  | nil => simp [checkMailboxes]
  | cons mailboxId rest ih =>
    unfold checkMailboxes
    refine sees_query_bind fun s => ?_
    cases hrow : s.mailbox mailboxId with
    | none => exact trivial
    | some mailbox =>
      refine sees_ensure_bind fun htenant => sees_ensure_bind fun hactive => ?_
      have hfirst : Saw (insert s seen) fun s =>
          (if inactive.isSome then Db.mailboxInUse s tenantId mailboxId
            else Db.mailboxOfTenant s tenantId mailboxId) = true := by
        refine saw_new ?_
        rw [Db.mailboxInUse, Db.mailboxOfTenant, hrow, Option.any_some, Option.any_some, htenant]
        cases inactive with
        | none => rfl
        | some e => simpa using hactive
      refine (Prog.Sees.keep (A := fun seen => Saw seen _) (fun s _ h => h.insert s) ih
        hfirst).mono ?_
      rintro - seen ⟨hrest, hfirst⟩
      exact List.forall_mem_cons.2 ⟨hfirst, hrest⟩

theorem sees_validateAgentForMailbox (sends : Bool) (inactive incapable : Exn) :
    (validateAgentForMailbox sends inactive incapable agentId mailboxId).Sees (fun _ seen =>
      ActiveFor agentId mailboxId seen ∧ (sends = true → SendsFor agentId mailboxId seen))
      seen := by
  unfold validateAgentForMailbox hasActiveMailboxBinding hasActiveMailboxDeployment
  cases sends with
  | true =>
    refine sees_query_bind fun s => ?_
    simp only [reduceIte]
    split
    · next hbound =>
      have hsends : SendsFor agentId mailboxId (insert s seen) := .inl (saw_new hbound)
      exact ⟨hsends.activeFor, fun _ => hsends⟩
    · refine sees_query_bind fun s₁ => sees_query_bind fun s₂ => ?_
      refine sees_ensure_bind fun _ => sees_ensure fun h => ?_
      simp only [Bool.not_true, Bool.false_or, Bool.and_eq_true, Bool.not_eq_true'] at h
      have hsends : SendsFor agentId mailboxId (insert s₂ (insert s₁ (insert s seen))) :=
        .inr ⟨(saw_new h.2).insert s₂, saw_new h.1⟩
      exact ⟨hsends.activeFor, fun _ => hsends⟩
  | false =>
    refine sees_query_bind fun s => ?_
    simp only [Bool.false_eq_true, reduceIte]
    split
    · next hbound => exact ⟨saw_new (.inl hbound), fun h => (by cases h)⟩
    · refine .after fun _ _ => sees_query_bind fun s => ?_
      refine sees_ensure_bind fun hyes => sees_ensure fun _ => ?_
      rw [Bool.false_or] at hyes
      exact ⟨saw_new (.inr hyes), fun h => (by cases h)⟩

/-- What the loops over the mailboxes of an agent see. -/
def AllActive (sends : Bool) (agentId : String) (mailboxIds : List String) (seen : Set Db) :
    Prop :=
  ∀ mailboxId ∈ mailboxIds,
    ActiveFor agentId mailboxId seen ∧ (sends = true → SendsFor agentId mailboxId seen)

theorem AllActive.cons {sends : Bool} {mailboxIds : List String} {p q : Op Unit}
    (hp : p.Sees (fun _ seen => ActiveFor agentId mailboxId seen ∧
      (sends = true → SendsFor agentId mailboxId seen)) seen)
    (hq : ∀ seen, q.Sees (fun _ => AllActive sends agentId mailboxIds) seen) :
    (p >>= fun _ => q).Sees (fun _ => AllActive sends agentId (mailboxId :: mailboxIds)) seen := by
  refine Prog.Sees.bind hp fun _ seen hfirst => ?_
  refine (Prog.Sees.keep (A := fun seen => ActiveFor agentId mailboxId seen ∧
    (sends = true → SendsFor agentId mailboxId seen)) (fun s seen h => ?_) (hq seen)
    hfirst).mono ?_
  · exact ⟨h.1.mono (Set.subset_insert s seen), fun hs => (h.2 hs).mono (Set.subset_insert s seen)⟩
  · rintro - seen ⟨hrest, hfirst⟩
    exact List.forall_mem_cons.2 ⟨hfirst, hrest⟩

theorem sees_validateAgentForMailboxes (sends : Bool) (mailboxIds : List String) :
    (validateAgentForMailboxes sends agentId mailboxIds).Sees
      (fun _ => AllActive sends agentId mailboxIds) seen := by
  induction mailboxIds generalizing seen with
  | nil => simp [validateAgentForMailboxes, AllActive]
  | cons mailboxId rest ih =>
    exact AllActive.cons (sees_validateAgentForMailbox sends _ _) fun seen => ih

theorem sees_assertAgentActiveForMailboxes (sends : Bool) (mailboxIds : List String) :
    (assertAgentActiveForMailboxes agentId sends mailboxIds).Sees
      (fun _ => AllActive sends agentId mailboxIds) seen := by
  induction mailboxIds generalizing seen with
  | nil => simp [assertAgentActiveForMailboxes, AllActive]
  | cons mailboxId rest ih =>
    exact AllActive.cons (sees_validateAgentForMailbox sends _ _) fun seen => ih

/-- What is seen of an agent and its mailboxes is what is to be seen before a token is minted. -/
structure Activity (a : Authority) (seen : Set Db) : Prop where
  active : ∀ agentId, a.agent = some agentId → ∀ mailboxId ∈ a.mailboxes,
    ActiveFor agentId mailboxId seen
  bound : a.Bound
  sends : SendsSeen a seen

theorem AllActive.activity {agentId : String} (ha : a.agent = some agentId)
    (h : AllActive (a.scopes.contains "draft:send") agentId a.mailboxes seen) :
    Activity a seen where
  active id hid mailboxId hm := by
    obtain rfl := Option.some.inj (ha.symm.trans hid)
    exact (h mailboxId hm).1
  bound _ _ _ _ := by simp [ha]
  sends hs id hid mailboxId hm := by
    obtain rfl := Option.some.inj (ha.symm.trans hid)
    exact (h mailboxId hm).2 (List.contains_iff_mem.2 hs)

/-- Without an agent there is nothing to see, if the scopes do not need one. -/
theorem activity_of_none (ha : a.agent = none)
    (h : a.mailboxes = [] ∨
      (a.scopes.any fun scope => agentRequiredMailboxScopes.contains scope) = false) :
    Activity a seen where
  active id hid := by
    rw [ha] at hid
    cases hid
  bound hne scope hscope hrequired := by
    obtain hempty | hnone := h
    · exact absurd hempty hne
    · rw [List.any_eq_false] at hnone
      exact absurd (List.contains_iff_mem.2 hrequired) (hnone scope hscope)
  sends _ id hid := by
    rw [ha] at hid
    cases hid

/-- No mailboxes, no activity to see. -/
theorem activity_of_nil (h : a.mailboxes = []) : Activity a seen where
  active _ _ mailboxId hm := by
    rw [h] at hm
    cases hm
  bound hne := absurd h hne
  sends _ _ _ mailboxId hm := by
    rw [h] at hm
    cases hm

theorem sees_validateTokenAgentMailboxScopes :
    (validateTokenAgentMailboxScopes a.agentId a.mailboxes a.scopes).Sees (fun _ => Activity a)
      seen := by
  unfold validateTokenAgentMailboxScopes
  split
  · next hempty => exact activity_of_nil (List.isEmpty_iff.1 hempty)
  · cases ha : a.agentId.filter truthy with
    | none =>
      refine sees_ensure fun h => activity_of_none ha (.inr ?_)
      simpa using h
    | some agentId =>
      exact (sees_validateAgentForMailboxes _ _).mono fun _ _ h => h.activity ha

/-- The agent and the mailboxes are looked at, and then whether the agent is active for them. -/
theorem sees_checks {missing foreign foreign' : Exn} {missing' : String → Exn}
    {inactive : Option Exn} {p : Op Unit}
    (hp : ∀ seen, p.Sees (fun _ => Activity a) seen) :
    (checkAgent missing foreign a.tenantId a.agentId >>= fun _ =>
      checkMailboxes missing' foreign' inactive a.tenantId a.mailboxes >>= fun _ => p).Sees
      (fun _ seen => Vouched a seen ∧ a.Bound ∧ SendsSeen a seen ∧
        (inactive.isSome = true → InUseSeen a seen)) seen := by
  refine Prog.Sees.bind (sees_checkAgent missing foreign) fun _ seen hagent => ?_
  have hkept : ∀ s seen, AgentSeen a seen → AgentSeen a (insert s seen) := fun s seen h =>
    h.mono (Set.subset_insert s seen)
  refine Prog.Sees.bind (Prog.Sees.keep hkept
    (sees_checkMailboxes missing' foreign' inactive a.mailboxes) hagent) ?_
  rintro - seen ⟨hmailboxes, hagent⟩
  have hboth : MailboxesSeen a seen ∧ (inactive.isSome = true → InUseSeen a seen) := by
    cases inactive with
    | none => exact ⟨hmailboxes, fun h => (by cases h)⟩
    | some e => exact ⟨InUseSeen.mailboxes hmailboxes, fun _ => hmailboxes⟩
  refine (Prog.Sees.keep (A := fun seen => AgentSeen a seen ∧ MailboxesSeen a seen ∧
    (inactive.isSome = true → InUseSeen a seen)) ?_ (hp seen) ⟨hagent, hboth⟩).mono ?_
  · rintro s seen ⟨hagent, hmailboxes, huse⟩
    have hsub := Set.subset_insert s seen
    exact ⟨hagent.mono hsub, hmailboxes.mono hsub, fun h => (huse h).mono hsub⟩
  · rintro - seen ⟨hactivity, hagent, hmailboxes, huse⟩
    exact ⟨⟨hagent, hmailboxes, hactivity.active⟩, hactivity.bound, hactivity.sends, huse⟩

end Checks

/-! ### The checks of each call -/

section Calls

variable {a : Authority} {seen : Set Db}

theorem sees_checkTokenRequest : (checkTokenRequest a).Sees (fun _ seen =>
    Vouched a seen ∧ a.Bound ∧ SendsSeen a seen) seen :=
  (sees_checks fun _ => sees_validateTokenAgentMailboxScopes).mono fun _ _ h =>
    ⟨h.1, h.2.1, h.2.2.1⟩

theorem sees_validateRotatedAccessClaims (exp : Int) :
    (validateRotatedAccessClaims (a.claims exp)).Sees (fun _ seen =>
      Vouched a seen ∧ a.Bound ∧ SendsSeen a seen ∧ InUseSeen a seen) seen :=
  (sees_checks fun _ => sees_validateTokenAgentMailboxScopes).mono fun _ _ h =>
    ⟨h.1, h.2.1, h.2.2.1, h.2.2.2 rfl⟩

/-- Who is not bound to an agent though the scopes need one has been refused. -/
theorem sees_assertTokenAgentActive (h : (a.mailboxes.isEmpty || !(a.scopes.any fun scope =>
    agentRequiredMailboxScopes.contains scope) || a.agentId.any truthy) = true) :
    (assertTokenAgentActive a).Sees (fun _ => Activity a) seen := by
  unfold assertTokenAgentActive
  cases ha : a.agentId.filter truthy with
  | none =>
    refine activity_of_none ha ?_
    have hagent : a.agentId.any truthy = false := by
      cases hid : a.agentId with
      | none => rfl
      | some agentId =>
        rw [hid] at ha
        simpa [Option.filter] using ha
    rw [hagent, Bool.or_false, Bool.or_eq_true, Bool.not_eq_true', List.isEmpty_iff] at h
    exact h
  | some agentId => exact (sees_assertAgentActiveForMailboxes _ _).mono fun _ _ h => h.activity ha

theorem sees_checkAccessToken : (checkAccessToken a).Sees (fun _ seen =>
    Vouched a seen ∧ a.Bound ∧ SendsSeen a seen) seen := by
  unfold checkAccessToken
  exact sees_ensure_bind fun h => (sees_checks fun _ => sees_assertTokenAgentActive h).mono
    fun _ _ h => ⟨h.1, h.2.1, h.2.2.1⟩

/-- Bound, or deployed. -/
theorem sees_boundOrDeployed {agentId mailboxId : String} (e : Exn) :
    (do
      let hasBinding ← hasActiveMailboxBinding agentId mailboxId []
      if hasBinding then pure ()
      else do
        let hasDeployment ← hasActiveMailboxDeployment agentId mailboxId
        ensure hasDeployment e : Op Unit).Sees (fun _ => ActiveFor agentId mailboxId) seen := by
  refine sees_query_bind fun s => ?_
  cases hbound : s.activeMailboxBinding agentId mailboxId [] with
  | true => exact saw_new (.inl hbound)
  | false => exact sees_query_bind fun s => sees_ensure fun hyes => saw_new (.inr hyes)

theorem sees_checkSelfServe (input : SelfServeInput) :
    (checkSelfServe input).Sees (fun _ => Vouched input.authority) seen := by
  have hagentId : input.authority.agent = some input.agentId := by
    show Option.filter truthy (some input.agentId) = _
    simp [Option.filter, input.agentId_truthy]
  unfold checkSelfServe
  refine sees_query_bind fun s => ?_
  cases hrow : s.agent input.agentId with
  | none => exact trivial
  | some agent =>
    refine sees_ensure_bind fun htenant => ?_
    have hagent : AgentSeen input.authority (insert s seen) := by
      intro id hid
      obtain rfl := Option.some.inj (hagentId.symm.trans hid)
      refine saw_new ?_
      rw [Db.agentOfTenant, hrow]
      exact htenant
    refine Prog.Sees.bind (Prog.Sees.keep (A := AgentSeen input.authority)
      (fun s seen h => h.mono (Set.subset_insert s seen))
      (sees_checkMailboxes _ _ none [input.mailboxId]) hagent) ?_
    rintro - seen ⟨hmailboxes, hagent⟩
    refine (Prog.Sees.keep (A := fun seen => AgentSeen input.authority seen ∧
      MailboxesSeen input.authority seen) ?_ (sees_boundOrDeployed _) ⟨hagent, hmailboxes⟩).mono ?_
    · rintro s seen ⟨hagent, hmailboxes⟩
      have hsub := Set.subset_insert s seen
      exact ⟨hagent.mono hsub, hmailboxes.mono hsub⟩
    · rintro - seen ⟨hactive, hagent, hmailboxes⟩
      refine ⟨hagent, hmailboxes, fun id hid mailboxId hm => ?_⟩
      obtain rfl := Option.some.inj (hagentId.symm.trans hid)
      obtain rfl := List.mem_singleton.1 hm
      exact hactive

/-- A token of the self-service is bound to its agent. -/
theorem SelfServeInput.bound (input : SelfServeInput) : input.authority.Bound := by
  intro _ _ _ _
  show (Option.filter truthy (some input.agentId)).isSome = true
  simp [Option.filter, input.agentId_truthy]

theorem sees_checkBootstrapAgent (sub tenantId mailboxId : String) (agentId : Option String)
    (scopes : List String) : (checkBootstrapAgent tenantId mailboxId agentId).Sees
      (fun _ => Vouched ⟨sub, tenantId, agentId, scopes, some [mailboxId]⟩) seen := by
  set a : Authority := ⟨sub, tenantId, agentId, scopes, some [mailboxId]⟩ with ha
  unfold checkBootstrapAgent
  refine Prog.Sees.bind (sees_checkMailboxes _ _ none [mailboxId]) fun _ seen hmailboxes => ?_
  refine Prog.Sees.bind (Prog.Sees.keep (A := MailboxesSeen a)
    (fun s seen h => h.mono (Set.subset_insert s seen)) (sees_checkAgent (a := a) _ _)
    hmailboxes) ?_
  rintro - seen ⟨hagent, hmailboxes⟩
  have hkept : ∀ s seen, AgentSeen a seen ∧ MailboxesSeen a seen →
      AgentSeen a (insert s seen) ∧ MailboxesSeen a (insert s seen) := fun s seen h =>
    ⟨h.1.mono (Set.subset_insert s seen), h.2.mono (Set.subset_insert s seen)⟩
  cases agentId with
  | none => exact ⟨hagent, hmailboxes, fun id hid => (by cases hid)⟩
  | some agentId =>
    refine (Prog.Sees.keep hkept (sees_boundOrDeployed _) ⟨hagent, hmailboxes⟩).mono ?_
    rintro - seen ⟨hactive, hagent, hmailboxes⟩
    refine ⟨hagent, hmailboxes, fun id hid mailboxId hm => ?_⟩
    obtain rfl : agentId = id := Option.some.inj (Option.filter_eq_some_iff.1 hid).1
    obtain rfl := List.mem_singleton.1 hm
    exact hactive

/-- Only the mode that sends has the scope. -/
theorem mode_of_sends {mode : String} {scopes : List String}
    (h : mailboxAgentScopeProfiles.lookup mode = some scopes) (hs : "draft:send" ∈ scopes) :
    (mode == "send") = true := by
  unfold mailboxAgentScopeProfiles at h
  simp only [List.lookup_cons] at h
  split at h
  · obtain rfl := Option.some.inj h
    exact absurd hs (by decide)
  · split at h
    · obtain rfl := Option.some.inj h
      exact absurd hs (by decide)
    · split at h
      · assumption
      · cases h

theorem sees_checkBootstrapMode {mode : String} {scopes : List String}
    (hmode : mailboxAgentScopeProfiles.lookup mode = some scopes) (sub tenantId mailboxId : String)
    (agentId : Option String) : (checkBootstrapMode mailboxId agentId mode).Sees
      (fun _ => SendsSeen ⟨sub, tenantId, agentId, scopes, some [mailboxId]⟩) seen := by
  unfold checkBootstrapMode
  refine sees_ensure_bind fun _ => ?_
  cases agentId with
  | none => exact fun _ id hid => (by cases hid)
  | some agentId =>
    refine (sees_validateAgentForMailbox _ _ _).mono fun _ seen h hs id hid mailboxId hm => ?_
    obtain rfl : agentId = id := Option.some.inj (Option.filter_eq_some_iff.1 hid).1
    obtain rfl := List.mem_singleton.1 hm
    exact h.2 (mode_of_sends hmode hs)

end Calls

end MailRuntime.Auth
