import MailRuntime.Auth.Vouching

/-!
# What a send has been cleared of

`POST /v1/drafts/:draftId/send` looks at the draft, at the caller's token, at the mailbox and at
the agent, one statement after the other, and other requests change the database in between. On
every path, with a key or without, the first send or a replay of it, the answer that a send has
been accepted comes after all of these checks.

## What is proved

In any run, among any other programs and with any statements failing, a send that has been
accepted was cleared: the database came through states in which the draft was there, in the reach
of the token; its mailbox the tenant's and active; its agent the tenant's and able to send from
the mailbox (`accepted_was_cleared`).
-/

namespace MailRuntime

open Js Interaction Auth

/-! ### The reach of a token -/

section Reach

variable {claims : AccessTokenClaims} {draft : DraftRow}

/-- The draft is in the reach of the token. -/
structure InReach (claims : AccessTokenClaims) (draft : DraftRow) : Prop where
  tenant : draft.tenantId = claims.tenantId
  agent : ∀ agentId, claims.agentId.filter truthy = some agentId → draft.agentId = agentId
  mailbox : ∀ ids, claims.mailboxIds = some ids → ids ≠ [] → draft.mailboxId ∈ ids

theorem inReach_of_access (h : enforceDraftAccess claims draft = none) : InReach claims draft := by
  have htenant := tenant_of_access h
  simp only [enforceDraftAccess, Option.orElse_eq_orElse, Option.orElse_eq_or,
    Option.or_eq_none_iff] at h
  obtain ⟨-, hagent, hmailbox⟩ := h
  refine ⟨htenant.symm, ?_, ?_⟩
  · intro agentId hown
    unfold enforceScopedAgentAccess at hagent
    rw [hown] at hagent
    dsimp only at hagent
    split at hagent
    · cases hagent
    · next hsame => exact Eq.symm (by simpa using hsame)
  · intro ids hids hne
    unfold enforceMailboxAccess mailboxScoped at hmailbox
    rw [hids] at hmailbox
    split at hmailbox
    · cases hmailbox
    · next hin => simpa [hne] using hin

end Reach

/-! ### The checks -/

/-- The mailbox was the tenant's and active, and the agent the tenant's and able to send. -/
structure SendChecked (draft : DraftRow) (seen : Set Db) : Prop where
  mailbox : Saw seen fun s => Db.mailboxInUse s draft.tenantId draft.mailboxId = true
  agent : Saw seen fun s => s.agentOfTenant draft.tenantId draft.agentId = true
  sends : SendsFor draft.agentId draft.mailboxId seen

/-- What is known of a draft whose send has been accepted. -/
structure Cleared (claims : AccessTokenClaims) (draftId : String) (draft : DraftRow)
    (seen : Set Db) : Prop where
  found : Saw seen fun s => s.draft draftId = some draft
  reach : InReach claims draft
  sendable : SendChecked draft seen

section Checks

variable {refuse : Refusal} {env : Env} {claims : AccessTokenClaims} {draft : DraftRow}
  {draftId tenantId agentId mailboxId : String} {seen seen' : Set Db}

theorem SendChecked.mono (h : SendChecked draft seen) (hsub : seen ⊆ seen') :
    SendChecked draft seen' where
  mailbox := h.mailbox.mono hsub
  agent := h.agent.mono hsub
  sends := h.sends.mono hsub

theorem Cleared.mono (h : Cleared claims draftId draft seen) (hsub : seen ⊆ seen') :
    Cleared claims draftId draft seen' where
  found := h.found.mono hsub
  reach := h.reach
  sendable := h.sendable.mono hsub

theorem SendChecked.insert (s : Db) (seen : Set Db) (h : SendChecked draft seen) :
    SendChecked draft (insert s seen) := h.mono (Set.subset_insert s seen)

theorem sees_validateActiveDraftMailbox :
    (validateActiveDraftMailbox refuse tenantId mailboxId).Sees (fun _ seen =>
      Saw seen fun s => Db.mailboxInUse s tenantId mailboxId = true) seen := by
  unfold validateActiveDraftMailbox
  refine sees_query_bind fun s => ?_
  cases hrow : s.mailbox mailboxId with
  | none => exact trivial
  | some mailbox =>
    refine sees_ensure_bind fun htenant => sees_ensure_bind fun hactive => saw_new ?_
    rw [Db.mailboxInUse, hrow, Option.any_some, htenant, hactive]
    rfl

theorem sees_validateAgent :
    (validateAgent refuse tenantId agentId).Sees (fun _ seen =>
      Saw seen fun s => s.agentOfTenant tenantId agentId = true) seen := by
  unfold validateAgent
  refine sees_query_bind fun s => ?_
  cases hrow : s.agent agentId with
  | none => exact trivial
  | some agent =>
    refine sees_ensure fun htenant => saw_new ?_
    rw [Db.agentOfTenant, hrow]
    exact htenant

/-- Three questions are asked about the agent and the mailbox. -/
theorem sees_validateSendAgentBinding :
    (validateSendAgentBinding refuse tenantId agentId mailboxId).Sees (fun _ seen =>
      (Saw seen fun s => s.agentOfTenant tenantId agentId = true) ∧
        SendsFor agentId mailboxId seen) seen := by
  unfold validateSendAgentBinding hasActiveMailboxBinding hasActiveMailboxDeployment
  refine Prog.Sees.bind sees_validateAgent fun _ seen hagent => ?_
  refine sees_query_bind fun s => sees_query_bind fun s₁ => sees_query_bind fun s₂ => ?_
  refine sees_ensure fun h => ⟨((hagent.insert s).insert s₁).insert s₂, ?_⟩
  rw [Bool.or_eq_true, Bool.and_eq_true, Bool.not_eq_true'] at h
  obtain hbound | ⟨hdeployed, hany⟩ := h
  · exact .inl (((saw_new hbound).insert s₁).insert s₂)
  · exact .inr ⟨(saw_new hany).insert s₂, saw_new hdeployed⟩

/-- The agent is looked at, and then other things. -/
theorem sees_agent_first {p : Unit → Op Unit} :
    (validateSendAgentBinding refuse tenantId agentId mailboxId >>= p).Sees (fun _ seen =>
      (Saw seen fun s => s.agentOfTenant tenantId agentId = true) ∧
        SendsFor agentId mailboxId seen) seen := by
  refine Prog.Sees.bind sees_validateSendAgentBinding fun _ seen h => ?_
  refine Prog.Sees.kept (fun s seen h => ?_) (p ()) h
  exact ⟨h.1.insert s, h.2.mono (Set.subset_insert s seen)⟩

/-- The mailbox is looked at, and then the agent. -/
theorem sees_mailbox_first {p : MailboxRow → Op Unit}
    (hp : ∀ mailbox seen, (p mailbox).Sees (fun _ seen =>
      (Saw seen fun s => s.agentOfTenant draft.tenantId draft.agentId = true) ∧
        SendsFor draft.agentId draft.mailboxId seen) seen) :
    (validateActiveDraftMailbox refuse draft.tenantId draft.mailboxId >>= p).Sees
      (fun _ => SendChecked draft) seen := by
  refine Prog.Sees.bind sees_validateActiveDraftMailbox fun mailbox seen hmailbox => ?_
  refine (Prog.Sees.keep (A := fun seen => Saw seen _) (fun s _ h => h.insert s)
    (hp mailbox seen) hmailbox).mono ?_
  rintro - seen ⟨⟨hagent, hsends⟩, hmailbox⟩
  exact ⟨hmailbox, hagent, hsends⟩

theorem sees_validateReplayableDraftSend :
    (validateReplayableDraftSend env claims draft).Sees (fun _ => SendChecked draft) seen := by
  unfold validateReplayableDraftSend
  refine .after fun _ _ => .after fun _ _ => .after fun _ _ => .after fun hidden _ => ?_
  exact .after fun _ _ => sees_mailbox_first fun _ _ => sees_agent_first

theorem sees_validateUnkeyedDraftSend :
    (validateUnkeyedDraftSend env draft).Sees (fun _ => SendChecked draft) seen := by
  unfold validateUnkeyedDraftSend
  refine .after fun _ _ => sees_mailbox_first fun _ _ => ?_
  exact .after fun _ _ => .after fun _ _ => sees_agent_first

end Checks

/-! ### The route -/

section Route

variable {env : Env} {claims : AccessTokenClaims} {draft : DraftRow} {draftId : String}
  {seen : Set Db}

/-- If the send has been accepted, then the draft could be sent. -/
def AcceptedOf (draft : DraftRow) (answer : RouteAnswer) (seen : Set Db) : Prop :=
  ∀ body, answer = .accepted body → SendChecked draft seen

/-- Once the draft is known to be sendable the answer does not matter. -/
theorem sees_checked (p : Op RouteAnswer) (h : SendChecked draft seen) :
    p.Sees (AcceptedOf draft) seen :=
  (Prog.Sees.kept SendChecked.insert p h).mono fun _ _ h _ _ => h

/-- Nor does it if it is an error. -/
theorem sees_error (message : String) (status : Nat) :
    (pure (.error message status) : Op RouteAnswer).Sees (AcceptedOf draft) seen := by
  intro body h
  cases h

theorem sees_sendWithoutKey : (sendWithoutKey env draft).Sees (AcceptedOf draft) seen := by
  unfold sendWithoutKey
  split
  · exact Prog.Sees.bind sees_validateUnkeyedDraftSend fun _ _ h => sees_checked _ h
  · exact sees_error _ _

theorem sees_sendReserved (slot : IdempotencySlot) :
    (sendReserved env claims slot draft).Sees (AcceptedOf draft) seen := by
  have hreserved : ∀ seen, (validateReplayableDraftSend env claims draft >>= fun _ =>
      enqueueDraftSend env draft.id).Sees (fun _ => SendChecked draft) seen := fun seen =>
    Prog.Sees.bind sees_validateReplayableDraftSend fun _ _ h => .kept SendChecked.insert _ h
  unfold sendReserved
  refine Prog.Sees.bind (Q := fun _ => SendChecked draft) (.tryCatch (hreserved _) ?_) fun _ _ h =>
    sees_checked _ h
  exact fun e seen => .after fun _ _ => trivial

theorem sees_replayPendingSend (slot : IdempotencySlot) (record : IdempotencyRow) :
    (replayPendingSend env claims slot draft record).Sees (AcceptedOf draft) seen := by
  unfold replayPendingSend
  cases record.resourceId.filter truthy with
  | none => exact sees_error _ _
  | some resourceId =>
    exact Prog.Sees.bind sees_validateReplayableDraftSend fun _ _ h => sees_checked _ h

theorem sees_sendWithKey (key : String) :
    (sendWithKey env claims key draft).Sees (AcceptedOf draft) seen := by
  unfold sendWithKey
  refine .after fun reservation seen => ?_
  cases reservation with
  | conflict record => exact sees_error _ _
  | pending record => exact sees_replayPendingSend _ record
  | completed record =>
    exact Prog.Sees.bind sees_validateReplayableDraftSend fun _ _ h => sees_checked _ h
  | reserved =>
    dsimp only
    split
    · exact sees_sendReserved _
    · exact .after fun _ _ => sees_error _ _

theorem sees_sendAccessible (idempotencyKey : Option String) :
    (sendAccessible env claims idempotencyKey draft).Sees (AcceptedOf draft) seen := by
  unfold sendAccessible
  refine .after fun _ seen => ?_
  cases idempotencyKey.map trim with
  | none => exact sees_sendWithoutKey
  | some key =>
    dsimp only
    split
    · exact sees_sendWithKey key
    · exact sees_error _ _

/-- A send that has been accepted was cleared. -/
theorem sees_sendDraft (idempotencyKey : Option String) :
    (sendDraft env claims draftId idempotencyKey).Sees (fun answer seen =>
      ∀ body, answer = .accepted body → ∃ draft, Cleared claims draftId draft seen) seen := by
  unfold sendDraft onDraft
  refine sees_query_bind fun s => ?_
  cases hrow : s.draft draftId with
  | none =>
    intro body h
    cases h
  | some draft =>
    dsimp only
    cases haccess : enforceDraftAccess claims draft with
    | some denied =>
      obtain ⟨message, status, rfl⟩ := error_of_access haccess
      intro body h
      cases h
    | none =>
      have hfound : Saw (insert s seen) fun s => s.draft draftId = some draft := saw_new hrow
      refine (Prog.Sees.keep (A := fun seen => Saw seen _) (fun s _ h => h.insert s)
        (sees_sendAccessible idempotencyKey) hfound).mono ?_
      rintro answer seen ⟨haccepted, hfound⟩ body hbody
      exact ⟨draft, hfound, inReach_of_access haccess, haccepted body hbody⟩

end Route

/-! ### Runs -/

/-- **A send that has been accepted was cleared**: whatever the other threads of the run are and
whatever became of the statements, the database came through states in which the draft was there,
in the reach of the token, its mailbox was in use and its agent could send from it. -/
theorem accepted_was_cleared {ι : Type} [DecidableEq ι] {env : Env} {claims : AccessTokenClaims}
    {draftId : String} {idempotencyKey : Option String} {c : Config ι Db Label Exn RouteAnswer}
    {i : ι} (hi : c.threads i = sendDraft env claims draftId idempotencyKey)
    {schedule : List (ι × Outcome)} {body : Json}
    (h : ((c.exec schedule).threads i).answer = some (.accepted body)) :
    ∃ draft, Cleared claims draftId draft (c.passed schedule) := by
  have hsees : (c.threads i).Sees (fun answer seen =>
      ∀ body, answer = .accepted body → ∃ draft, Cleared claims draftId draft seen) ∅ := by
    rw [hi]
    exact sees_sendDraft idempotencyKey
  obtain ⟨seen, hpassed, hcleared⟩ := Config.sees_answer hsees h
  obtain ⟨draft, hdraft⟩ := hcleared body rfl
  exact ⟨draft, hdraft.mono hpassed⟩

/-! ### A send beside a cancellation -/

/-- A token for the one mailbox of an agent. -/
def mailboxClaims : AccessTokenClaims :=
  { sampleClaims with tenantId := "t", agentId := some "agt", mailboxIds := some ["mbx"] }

/-- A draft of the agent, which may send from the mailbox. -/
def sendableDb : Db where
  mailboxes := [⟨"mbx", "t", "a@b", "active"⟩]
  agents := [⟨"agt", "t", .active, none⟩]
  agentMailboxes := [⟨"t", "agt", "mbx", .primary, true⟩]
  drafts := [⟨"drf", "t", "agt", "mbx", none, none, none, .draft, "drafts/drf.json", 0, 0⟩]
  objects := [("drafts/drf.json",
    .json (.obj [("from", .str "a@b"), ("to", .arr [.str "a@b"]), ("subject", .str "Hi")]))]

/-- The draft is sent, and cancelled at the same time. -/
def sendAndCancel : Config Bool Db Label Exn RouteAnswer where
  world := ⟨sendableDb, []⟩
  threads sends :=
    if sends then sendDraft Env.bare mailboxClaims "drf" none
    else cancelDraft Env.bare mailboxClaims "drf"

/-- The program has accepted a send. -/
def hasAccepted : Op RouteAnswer → Bool
  | .ret (.accepted _) => true
  | _ => false

theorem answer_of_hasAccepted {p : Op RouteAnswer} (h : hasAccepted p = true) :
    ∃ body, p.answer = some (.accepted body) := by
  unfold hasAccepted at h
  split at h
  · exact ⟨_, rfl⟩
  · cases h

/-- The cancellation comes when the draft has been claimed for the send. -/
theorem sendAndCancel_cleared : ∃ draft, Cleared mailboxClaims "drf" draft
    (sendAndCancel.passed (turns true 30 ++ turns false 10 ++ turns true 60)) := by
  obtain ⟨body, h⟩ := answer_of_hasAccepted (p := (sendAndCancel.exec
    (turns true 30 ++ turns false 10 ++ turns true 60)).threads true) (by decide +kernel)
  exact accepted_was_cleared
    (rfl : sendAndCancel.threads true = sendDraft Env.bare mailboxClaims "drf" none) h

end MailRuntime
