import MailRuntime.Auth.Vouching

/-!
# Where the authority of a token comes from

Any number of calls issue tokens, give them back for others and do anything else to the
database, one statement of one of them after the other, and any statement may fail. It is recorded
which call minted a token for which claims. What a token gives whenever it is accepted is the
authority of a token on record that an administrator or the self-service issued, for just what was
asked for: a rotation makes a token last longer, and never good for more. Whoever minted the token,
for the first time or again, has seen what it vouches for.
-/

namespace MailRuntime.Auth

open Js Interaction

/-! ### The claims of a token read back -/

theorem readStrings_stringArray (items : List String) :
    readStrings (stringArray items) = some items := by
  have hitems : (items.map Json.str).mapM (fun item => string (some item)) = some items := by
    induction items with
    | nil => rfl
    | cons item rest ih =>
      rw [List.map_cons, List.mapM_cons, ih]
      rfl
  exact hitems

/-- **What a rotation reads of a token** that was minted is the authority it was minted for. -/
theorem readClaims_json (a : Authority) (exp : Int) :
    readClaims (a.claims exp).json = some (a, exp) := by
  have hlookup := (a.claims exp).lookup_json
  have hsub : ((a.claims exp).draft.lookup "sub").join = some (.str a.sub) := rfl
  have htenant : ((a.claims exp).draft.lookup "tenantId").join = some (.str a.tenantId) := rfl
  have hagent : ((a.claims exp).draft.lookup "agentId").join = ofString a.agentId := rfl
  have hscopes : ((a.claims exp).draft.lookup "scopes").join = some (stringArray a.scopes) := rfl
  have hmailboxes : ((a.claims exp).draft.lookup "mailboxIds").join =
      a.mailboxIds.map stringArray := rfl
  have hexp : ((a.claims exp).draft.lookup "exp").join = some (.num exp) := rfl
  have hreadAgent : readOptional (fun v => string (some v)) (ofString a.agentId) =
      some a.agentId := by
    cases a.agentId <;> rfl
  have hreadMailboxes : readOptional readStrings (a.mailboxIds.map stringArray) =
      some a.mailboxIds := by
    cases a.mailboxIds with
    | none => rfl
    | some items => simp [readOptional, readStrings_stringArray]
  have hstring : ∀ s, string (some (.str s)) = some s := fun _ => rfl
  have hinteger : asInteger (some (.num exp)) = some exp := rfl
  unfold readClaims
  simp only [hlookup, hsub, htenant, hagent, hscopes, hmailboxes, hexp, hreadAgent,
    hreadMailboxes, Option.bind_some, readStrings_stringArray, hstring, hinteger,
    Option.bind_eq_bind, Option.pure_def]

/-- To mint a token is to sign its payload. -/
theorem signed_of_mint {mac : Mac} {signed signed' : Signed} {secret token : String}
    {claims : AccessTokenClaims}
    (h : mintAccessToken mac signed secret claims = some (token, signed')) :
    signed' = (utf8 secret, utf8 (encodePayload claims)) :: signed := by
  unfold mintAccessToken at h
  obtain ⟨⟨signature, signed''⟩, hsign, h⟩ := Option.bind_eq_some_iff.1 h
  obtain ⟨-, rfl⟩ := Prod.mk.inj (Option.some.inj h)
  obtain ⟨-, -, rfl⟩ := signPayload_eq_some hsign
  rfl

/-- What is granted is what an accepted token gives, and has the scopes that were asked for. -/
theorem accepted_of_granted {mac : Mac} {signed : Signed} {secret : String}
    {authorization : Option String} {scopes : List String} {now : Int} {claims : Json}
    (h : requireAuth mac signed secret authorization scopes now = .granted claims) :
    (∃ token, verifyAccessToken mac signed secret token now = .accepted claims) ∧
      ∀ scope ∈ scopes, ∃ granted ∈ (asArray ((fieldsOf (some claims)).lookup "scopes")).getD [],
        string (some granted) = some scope := by
  unfold requireAuth at h
  split at h
  · cases h
  · split at h
    · cases h
    · next token _ =>
      split at h
      · cases h
      · cases h
      · next claims' haccepted =>
        dsimp only at h
        split at h
        · next hmissing =>
          obtain rfl := Authorization.granted.inj h
          refine ⟨⟨_, haccepted⟩, fun scope hscope => ?_⟩
          rw [List.isEmpty_iff, List.filter_eq_nil_iff] at hmissing
          have hany := hmissing scope hscope
          simp only [Bool.not_eq_true', Bool.not_eq_false, List.any_eq_true, beq_iff_eq] at hany
          exact hany
        · cases h

/-- A token that is accepted is granted what it has the scopes for. -/
theorem granted_of_accepted {mac : Mac} {signed : Signed} {secret token : String}
    {scopes : List String} {now : Int} {claims : Json} (hsecret : secret ≠ "")
    (h : verifyAccessToken mac signed secret token now = .accepted claims)
    (hscopes : (scopes.filter fun scope =>
      !((asArray ((fieldsOf (some claims)).lookup "scopes")).getD []).any fun granted =>
        string (some granted) == some scope) = []) :
    requireAuth mac signed secret (some ("Bearer " ++ token)) scopes now = .granted claims := by
  have htruthy : truthy secret = true := by simpa [truthy] using hsecret
  unfold requireAuth
  rw [htruthy, Option.bind_some, after_bearer, if_neg (by decide)]
  dsimp only
  rw [String.ofList_toList, h]
  dsimp only
  rw [hscopes]
  rfl

/-! ### Who grants what -/

/-- What the arguments of `bootstrap_mailbox_agent_token` ask for. -/
def bootstrapAuthority (args : Fields) : Option Authority := do
  let tenantId ← asString (args.lookup "tenantId")
  let mailboxId ← asString (args.lookup "mailboxId")
  let scopes ← mailboxAgentScopeProfiles.lookup ((asString (args.lookup "mode")).getD "send")
  some ⟨(asString (args.lookup "sub")).getD ("admin-bootstrap:" ++ tenantId ++ ":" ++ mailboxId),
    tenantId, asString (args.lookup "agentId"), scopes, some [mailboxId]⟩

/-- The authority that an administrator's call asks for, with the admin secret, or that the
self-service comes to with what it has found in the database. -/
def TokenCall.Grants (env : AuthEnv) (a : Authority) (seen : Set Db) : TokenCall → Prop
  | issueToken request body => requireAdmin env request = none ∧ body.authority = some a
  | createAccessToken request args => requireAdmin env request = none ∧
      ∃ seconds, createAccessTokenArguments args = .ok (a, seconds)
  | bootstrapMailboxAgentToken request args => requireAdmin env request = none ∧
      bootstrapAuthority args = some a
  | selfServe prepare _ => ∃ input, prepare.Answers input seen ∧ input.authority = a
  | rotateToken _ _ _ | other _ => False

/-- The call is a rotation. -/
def TokenCall.rotates : TokenCall → Bool
  | rotateToken _ _ _ => true
  | issueToken _ _ | createAccessToken _ _ | bootstrapMailboxAgentToken _ _ | selfServe _ _
  | other _ => false

/-- What a call has seen before it mints a token for the authority. -/
def TokenCall.Vouches (a : Authority) (seen : Set Db) : TokenCall → Prop
  | issueToken _ _ | createAccessToken _ _ => Vouched a seen ∧ a.Bound ∧ SendsSeen a seen
  | bootstrapMailboxAgentToken _ _ => Vouched a seen ∧ SendsSeen a seen
  | selfServe _ _ => Vouched a seen ∧ a.Bound
  | rotateToken _ _ _ => Vouched a seen ∧ a.Bound ∧ SendsSeen a seen ∧ InUseSeen a seen
  | other _ => False

theorem TokenCall.Grants.mono {call : TokenCall} {env : AuthEnv} {a : Authority}
    {seen seen' : Set Db} (h : call.Grants env a seen) (hsub : seen ⊆ seen') :
    call.Grants env a seen' := by
  cases call with
  | selfServe prepare proceed =>
    obtain ⟨input, hanswer, ha⟩ := h
    exact ⟨input, hanswer.mono hsub, ha⟩
  | issueToken request body => exact h
  | createAccessToken request args => exact h
  | bootstrapMailboxAgentToken request args => exact h
  | rotateToken deliver authorization body => exact h
  | other p => exact h

theorem TokenCall.Vouches.mono {call : TokenCall} {a : Authority} {seen seen' : Set Db}
    (h : call.Vouches a seen) (hsub : seen ⊆ seen') : call.Vouches a seen' := by
  cases call with
  | issueToken request body => exact ⟨h.1.mono hsub, h.2.1, h.2.2.mono hsub⟩
  | createAccessToken request args => exact ⟨h.1.mono hsub, h.2.1, h.2.2.mono hsub⟩
  | bootstrapMailboxAgentToken request args => exact ⟨h.1.mono hsub, h.2.mono hsub⟩
  | selfServe prepare proceed => exact ⟨h.1.mono hsub, h.2⟩
  | rotateToken deliver authorization body =>
    exact ⟨h.1.mono hsub, h.2.1, h.2.2.1.mono hsub, h.2.2.2.mono hsub⟩
  | other p => exact h

section Lineage

variable {ι : Type} (calls : ι → TokenCall) (env : AuthEnv)

/-- The call has minted a token for the authority until `exp`, and had seen what it vouches for. -/
structure Minted (i : ι) (a : Authority) (exp : Int) (w : World ι (Issuer ι) Db) : Prop where
  logged : ⟨i, a.claims exp⟩ ∈ w.store.minted
  vouched : (calls i).Vouches a (w.found i)

/-- A token was issued for the authority: an administrator's call or the self-service has minted
it, for just what it was asked for. -/
def Issued (a : Authority) (w : World ι (Issuer ι) Db) : Prop :=
  ∃ i exp, Minted calls i a exp w ∧ (calls i).Grants env a (w.found i)

/-- The call may mint a token for the authority: it has seen what it vouches for, and either it is
asked for the token or it rotates one whose authority was issued. -/
structure Licensed (i : ι) (a : Authority) (w : World ι (Issuer ι) Db) : Prop where
  vouched : (calls i).Vouches a (w.found i)
  asked : (calls i).Grants env a (w.found i) ∨ ((calls i).rotates = true ∧ Issued calls env a w)

/-- The token for the authority until `exp` was minted by a call that issues such tokens or by a
rotation, and goes back to a token that was issued for the same authority. -/
structure Traced (a : Authority) (exp : Int) (w : World ι (Issuer ι) Db) : Prop where
  minted : ∃ i, Minted calls i a exp w ∧
    ((calls i).Grants env a (w.found i) ∨ (calls i).rotates = true)
  issued : Issued calls env a w

/-- Whatever was signed is the payload of a token that was minted, and every such token goes back
to one that was issued. -/
structure Lineage (w : World ι (Issuer ι) Db) : Prop where
  signed : w.store.signed.map Prod.snd =
    w.store.minted.map fun m => utf8 (encodePayload m.claims)
  traced : ∀ m ∈ w.store.minted, ∃ a exp, m.claims = Authority.claims a exp ∧
    Traced calls env a exp w

variable {calls env} {mac : Mac} {i : ι} {a : Authority} {exp : Int} {w w' : World ι (Issuer ι) Db}

theorem Minted.mono (h : Minted calls i a exp w) (hgrown : w.Grown Issuer.minted w') :
    Minted calls i a exp w' where
  logged := hgrown.log.subset h.logged
  vouched := h.vouched.mono (World.found_mono hgrown.trace)

theorem Issued.mono (h : Issued calls env a w) (hgrown : w.Grown Issuer.minted w') :
    Issued calls env a w' := by
  obtain ⟨i, exp, hminted, hgrants⟩ := h
  exact ⟨i, exp, hminted.mono hgrown, hgrants.mono (World.found_mono hgrown.trace)⟩

theorem Licensed.mono (h : Licensed calls env i a w) (hgrown : w.Grown Issuer.minted w') :
    Licensed calls env i a w' where
  vouched := h.vouched.mono (World.found_mono hgrown.trace)
  asked := h.asked.imp (fun h => h.mono (World.found_mono hgrown.trace)) fun h =>
    ⟨h.1, h.2.mono hgrown⟩

theorem Traced.mono (h : Traced calls env a exp w) (hgrown : w.Grown Issuer.minted w') :
    Traced calls env a exp w' where
  minted := by
    obtain ⟨i, hminted, hcall⟩ := h.minted
    exact ⟨i, hminted.mono hgrown,
      hcall.imp_left fun h => h.mono (World.found_mono hgrown.trace)⟩
  issued := h.issued.mono hgrown

/-- What a call mints that may, goes back to a token that was issued: to this one, if the call was
asked for it. -/
theorem Licensed.traced (h : Licensed calls env i a w)
    (hlogged : ⟨i, a.claims exp⟩ ∈ w.store.minted) : Traced calls env a exp w := by
  have hminted : Minted calls i a exp w := ⟨hlogged, h.vouched⟩
  obtain hgrants | ⟨hrotates, hissued⟩ := h.asked
  · exact ⟨⟨i, hminted, .inl hgrants⟩, i, exp, hminted, hgrants⟩
  · exact ⟨⟨i, hminted, .inr hrotates⟩, hissued⟩

theorem Lineage.mono (h : Lineage calls env w) (hgrown : w.Grown Issuer.minted w')
    (hsigned : w'.store.signed = w.store.signed) (hminted : w'.store.minted = w.store.minted) :
    Lineage calls env w' where
  signed := by rw [hsigned, hminted, h.signed]
  traced m hm := by
    rw [hminted] at hm
    obtain ⟨a, exp, hclaims, htraced⟩ := h.traced m hm
    exact ⟨a, exp, hclaims, htraced.mono hgrown⟩

/-- What is done to the database alone does not matter. -/
theorem indifferent_lineage : Protocol.Indifferent Issuer.minted
    (fun db (s : Issuer ι) => { s with db }) (Lineage calls env) where
  unlogged _ _ := rfl
  kept w w' hgrown hstore h := by
    obtain hstore | ⟨db, hstore⟩ := hstore
    · exact h.mono hgrown (by rw [hstore]) (by rw [hstore])
    · exact h.mono hgrown (by rw [hstore]) (by rw [hstore])

/-- **An accepted token** was minted, and goes back to a token that was issued. -/
theorem Lineage.accepted (hmac : mac.Ideal) (h : Lineage calls env w) {token : String} {now : Int}
    {claims : Json}
    (haccepted : verifyAccessToken mac w.store.signed env.API_SIGNING_SECRET token now =
      .accepted claims) :
    ∃ a exp, claims = (Authority.claims a exp).json ∧ nowSeconds now ≤ exp ∧
      Traced calls env a exp w := by
  obtain ⟨payload, rest, -, hsigned, hdecode, exp', hexp, -, hbelow⟩ :=
    signed_of_verifyAccessToken hmac haccepted
  have hmem : utf8 payload ∈ w.store.signed.map Prod.snd := List.mem_map.2 ⟨_, hsigned, rfl⟩
  rw [h.signed, List.mem_map] at hmem
  obtain ⟨m, hm, hpayload⟩ := hmem
  obtain ⟨a, exp, hclaims, htraced⟩ := h.traced m hm
  rw [hclaims] at hpayload
  obtain rfl : encodePayload (a.claims exp) = payload := utf8_injective hpayload
  rw [decodePayload_encodePayload] at hdecode
  obtain rfl := Option.some.inj hdecode
  refine ⟨a, exp, rfl, ?_, htraced⟩
  rw [AccessTokenClaims.lookup_json] at hexp
  obtain rfl : Json.num exp = exp' := Option.some.inj hexp
  simpa [below] using hbelow

/-! ### One call -/

/-- The protocol that keeps the lineage. -/
abbrev lineageProtocol (calls : ι → TokenCall) (env : AuthEnv) : Protocol ι (Issuer ι) Db :=
  Protocol.growing Issuer.minted (Lineage calls env)

/-- The program keeps the lineage. -/
abbrev Keeps {α : Type} (calls : ι → TokenCall) (env : AuthEnv) (i : ι)
    (Q : α → World ι (Issuer ι) Db → Prop) (p : AuthOp ι α) (w : World ι (Issuer ι) Db) : Prop :=
  (lineageProtocol calls env).Safe i Q (fun _ _ => True) p w

/-- What a check tells is told of all that was found. -/
theorem keeps_onDb {α : Type} {p : Op α} {Q : α → Set Db → Prop}
    (hQ : ∀ a seen seen', Q a seen → seen ⊆ seen' → Q a seen') (hp : ∀ seen, p.Sees Q seen)
    (hw : Lineage calls env w) : Keeps calls env i (fun a w => Q a (w.found i)) (onDb p) w :=
  (Protocol.safe_zoom_start indifferent_lineage (hp ∅) hw).mono hw
    (fun a _ _ ⟨_, hsub, h⟩ => hQ a _ _ h hsub) fun _ _ _ h => h

/-- Whatever is done to the database. -/
theorem keeps_anything {α : Type} {p : Op α} (hw : Lineage calls env w) :
    Keeps calls env i (fun _ _ => True) (onDb p) w :=
  keeps_onDb (fun _ _ _ h _ => h) (Prog.sees_any p) hw

/-- What is not lost when the trace and the record grow is so still after any program. -/
theorem Keeps.keep {α : Type} {Q : α → World ι (Issuer ι) Db → Prop} {p : AuthOp ι α}
    {A : World ι (Issuer ι) Db → Prop} (hw : Lineage calls env w) (h : Keeps calls env i Q p w)
    (hA : ∀ w w' : World ι (Issuer ι) Db, w.Grown Issuer.minted w' → A w → A w') (ha : A w) :
    Keeps calls env i (fun x w => Q x w ∧ A w) p w :=
  (Protocol.Safe.keep hA h ha).mono hw (fun _ _ _ h => h) fun _ _ _ _ => trivial

theorem Keeps.bind {α β : Type} {Q : α → World ι (Issuer ι) Db → Prop}
    {R : β → World ι (Issuer ι) Db → Prop} {p : AuthOp ι α} {f : α → AuthOp ι β}
    (hw : Lineage calls env w) (hp : Keeps calls env i Q p w)
    (hf : ∀ x w, Lineage calls env w → Q x w → Keeps calls env i R (f x) w) :
    Keeps calls env i R (p >>= f) w :=
  Protocol.Safe.bind hw hp hf fun _ _ _ _ => trivial

/-- **A token is minted** by a call that may. -/
theorem Lineage.mint (hw : Lineage calls env w) (ha : Licensed calls env i a w)
    (hstore : w'.store = (Issuer.mint mac env i (a.claims exp) w.store).2)
    (htrace : w'.trace = w.trace) : w.Grown Issuer.minted w' ∧ Lineage calls env w' := by
  have hlonger : ∃ l, w'.trace = l ++ w.trace := ⟨[], htrace⟩
  rw [Issuer.mint] at hstore
  cases hmint : mintAccessToken mac w.store.signed env.API_SIGNING_SECRET (a.claims exp) with
  | none =>
    rw [hmint] at hstore
    have hgrown : w.Grown Issuer.minted w' := ⟨hlonger, by rw [hstore]⟩
    exact ⟨hgrown, hw.mono hgrown (by rw [hstore]) (by rw [hstore])⟩
  | some minted =>
    obtain ⟨token, signed⟩ := minted
    obtain rfl := signed_of_mint hmint
    rw [hmint] at hstore
    have hminted : w'.store.minted = ⟨i, a.claims exp⟩ :: w.store.minted := by rw [hstore]
    have hgrown : w.Grown Issuer.minted w' := ⟨hlonger, by rw [hminted]; exact List.suffix_cons _ _⟩
    refine ⟨hgrown, ?_, fun m hm => ?_⟩
    · rw [hminted, hstore, List.map_cons, List.map_cons, hw.signed]
    · rw [hminted] at hm
      rcases List.mem_cons.1 hm with rfl | hold
      · refine ⟨a, exp, rfl, (ha.mono hgrown).traced ?_⟩
        rw [hminted]
        exact List.mem_cons_self
      · obtain ⟨b, exp', hclaims, htraced⟩ := hw.traced m hold
        exact ⟨b, exp', hclaims, htraced.mono hgrown⟩

theorem keeps_mint (exp : Int) (hw : Lineage calls env w) (ha : Licensed calls env i a w) :
    Keeps calls env i (fun _ _ => True) (mint mac env i (a.claims exp)) w := by
  unfold mint
  refine Keeps.bind (Q := fun _ _ => True) hw ?_ fun token w _ _ => ?_
  · set w₁ := w.silent fun s => (Issuer.mint mac env i (a.claims exp) s).2
    have hstore : w₁.store = (Issuer.mint mac env i (a.claims exp) w.store).2 := rfl
    obtain ⟨hgrown, hlineage⟩ := hw.mint ha hstore rfl
    exact Protocol.Safe.draw (Protocol.good_growing hlineage hgrown) fun _ _ => trivial
  · cases token <;> exact trivial

theorem keeps_mintUntil (exp : Int) (hw : Lineage calls env w) (ha : Licensed calls env i a w) :
    Keeps calls env i (fun _ _ => True) (mintUntil mac env i a exp) w :=
  Keeps.bind hw (keeps_mint exp hw ha) fun _ _ _ _ => trivial

theorem keeps_expiry (seconds : Int) (hw : Lineage calls env w) :
    Keeps calls env i (fun _ _ => True) (expiry env seconds) w :=
  Keeps.bind hw (keeps_anything hw) fun _ _ _ _ => trivial

theorem keeps_mintFor (seconds : Int) (hw : Lineage calls env w) (ha : Licensed calls env i a w) :
    Keeps calls env i (fun _ _ => True) (mintFor mac env i a seconds) w :=
  Keeps.bind hw ((keeps_expiry seconds hw).keep hw (fun _ _ hgrown h => h.mono hgrown) ha)
    fun exp _ hw h => keeps_mintUntil exp hw h.2

/-- The check of a call that issues tokens, and then the token. -/
theorem keeps_issue {α : Type} {p : Op Unit} {f : Unit → AuthOp ι α} (hw : Lineage calls env w)
    (hp : ∀ seen, p.Sees (fun _ seen => (calls i).Vouches a seen) seen)
    (hgrants : (calls i).Grants env a (w.found i))
    (hf : ∀ w, Lineage calls env w → Licensed calls env i a w →
      Keeps calls env i (fun _ _ => True) (f ()) w) :
    Keeps calls env i (fun _ _ => True) (onDb p >>= f) w :=
  Keeps.bind hw ((keeps_onDb (fun _ _ _ h hsub => h.mono hsub) hp hw).keep hw
    (fun _ _ hgrown h => h.mono (World.found_mono hgrown.trace)) hgrants) fun _ w hw h =>
    hf w hw ⟨h.1, .inl h.2⟩

theorem keeps_answerRouteErrors {p : AuthOp ι TokenAnswer} (hw : Lineage calls env w)
    (hp : Keeps calls env i (fun _ _ => True) p w) :
    Keeps calls env i (fun _ _ => True) (answerRouteErrors p) w := by
  refine Protocol.Safe.tryCatch hw hp fun e w _ _ => ?_
  split <;> exact trivial

theorem keeps_issueToken {request : AdminRequest} {body : TokenRequest}
    (hcall : calls i = .issueToken request body) (hw : Lineage calls env w) :
    Keeps calls env i (fun _ _ => True) (issueToken mac env i request body) w := by
  unfold issueToken
  split
  · exact trivial
  · next hadmin =>
    split
    · exact trivial
    · split
      · exact trivial
      · next a hauthority =>
        refine keeps_answerRouteErrors hw (keeps_issue (a := a) hw ?_ ?_ fun w hw ha => ?_)
        · rw [hcall]
          exact fun seen => sees_checkTokenRequest
        · rw [hcall]
          exact ⟨hadmin, hauthority⟩
        · exact Keeps.bind hw (keeps_mintFor _ hw ha) fun _ _ _ _ => trivial

/-- What an argument was read as. -/
theorem keeps_ofExcept {α : Type} (r : Except Exn α) :
    Keeps calls env i (fun x _ => r = .ok x) (ofExcept r) w := by
  cases r with
  | ok x => exact rfl
  | error e => exact trivial

theorem keeps_createAccessToken {request : AdminRequest} {args : Fields}
    (hcall : calls i = .createAccessToken request args) (hw : Lineage calls env w) :
    Keeps calls env i (fun _ _ => True) (createAccessToken mac env i request args) w := by
  unfold createAccessToken
  split
  · exact trivial
  · next hadmin =>
    split
    · exact trivial
    · refine Keeps.bind hw (keeps_ofExcept _) ?_
      rintro ⟨a, seconds⟩ w hw hargs
      refine Keeps.bind hw (keeps_expiry seconds hw) fun exp w hw _ => ?_
      refine keeps_issue (a := a) hw ?_ ?_ fun w hw ha => ?_
      · rw [hcall]
        exact fun seen => sees_checkAccessToken
      · rw [hcall]
        exact ⟨hadmin, seconds, hargs⟩
      · exact Keeps.bind hw (keeps_mintUntil exp hw ha) fun _ _ _ _ => trivial

theorem adminRequireString_ok {args : Fields} {field text : String}
    (h : adminRequireString args field = .ok text) : asString (args.lookup field) = some text := by
  unfold adminRequireString at h
  split at h
  · next heq =>
    cases h
    exact heq
  · cases h

theorem keeps_bootstrapMailboxAgentToken {request : AdminRequest} {args : Fields}
    (hcall : calls i = .bootstrapMailboxAgentToken request args) (hw : Lineage calls env w) :
    Keeps calls env i (fun _ _ => True) (bootstrapMailboxAgentToken mac env i request args) w := by
  unfold bootstrapMailboxAgentToken
  split
  · exact trivial
  · next hadmin =>
    split
    · exact trivial
    · refine Keeps.bind hw (keeps_ofExcept _) fun tenantId w hw htenant => ?_
      refine Keeps.bind hw (keeps_ofExcept _) fun mailboxId w hw hmailbox => ?_
      refine Keeps.bind hw (keeps_onDb (fun _ _ _ h hsub => h.mono hsub)
        (fun seen => sees_checkBootstrapAgent "" tenantId mailboxId _ []) hw) ?_
      intro _ w hw hvouched
      dsimp only
      split
      · exact trivial
      · next scopes hmode =>
        refine Keeps.bind hw ((keeps_onDb (fun _ _ _ h hsub => h.mono hsub)
          (fun seen => sees_checkBootstrapMode hmode "" tenantId mailboxId _) hw).keep hw
          (fun _ _ hgrown h => Vouched.mono h (World.found_mono hgrown.trace)) hvouched) ?_
        rintro - w hw ⟨hsends, hvouched⟩
        set a : Authority := ⟨(asString (args.lookup "sub")).getD
          ("admin-bootstrap:" ++ tenantId ++ ":" ++ mailboxId), tenantId,
          asString (args.lookup "agentId"), scopes, some [mailboxId]⟩
        have ha : Licensed calls env i a w := by
          refine ⟨?_, .inl ?_⟩
          · rw [hcall]
            exact ⟨⟨hvouched.agent, hvouched.mailboxes, hvouched.active⟩, hsends⟩
          · rw [hcall]
            refine ⟨hadmin, ?_⟩
            rw [bootstrapAuthority, adminRequireString_ok htenant, adminRequireString_ok hmailbox,
              hmode]
            rfl
        refine Keeps.bind hw ((keeps_ofExcept _).keep hw
          (fun _ _ hgrown h => h.mono hgrown) ha) fun _ w hw h => ?_
        exact Keeps.bind hw (keeps_mintFor _ hw h.2) fun _ _ _ _ => trivial

theorem keeps_attempt {α : Type} {p : AuthOp ι α} (hw : Lineage calls env w)
    (hp : Keeps calls env i (fun _ _ => True) p w) :
    Keeps calls env i (fun _ _ => True) (attempt p) w :=
  Protocol.Safe.tryCatch hw (Protocol.Safe.map hw hp) fun _ _ _ _ => trivial

theorem keeps_issueSelfServeAccessToken {prepare : Op SelfServeInput}
    {proceed : Except Exn (Option IssuedToken) → Op Unit}
    (hcall : calls i = .selfServe prepare proceed) {input : SelfServeInput}
    (hinput : prepare.Answers input (w.found i)) (hw : Lineage calls env w) :
    Keeps calls env i (fun _ _ => True) (issueSelfServeAccessToken mac env i input) w := by
  unfold issueSelfServeAccessToken
  split
  · exact trivial
  · refine keeps_issue (a := input.authority) hw ?_ ?_ fun w hw ha => ?_
    · rw [hcall]
      exact fun seen => (sees_checkSelfServe input).mono fun _ _ h => ⟨h, input.bound⟩
    · rw [hcall]
      exact ⟨input, hinput, rfl⟩
    · exact Keeps.bind hw (keeps_mintFor _ hw ha) fun _ _ _ _ => trivial

/-- What a request is granted goes back to a call. -/
theorem keeps_authorize (hmac : mac.Ideal) (authorization : Option String) (scopes : List String)
    (hw : Lineage calls env w) :
    Keeps calls env i (fun answer w => ∀ claims, answer = .granted claims →
      ∃ a exp, claims = (Authority.claims a exp).json ∧ Issued calls env a w)
      (authorize mac env authorization scopes) w := by
  refine Keeps.bind hw (keeps_anything hw) fun now w hw _ => ?_
  refine Protocol.Safe.draw
    (Protocol.good_growing (hw.mono (.refl _ _) rfl rfl) (.refl _ _)) ?_
  intro w' hl claims hgranted
  obtain ⟨⟨token, haccepted⟩, -⟩ := accepted_of_granted hgranted
  obtain ⟨a, exp, hclaims, -, htraced⟩ := hw.accepted hmac haccepted
  exact ⟨a, exp, hclaims, htraced.issued.mono hl.keeps⟩

/-- **A rotation** mints a token for the authority of the one it was given. -/
theorem keeps_rotateAccessToken (hcall : (calls i).rotates = true) (exp : Int)
    (hw : Lineage calls env w) (ha : Issued calls env a w) :
    Keeps calls env i (fun _ _ => True) (rotateAccessToken mac env i a exp) w := by
  refine Keeps.bind hw ((keeps_onDb ?_ (fun seen => sees_validateRotatedAccessClaims exp)
    hw).keep hw (fun _ _ hgrown h => h.mono hgrown) ha) ?_
  · rintro - seen seen' ⟨hvouched, hbound, hsends, huse⟩ hsub
    exact ⟨hvouched.mono hsub, hbound, hsends.mono hsub, huse.mono hsub⟩
  · rintro - w hw ⟨hseen, ha⟩
    refine keeps_mintFor _ hw ⟨?_, .inr ⟨hcall, ha⟩⟩
    cases hi : calls i <;> rw [hi] at hcall
    case rotateToken => exact hseen
    all_goals cases hcall

theorem keeps_rotateChecked (hcall : (calls i).rotates = true) (exp : Int)
    (deliver : String → IssuedToken → Op Bool) (delivery : String)
    (targetMailboxId : Option String) (hw : Lineage calls env w) (ha : Issued calls env a w) :
    Keeps calls env i (fun _ _ => True)
      (rotateChecked mac env i deliver a exp delivery targetMailboxId) w := by
  refine Keeps.bind hw (keeps_rotateAccessToken hcall exp hw ha) fun rotated w hw _ => ?_
  cases targetMailboxId with
  | none => exact trivial
  | some mailboxId => exact Keeps.bind hw (keeps_anything hw) fun _ _ _ _ => trivial

theorem keeps_rotateToken (hmac : mac.Ideal) {deliver : String → IssuedToken → Op Bool}
    {authorization : Option String} {body : RotateBody}
    (hcall : calls i = .rotateToken deliver authorization body) (hw : Lineage calls env w) :
    Keeps calls env i (fun _ _ => True) (rotateToken mac env i deliver authorization body) w := by
  have hrotates : (calls i).rotates = true := by rw [hcall]; rfl
  refine Keeps.bind hw (keeps_authorize hmac authorization [] hw) fun answer w hw hanswer => ?_
  cases answer with
  | threw => exact trivial
  | refused status error => exact trivial
  | granted claims =>
    obtain ⟨a, exp, rfl, ha⟩ := hanswer claims rfl
    dsimp only
    rw [readClaims_json]
    dsimp only
    unfold rotateAuthorized
    dsimp only
    split
    · exact trivial
    · split
      · exact keeps_rotateChecked hrotates exp deliver _ none hw ha
      · refine Keeps.bind hw ((keeps_anything hw).keep hw
          (fun _ _ hgrown h => Issued.mono h hgrown) ha) ?_
        rintro answer w hw ⟨-, ha⟩
        cases answer with
        | some answer => exact trivial
        | none => exact keeps_rotateChecked hrotates exp deliver _ _ hw ha

/-- **Every call** keeps the lineage. -/
theorem keeps_program (hmac : mac.Ideal) (i : ι) (hw : Lineage calls env w) :
    Keeps calls env i (fun _ _ => True) ((calls i).program mac env i) w := by
  cases hcall : calls i with
  | issueToken request body =>
    exact Keeps.bind hw (keeps_issueToken hcall hw) fun _ _ _ _ => trivial
  | createAccessToken request args =>
    exact Keeps.bind hw (keeps_createAccessToken hcall hw) fun _ _ _ _ => trivial
  | bootstrapMailboxAgentToken request args =>
    exact Keeps.bind hw (keeps_bootstrapMailboxAgentToken hcall hw) fun _ _ _ _ => trivial
  | selfServe prepare proceed =>
    refine Keeps.bind hw (keeps_onDb (fun _ _ _ h hsub => h.mono hsub) prepare.sees_answers hw)
      fun input w hw hinput => ?_
    refine Keeps.bind hw (keeps_attempt hw
      (keeps_issueSelfServeAccessToken hcall hinput hw)) fun issued w hw _ => ?_
    exact keeps_anything hw
  | rotateToken deliver authorization body =>
    exact Keeps.bind hw (keeps_rotateToken hmac hcall hw) fun _ _ _ _ => trivial
  | other p => exact keeps_anything hw

end Lineage

/-! ### Runs -/

section Runs

variable {ι : Type} [DecidableEq ι]

/-- The calls, before their first steps; nothing was signed. -/
def startCalls (mac : Mac) (env : AuthEnv) (calls : ι → TokenCall) (db : Db) :
    Config ι (Issuer ι) Db Exn Unit := ⟨⟨⟨db, [], []⟩, []⟩, fun i => (calls i).program mac env i⟩

/-- After any run, whatever was signed was minted and goes back to a token that was issued. -/
theorem lineage_exec {mac : Mac} (hmac : mac.Ideal) (env : AuthEnv) (calls : ι → TokenCall)
    (db : Db) (schedule : List (ι × Outcome)) :
    Lineage calls env ((startCalls mac env calls db).exec schedule).world := by
  have hstart : Lineage calls env (startCalls mac env calls db).world :=
    ⟨rfl, fun m hm => by cases hm⟩
  have hholds : ∀ i, (lineageProtocol calls env).Holds i (fun _ _ => True) (fun _ _ => True)
      ((startCalls mac env calls db).threads i) (startCalls mac env calls db).world :=
    fun i w' hl => keeps_program hmac i hl.inv
  refine (Protocol.exec hstart hholds ?_).1
  exact Config.meets_of_all (fun _ _ _ _ => trivial) schedule _

/-- **Authority does not grow.** Calls that issue tokens, rotate tokens and do anything else to the
database run in any order, one statement at a time, and any statement may fail. What any request
is granted after that, for whatever it presents, has the scopes the request needed, is in force,
and is what a call of the run minted a token for; and for the same authority, to the agent and the
mailboxes, an administrator's call or the self-service had minted one, asked for just that. That
call had seen that the agent and the mailboxes were the tenant's, and so had the call that minted
the token last, were it a rotation of a rotation. -/
theorem authority_goes_back {mac : Mac} (hmac : mac.Ideal) (env : AuthEnv)
    (calls : ι → TokenCall) (db : Db) (schedule : List (ι × Outcome))
    (authorization : Option String) (scopes : List String) (now : Int) (claims : Json)
    (hgranted : requireAuth mac
      ((startCalls mac env calls db).exec schedule).world.store.signed env.API_SIGNING_SECRET
      authorization scopes now = .granted claims) :
    ∃ a exp, claims = (Authority.claims a exp).json ∧ nowSeconds now ≤ exp ∧
      (∀ scope ∈ scopes, scope ∈ a.scopes) ∧
      Traced calls env a exp ((startCalls mac env calls db).exec schedule).world := by
  obtain ⟨⟨token, haccepted⟩, hscopes⟩ := accepted_of_granted hgranted
  obtain ⟨a, exp, rfl, hexp, htraced⟩ :=
    (lineage_exec hmac env calls db schedule).accepted hmac haccepted
  refine ⟨a, exp, rfl, hexp, fun scope hscope => ?_, htraced⟩
  obtain ⟨granted, hmem, hstring⟩ := hscopes scope hscope
  rw [AccessTokenClaims.lookup_json] at hmem
  obtain ⟨item, hitem, rfl⟩ := List.mem_map.1
    (show granted ∈ a.scopes.map Json.str from hmem)
  obtain rfl : item = scope := Option.some.inj hstring
  exact hitem

end Runs

/-! The token of `sampleClaims`, which an administrator has issued. -/

/-- The configuration. -/
def issuingEnv : AuthEnv where
  toEnv := { Env.bare with clock := fun _ => 1700000000000 }
  API_SIGNING_SECRET := "test-secret"
  ADMIN_API_SECRET := some "admin-secret"
  ADMIN_ROUTES_ENABLED := some "true"
  ADMIN_ROUTES_ALLOW_PUBLIC_HOSTS := none
  selfServeTtlSeconds := none

/-- The token. -/
def mintedToken : String :=
  encodePayload sampleClaims ++ "." ++
    toBase64Url (sampleSign (utf8 "test-secret") (utf8 (encodePayload sampleClaims)))

/-- The request for the token, and a rotation of it that may come at any time. -/
def issuedAndRotated : Bool → TokenCall
  | false => .issueToken ⟨"localhost", some "admin-secret"⟩
      ⟨some "user_1", some "t_1", none, some ["draft:send"], none, some 600⟩
  | true => .rotateToken (fun _ _ => pure false) (some ("Bearer " ++ mintedToken)) ⟨none, none⟩

/-- The request runs to its end, and the rotation has begun. -/
def issuedFirst : Config Bool (Issuer Bool) Db Exn Unit :=
  (startCalls sampleMac issuingEnv issuedAndRotated {}).exec (turns false 2 ++ turns true 1)

theorem signed_issuedFirst : issuedFirst.world.store.signed = sampleSigned := by decide +kernel

theorem mintedToken_granted : requireAuth sampleMac sampleSigned "test-secret"
    (some ("Bearer " ++ mintedToken)) ["draft:send"] 1700000000000 =
      .granted sampleClaims.json := by
  have hkey : importSigningKey "test-secret" = some (utf8 "test-secret") :=
    if_neg (by decide +kernel)
  have hmint : mintAccessToken sampleMac [] "test-secret" sampleClaims =
      some (mintedToken, sampleSigned) := by
    unfold mintAccessToken signPayload
    simp only [hkey, Option.bind_eq_bind, Option.bind_some, Option.pure_def]
    unfold mintedToken sampleSigned sampleMac
    rfl
  have haccepted := verifyAccessToken_of_minted sampleMac_ideal hmint (List.Subset.refl _)
    (by decide) (show below (nowSeconds 1700000000000) sampleClaims.exp.1 = false by rfl)
  exact granted_of_accepted (by decide) haccepted (by rfl)

/-- The theorem at the token of the request. -/
theorem mintedToken_goes_back : ∃ a exp, sampleClaims.json = (Authority.claims a exp).json ∧
    nowSeconds 1700000000000 ≤ exp ∧ (∀ scope ∈ ["draft:send"], scope ∈ a.scopes) ∧
    Traced issuedAndRotated issuingEnv a exp issuedFirst.world := by
  have hgranted := mintedToken_granted
  rw [← signed_issuedFirst, issuedFirst] at hgranted
  unfold issuedFirst
  exact authority_goes_back sampleMac_ideal issuingEnv issuedAndRotated {}
    (turns false 2 ++ turns true 1) (some ("Bearer " ++ mintedToken)) ["draft:send"] 1700000000000
    sampleClaims.json hgranted

end MailRuntime.Auth
